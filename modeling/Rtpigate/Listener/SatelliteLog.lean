/-
The satellite log in memory.

Satellite packets are appended as they arrive, and a tick takes packets older than 24
hours off the front.  The log is exact after a tick when its packets had arrived in the
order of their times, or at least the old ones before the others.
-/
import Rtpigate.Lib.Front
import Rtpigate.Listener.Retry
import Rtpigate.Listener.Stop

namespace Rtpigate
namespace Listener

open Lib

variable {F : Type} [F64 F] (satFreqs : List F) (historyHours : Nat)

/-- The packet an input adds to the satellite log. -/
def Input.satPacket : Input F → Option (RTPPacket F)
  | .frame world fr => (packet satFreqs world fr).filter RTPPacket.isSatellite
  | .tick _ => none

/-- The packets an input takes off the satellite log. -/
def Task.satPruned (s : Task F) : Input F → List (RTPPacket F)
  | .frame _ _ => []
  | .tick world => s.satPacketLog.takeWhile (satExpired world.now)

/-- The satellite packets logged in a run. -/
def satLogged (s₀ : Task F) (is : List (Input F)) : List (RTPPacket F) :=
  s₀.satPacketLog ++ is.filterMap (Input.satPacket satFreqs)

variable [Display3 F]

/-- The satellite packets pruned in a run. -/
def satPrunedIn : Task F → List (Input F) → List (RTPPacket F)
  | _, [] => []
  | s, i :: is => s.satPruned i ++ satPrunedIn (s.step satFreqs historyHours i).1 is

variable {satFreqs historyHours}

theorem step_satPacketLog (s : Task F) (i : Input F) :
    s.satPruned i ++ (s.step satFreqs historyHours i).1.satPacketLog =
      s.satPacketLog ++ (i.satPacket satFreqs).toList := by
  cases Task.step_cases satFreqs historyHours s i with
  | skip world fr hi hnone hstep =>
    subst hi
    rw [hstep, Input.satPacket, hnone, Option.filter_none, Option.toList_none, List.append_nil]
    rfl
  | hear world fr mapped p hi hsome _ _ hstep =>
    subst hi
    rw [hstep, Input.satPacket, hsome]
    show [] ++ (if p.isSatellite then s.satPacketLog ++ [p] else s.satPacketLog) = _
    cases hsat : p.isSatellite with
    | true => simp [Option.filter, hsat]
    | false => simp [Option.filter, hsat]
  | tick world hi hstep =>
    subst hi
    rw [hstep]
    show s.satPacketLog.takeWhile _ ++ s.satPacketLog.dropWhile _ = s.satPacketLog ++ []
    rw [List.takeWhile_append_dropWhile, List.append_nil]

/-- Everything logged has been pruned or is still there, in order. -/
theorem satLogged_eq (s : Task F) (is : List (Input F)) :
    satLogged satFreqs s is =
      satPrunedIn satFreqs historyHours s is ++ (s.after satFreqs historyHours is).satPacketLog := by
  induction is generalizing s with
  | nil => exact List.append_nil _
  | cons i is ih =>
    have hstep : s.satPruned i ++ (s.step satFreqs historyHours i).1.satPacketLog =
        s.satPacketLog ++ (i.satPacket satFreqs).toList := step_satPacketLog s i
    have htail := ih (s.step satFreqs historyHours i).1
    rw [satLogged] at htail
    have hhead : (i :: is).filterMap (Input.satPacket satFreqs) =
        (i.satPacket satFreqs).toList ++ is.filterMap (Input.satPacket satFreqs) := by
      rw [List.filterMap_cons]
      cases i.satPacket satFreqs <;> rfl
    rw [satLogged, hhead, ← List.append_assoc, ← hstep, List.append_assoc, htail, satPrunedIn,
      List.append_assoc]
    rfl

/-- Packets pruned by clocks that are not ahead are old by this clock too. -/
theorem satPrunedIn_expired {now : Int} {is : List (Input F)}
    (hclock : ∀ world, .tick world ∈ is → world.now ≤ now) (s : Task F) :
    ∀ p ∈ satPrunedIn satFreqs historyHours s is, satExpired now p = true := by
  induction is generalizing s with
  | nil => exact fun p hp => absurd hp List.not_mem_nil
  | cons i is ih =>
    intro p hp
    rcases List.mem_append.mp hp with hp | hp
    · cases i with
      | frame => exact absurd hp List.not_mem_nil
      | tick world =>
        have hold : satExpired world.now p = true := List.mem_takeWhile_imp hp
        have hle := hclock world List.mem_cons_self
        rw [satExpired, decide_eq_true_eq] at hold ⊢
        omega
    · exact ih (fun world hmem => hclock world (List.mem_cons_of_mem _ hmem)) _ p hp

/-- A tick leaves no packet older than 24 hours exactly when the old ones stood in front.
While the clock of the ticks does not go back, the log then holds the packets of the last
24 hours, all of them and no other, exactly when no old packet came behind one that is not
old by the clock of the tick. -/
theorem satellite_log_day_iff (satFreqs : List F) (historyHours : Nat) (s₀ : Task F)
    (is : List (Input F)) (world : TickWorld) :
    let s := s₀.after satFreqs historyHours is
    let log := (s.tick historyHours world).1.satPacketLog
    ((∀ p ∈ log, satExpired world.now p = false) ↔
        OldFirst (satExpired world.now) s.satPacketLog) ∧
      ((∀ earlier, .tick earlier ∈ is → earlier.now ≤ world.now) →
        (log = ((satLogged satFreqs s₀ is).filter fun p => !satExpired world.now p) ↔
          OldFirst (satExpired world.now) (satLogged satFreqs s₀ is))) := by
  intro s log
  refine ⟨forall_dropWhile_iff, fun hclock => ?_⟩
  have hlogged : satLogged satFreqs s₀ is =
      satPrunedIn satFreqs historyHours s₀ is ++ s.satPacketLog := satLogged_eq s₀ is
  have hpruned : ∀ p ∈ satPrunedIn satFreqs historyHours s₀ is, satExpired world.now p = true :=
    satPrunedIn_expired hclock s₀
  rw [hlogged, oldFirst_append_iff hpruned]
  exact dropWhile_eq_filter_append_iff.trans (and_iff_left hpruned)

/-- A satellite frame received at a millisecond. -/
def satFrame (ms : Nat) : Input ℚ :=
  .frame sampleWorld { sampleFrame "W1AW" [62, 65] with capture := ⟨ms, none⟩ }

theorem satellite_log_day_ordered :
    let is := [satFrame 0, .tick (sampleTick (hours 23)), satFrame (24 * 3600000)]
    ((({} : Task ℚ).after [144.39] 6 is).tick 6 (sampleTick (hours 25))).1.satPacketLog =
      (satLogged [144.39] {} is).filter fun p => !satExpired (hours 25) p := by
  refine ((satellite_log_day_iff [144.39] 6 {} _ (sampleTick (hours 25))).2 ?_).mpr ?_
  · intro earlier h
    simp only [satFrame, List.mem_cons, List.not_mem_nil, or_false, false_or, reduceCtorEq,
      Input.tick.injEq] at h
    rw [h]
    decide
  · decide +kernel

/-- A packet of one hour ago stands before one of 25 hours ago, which stays. -/
theorem late_packet_stays :
    let frames := [satFrame (24 * 3600000), satFrame 0]
    let s := (({} : Task ℚ).after [144.39] 6 frames)
    (s.tick 6 (sampleTick (hours 25))).1.satPacketLog ≠
      ((satLogged [144.39] {} frames).filter fun p => !satExpired (hours 25) p) := by
  intro frames s h
  have hlength := congrArg List.length h
  revert hlength
  decide +kernel

end Listener
end Rtpigate
