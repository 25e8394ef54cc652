/-
What a step of the task can do.

`handlePacket_exit` takes the packet branch apart into its six exits, and
`step_cases` a step into the branches that matter to the counters.  The invariants
of the task are proved by cases on these two, without unfolding the step again.
-/
import Rtpigate.Aprsis.Task

namespace Rtpigate
namespace Aprsis

open Lib

/-! ## Traces -/

structure PacketWrite (F : Type) where
  p : RTPPacket F
  clock : GateClock
  bytes : List UInt8
  result : WriteResult

structure ReportWrite (F : Type) where
  report : Telemetry F
  index : Nat
  bytes : List UInt8
  result : WriteResult

variable {F : Type}

def Event.packetWrite : Event F → Option (PacketWrite F)
  | .write (.packet p clock) bytes result => some ⟨p, clock, bytes, result⟩
  | _ => none

def Event.reportWrite : Event F → Option (ReportWrite F)
  | .write (.report report index) bytes result => some ⟨report, index, bytes, result⟩
  | _ => none

def Event.receivedPacket : Event F → Option (RTPPacket F)
  | .received p => some p
  | _ => none

def Event.savedLifetime : Event F → Option AprsisLifetime
  | .saveLifetime row => some row
  | _ => none

/-- The packet lines written, with how each write ended. -/
def packetWrites (tr : List (Event F)) : List (PacketWrite F) := tr.filterMap Event.packetWrite

def reportWrites (tr : List (Event F)) : List (ReportWrite F) := tr.filterMap Event.reportWrite

def received (tr : List (Event F)) : List (RTPPacket F) := tr.filterMap Event.receivedPacket

def savedLifetimes (tr : List (Event F)) : List AprsisLifetime := tr.filterMap Event.savedLifetime

@[simp] theorem packetWrites_nil : packetWrites ([] : List (Event F)) = [] := rfl

@[simp] theorem packetWrites_append (a b : List (Event F)) :
    packetWrites (a ++ b) = packetWrites a ++ packetWrites b := List.filterMap_append

@[simp] theorem reportWrites_nil : reportWrites ([] : List (Event F)) = [] := rfl

@[simp] theorem reportWrites_append (a b : List (Event F)) :
    reportWrites (a ++ b) = reportWrites a ++ reportWrites b := List.filterMap_append

@[simp] theorem received_nil : received ([] : List (Event F)) = [] := rfl

@[simp] theorem received_append (a b : List (Event F)) :
    received (a ++ b) = received a ++ received b := List.filterMap_append

@[simp] theorem savedLifetimes_append (a b : List (Event F)) :
    savedLifetimes (a ++ b) = savedLifetimes a ++ savedLifetimes b := List.filterMap_append

/-! ## Quiet steps -/

/-- The step takes no packet and leaves the lifetime counters and the duplicates
alone.  If it saves counters, it saves those of its result. -/
structure Quiet (s : State F) (r : State F × List (Event F)) : Prop where
  lifetime : r.1.lifetime = s.lifetime
  dedupCache : r.1.dedupCache = s.dedupCache
  noPacket : packetWrites r.2 = [] ∧ received r.2 = []
  saves : ∀ row ∈ savedLifetimes r.2, row = r.1.aprsisLifetime

theorem quiet_self (s : State F) : Quiet s (s, []) where
  lifetime := rfl
  dedupCache := rfl
  noPacket := ⟨rfl, rfl⟩
  saves _ h := by cases h

theorem shutdown_quiet (s : State F) : Quiet s (shutdown s) where
  lifetime := rfl
  dedupCache := rfl
  noPacket := ⟨rfl, rfl⟩
  saves _ h := List.mem_singleton.mp h

theorem retry_quiet (s : State F) : Quiet s (retry s) where
  lifetime := rfl
  dedupCache := rfl
  noPacket := ⟨rfl, rfl⟩
  saves _ h := by cases h

theorem Quiet.trans {s : State F} {r r' : State F × List (Event F)} (h : Quiet s r)
    (hsave : savedLifetimes r.2 = []) (h' : Quiet r.1 r') :
    Quiet s (r'.1, r.2 ++ r'.2) where
  lifetime := h'.lifetime.trans h.lifetime
  dedupCache := h'.dedupCache.trans h.dedupCache
  noPacket := by
    rw [packetWrites_append, received_append, h.noPacket.1, h.noPacket.2]
    exact h'.noPacket
  saves row hmem := by
    rw [savedLifetimes_append, hsave] at hmem
    exact h'.saves row hmem

theorem connected_quiet (s : State F) : Quiet s (connected s, []) := by
  rw [connected]
  split <;> exact ⟨rfl, rfl, ⟨rfl, rfl⟩, fun _ h => by cases h⟩

theorem attempt_quiet (a : Attempt) (s : State F) : Quiet s (attempt a s) := by
  have hconn := connected_quiet s
  cases a with
  | resolveError | noAddress | connectError | connectTimeout => exact retry_quiet s
  | loginRefused | loginError | loginTimeout => exact hconn.trans rfl (retry_quiet _)
  | loginCancelled => exact hconn.trans rfl (shutdown_quiet _)
  | loggedIn => exact ⟨hconn.lifetime, hconn.dedupCache, ⟨rfl, rfl⟩, fun _ h => by cases h⟩

theorem attempt_interval (a : Attempt) (s : State F) :
    (attempt a s).1.interval = s.interval ∧ (attempt a s).1.sequence = s.sequence ∧
      reportWrites (attempt a s).2 = [] := by
  have hconn : (connected s).interval = s.interval ∧ (connected s).sequence = s.sequence := by
    rw [connected]
    split <;> exact ⟨rfl, rfl⟩
  cases a <;> first | exact ⟨rfl, rfl, rfl⟩ | exact ⟨hconn.1, hconn.2, rfl⟩

structure Positions (s : State F) (r : State F × List (Event F)) : Prop where
  quiet : Quiet s r
  interval : r.1.interval = s.interval
  sequence : r.1.sequence = s.sequence
  noReport : reportWrites r.2 = []
  noSave : savedLifetimes r.2 = []

theorem positions_self (s : State F) : Positions s (s, []) := ⟨quiet_self s, rfl, rfl, rfl, rfl⟩

/-! ## Report lines -/

/-- The events of the report lines `i`, `i + 1`, … up to the first write that is
not done. -/
theorem mem_writeLines {t : Captured F} {report : Telemetry F} {outcomes : Nat → WriteResult}
    {e : Event F} : ∀ {i : Nat} {lines : List String},
      e ∈ (writeLines t report outcomes i lines).1 →
        ∃ j info, lines[j]? = some info ∧
          e = .write (.report report (i + j)) (reportBytes t info) (outcomes (i + j))
  | _, [], h => by cases h
  | i, info :: rest, h => by
    have hhead : e = .write (.report report i) (reportBytes t info) (outcomes i) →
        ∃ j info', (info :: rest)[j]? = some info' ∧
          e = .write (.report report (i + j)) (reportBytes t info') (outcomes (i + j)) :=
      fun he => ⟨0, info, rfl, he⟩
    rw [writeLines] at h
    cases ho : outcomes i with
    | failed | timedOut =>
      simp only [ho, List.mem_singleton] at h
      exact hhead (by rw [h, ho])
    | done =>
      simp only [ho, List.mem_cons] at h
      rcases h with h | h
      · exact hhead (by rw [h, ho])
      · obtain ⟨j, info', hj, he⟩ := mem_writeLines h
        exact ⟨j + 1, info', hj, by rw [he, Nat.add_right_comm, Nat.add_assoc]⟩

theorem filterMap_writeLines {α : Type} {f : Event F → Option α} (t : Captured F)
    (report : Telemetry F) (outcomes : Nat → WriteResult) (i : Nat) (lines : List String)
    (hf : ∀ j bytes r, f (.write (.report report j) bytes r) = none) :
    (writeLines t report outcomes i lines).1.filterMap f = [] := by
  rw [List.filterMap_eq_nil_iff]
  intro e he
  obtain ⟨j, info, _, he⟩ := mem_writeLines he
  rw [he]
  exact hf _ _ _

section Float

variable [F64 F]

/-! ## The packet branch -/

/-- The six exits of the packet branch, with the checks on the way to each. -/
inductive PacketExit (t : Captured F) (clock : GateClock) (outcome : WriteResult) (s : State F)
    (p : RTPPacket F) : State F × List (Event F) → Prop
  | ungated (hgate : (t.igating && t.rw) = false) :
      PacketExit t clock outcome s p (s.receive p, [.received p])
  | filtered (reason : DropReason) (hgate : (t.igating && t.rw) = true)
      (hdrop : droppacket clock.instant p = some reason) :
      PacketExit t clock outcome s p ((s.receive p).drop (countReason reason), [.received p])
  | duplicate (hgate : (t.igating && t.rw) = true) (hdrop : droppacket clock.instant p = none)
      (hfresh : s.dedupCache.fresh dedupTtlSecs clock.now (dedupKey p) = true) :
      PacketExit t clock outcome s p ((s.receive p).drop countDuplicate, [.received p])
  | refused (hgate : (t.igating && t.rw) = true) (hdrop : droppacket clock.instant p = none)
      (hfresh : s.dedupCache.fresh dedupTtlSecs clock.now (dedupKey p) = false)
      (hrefused : refused (p.forRxigateBytes t.callsign) = true) :
      PacketExit t clock outcome s p ((s.receive p).drop countMalformed, [.received p])
  | gated (hgate : (t.igating && t.rw) = true) (hdrop : droppacket clock.instant p = none)
      (hfresh : s.dedupCache.fresh dedupTtlSecs clock.now (dedupKey p) = false)
      (hrefused : refused (p.forRxigateBytes t.callsign) = false) (hdone : outcome = .done) :
      PacketExit t clock outcome s p
        ((s.receive p).gate (dedupKey p) clock.now,
          [.received p, .write (.packet p clock) (p.forRxigateBytes t.callsign ++ crlf) .done])
  | failed (hgate : (t.igating && t.rw) = true) (hdrop : droppacket clock.instant p = none)
      (hfresh : s.dedupCache.fresh dedupTtlSecs clock.now (dedupKey p) = false)
      (hrefused : refused (p.forRxigateBytes t.callsign) = false) (hdone : outcome ≠ .done) :
      PacketExit t clock outcome s p
        ({ s.receive p with phase := .outer },
          [.received p, .write (.packet p clock) (p.forRxigateBytes t.callsign ++ crlf) outcome])

theorem handlePacket_exit (t : Captured F) (clock : GateClock) (outcome : WriteResult)
    (s : State F) (p : RTPPacket F) :
    PacketExit t clock outcome s p (handlePacket t clock outcome s p) := by
  rw [handlePacket]
  by_cases hgate : (t.igating && t.rw) = true
  case neg =>
    rw [if_neg hgate]
    exact .ungated (Bool.not_eq_true _ ▸ hgate)
  rw [if_pos hgate]
  cases hdrop : droppacket clock.instant p with
  | some reason => exact .filtered reason hgate hdrop
  | none =>
    show PacketExit t clock outcome s p
      (if (s.dedupCache.fresh dedupTtlSecs clock.now (dedupKey p)) = true then _ else _)
    by_cases hfresh : s.dedupCache.fresh dedupTtlSecs clock.now (dedupKey p) = true
    case pos =>
      rw [if_pos hfresh]
      exact .duplicate hgate hdrop hfresh
    rw [if_neg hfresh]
    rw [Bool.not_eq_true] at hfresh
    show PacketExit t clock outcome s p
      (if refused (p.forRxigateBytes t.callsign) = true then _ else _)
    by_cases hrefused : refused (p.forRxigateBytes t.callsign) = true
    case pos =>
      rw [if_pos hrefused]
      exact .refused hgate hdrop hfresh hrefused
    rw [if_neg hrefused]
    rw [Bool.not_eq_true] at hrefused
    cases outcome with
    | done => exact .gated hgate hdrop hfresh hrefused rfl
    | failed => exact .failed hgate hdrop hfresh hrefused (by decide)
    | timedOut => exact .failed hgate hdrop hfresh hrefused (by decide)

/-! ## Beacons and reports -/

theorem sendPositionBeacon_events (t : Captured F) (utc : Int) (loc : Location F)
    (outcome : WriteResult) :
    (sendPositionBeacon t utc loc outcome).2 = [] ∨
      ∃ bytes, (sendPositionBeacon t utc loc outcome).2 = [.write (.posit loc) bytes outcome] := by
  rw [sendPositionBeacon]
  split
  · exact Or.inl rfl
  · exact Or.inr ⟨_, rfl⟩

theorem beacon_positions (t : Captured F) (utc : Int) (outcome : WriteResult) (loc : Location F)
    (s : State F) : Positions s (beacon t utc outcome loc s) := by
  have hevents := sendPositionBeacon_events t utc loc outcome
  rw [beacon]
  generalize sendPositionBeacon t utc loc outcome = sent at hevents
  have hnone : packetWrites sent.2 = [] ∧ received sent.2 = [] ∧ reportWrites sent.2 = [] ∧
      savedLifetimes sent.2 = [] := by
    rcases hevents with h | ⟨bytes, h⟩ <;> rw [h] <;> exact ⟨rfl, rfl, rfl, rfl⟩
  have hsaves : ∀ (s' : State F), ∀ row ∈ savedLifetimes sent.2, row = s'.aprsisLifetime := by
    intro s' row h
    rw [hnone.2.2.2] at h
    cases h
  show Positions s (if sent.1 = true then _ else _)
  split
  · split <;>
      exact ⟨⟨rfl, rfl, ⟨hnone.1, hnone.2.1⟩, hsaves _⟩, rfl, rfl, hnone.2.2.1, hnone.2.2.2⟩
  · exact ⟨⟨rfl, rfl, ⟨hnone.1, hnone.2.1⟩, hsaves _⟩, rfl, rfl, hnone.2.2.1, hnone.2.2.2⟩

/-- A movement tick beacons or does nothing. -/
inductive MoveExit (t : Captured F) (world : BeaconWorld F) (posit : WriteResult) (s : State F) :
    State F × List (Event F) → Prop
  | idle : MoveExit t world posit s (s, [])
  | sent (loc : Location F) : MoveExit t world posit s (beacon t world.utc posit loc s)

theorem moveTick_exit (t : Captured F) (world : BeaconWorld F) (posit : WriteResult)
    (s : State F) : MoveExit t world posit s (moveTick t world posit s) := by
  rw [moveTick]
  split
  · split
    · split
      · exact .sent _
      · exact .idle
    · exact .idle
  · exact .idle

/-- The lines of a report go out, and the counters start again, or a write fails. -/
inductive ReportExit (t : Captured F) (outcomes : Nat → WriteResult) (s : State F) :
    State F × List (Event F) → Prop
  | invalid : ReportExit t outcomes s (s, [])
  | done (lines : List String) : ReportExit t outcomes s
      ({ s with sequence := s.sequence + 1, interval := {} },
        (writeLines t (telemetryReport t s.interval s.sequence) outcomes 0 lines).1 ++
          [.saveSeq (s.sequence + 1)])
  | failed (lines : List String) : ReportExit t outcomes s
      ({ s with phase := .outer },
        (writeLines t (telemetryReport t s.interval s.sequence) outcomes 0 lines).1)

theorem sendReport_exit (t : Captured F) (outcomes : Nat → WriteResult) (s : State F) :
    ReportExit t outcomes s (sendReport t outcomes s) := by
  rw [sendReport]
  split
  · exact .invalid
  · next lines _ =>
    show ReportExit t outcomes s (if (writeLines t (telemetryReport t s.interval s.sequence)
      outcomes 0 lines).2 = true then _ else _)
    split
    · exact .done lines
    · exact .failed lines

/-- A floor tick beacons, reports, does both, or does nothing. -/
inductive FloorExit (t : Captured F) (world : BeaconWorld F) (posit : WriteResult)
    (outcomes : Nat → WriteResult) (s : State F) : State F × List (Event F) → Prop
  | idle : FloorExit t world posit outcomes s (s, [])
  | report : FloorExit t world posit outcomes s (sendReport t outcomes s)
  | unsent (loc : Location F) :
      FloorExit t world posit outcomes s (beacon t world.utc posit loc s)
  | both (loc : Location F) : FloorExit t world posit outcomes s
      ((sendReport t outcomes (beacon t world.utc posit loc s).1).1,
        (beacon t world.utc posit loc s).2 ++
          (sendReport t outcomes (beacon t world.utc posit loc s).1).2)

theorem floorTick_exit (t : Captured F) (world : BeaconWorld F) (posit : WriteResult)
    (outcomes : Nat → WriteResult) (s : State F) :
    FloorExit t world posit outcomes s (floorTick t world posit outcomes s) := by
  rw [floorTick]
  split
  · split
    · next loc _ =>
      show FloorExit t world posit outcomes s
        (if (sendPositionBeacon t world.utc loc posit).1 = true then _ else _)
      split
      · exact .both loc
      · exact .unsent loc
    · exact .report
  · exact .idle

theorem moveTick_positions (t : Captured F) (world : BeaconWorld F) (posit : WriteResult)
    (s : State F) : Positions s (moveTick t world posit s) := by
  have hexit := moveTick_exit t world posit s
  generalize moveTick t world posit s = r at hexit
  cases hexit with
  | idle => exact positions_self s
  | sent loc => exact beacon_positions t world.utc posit loc s

theorem sendReport_quiet (t : Captured F) (outcomes : Nat → WriteResult) (s : State F) :
    Quiet s (sendReport t outcomes s) := by
  have hp : ∀ lines, packetWrites (writeLines t (telemetryReport t s.interval s.sequence)
      outcomes 0 lines).1 = [] :=
    fun lines => filterMap_writeLines t _ outcomes 0 lines fun _ _ _ => rfl
  have hr : ∀ lines, received (writeLines t (telemetryReport t s.interval s.sequence)
      outcomes 0 lines).1 = [] :=
    fun lines => filterMap_writeLines t _ outcomes 0 lines fun _ _ _ => rfl
  have hs : ∀ lines, savedLifetimes (writeLines t (telemetryReport t s.interval s.sequence)
      outcomes 0 lines).1 = [] :=
    fun lines => filterMap_writeLines t _ outcomes 0 lines fun _ _ _ => rfl
  have hexit := sendReport_exit t outcomes s
  generalize sendReport t outcomes s = r at hexit
  cases hexit with
  | invalid => exact quiet_self s
  | done lines =>
    refine ⟨rfl, rfl, ⟨?_, ?_⟩, ?_⟩
    · rw [packetWrites_append, hp]
      rfl
    · rw [received_append, hr]
      rfl
    · intro row h
      rw [savedLifetimes_append, hs] at h
      cases h
  | failed lines =>
    refine ⟨rfl, rfl, ⟨hp lines, hr lines⟩, ?_⟩
    intro row h
    rw [hs] at h
    cases h

theorem floorTick_quiet (t : Captured F) (world : BeaconWorld F) (posit : WriteResult)
    (outcomes : Nat → WriteResult) (s : State F) :
    Quiet s (floorTick t world posit outcomes s) := by
  have hexit := floorTick_exit t world posit outcomes s
  generalize floorTick t world posit outcomes s = r at hexit
  cases hexit with
  | idle => exact quiet_self s
  | report => exact sendReport_quiet t outcomes s
  | unsent loc => exact (beacon_positions t world.utc posit loc s).quiet
  | both loc =>
    have hb := beacon_positions t world.utc posit loc s
    exact hb.quiet.trans hb.noSave (sendReport_quiet t outcomes _)

/-! ## Delay and place -/

/-- The delay before the next attempt and the place of the last beacon are as they were. -/
structure Stays (s s' : State F) : Prop where
  backoffSecs : s'.backoffSecs = s.backoffSecs
  lastBeaconPos : s'.lastBeaconPos = s.lastBeaconPos

theorem handleMessage_stays (t : Captured F) (clock : GateClock) (outcome : WriteResult)
    (m : Received (DataItem F)) (s : State F) : Stays s (handleMessage t clock outcome m s).1 := by
  cases m with
  | lagged n => exact ⟨rfl, rfl⟩
  | message d =>
    cases d with
    | tlm x => exact ⟨rfl, rfl⟩
    | pkt p =>
      have hexit := handlePacket_exit t clock outcome s p
      rw [show handleMessage t clock outcome (.message (.pkt p)) s =
        handlePacket t clock outcome s p from rfl]
      generalize handlePacket t clock outcome s p = r at hexit
      cases hexit <;> exact ⟨rfl, rfl⟩

theorem sendReport_stays (t : Captured F) (outcomes : Nat → WriteResult) (s : State F) :
    Stays s (sendReport t outcomes s).1 := by
  have hexit := sendReport_exit t outcomes s
  generalize sendReport t outcomes s = r at hexit
  cases hexit with
  | invalid | done | failed => exact ⟨rfl, rfl⟩

theorem beacon_backoffSecs (t : Captured F) (utc : Int) (outcome : WriteResult) (loc : Location F)
    (s : State F) : (beacon t utc outcome loc s).1.backoffSecs = s.backoffSecs := by
  rw [beacon]
  show (if (sendPositionBeacon t utc loc outcome).1 = true then _ else _ :
    State F × List (Event F)).1.backoffSecs = _
  split
  · split <;> rfl
  · rfl

theorem floorTick_backoffSecs (t : Captured F) (world : BeaconWorld F) (posit : WriteResult)
    (outcomes : Nat → WriteResult) (s : State F) :
    (floorTick t world posit outcomes s).1.backoffSecs = s.backoffSecs := by
  have hexit := floorTick_exit t world posit outcomes s
  generalize floorTick t world posit outcomes s = r at hexit
  cases hexit with
  | idle => rfl
  | report => exact (sendReport_stays t outcomes s).backoffSecs
  | unsent loc => exact beacon_backoffSecs t world.utc posit loc s
  | both loc =>
    exact (sendReport_stays t outcomes _).backoffSecs.trans
      (beacon_backoffSecs t world.utc posit loc s)

theorem moveTick_backoffSecs (t : Captured F) (world : BeaconWorld F) (posit : WriteResult)
    (s : State F) : (moveTick t world posit s).1.backoffSecs = s.backoffSecs := by
  have hexit := moveTick_exit t world posit s
  generalize moveTick t world posit s = r at hexit
  cases hexit with
  | idle => rfl
  | sent loc => exact beacon_backoffSecs t world.utc posit loc s

/-! ## All steps -/

/-- The branch a step takes.  In the inner loop the task waits for all but an attempt, and
does nothing on a line of the server. -/
inductive Branch (t : Captured F) (s : State F) (i : Input F) : Prop
  | attempt (a : Attempt) (hi : i = .attempt a) (hphase : s.phase = .outer)
      (h : step t s i = Aprsis.attempt a s)
  | cancel (hi : i = .cancel) (h : step t s i = shutdown s)
  | sample (now utc : Int) (hi : i = .telemetryTick now utc) (hphase : s.phase = .inner)
      (h : step t s i = telemetryTick now utc s)
  | lost (r : ServerRead) (hi : i = .serverRead r)
      (h : step t s i = ({ s with phase := .outer }, []))
  | recv (m : Received (DataItem F)) (clock : GateClock) (outcome : WriteResult)
      (hi : i = .recv m clock outcome) (hphase : s.phase = .inner)
      (h : step t s i = handleMessage t clock outcome m s)
  | floor (world : BeaconWorld F) (posit : WriteResult) (outcomes : Nat → WriteResult)
      (hi : i = .floorTick world posit outcomes) (hphase : s.phase = .inner)
      (h : step t s i = floorTick t world posit outcomes s)
  | move (world : BeaconWorld F) (posit : WriteResult) (hi : i = .moveTick world posit)
      (hphase : s.phase = .inner) (h : step t s i = moveTick t world posit s)
  | idle (hwait : s.phase = .inner → (∃ a, i = .attempt a) ∨ i = .serverRead .line)
      (h : step t s i = (s, []))

theorem step_branch (t : Captured F) (s : State F) (i : Input F) : Branch t s i := by
  cases hphase : s.phase with
  | ended =>
    exact .idle (fun hp => by cases hphase.symm.trans hp) (by cases i <;> simp only [step, hphase])
  | outer =>
    have hwait : s.phase = .inner → (∃ a, i = .attempt a) ∨ i = .serverRead .line :=
      fun hp => by cases hphase.symm.trans hp
    cases i with
    | attempt a => exact .attempt a rfl hphase (by simp only [step, hphase])
    | cancel => exact .cancel rfl (by simp only [step, hphase])
    | telemetryTick | serverRead | recv | floorTick | moveTick =>
      exact .idle hwait (by simp only [step, hphase])
  | inner =>
    cases i with
    | attempt a => exact .idle (fun _ => Or.inl ⟨a, rfl⟩) (by simp only [step, hphase])
    | cancel => exact .cancel rfl (by simp only [step, hphase])
    | telemetryTick now utc => exact .sample now utc rfl hphase (by simp only [step, hphase])
    | serverRead r =>
      cases r with
      | line => exact .idle (fun _ => Or.inr rfl) (by simp only [step, hphase])
      | closed | error => exact .lost _ rfl (by simp only [step, hphase])
    | recv m clock outcome =>
      exact .recv m clock outcome rfl hphase (by simp only [step, hphase])
    | floorTick world posit outcomes =>
      exact .floor world posit outcomes rfl hphase (by simp only [step, hphase])
    | moveTick world posit => exact .move world posit rfl hphase (by simp only [step, hphase])

/-- The branches of a step.  `other` is any step that takes no packet, does not
sample and sends no report. -/
inductive StepCase (t : Captured F) (s : State F) (i : Input F) : Prop
  | packet (p : RTPPacket F) (clock : GateClock) (outcome : WriteResult)
      (hi : i = .recv (.message (.pkt p)) clock outcome) (hphase : s.phase = .inner)
      (h : step t s i = handlePacket t clock outcome s p)
  | lagged (n : Nat) (clock : GateClock) (outcome : WriteResult)
      (hi : i = .recv (.lagged n) clock outcome) (hphase : s.phase = .inner)
      (h : step t s i = handleMessage t clock outcome (.lagged n) s)
  | sample (now utc : Int) (hi : i = .telemetryTick now utc) (hphase : s.phase = .inner)
      (h : step t s i = telemetryTick now utc s)
  | report (world : BeaconWorld F) (posit : WriteResult) (outcomes : Nat → WriteResult)
      (hi : i = .floorTick world posit outcomes) (hphase : s.phase = .inner)
      (h : step t s i = floorTick t world posit outcomes s)
  | other (quiet : Quiet s (step t s i)) (interval : (step t s i).1.interval = s.interval)
      (sequence : (step t s i).1.sequence = s.sequence)
      (noReport : reportWrites (step t s i).2 = [])

theorem step_cases (t : Captured F) (s : State F) (i : Input F) : StepCase t s i := by
  have hidle : step t s i = (s, []) → StepCase t s i := fun h =>
    .other (h ▸ quiet_self s) (by rw [h]) (by rw [h]) (by rw [h]; rfl)
  cases step_branch t s i with
  | attempt a _ _ h =>
    obtain ⟨hi, hs, hr⟩ := attempt_interval a s
    exact .other (h ▸ attempt_quiet a s) (h ▸ hi) (h ▸ hs) (h ▸ hr)
  | cancel _ h =>
    exact .other (h ▸ shutdown_quiet s) (by rw [h]; rfl) (by rw [h]; rfl) (by rw [h]; rfl)
  | sample now utc hi hphase h => exact .sample now utc hi hphase h
  | lost r _ h =>
    refine .other ?_ (by rw [h]) (by rw [h]) (by rw [h]; rfl)
    rw [h]
    exact ⟨rfl, rfl, ⟨rfl, rfl⟩, fun _ hrow => by cases hrow⟩
  | recv m clock outcome hi hphase h =>
    cases m with
    | lagged n => exact .lagged n clock outcome hi hphase h
    | message d =>
      cases d with
      | pkt p => exact .packet p clock outcome hi hphase h
      | tlm x => exact hidle h
  | floor world posit outcomes hi hphase h => exact .report world posit outcomes hi hphase h
  | move world posit _ _ h =>
    have hm := moveTick_positions t world posit s
    exact .other (h ▸ hm.quiet) (h ▸ hm.interval) (h ▸ hm.sequence) (h ▸ hm.noReport)
  | idle _ h => exact hidle h

end Float

end Aprsis
end Rtpigate
