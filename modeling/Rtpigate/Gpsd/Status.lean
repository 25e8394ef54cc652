/-
What the page is told of the GPS.

Every report of gpsd makes a new shared fix, but only some of the fixes are announced: one with
a mode of its own at once, and otherwise one a second.  So the announced fix is never behind
the shared one by a second or by a mode.
-/
import Rtpigate.Gpsd
import Rtpigate.Lib.Throttle

namespace Rtpigate
namespace Gpsd

open Lib

variable {F : Type}

/-- A fix that became the shared one, with the message about it if there was one. -/
structure Share (F : Type) where
  now : Nat
  fix : Fix F
  message : Option (GpsTelemetry F)

def Event.message : Event F → Option (GpsTelemetry F)
  | .publish t => some t
  | .sleep _ => none

namespace Share

def announced (x : Share F) : Bool := x.message.isSome

/-- The message with the time it went out. -/
def sent (x : Share F) : Option (Nat × GpsTelemetry F) := x.message.map fun m => (x.now, m)

end Share

/-- What `share` does, as a record. -/
def shared (now : Nat) (theTime : Int) (s : State F) : Share F where
  now := now
  fix := s.fix
  message := (share now theTime s).2.head?.bind Event.message

/-- The throttle as the task keeps it. -/
def State.throttle (s : State F) : Throttle Nat where
  prev := s.prevMode
  last := s.lastTelem

/-- The messages of a timed trace. -/
def messages (tr : List (Nat × Event F)) : List (Nat × GpsTelemetry F) :=
  tr.filterMap fun x => (Event.message x.2).map fun m => (x.1, m)

section Share

variable (now : Nat) (theTime : Int) (s : State F)

theorem share_due : ((share now theTime s).2 = [.publish (telemetry now theTime s.fix)] ∧
      s.throttle.due gpsTelemInterval now s.fix.mode = true) ∨
    ((share now theTime s).2 = [] ∧ s.throttle.due gpsTelemInterval now s.fix.mode = false) := by
  have hevents : (share now theTime s).2 =
      if s.throttle.due gpsTelemInterval now s.fix.mode then
        [.publish (telemetry now theTime s.fix)]
      else [] := rfl
  cases hdue : s.throttle.due gpsTelemInterval now s.fix.mode with
  | true => exact .inl ⟨by rw [hevents, if_pos hdue], rfl⟩
  | false => exact .inr ⟨by rw [hevents, hdue]; rfl, rfl⟩

theorem share_throttle : (share now theTime s).1.throttle =
    s.throttle.read gpsTelemInterval now s.fix.mode := by
  have hprev : (share now theTime s).1.prevMode =
      if (s.prevMode != some s.fix.mode) = true then some s.fix.mode else s.prevMode := rfl
  have hmode : (share now theTime s).1.prevMode = some s.fix.mode := by
    rw [hprev]
    split
    · rfl
    · next h => exact not_not.mp fun hne => h (bne_iff_ne.mpr hne)
  rw [State.throttle, hmode]
  rfl

theorem announced_shared : (shared now theTime s).announced =
    s.throttle.due gpsTelemInterval now s.fix.mode := by
  rcases share_due now theTime s with ⟨hevents, hdue⟩ | ⟨hevents, hdue⟩ <;>
    rw [Share.announced, shared, hevents, hdue] <;> rfl

theorem messages_share : messages ((share now theTime s).2.map fun e => (now, e)) =
    (shared now theTime s).sent.toList := by
  rcases share_due now theTime s with ⟨hevents, _⟩ | ⟨hevents, _⟩ <;>
    rw [Share.sent, shared, hevents] <;> rfl

theorem shared_message {m : GpsTelemetry F} (h : (shared now theTime s).message = some m) :
    m = telemetry now theTime s.fix := by
  rw [shared] at h
  rcases share_due now theTime s with ⟨hevents, _⟩ | ⟨hevents, _⟩ <;> rw [hevents] at h <;>
    cases h
  rfl

end Share

variable [F64 F]

/-- The task, with the time of each input and of each event. -/
def timedStep (parseTime : String → Option Int) (s : State F) (x : Nat × Input F) :
    State F × List (Nat × Event F) :=
  ((step parseTime x.1 s x.2).1, (step parseTime x.1 s x.2).2.map fun e => (x.1, e))

/-- The fix a step shares. -/
def shareOf (parseTime : String → Option Int) (s : State F) (x : Nat × Input F) :
    Option (Share F) :=
  match s.phase, x.2 with
  | .inner, .line (.tpv r) theTime => some (shared x.1 theTime (mergeTpv parseTime x.1 r s))
  | .inner, .line (.sky r) theTime => some (shared x.1 theTime (mergeSky r s))
  | _, _ => none

def shares (parseTime : String → Option Int) : State F → List (Nat × Input F) → List (Share F)
  | _, [] => []
  | s, x :: xs => (shareOf parseTime s x).toList ++ shares parseTime (timedStep parseTime s x).1 xs

/-- The fixes shared in a run, and what was said about them. -/
structure Announced (s : State F) (tr : List (Nat × Event F)) (shares : List (Share F)) :
    Prop where
  state : s.gpsState = shares.getLast?.map Share.fix
  messages : messages tr = shares.filterMap Share.sent
  exact : ∀ x ∈ shares, ∀ m, x.message = some m →
    ∃ theTime, m = telemetry x.now theTime x.fix
  throttle : Throttle.Tracks gpsTelemInterval Share.now (fun x => x.fix.mode) Share.announced
    shares s.throttle

variable {parseTime : String → Option Int} {s : State F} {tr : List (Nat × Event F)}
  {xs : List (Share F)}

omit [F64 F] in
/-- A merged fix is shared. -/
theorem Announced.share (h : Announced s tr xs) {s' : State F} (hthrottle : s'.throttle = s.throttle)
    (now : Nat) (theTime : Int) :
    Announced (share now theTime s').1
      (tr ++ (Gpsd.share now theTime s').2.map fun e => (now, e))
      (xs ++ [shared now theTime s']) := by
  constructor
  · rw [List.getLast?_concat, Option.map_some]
    rfl
  · rw [Gpsd.messages, List.filterMap_append, List.filterMap_append]
    refine congrArg₂ (· ++ ·) h.messages ((messages_share now theTime s').trans ?_)
    rw [List.filterMap_cons, List.filterMap_nil]
    cases (shared now theTime s').sent <;> rfl
  · intro x hx m hm
    rcases List.mem_append.mp hx with hx | hx
    · exact h.exact x hx m hm
    · rw [List.mem_singleton] at hx
      subst hx
      exact ⟨theTime, shared_message now theTime s' hm⟩
  · rw [share_throttle]
    have htracks := h.throttle
    rw [← hthrottle] at htracks
    exact htracks.read (by decide) (announced_shared now theTime s')

/-- A step that shares nothing and says nothing. -/
structure Silent (s : State F) (r : State F × List (Event F)) : Prop where
  state : r.1.gpsState = s.gpsState
  throttle : r.1.throttle = s.throttle
  events : ∀ e ∈ r.2, Event.message e = none

omit [F64 F] in
theorem silent_nil {s s' : State F} (hstate : s'.gpsState = s.gpsState)
    (hthrottle : s'.throttle = s.throttle) : Silent s (s', []) :=
  ⟨hstate, hthrottle, fun e he => by cases he⟩

omit [F64 F] in
theorem attempt_silent (a : Attempt) (s : State F) : Silent s (attempt a s) := by
  cases a with
  | resolveError | noAddress | connectError | connectTimeout =>
    refine ⟨rfl, rfl, fun e he => ?_⟩
    rw [List.mem_singleton.mp he]
    rfl
  | watchError | watchTimeout | watching => exact silent_nil rfl rfl

omit [F64 F] in
/-- A step without a report may wait, but says nothing. -/
theorem Announced.silent (h : Announced s tr xs) {r : State F × List (Event F)} (hr : Silent s r)
    (now : Nat) : Announced r.1 (tr ++ r.2.map fun e => (now, e)) xs where
  state := hr.state.trans h.state
  messages := by
    have hnone : Gpsd.messages (r.2.map fun e => (now, e)) = [] := by
      refine List.filterMap_eq_nil_iff.mpr fun x hx => ?_
      obtain ⟨e, he, rfl⟩ := List.mem_map.mp hx
      rw [hr.events e he]
      rfl
    rw [Gpsd.messages, List.filterMap_append]
    exact (congrArg₂ (· ++ ·) h.messages hnone).trans (List.append_nil _)
  exact := h.exact
  throttle := hr.throttle ▸ h.throttle

theorem step_silent {x : Nat × Input F} (hx : shareOf parseTime s x = none) :
    Silent s (step parseTime x.1 s x.2) := by
  obtain ⟨now, i⟩ := x
  cases hphase : s.phase with
  | ended =>
    have hstep : step parseTime now s i = (s, []) := by cases i <;> simp only [step, hphase]
    rw [hstep]
    exact silent_nil rfl rfl
  | outer =>
    cases i with
    | attempt a =>
      simp only [step, hphase]
      exact attempt_silent a s
    | cancel | line | closed | readError =>
      simp only [step, hphase]
      exact silent_nil rfl rfl
  | inner =>
    cases i with
    | line l theTime =>
      cases l with
      | tpv r | sky r =>
        simp only [shareOf, hphase] at hx
        cases hx
      | blank | other | unparsable =>
        simp only [step, hphase, line]
        exact silent_nil rfl rfl
    | attempt | cancel | closed | readError =>
      simp only [step, hphase]
      exact silent_nil rfl rfl

omit [F64 F] in
theorem mergeSky_throttle (r : Sky F) (s : State F) : (mergeSky r s).throttle = s.throttle := by
  rw [mergeSky]
  split <;> rfl

/-- One step shares at most one fix. -/
theorem Announced.step (h : Announced s tr xs) (x : Nat × Input F) :
    Announced (timedStep parseTime s x).1 (tr ++ (timedStep parseTime s x).2)
      (xs ++ (shareOf parseTime s x).toList) := by
  obtain ⟨now, i⟩ := x
  cases hx : shareOf parseTime s (now, i) with
  | none =>
    rw [Option.toList_none, List.append_nil]
    exact h.silent (step_silent hx) now
  | some y =>
    rw [shareOf] at hx
    split at hx
    · next r theTime hphase hline =>
      cases hx
      obtain rfl : i = .line (.tpv r) theTime := hline
      have hstep : Gpsd.step parseTime now s (.line (.tpv r) theTime) =
          Gpsd.share now theTime (mergeTpv parseTime now r s) := by
        simp only [Gpsd.step, hphase, line]
      rw [timedStep, hstep]
      have hsame : (mergeTpv parseTime now r s).throttle = s.throttle := rfl
      exact h.share hsame now theTime
    · next r theTime hphase hline =>
      cases hx
      obtain rfl : i = .line (.sky r) theTime := hline
      have hstep : Gpsd.step parseTime now s (.line (.sky r) theTime) =
          Gpsd.share now theTime (mergeSky r s) := by
        simp only [Gpsd.step, hphase, line]
      rw [timedStep, hstep]
      exact h.share (mergeSky_throttle r s) now theTime
    · cases hx

theorem Announced.run (h : Announced s tr xs) (is : List (Nat × Input F)) :
    Announced (run (timedStep parseTime) s is).1 (tr ++ (Lib.run (timedStep parseTime) s is).2)
      (xs ++ shares parseTime s is) := by
  induction is generalizing s tr xs with
  | nil =>
    rw [run_nil, List.append_nil]
    exact (List.append_nil xs).symm ▸ h
  | cons x is ih =>
    have hnext := ih (@Announced.step F _ parseTime s tr xs h x)
    rw [List.append_assoc, List.append_assoc] at hnext
    exact hnext

/-- What the messages of a run say. -/
structure Told (parseTime : String → Option Int) (s₀ : State F) (is : List (Nat × Input F)) :
    Prop where
  state : (run (timedStep parseTime) s₀ is).1.gpsState =
    (shares parseTime s₀ is).getLast?.map Share.fix
  messages : messages (run (timedStep parseTime) s₀ is).2 =
    (shares parseTime s₀ is).filterMap Share.sent
  exact : ∀ x ∈ shares parseTime s₀ is, ∀ m, x.message = some m →
    ∃ theTime, m = telemetry x.now theTime x.fix
  upToDate : ∀ x, (shares parseTime s₀ is).getLast? = some x →
    ∃ y m, ((shares parseTime s₀ is).filter Share.announced).getLast? = some y ∧
      y.message = some m ∧ m.mode = x.fix.mode ∧ x.now - y.now < 10 ^ 9
  spaced : ((shares parseTime s₀ is).filter Share.announced).IsChain fun a b =>
    a.fix.mode ≠ b.fix.mode ∨ 10 ^ 9 ≤ b.now - a.now
  modes : ((Gpsd.messages (run (timedStep parseTime) s₀ is).2).map fun m => m.2.mode).destutter
      (· ≠ ·) = ((shares parseTime s₀ is).map fun x => x.fix.mode).destutter (· ≠ ·)

omit [F64 F] in
theorem messages_modes (hexact : ∀ x ∈ xs, ∀ m, x.message = some m →
      ∃ theTime, m = telemetry x.now theTime x.fix) :
    (xs.filterMap Share.sent).map (fun m => m.2.mode) =
      (xs.filter Share.announced).map fun x => x.fix.mode := by
  induction xs with
  | nil => rfl
  | cons x xs ih =>
    have hrest := ih fun y hy => hexact y (List.mem_cons_of_mem x hy)
    cases hm : x.message with
    | none =>
      have hsent : x.sent = none := by rw [Share.sent, hm, Option.map_none]
      rw [List.filterMap_cons_none hsent, hrest, List.filter_cons_of_neg]
      rw [Share.announced, hm]
      exact Bool.false_ne_true
    | some m =>
      have hsent : x.sent = some (x.now, m) := by rw [Share.sent, hm, Option.map_some]
      obtain ⟨theTime, rfl⟩ := hexact x List.mem_cons_self m hm
      rw [List.filterMap_cons_some hsent, List.map_cons, hrest, List.filter_cons_of_pos,
        List.map_cons]
      · rfl
      · rw [Share.announced, hm]
        rfl

/-- Whatever gpsd sends and however the connection fares, a message tells the shared fix of
its moment, a second passes between two messages of one mode, the last message is less than a
second older than the last report and has its mode, and the messages show every change of
the mode, each once and in order. -/
theorem gps_status_up_to_date (parseTime : String → Option Int) (started : Nat)
    (is : List (Nat × Input F)) : Told parseTime (start started) is := by
  have hstart : Announced (start started : State F) [] [] :=
    { state := rfl
      messages := rfl
      exact := fun x hx => by cases hx
      throttle := Throttle.tracks_start }
  have hrun := @Announced.run F _ parseTime _ _ _ hstart is
  rw [List.nil_append, List.nil_append] at hrun
  refine ⟨hrun.state, hrun.messages, hrun.exact, fun x hx => ?_, hrun.throttle.spaced, ?_⟩
  · obtain ⟨y, hy, hmode, hrecent⟩ := hrun.throttle.shown hx
    have hmem := List.mem_filter.mp (List.mem_of_getLast? hy)
    obtain ⟨m, hm⟩ := Option.isSome_iff_exists.mp hmem.2
    obtain ⟨theTime, rfl⟩ := hrun.exact y hmem.1 m hm
    exact ⟨y, _, hy, hm, hmode, hrecent⟩
  · rw [hrun.messages, messages_modes hrun.exact]
    exact hrun.throttle.changes

end Gpsd
end Rtpigate
