/-
The delay before the next subscription.

A subscription that fails waits and doubles the delay; one that succeeds sets the delay
back.  A session that ends in an error of the socket waits for nothing: the next
subscription follows at once, also when no frame has come in.
-/
import Rtpigate.Lib.Backoff
import Rtpigate.Listener.Loop

namespace Rtpigate
namespace Listener

open Lib

/-- A listener, with the number of failures in a row, and whether the session has
yielded a frame. -/
structure Session (F : Type) where
  loop : Loop F
  failures : Nat := 0
  framed : Bool := false

namespace Session

variable {F : Type}

/-- The failures are the subscriptions that fail and the sessions that end in an error of
the socket without a frame. -/
def count (r : Session F) : LoopInput F → Nat × Bool
  | .subscribe ok =>
    match r.loop.phase with
    | .outer => (if ok then r.failures else r.failures + 1, false)
    | _ => (r.failures, r.framed)
  | .frame _ _ =>
    match r.loop.phase with
    | .inner => (0, true)
    | _ => (r.failures, r.framed)
  | .ioError =>
    match r.loop.phase with
    | .inner => (if r.framed then r.failures else r.failures + 1, r.framed)
    | _ => (r.failures, r.framed)
  | .codecError | .tick _ | .cancel _ => (r.failures, r.framed)

variable [F64 F] [Display3 F] {c : Settings F}

def step (c : Settings F) (r : Session F) (i : LoopInput F) : Session F × List (LoopEvent F) :=
  (⟨(r.loop.step c i).1, (r.count i).1, (r.count i).2⟩, (r.loop.step c i).2)

/-- The listener with its counts is the listener. -/
theorem run_loop (c : Settings F) (r : Session F) (is : List (LoopInput F)) :
    (run (step c) r is).1.loop = (run (Loop.step c) r.loop is).1 ∧
      (run (step c) r is).2 = (run (Loop.step c) r.loop is).2 :=
  run_project (f := Session.loop) (fun _ _ => ⟨rfl, rfl⟩) r is

/-- The step is a failure. -/
def Fails (r : Session F) (i : LoopInput F) : Prop :=
  (r.loop.phase = .outer ∧ i = .subscribe false) ∨
    (r.loop.phase = .inner ∧ i = .ioError ∧ r.framed = false)

/-- A failure waits for as long as the number of failures in a row calls for. -/
def Waits (c : Settings F) (r : Session F) (i : LoopInput F) : Prop :=
  r.Fails i → (step c r i).2 = [.sleep (retryDelay maxBackoffSecs r.failures)]

/-- A session that ends in an error of the socket has yielded a frame. -/
def Framed (r : Session F) (i : LoopInput F) : Prop :=
  r.loop.phase = .inner → i = .ioError → r.framed = true

/-- The delay to come is the one for the failures so far; in a session it is the base,
and once a frame has come in there are no failures. -/
structure OnSchedule (r : Session F) : Prop where
  outer : r.loop.phase = .outer → r.loop.backoffSecs = retryDelay maxBackoffSecs r.failures
  inner : r.loop.phase = .inner → r.loop.backoffSecs = retryDelay maxBackoffSecs 0
  framed : r.loop.phase = .inner → r.framed = true → r.failures = 0

theorem step_waits_iff {r : Session F} (h : r.OnSchedule) (i : LoopInput F) :
    r.Waits c i ↔ r.Framed i := by
  constructor
  · intro hwaits hphase hi
    subst hi
    by_contra hframed
    have hsleep := hwaits (Or.inr ⟨hphase, rfl, Bool.not_eq_true _ ▸ hframed⟩)
    simp only [step, Loop.step, hphase] at hsleep
    cases hsleep
  · rintro hframed (⟨hphase, rfl⟩ | ⟨hphase, rfl, hnone⟩)
    · simp only [step, Loop.step, hphase, h.outer hphase]
    · rw [hframed hphase rfl] at hnone
      cases hnone

omit [F64 F] [Display3 F] in
theorem onSchedule_outer {r : Session F} (hphase : r.loop.phase = .outer)
    (h : r.loop.backoffSecs = retryDelay maxBackoffSecs r.failures) : r.OnSchedule where
  outer _ := h
  inner hp := by cases hphase.symm.trans hp
  framed hp := by cases hphase.symm.trans hp

omit [F64 F] [Display3 F] in
theorem onSchedule_inner {r : Session F} (hphase : r.loop.phase = .inner)
    (h : r.loop.backoffSecs = retryDelay maxBackoffSecs 0)
    (hframed : r.framed = true → r.failures = 0) :
    r.OnSchedule where
  outer hp := by cases hphase.symm.trans hp
  inner _ := h
  framed _ := hframed

omit [F64 F] [Display3 F] in
theorem onSchedule_ended {r : Session F} (hphase : r.loop.phase = .ended) : r.OnSchedule where
  outer hp := by cases hphase.symm.trans hp
  inner hp := by cases hphase.symm.trans hp
  framed hp := by cases hphase.symm.trans hp

theorem step_onSchedule {r : Session F} (h : r.OnSchedule) {i : LoopInput F}
    (hframed : r.Framed i) : (step c r i).1.OnSchedule := by
  cases hphase : r.loop.phase with
  | ended => exact onSchedule_ended (by cases i <;> simp only [step, Loop.step, hphase])
  | outer =>
    cases i with
    | subscribe ok =>
      cases ok with
      | true =>
        simp only [step, Loop.step, count, hphase]
        exact onSchedule_inner rfl (retryDelay_zero (by decide)).symm fun hf => by cases hf
      | false =>
        simp only [step, Loop.step, count, hphase, h.outer hphase]
        exact onSchedule_outer rfl (backoff_double r.failures)
    | cancel orders => exact onSchedule_ended (by simp only [step, Loop.step, hphase]; rfl)
    | frame | codecError | ioError | tick =>
      simp only [step, Loop.step, count, hphase]
      exact h
  | inner =>
    have hbase := h.inner hphase
    have hnone := h.framed hphase
    cases i with
    | subscribe ok =>
      simp only [step, Loop.step, count, hphase]
      exact h
    | frame world fr =>
      simp only [step, Loop.step, count, hphase]
      exact onSchedule_inner hphase hbase fun _ => rfl
    | tick world =>
      simp only [step, Loop.step, count, hphase]
      exact onSchedule_inner hphase hbase hnone
    | codecError =>
      simp only [step, Loop.step, count, hphase]
      exact h
    | ioError =>
      have hyes := hframed hphase rfl
      simp only [step, Loop.step, count, hphase, hyes, if_true, hnone hyes]
      exact onSchedule_outer rfl hbase
    | cancel orders => exact onSchedule_ended (by simp only [step, Loop.step, hphase]; rfl)

/-- Every failure of a run waits for 5 s, doubled for each failure before it, up to 300 s,
exactly when every session that ends in an error of the socket has yielded a frame. -/
theorem subscribe_waits_iff (c : Settings F) (task : Task F) (is : List (LoopInput F)) :
    (run (step c) ⟨{ task }, 0, false⟩ is).2 = (run (Loop.step c) { task } is).2 ∧
      ((∀ js i, js ++ [i] <+: is → (run (step c) ⟨{ task }, 0, false⟩ js).1.Waits c i) ↔
        ∀ js i, js ++ [i] <+: is → (run (step c) ⟨{ task }, 0, false⟩ js).1.Framed i) := by
  refine ⟨(run_loop c ⟨{ task }, 0, false⟩ is).2, ?_⟩
  refine forall_step_iff
    (I := fun js => (run (step c) ⟨{ task }, 0, false⟩ js).1.OnSchedule) ?_ ?_ is
  · exact onSchedule_outer rfl (retryDelay_zero (by decide)).symm
  · intro js i h
    simp only [run_concat]
    exact ⟨step_waits_iff h i, step_onSchedule h⟩

/-- A socket that fails as soon as it is read is opened again without a wait. -/
theorem failing_socket_not_throttled :
    let is : List (LoopInput ℚ) := [.subscribe true, .ioError]
    ¬ ∀ js i, js ++ [i] <+: is →
      (run (step ⟨[], 6⟩) ⟨{ task := {} }, 0, false⟩ js).1.Waits ⟨[], 6⟩ i := by
  intro is h
  have hsleep := h [.subscribe true] .ioError List.prefix_rfl (Or.inr ⟨rfl, rfl, rfl⟩)
  cases hsleep

end Session

end Listener
end Rtpigate
