/-
The delay between attempts to connect.

Every failed attempt waits and doubles the delay.  The delay goes back to its base as
soon as a connection is made, before the login: a login that fails waits for 5 s however
many attempts have failed before it.
-/
import Rtpigate.Aprsis.Steps
import Rtpigate.Lib.Backoff

namespace Rtpigate
namespace Aprsis

open Lib

variable {F : Type}

/-- No login came of the attempt, and the task goes on. -/
def Attempt.failed : Attempt → Bool
  | .loginCancelled | .loggedIn => false
  | _ => true

def Attempt.loginFailed : Attempt → Bool
  | .loginRefused | .loginError | .loginTimeout => true
  | _ => false

theorem retry_backoffSecs {s : State F} {k : Nat}
    (h : s.backoffSecs = retryDelay maxBackoffSecs k) :
    retry s = ({ s with backoffSecs := retryDelay maxBackoffSecs (k + 1) },
      [.sleep (retryDelay maxBackoffSecs k)]) := by
  rw [retry, h, retryDelay_double]

theorem connected_backoffSecs (s : State F) :
    (connected s).backoffSecs = retryDelay maxBackoffSecs 0 := by
  rw [connected]
  split <;> rfl

section Float

variable [F64 F]

/-- Attempts apart, no step touches the delay. -/
theorem step_backoffSecs (t : Captured F) (s : State F) (i : Input F)
    (h : s.phase = .outer → ∀ a, i ≠ .attempt a) :
    (step t s i).1.backoffSecs = s.backoffSecs := by
  cases step_branch t s i with
  | attempt a hi hphase => exact absurd hi (h hphase a)
  | cancel _ hstep | sample _ _ _ _ hstep =>
    rw [hstep]
    rfl
  | lost _ _ hstep | idle _ hstep => rw [hstep]
  | recv m clock outcome _ _ hstep =>
    rw [hstep]
    exact (handleMessage_stays t clock outcome m s).backoffSecs
  | floor world posit outcomes _ _ hstep =>
    rw [hstep]
    exact floorTick_backoffSecs t world posit outcomes s
  | move world posit _ _ hstep =>
    rw [hstep]
    exact moveTick_backoffSecs t world posit s

/-! ## Failures in a row -/

/-- A task, with the number of attempts that have failed since the last login. -/
structure Tracked (F : Type) where
  state : State F
  failures : Nat := 0

def Tracked.step (t : Captured F) (r : Tracked F) (i : Input F) : Tracked F × List (Event F) :=
  let failures :=
    match r.state.phase, i with
    | .outer, .attempt a => if a.failed then r.failures + 1 else 0
    | _, _ => r.failures
  (⟨(Aprsis.step t r.state i).1, failures⟩, (Aprsis.step t r.state i).2)

/-- The tracked task is the task. -/
theorem run_tracked (t : Captured F) (r : Tracked F) (is : List (Input F)) :
    (run (Tracked.step t) r is).1.state = (run (step t) r.state is).1 ∧
      (run (Tracked.step t) r is).2 = (run (step t) r.state is).2 :=
  run_project (f := Tracked.state) (fun _ _ => ⟨rfl, rfl⟩) r is

/-- A failed attempt waits for as long as the number of failures in a row calls for. -/
def Tracked.Waits (t : Captured F) (r : Tracked F) (i : Input F) : Prop :=
  r.state.phase = .outer → ∀ a, i = .attempt a → a.failed = true →
    (Tracked.step t r i).2 = [.sleep (retryDelay maxBackoffSecs r.failures)]

/-- An attempt that gets as far as a login that fails is the first failure in a row. -/
def Tracked.FirstLogin (r : Tracked F) (i : Input F) : Prop :=
  r.state.phase = .outer → ∀ a, i = .attempt a → a.loginFailed = true → r.failures = 0

/-- The delay to come is the one for the failures so far. -/
def Tracked.OnSchedule (r : Tracked F) : Prop :=
  r.state.backoffSecs = retryDelay maxBackoffSecs r.failures

theorem attempt_refused {r : Tracked F} (t : Captured F) {a : Attempt}
    (hphase : r.state.phase = .outer) (ha : a.loginFailed = true) :
    Tracked.step t r (.attempt a) =
      (⟨{ connected r.state with backoffSecs := retryDelay maxBackoffSecs 1 }, r.failures + 1⟩,
        [.sleep (retryDelay maxBackoffSecs 0)]) := by
  have hstep : Aprsis.step t r.state (.attempt a) = attempt a r.state := by
    simp only [Aprsis.step, hphase]
  have hretry : attempt a r.state = retry (connected r.state) := by
    cases a <;> first | rfl | cases ha
  have hfailed : a.failed = true := by
    cases a <;> first | rfl | cases ha
  simp only [Tracked.step, hstep, hphase, hfailed, if_true, hretry,
    retry_backoffSecs (connected_backoffSecs r.state)]

theorem attempt_unreached {r : Tracked F} (t : Captured F) {a : Attempt}
    (hphase : r.state.phase = .outer) (hfailed : a.failed = true) (ha : a.loginFailed = false)
    (h : r.OnSchedule) :
    Tracked.step t r (.attempt a) =
      (⟨{ r.state with backoffSecs := retryDelay maxBackoffSecs (r.failures + 1) },
          r.failures + 1⟩,
        [.sleep (retryDelay maxBackoffSecs r.failures)]) := by
  have hstep : Aprsis.step t r.state (.attempt a) = attempt a r.state := by
    simp only [Aprsis.step, hphase]
  have hretry : attempt a r.state = retry r.state := by
    cases a with
    | resolveError | noAddress | connectError | connectTimeout => rfl
    | loginRefused | loginError | loginTimeout => cases ha
    | loginCancelled | loggedIn => cases hfailed
  simp only [Tracked.step, hstep, hphase, hfailed, if_true, hretry, retry_backoffSecs h]

theorem attempt_over {r : Tracked F} (t : Captured F) {a : Attempt}
    (hphase : r.state.phase = .outer) (hfailed : a.failed = false) :
    (Tracked.step t r (.attempt a)).1.OnSchedule := by
  have hconn := connected_backoffSecs r.state
  cases a with
  | loginCancelled | loggedIn =>
    simp only [Tracked.OnSchedule, Tracked.step, Aprsis.step, hphase]
    exact hconn
  | _ => cases hfailed

omit [F64 F] in
theorem Tracked.firstLogin_attempt_iff {r : Tracked F} {a : Attempt}
    (hphase : r.state.phase = .outer) :
    r.FirstLogin (.attempt a) ↔ (a.loginFailed = true → r.failures = 0) := by
  constructor
  · exact fun h => h hphase a rfl
  · rintro h _ b hb
    cases hb
    exact h

theorem Tracked.waits_attempt_iff {r : Tracked F} {t : Captured F} {a : Attempt}
    (hphase : r.state.phase = .outer) :
    r.Waits t (.attempt a) ↔ (a.failed = true →
      (Tracked.step t r (.attempt a)).2 = [.sleep (retryDelay maxBackoffSecs r.failures)]) := by
  constructor
  · exact fun h => h hphase a rfl
  · rintro h _ b hb
    cases hb
    exact h

/-- A step that is no attempt leaves the schedule alone. -/
theorem Tracked.OnSchedule.idle {r : Tracked F} (t : Captured F) (h : r.OnSchedule) {i : Input F}
    (hno : r.state.phase = .outer → ∀ a, i ≠ .attempt a) :
    (Tracked.step t r i).1.OnSchedule := by
  have hcount : (Tracked.step t r i).1.failures = r.failures := by
    simp only [Tracked.step]
    split
    · next a hphase => exact absurd rfl (hno hphase a)
    · rfl
  rw [OnSchedule, hcount]
  exact (step_backoffSecs t r.state i hno).trans h

omit [F64 F] in
/-- The delay was set back by the connection, so that only a first failure waits right. -/
theorem refused_waits_iff (k : Nat) :
    ([.sleep (retryDelay maxBackoffSecs 0)] : List (Event F)) =
      [.sleep (retryDelay maxBackoffSecs k)] ↔ k = 0 := by
  constructor
  · intro hsleep
    cases k with
    | zero => rfl
    | succ k =>
      have hlt : 5 < retryDelay maxBackoffSecs (k + 1) := retryDelay_lt (by decide) k
      have heq : retryDelay maxBackoffSecs 0 = retryDelay maxBackoffSecs (k + 1) := by
        injection hsleep with hevent
        injection hevent
      rw [retryDelay_zero (by decide)] at heq
      omega
  · intro hk
    rw [hk]

/-- The cases of a step: no attempt, a login that fails, no connection, or no failure. -/
theorem Tracked.OnSchedule.step {r : Tracked F} (t : Captured F) (h : r.OnSchedule)
    (i : Input F) :
    (r.Waits t i ↔ r.FirstLogin i) ∧ (r.FirstLogin i → (Tracked.step t r i).1.OnSchedule) := by
  by_cases hattempt : r.state.phase = .outer ∧ ∃ a, i = .attempt a
  case neg =>
    have hno : r.state.phase = .outer → ∀ a, i ≠ .attempt a :=
      fun hphase a ha => hattempt ⟨hphase, a, ha⟩
    refine ⟨iff_of_true ?_ ?_, fun _ => h.idle t hno⟩
    · exact fun hphase a ha => absurd ha (hno hphase a)
    · exact fun hphase a ha => absurd ha (hno hphase a)
  obtain ⟨hphase, a, rfl⟩ := hattempt
  rw [waits_attempt_iff hphase, firstLogin_attempt_iff hphase]
  cases hlogin : a.loginFailed with
  | true =>
    have hfailed : a.failed = true := by cases a <;> first | rfl | cases hlogin
    have hstep := attempt_refused t hphase hlogin
    rw [hstep, hfailed, forall_prop_of_true rfl, forall_prop_of_true rfl]
    refine ⟨refused_waits_iff r.failures, fun hfirst => ?_⟩
    rw [hfirst]
    rfl
  | false =>
    have hfirst : false = true → r.failures = 0 := fun hf => by cases hf
    cases hfailed : a.failed with
    | true =>
      have hstep := attempt_unreached t hphase hfailed hlogin h
      rw [hstep]
      exact ⟨iff_of_true (fun _ => rfl) hfirst, fun _ => rfl⟩
    | false =>
      exact ⟨iff_of_true (fun hf => by cases hf) hfirst, fun _ => attempt_over t hphase hfailed⟩

/-- Every failed attempt of a run waits for 5 s, doubled for each failure before it since
the last login, up to 300 s, exactly when every login that fails is the first failure in
its row. -/
theorem reconnect_waits_iff (t : Captured F) (row : Option AprsisLifetime) (seq : SeqLoad)
    (is : List (Input F)) :
    (∀ js i, js ++ [i] <+: is →
        (run (Tracked.step t) ⟨(start row seq).1, 0⟩ js).1.Waits t i) ↔
      ∀ js i, js ++ [i] <+: is →
        (run (Tracked.step t) ⟨(start row seq).1, 0⟩ js).1.FirstLogin i := by
  refine forall_step_iff
    (I := fun js => (run (Tracked.step t) ⟨(start row seq).1, 0⟩ js).1.OnSchedule) ?_ ?_ is
  · show (start row seq : State F × List (Event F)).1.backoffSecs = retryDelay maxBackoffSecs 0
    cases row <;> cases seq <;> rfl
  · intro js i h
    have hstep := h.step t i
    simp only [run_concat]
    exact hstep

/-- A server that refuses the login twice is tried again after 5 s both times. -/
theorem refused_twice_waits_too_short :
    let is : List (Input ℚ) := [.attempt .loginRefused, .attempt .loginRefused]
    ¬ ∀ js i, js ++ [i] <+: is →
      (run (Tracked.step sampleStation) ⟨(start none .failed).1, 0⟩ js).1.Waits sampleStation
        i := by
  intro is h
  have hwait := h [.attempt .loginRefused] (.attempt .loginRefused) List.prefix_rfl rfl
    .loginRefused rfl rfl
  injection hwait with hsleep
  injection hsleep with hsecs
  exact absurd hsecs (by decide)

end Float

end Aprsis
end Rtpigate
