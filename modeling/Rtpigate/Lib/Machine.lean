/-
Machines that read inputs and emit events.

A task that waits for the next of several events, updates its locals and writes
to the outside is a step function from a state and an input to a state and the
events of that step.  `run` folds it over a list of inputs.  Every invariant of
the runs of a machine goes through `run_rule`, the induction on the inputs read
so far.
-/
import Mathlib

namespace Rtpigate
namespace Lib

variable {σ ι ω : Type*}

/-- Feed inputs to a machine: the last state, and all events in order. -/
def run (step : σ → ι → σ × List ω) (s : σ) : List ι → σ × List ω
  | [] => (s, [])
  | i :: is =>
    ((run step (step s i).1 is).1, (step s i).2 ++ (run step (step s i).1 is).2)

variable {step : σ → ι → σ × List ω}

@[simp] theorem run_nil (s : σ) : run step s [] = (s, []) := rfl

theorem run_append (s : σ) (is js : List ι) :
    run step s (is ++ js) =
      ((run step (run step s is).1 js).1,
        (run step s is).2 ++ (run step (run step s is).1 js).2) := by
  induction is generalizing s with
  | nil => rfl
  | cons i is ih => simp only [List.cons_append, run, ih, List.append_assoc]

theorem run_concat (s : σ) (is : List ι) (i : ι) :
    run step s (is ++ [i]) =
      ((step (run step s is).1 i).1,
        (run step s is).2 ++ (step (run step s is).1 i).2) := by
  rw [run_append]
  simp only [run, List.append_nil]

/-- A machine that steps as another one on a part of its state runs as that one. -/
theorem run_project {τ : Type*} {step' : τ → ι → τ × List ω} {f : τ → σ}
    (hstep : ∀ r i, f (step' r i).1 = (step (f r) i).1 ∧ (step' r i).2 = (step (f r) i).2)
    (r : τ) (is : List ι) :
    f (run step' r is).1 = (run step (f r) is).1 ∧ (run step' r is).2 = (run step (f r) is).2 := by
  induction is generalizing r with
  | nil => exact ⟨rfl, rfl⟩
  | cons i is ih =>
    obtain ⟨hstate, hevents⟩ := hstep r i
    obtain ⟨hlast, hrest⟩ := ih (step' r i).1
    rw [hstate] at hlast hrest
    refine ⟨hlast, ?_⟩
    rw [run, run, hevents, hrest]

/-- Induction on the inputs read so far, for runs whose inputs satisfy a
condition that every shorter run inherits. -/
theorem run_rule {s₀ : σ} {Ok : List ι → Prop} {P : List ι → σ → List ω → Prop}
    (hok : ∀ is i, Ok (is ++ [i]) → Ok is) (start : P [] s₀ [])
    (next : ∀ is i s tr, Ok (is ++ [i]) → P is s tr →
      P (is ++ [i]) (step s i).1 (tr ++ (step s i).2)) :
    ∀ is, Ok is → P is (run step s₀ is).1 (run step s₀ is).2 := by
  intro is
  induction is using List.reverseRecOn with
  | nil => exact fun _ => start
  | append_singleton is i ih =>
    intro h
    rw [run_concat]
    exact next is i _ _ h (ih (hok is i h))

theorem run_invariant {s₀ : σ} {P : List ι → σ → List ω → Prop} (start : P [] s₀ [])
    (next : ∀ is i s tr, P is s tr → P (is ++ [i]) (step s i).1 (tr ++ (step s i).2))
    (is : List ι) : P is (run step s₀ is).1 (run step s₀ is).2 :=
  @run_rule σ ι ω step s₀ (fun _ => True) P (fun _ _ _ => trivial) start
    (fun is i s tr _ h => next is i s tr h) is trivial

/-- An invariant of runs whose steps all meet a condition on the state they start
from. -/
theorem run_guarded {s₀ : σ} {Ok : σ → ι → Prop} {P : σ → Prop} (start : P s₀)
    (next : ∀ s i, Ok s i → P s → P (step s i).1) (is : List ι)
    (hok : ∀ js i, js ++ [i] <+: is → Ok (run step s₀ js).1 i) : P (run step s₀ is).1 := by
  induction is using List.reverseRecOn with
  | nil => exact start
  | append_singleton is i ih =>
    rw [run_concat]
    refine next _ i (hok is i List.prefix_rfl) (ih fun js j hpre => hok js j ?_)
    exact hpre.trans (List.prefix_append is [i])

/-- Machines that keep a relation between their states and emit the same events in each
step emit the same events in every run. -/
theorem run_simulates {τ : Type*} {step' : τ → ι → τ × List ω} {s₀ : σ} {r₀ : τ}
    {Ok : List ι → Prop} {R : List ι → σ → τ → Prop} (hok : ∀ is i, Ok (is ++ [i]) → Ok is)
    (start : R [] s₀ r₀)
    (next : ∀ is i s r, Ok (is ++ [i]) → R is s r →
      R (is ++ [i]) (step s i).1 (step' r i).1 ∧ (step s i).2 = (step' r i).2)
    (is : List ι) (h : Ok is) :
    R is (run step s₀ is).1 (run step' r₀ is).1 ∧
      (run step s₀ is).2 = (run step' r₀ is).2 := by
  induction is using List.reverseRecOn with
  | nil => exact ⟨start, rfl⟩
  | append_singleton is i ih =>
    obtain ⟨hrel, hevents⟩ := ih (hok is i h)
    obtain ⟨hnext, hlast⟩ := next is i _ _ h hrel
    rw [run_concat, run_concat]
    exact ⟨hnext, by rw [hevents, hlast]⟩

/-- Two properties of steps that agree as long as the first of them has held so far
hold along the same runs.  `I` is what their holding so far makes of the state. -/
theorem forall_step_iff {I : List ι → Prop} {A B : List ι → ι → Prop} (start : I [])
    (next : ∀ js i, I js → (A js i ↔ B js i) ∧ (B js i → I (js ++ [i]))) (is : List ι) :
    (∀ js i, js ++ [i] <+: is → A js i) ↔ ∀ js i, js ++ [i] <+: is → B js i := by
  have hinv : (∀ js i, js ++ [i] <+: is → A js i) ∨ (∀ js i, js ++ [i] <+: is → B js i) →
      ∀ js, js <+: is → I js := by
    intro h js
    induction js using List.reverseRecOn with
    | nil => exact fun _ => start
    | append_singleton js i ih =>
      intro hpre
      obtain ⟨hiff, hkeep⟩ := next js i (ih ((List.prefix_append js [i]).trans hpre))
      exact hkeep (h.elim (fun h => hiff.mp (h js i hpre)) fun h => h js i hpre)
  constructor
  · intro h js i hpre
    have hI := hinv (Or.inl h) js ((List.prefix_append js [i]).trans hpre)
    exact (next js i hI).1.mp (h js i hpre)
  · intro h js i hpre
    have hI := hinv (Or.inr h) js ((List.prefix_append js [i]).trans hpre)
    exact (next js i hI).1.mpr (h js i hpre)

/-- What holds before the first input holds in every state as soon as it holds after each
input. -/
theorem forall_prefix_iff {P : List ι → Prop} (start : P []) {is : List ι} :
    (∀ js, js <+: is → P js) ↔ ∀ js i, js ++ [i] <+: is → P (js ++ [i]) := by
  refine ⟨fun h js i hpre => h _ hpre, fun h js hpre => ?_⟩
  induction js using List.reverseRecOn with
  | nil => exact start
  | append_singleton js i _ => exact h js i hpre

theorem forall_prefix_of_take {P : List ι → ι → Prop} {is : List ι}
    (h : ∀ k : Fin is.length, P (is.take k) (is.get k)) :
    ∀ js i, js ++ [i] <+: is → P js i := by
  intro js i ⟨rest, hrest⟩
  subst hrest
  have hk : js.length < (js ++ [i] ++ rest).length := by simp
  have hget : (js ++ [i] ++ rest).get ⟨js.length, hk⟩ = i := by simp
  have htake : (js ++ [i] ++ rest).take js.length = js := by simp
  have hP := h ⟨js.length, hk⟩
  rwa [hget, htake] at hP

theorem mem_run {s₀ : σ} {e : ω} {is : List ι} (h : e ∈ (run step s₀ is).2) :
    ∃ js i, (js ++ [i]) <+: is ∧ e ∈ (step (run step s₀ js).1 i).2 := by
  induction is using List.reverseRecOn with
  | nil => simp at h
  | append_singleton is i ih =>
    rw [run_concat] at h
    rcases List.mem_append.mp h with h | h
    · obtain ⟨js, j, hpre, hmem⟩ := ih h
      exact ⟨js, j, hpre.trans (List.prefix_append _ _), hmem⟩
    · exact ⟨is, i, List.prefix_rfl, h⟩

end Lib
end Rtpigate
