/-
Queues pruned from the front.

Old items are taken off the front of a queue until a young one shows up.  That leaves
the young items, and only them, exactly when no old item stands behind a young one.
-/
import Mathlib

namespace Rtpigate
namespace Lib

variable {α : Type*} {old : α → Bool}

/-- No old item stands behind a young one. -/
def OldFirst (old : α → Bool) (queue : List α) : Prop :=
  queue.Pairwise fun a b => old b = true → old a = true

instance (old : α → Bool) (queue : List α) : Decidable (OldFirst old queue) :=
  inferInstanceAs (Decidable (queue.Pairwise _))

/-- Old items in front of a queue do not matter. -/
theorem oldFirst_append_iff {pruned queue : List α} (h : ∀ a ∈ pruned, old a = true) :
    OldFirst old (pruned ++ queue) ↔ OldFirst old queue := by
  rw [OldFirst, List.pairwise_append]
  refine ⟨fun hall => hall.2.1, fun hqueue => ⟨?_, hqueue, fun a ha b _ _ => h a ha⟩⟩
  exact List.pairwise_iff_forall_sublist.mpr fun hsub _ => h _ (hsub.subset (by simp))

theorem filter_dropWhile (old : α → Bool) (queue : List α) :
    (queue.dropWhile old).filter (fun a => !old a) = queue.filter fun a => !old a := by
  induction queue with
  | nil => rfl
  | cons a queue ih =>
    rw [List.dropWhile_cons]
    cases ha : old a with
    | true =>
      rw [if_pos rfl, ih, List.filter_cons, ha]
      rfl
    | false => rfl

theorem dropWhile_eq_filter_iff {queue : List α} :
    queue.dropWhile old = (queue.filter fun a => !old a) ↔ OldFirst old queue := by
  rw [OldFirst]
  induction queue with
  | nil => exact ⟨fun _ => List.Pairwise.nil, fun _ => rfl⟩
  | cons a queue ih =>
    rw [List.dropWhile_cons, List.filter_cons, List.pairwise_cons]
    cases ha : old a with
    | true =>
      rw [if_pos rfl, Bool.not_true, if_neg Bool.false_ne_true, ih]
      exact ⟨fun h => ⟨fun _ _ _ => rfl, h⟩, fun h => h.2⟩
    | false =>
      rw [if_neg Bool.false_ne_true, Bool.not_false, if_pos rfl, List.cons_inj_right, eq_comm,
        List.filter_eq_self]
      constructor
      · intro h
        have hyoung : ∀ b ∈ queue, old b = false := fun b hb => by simpa using h b hb
        refine ⟨fun b hb hold => ?_, List.pairwise_iff_forall_sublist.mpr fun hsub hold => ?_⟩
        · rw [hyoung b hb] at hold
          exact hold
        · rw [hyoung _ (hsub.subset (by simp))] at hold
          cases hold
      · intro ⟨h, _⟩ b hb
        cases hb' : old b with
        | false => rfl
        | true => exact absurd (h b hb hb') Bool.false_ne_true

/-- What is left is all young exactly when no old item stands behind a young one. -/
theorem forall_dropWhile_iff {queue : List α} :
    (∀ a ∈ queue.dropWhile old, old a = false) ↔ OldFirst old queue := by
  rw [← dropWhile_eq_filter_iff, ← filter_dropWhile, eq_comm, List.filter_eq_self]
  simp only [Bool.not_eq_true']

/-- What is left of a queue, against all that was ever in it. -/
theorem dropWhile_eq_filter_append_iff {pruned queue : List α} :
    queue.dropWhile old = ((pruned ++ queue).filter fun a => !old a) ↔
      OldFirst old queue ∧ ∀ a ∈ pruned, old a = true := by
  rw [List.filter_append]
  constructor
  · intro h
    have hyoung := congrArg (List.filter fun a => !old a) h
    rw [filter_dropWhile, List.filter_append, List.filter_filter, List.filter_filter] at hyoung
    simp only [Bool.and_self] at hyoung
    have hnil : (pruned.filter fun a => !old a) = [] := List.self_eq_append_left.mp hyoung
    refine ⟨dropWhile_eq_filter_iff.mp (h.trans (by rw [hnil, List.nil_append])), ?_⟩
    intro a ha
    have h := List.filter_eq_nil_iff.mp hnil a ha
    simpa using h
  · intro ⟨hfirst, hpruned⟩
    have hnil : (pruned.filter fun a => !old a) = [] := by
      rw [List.filter_eq_nil_iff]
      intro a ha
      rw [hpruned a ha]
      decide
    rw [hnil, List.nil_append]
    exact dropWhile_eq_filter_iff.mpr hfirst

end Lib
end Rtpigate
