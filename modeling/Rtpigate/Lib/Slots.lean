/-
Sums over slots.

Items are sorted into slots by a function.  The sum of a slot adds up its items, and
adding up the slots of a list gives the sum of the items in them.
-/
import Mathlib

namespace Rtpigate
namespace Lib

variable {α K M : Type*} [DecidableEq K] [AddCommMonoid M] (slot : α → K) (value : α → M)

/-- The sum of the items in slot `k`. -/
def slotSum (items : List α) (k : K) : M := ((items.filter fun a => slot a = k).map value).sum

variable {slot value}

theorem slotSum_append (xs ys : List α) (k : K) :
    slotSum slot value (xs ++ ys) k = slotSum slot value xs k + slotSum slot value ys k := by
  rw [slotSum, List.filter_append, List.map_append, List.sum_append]
  rfl

theorem slotSum_singleton (a : α) (k : K) :
    slotSum slot value [a] k = if slot a = k then value a else 0 := by
  rw [slotSum, List.filter_singleton]
  by_cases h : slot a = k <;> simp [h]

theorem slotSum_of_not_mem {items : List α} {k : K} (h : k ∉ items.map slot) :
    slotSum slot value items k = 0 := by
  have hnone : (items.filter fun a => slot a = k) = [] := by
    rw [List.filter_eq_nil_iff]
    intro a ha hk
    rw [decide_eq_true_eq] at hk
    exact h (hk ▸ List.mem_map_of_mem ha)
  rw [slotSum, hnone, List.map_nil, List.sum_nil]

theorem slotSum_of_nodup {items : List α} (hnd : (items.map slot).Nodup) {a : α} (ha : a ∈ items) :
    slotSum slot value items (slot a) = value a := by
  induction items with
  | nil => cases ha
  | cons b items ih =>
    rw [List.map_cons, List.nodup_cons] at hnd
    rw [← List.singleton_append, slotSum_append, slotSum_singleton]
    by_cases hb : slot b = slot a
    · rw [if_pos hb, slotSum_of_not_mem (hb ▸ hnd.1), add_zero]
      rcases List.mem_cons.mp ha with rfl | hmem
      · rfl
      · exact absurd (hb ▸ List.mem_map_of_mem hmem) hnd.1
    · rw [if_neg hb, zero_add]
      rcases List.mem_cons.mp ha with rfl | hmem
      · exact absurd rfl hb
      · exact ih hnd.2 hmem

/-- The slots of a list hold the items whose slot is in it. -/
theorem sum_slotSum {ks : List K} (hnd : ks.Nodup) (items : List α) :
    (ks.map (slotSum slot value items)).sum =
      ((items.filter fun a => slot a ∈ ks).map value).sum := by
  induction items with
  | nil =>
    rw [List.map_congr_left fun k _ => slotSum_of_not_mem List.not_mem_nil]
    simp
  | cons a items ih =>
    have hcons : ∀ k, slotSum slot value (a :: items) k =
        (if slot a = k then value a else 0) + slotSum slot value items k := by
      intro k
      rw [← List.singleton_append, slotSum_append, slotSum_singleton]
    have hone : (ks.map fun k => if slot a = k then value a else 0).sum =
        if slot a ∈ ks then value a else 0 := by
      rw [← List.sum_toFinset _ hnd, Finset.sum_ite_eq]
      simp only [List.mem_toFinset]
    rw [List.map_congr_left fun k _ => hcons k, List.sum_map_add, hone, ih, List.filter_cons]
    by_cases hmem : slot a ∈ ks
    · simp [hmem]
    · simp [hmem]

end Lib
end Rtpigate
