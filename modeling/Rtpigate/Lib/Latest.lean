/-
The latest item of a slot.

Items are sorted into slots by a function, and of the items of one slot only the last
one counts.  A reader that is shown windows of a growing list, each window reaching
back to what it has seen, ends up with the latest items of the whole list.
-/
import Mathlib

namespace Rtpigate
namespace Lib

variable {α β K : Type*} [DecidableEq K]

/-- The last item in slot `k`. -/
def latest (slot : α → K) (k : K) (items : List α) : Option α :=
  (items.filter fun a => slot a = k).getLast?

variable {slot : α → K} {k : K}

@[simp] theorem latest_nil : latest slot k [] = none := rfl

theorem latest_append (xs ys : List α) :
    latest slot k (xs ++ ys) = (latest slot k ys).or (latest slot k xs) := by
  rw [latest, List.filter_append, List.getLast?_append]
  rfl

theorem latest_concat (xs : List α) (a : α) :
    latest slot k (xs ++ [a]) = if slot a = k then some a else latest slot k xs := by
  rw [latest_append, latest, List.filter_singleton]
  by_cases h : slot a = k <;> simp [h]

theorem latest_map {slot : β → K} (f : α → β) (items : List α) :
    latest slot k (items.map f) = (latest (slot ∘ f) k items).map f := by
  rw [latest, List.filter_map, List.getLast?_map]
  rfl

theorem latest_mem {items : List α} {a : α} (h : latest slot k items = some a) :
    a ∈ items ∧ slot a = k := by
  have hmem := List.mem_of_getLast? h
  rw [List.mem_filter, decide_eq_true_eq] at hmem
  exact hmem

theorem latest_eq_none_iff {items : List α} : latest slot k items = none ↔ k ∉ items.map slot := by
  rw [latest, List.getLast?_eq_none_iff, List.filter_eq_nil_iff]
  simp only [decide_eq_true_eq, List.mem_map, not_exists, not_and]

/-- Two stretches of a list that overlap or meet show its latest items. -/
theorem latest_overlap (xs ys zs : List α) :
    (latest slot k (ys ++ zs)).or (latest slot k (xs ++ ys)) = latest slot k (xs ++ ys ++ zs) := by
  rw [latest_append, latest_append, latest_append, latest_append]
  cases latest slot k zs <;> cases latest slot k ys <;> rfl

/-- The last `size` items show what is new since a prefix that reaches up to them. -/
theorem latest_window {items : List α} {size seen : Nat} (h : items.length ≤ seen + size) :
    (latest slot k (items.rtake size)).or (latest slot k (items.take seen)) =
      latest slot k items := by
  have hdrop : items.rtake size = items.drop (items.length - size) := rfl
  have hle : items.length - size ≤ seen := by omega
  have hpre : items.take seen = items.take (items.length - size) ++
      (items.take seen).drop (items.length - size) := by
    conv_lhs => rw [← List.take_append_drop (items.length - size) (items.take seen)]
    rw [List.take_take, Nat.min_eq_left hle]
  have hwindow : items.rtake size =
      (items.take seen).drop (items.length - size) ++ items.drop seen := by
    conv_lhs => rw [hdrop, ← List.take_append_drop seen items]
    rw [List.drop_append]
    by_cases hlen : seen ≤ items.length
    · have hzero : items.length - size - (items.take seen).length = 0 := by
        rw [List.length_take]
        omega
      rw [List.take_append_drop, hzero, List.drop_zero]
    · have htake : items.take seen = items := List.take_of_length_le (by omega)
      have hnil : items.drop seen = [] := List.drop_eq_nil_of_le (by omega)
      rw [hnil, htake, List.append_nil, List.append_nil, List.drop_nil, List.append_nil]
  rw [hpre, hwindow, latest_overlap, ← hpre, List.take_append_drop]

end Lib
end Rtpigate
