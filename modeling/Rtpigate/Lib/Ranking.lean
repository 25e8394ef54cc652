/-
The first places of a list.

A list is sorted by a key, the greatest first and equal keys in the order of the list, and
only its first places are shown.  The keys shown depend on the items alone, not on the order in
which the list has them.
-/
import Mathlib

namespace Rtpigate
namespace Lib

variable {α β : Type*} [LinearOrder β] (key : α → β)

def descending (items : List α) : List α := items.insertionSort fun a b => key b ≤ key a

/-- The items shown are in order, no other item is ahead of one of them, and no place is
left empty. -/
structure Leading (n : Nat) (items shown : List α) : Prop where
  ordered : shown.Pairwise fun a b => key b ≤ key a
  ahead : ∃ others, (shown ++ others).Perm items ∧ ∀ a ∈ shown, ∀ b ∈ others, key b ≤ key a
  places : shown.length = min n items.length

theorem descending_perm (items : List α) : (descending key items).Perm items :=
  List.perm_insertionSort _ items

variable {key}

theorem descending_ordered (items : List α) :
    (descending key items).Pairwise fun a b => key b ≤ key a := by
  have htotal : Std.Total fun a b : α => key b ≤ key a := ⟨fun a b => le_total (key b) (key a)⟩
  have htrans : IsTrans α fun a b => key b ≤ key a := ⟨fun _ _ _ hab hbc => hbc.trans hab⟩
  exact List.pairwise_insertionSort _ items

namespace Leading

variable {n : Nat} {items items' shown shown' : List α}

/-- The keys shown are the first of all keys in order. -/
theorem keys (h : Leading key n items shown) :
    shown.map key = (descending id (items.map key)).take (min n items.length) := by
  obtain ⟨others, hperm, hahead⟩ := h.ahead
  have hsorted : descending id (items.map key) =
      shown.map key ++ descending id (others.map key) := by
    have hordered : (shown.map key ++ descending id (others.map key)).Pairwise
        fun a b => b ≤ a := by
      refine List.pairwise_append.mpr
        ⟨List.pairwise_map.mpr h.ordered, descending_ordered (others.map key), ?_⟩
      intro x hx y hy
      obtain ⟨a, ha, rfl⟩ := List.mem_map.mp hx
      obtain ⟨b, hb, rfl⟩ := List.mem_map.mp ((descending_perm _ _).subset hy)
      exact hahead a ha b hb
    have hsame : (descending id (items.map key)).Perm
        (shown.map key ++ descending id (others.map key)) := by
      refine (descending_perm _ _).trans ((hperm.map key).symm.trans ?_)
      rw [List.map_append]
      exact (descending_perm _ _).symm.append_left _
    exact hsame.eq_of_pairwise (fun a b _ _ hab hba => le_antisymm hba hab)
      (descending_ordered (items.map key)) hordered
  rw [hsorted, ← h.places, ← List.length_map (f := key), List.take_left]

end Leading

end Lib
end Rtpigate
