/-
Strictly ordered lists.

A list in a strict order is determined by its members.  A table sorted by a second key
is in the order of that key, and by the first key where these are equal.
-/
import Mathlib

namespace Rtpigate
namespace Lib

variable {α K T : Type*}

theorem eq_of_ordered {r : α → α → Prop} (hasymm : ∀ a b, r a b → ¬ r b a) {xs ys : List α}
    (hxs : xs.Pairwise r) (hys : ys.Pairwise r) (h : ∀ a, a ∈ xs ↔ a ∈ ys) : xs = ys := by
  have hnodup : ∀ {l : List α}, l.Pairwise r → l.Nodup := by
    intro l hl
    refine hl.imp fun {a b} hab heq => ?_
    subst heq
    exact hasymm a a hab hab
  exact ((List.perm_ext_iff_of_nodup (hnodup hxs) (hnodup hys)).mpr h).eq_of_pairwise
    (fun a b _ _ hab hba => absurd hba (hasymm a b hab)) hxs hys

variable [LinearOrder K] [LinearOrder T]

/-- By the second component, and by the first where these are equal. -/
def Earlier (a b : K × T) : Prop := a.2 < b.2 ∨ a.2 = b.2 ∧ a.1 < b.1

instance (a b : K × T) : Decidable (Earlier a b) := inferInstanceAs (Decidable (_ ∨ _))

theorem Earlier.asymm {a b : K × T} (h : Earlier a b) : ¬ Earlier b a := by
  rcases h with h | ⟨h, hfst⟩
  · rintro (h' | ⟨h', -⟩)
    · exact lt_asymm h h'
    · exact (ne_of_lt h) h'.symm
  · rintro (h' | ⟨-, hfst'⟩)
    · exact (ne_of_lt h') h.symm
    · exact lt_asymm hfst hfst'

theorem Earlier.snd_le {a b : K × T} (h : Earlier a b) : a.2 ≤ b.2 :=
  h.elim le_of_lt fun h => le_of_eq h.1

theorem orderedInsert_earlier {a : K × T} {l : List (K × T)} (hl : l.Pairwise Earlier)
    (ha : ∀ b ∈ l, a.1 < b.1) :
    (l.orderedInsert (fun a b => a.2 ≤ b.2) a).Pairwise Earlier := by
  induction l with
  | nil => exact List.pairwise_singleton _ _
  | cons b l ih =>
    obtain ⟨hb, hl⟩ := List.pairwise_cons.mp hl
    rw [List.orderedInsert_cons]
    split
    · next hle =>
      refine List.pairwise_cons.mpr ⟨fun c hc => ?_, List.pairwise_cons.mpr ⟨hb, hl⟩⟩
      have hac : a.2 ≤ c.2 := by
        rcases List.mem_cons.mp hc with rfl | hc
        · exact hle
        · exact hle.trans (hb c hc).snd_le
      rcases lt_or_eq_of_le hac with hlt | heq
      · exact Or.inl hlt
      · exact Or.inr ⟨heq, ha c hc⟩
    · next hle =>
      refine List.pairwise_cons.mpr ⟨fun c hc => ?_, ih hl fun c hc =>
        ha c (List.mem_cons_of_mem b hc)⟩
      rcases List.mem_cons.mp ((List.perm_orderedInsert _ a l).mem_iff.mp hc) with rfl | hc
      · exact Or.inl (not_le.mp hle)
      · exact hb c hc

theorem insertionSort_earlier {l : List (K × T)} (hl : l.Pairwise fun a b => a.1 < b.1) :
    (l.insertionSort fun a b => a.2 ≤ b.2).Pairwise Earlier := by
  induction l with
  | nil => exact List.Pairwise.nil
  | cons a l ih =>
    obtain ⟨ha, hl⟩ := List.pairwise_cons.mp hl
    rw [List.insertionSort_cons]
    exact orderedInsert_earlier (ih hl) fun b hb => ha b ((List.mem_insertionSort _).mp hb)

end Lib
end Rtpigate
