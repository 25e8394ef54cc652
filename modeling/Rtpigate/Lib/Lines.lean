/-
Line terminators inside a message.

A line protocol splits its stream at terminators, so a message is one line
exactly when no terminator in it is followed by anything else.  `Trailing` says
that of a list, for any notion of terminator, and `Embedded` is its negation with
the two offending elements named.
-/
import Rtpigate.Lib.Utf8

namespace Rtpigate
namespace Lib

section Trailing

variable {α : Type*} {p : α → Bool} {xs ys : List α}

/-- Terminators stand at the end only. -/
def Trailing (p : α → Bool) (xs : List α) : Prop :=
  xs.Pairwise fun x y => p x = true → p y = true

/-- A terminator, and after it an element that is none. -/
def Embedded (p : α → Bool) (xs : List α) : Prop :=
  ∃ x y, [x, y].Sublist xs ∧ p x = true ∧ p y = false

theorem not_trailing_iff_embedded : ¬ Trailing p xs ↔ Embedded p xs := by
  rw [Trailing, List.pairwise_iff_forall_sublist, Embedded]
  simp only [not_forall, Bool.not_eq_true]
  constructor
  · rintro ⟨x, y, hs, hx, hy⟩
    exact ⟨x, y, hs, hx, hy⟩
  · rintro ⟨x, y, hs, hx, hy⟩
    exact ⟨x, y, hs, hx, hy⟩

@[simp] theorem trailing_nil : Trailing p ([] : List α) := List.Pairwise.nil

theorem trailing_of_any_eq_false (h : xs.any p = false) : Trailing p xs := by
  rw [List.any_eq_false] at h
  exact List.Pairwise.imp_of_mem (R := fun _ _ => True)
    (fun hx _ _ hp => absurd hp (h _ hx)) (List.pairwise_of_forall fun _ _ => trivial)

theorem trailing_append_left (h : Trailing p (xs ++ ys)) : Trailing p xs :=
  (List.pairwise_append.mp h).1

theorem trailing_append_right (h : Trailing p (xs ++ ys)) : Trailing p ys :=
  (List.pairwise_append.mp h).2.1

theorem trailing_append_cons {y : α} (hy : p y = false) :
    Trailing p (xs ++ y :: ys) ↔ xs.any p = false ∧ Trailing p ys := by
  constructor
  · intro h
    obtain ⟨_, hr, hc⟩ := List.pairwise_append.mp h
    refine ⟨List.any_eq_false.mpr fun x hx hp => ?_, (List.pairwise_cons.mp hr).2⟩
    have := hc x hx y List.mem_cons_self hp
    rw [hy] at this
    cases this
  · rintro ⟨hx, hr⟩
    refine List.pairwise_append.mpr ⟨trailing_of_any_eq_false hx,
      List.pairwise_cons.mpr ⟨fun _ _ hp => absurd hp (by simp [hy]), hr⟩, ?_⟩
    intro x hmem _ _ hp
    exact absurd hp (List.any_eq_false.mp hx x hmem)

/-- Cutting the terminators off the end leaves none exactly when they all stood
there. -/
theorem any_rdropWhile_eq_false_iff : (xs.rdropWhile p).any p = false ↔ Trailing p xs := by
  induction xs using List.reverseRecOn with
  | nil => simp
  | append_singleton xs x ih =>
    by_cases hx : p x = true
    · rw [List.rdropWhile_concat_pos _ _ _ hx, ih]
      constructor
      · intro h
        refine List.pairwise_append.mpr ⟨h, List.pairwise_singleton _ _, ?_⟩
        intro _ _ y hy _
        rw [List.mem_singleton.mp hy]
        exact hx
      · exact trailing_append_left
    · rw [Bool.not_eq_true] at hx
      rw [List.rdropWhile_concat_neg _ _ _ (by simp [hx]), trailing_append_cons hx]
      simp [hx]

/-- Splitting a list whose terminators all trail gives one line that is not
empty, the list without them. -/
theorem filter_splitOnP_of_trailing (h : Trailing p xs) (hne : ∃ x ∈ xs, p x = false) :
    (xs.splitOnP p).filter (fun l => !l.isEmpty) = [xs.rdropWhile p] := by
  induction xs using List.reverseRecOn with
  | nil => simp at hne
  | append_singleton xs x ih =>
    by_cases hx : p x = true
    · obtain ⟨y, hy, hpy⟩ := hne
      have hy' : y ∈ xs := by
        rcases List.mem_append.mp hy with hy | hy
        · exact hy
        · rw [List.mem_singleton.mp hy, hx] at hpy
          cases hpy
      rw [List.rdropWhile_concat_pos _ _ _ hx, List.splitOnP_append_cons xs [] hx,
        List.splitOnP_nil, List.filter_append,
        ih (trailing_append_left h) ⟨y, hy', hpy⟩]
      rfl
    · rw [Bool.not_eq_true] at hx
      have hany : xs.any p = false := ((trailing_append_cons hx).mp h).1
      have hall : ∀ y ∈ xs ++ [x], p y = false := by
        intro y hy
        rcases List.mem_append.mp hy with hy | hy
        · simpa using List.any_eq_false.mp hany y hy
        · rw [List.mem_singleton.mp hy]
          exact hx
      rw [List.rdropWhile_concat_neg _ _ _ (by simp [hx]), List.splitOnP_eq_singleton hall]
      simp

/-- The first separator of a list tells where its first part ends. -/
theorem append_cons_inj {x : α} {xs xs' ys ys' : List α} (h : x ∉ xs) (h' : x ∉ xs')
    (heq : xs ++ x :: ys = xs' ++ x :: ys') : xs = xs' ∧ ys = ys' := by
  induction xs generalizing xs' with
  | nil =>
    cases xs' with
    | nil => exact ⟨rfl, (List.cons.inj heq).2⟩
    | cons y xs' => exact absurd ((List.cons.inj heq).1 ▸ List.mem_cons_self) h'
  | cons y xs ih =>
    cases xs' with
    | nil => exact absurd ((List.cons.inj heq).1 ▸ List.mem_cons_self) h
    | cons z xs' =>
      obtain ⟨rfl, hrest⟩ := List.cons.inj heq
      obtain ⟨rfl, hys⟩ := ih (fun hm => h (List.mem_cons_of_mem _ hm))
        (fun hm => h' (List.mem_cons_of_mem _ hm)) hrest
      exact ⟨rfl, hys⟩

/-- Parts without a separator come back from the list they are joined to. -/
theorem splitOnP_intercalate {x : α} {ls : List (List α)} (hx : p x = true) (hne : ls ≠ [])
    (h : ∀ l ∈ ls, ∀ y ∈ l, p y = false) : ([x].intercalate ls).splitOnP p = ls := by
  induction ls with
  | nil => exact absurd rfl hne
  | cons l ls ih =>
    have hl := h l List.mem_cons_self
    by_cases hnil : ls = []
    · rw [hnil, List.intercalate_singleton, List.splitOnP_eq_singleton hl]
    · rw [List.intercalate_cons_of_ne_nil hnil, List.append_assoc, List.singleton_append,
        List.splitOnP_append_cons_of_forall_mem hl x hx,
        ih hnil fun l' hl' => h l' (List.mem_cons_of_mem _ hl')]

theorem mem_of_mem_intercalate {sep : List α} {ls : List (List α)} {y : α}
    (h : y ∈ sep.intercalate ls) : y ∈ sep ∨ ∃ l ∈ ls, y ∈ l := by
  induction ls with
  | nil => cases h
  | cons l ls ih =>
    by_cases hnil : ls = []
    · rw [hnil, List.intercalate_singleton] at h
      exact Or.inr ⟨l, List.mem_cons_self, h⟩
    · rw [List.intercalate_cons_of_ne_nil hnil, List.mem_append, List.mem_append] at h
      rcases h with (h | h) | h
      · exact Or.inr ⟨l, List.mem_cons_self, h⟩
      · exact Or.inl h
      · rcases ih h with h | ⟨l', hl', h⟩
        · exact Or.inl h
        · exact Or.inr ⟨l', List.mem_cons_of_mem _ hl', h⟩

/-- A list cut at its first separator, which is left out. -/
def splitFirst (p : α → Bool) (xs : List α) : List α × List α :=
  (xs.takeWhile fun x => !p x, (xs.dropWhile fun x => !p x).tail)

theorem splitFirst_append_cons {x : α} (hx : p x = true) (hxs : ∀ y ∈ xs, p y = false) :
    splitFirst p (xs ++ x :: ys) = (xs, ys) := by
  have hall : ∀ y ∈ xs, (!p y) = true := fun y hy => by rw [hxs y hy]; rfl
  rw [splitFirst, List.takeWhile_append_of_pos hall, List.dropWhile_append_of_pos hall,
    List.takeWhile_cons, List.dropWhile_cons, hx]
  simp

theorem splitFirst_cases (p : α → Bool) (xs : List α) :
    ((∀ x ∈ xs, p x = false) ∧ splitFirst p xs = (xs, [])) ∨
      ∃ ys x zs, xs = ys ++ x :: zs ∧ p x = true ∧ (∀ y ∈ ys, p y = false) ∧
        splitFirst p xs = (ys, zs) := by
  by_cases hany : ∃ x ∈ xs, p x = true
  · right
    obtain ⟨x, hx, hpx⟩ := hany
    have hne : xs.dropWhile (fun x => !p x) ≠ [] := by
      intro hnil
      have := List.dropWhile_eq_nil_iff.mp hnil x hx
      rw [hpx] at this
      cases this
    have hhead := List.head_dropWhile_not (fun x => !p x) hne
    obtain ⟨y, zs, hyz⟩ := List.exists_cons_of_ne_nil hne
    have hclean : ∀ y ∈ xs.takeWhile (fun x => !p x), p y = false := by
      intro y hy
      have := List.mem_takeWhile_imp hy
      rwa [Bool.not_eq_true'] at this
    have hpy : p y = true := by
      simp only [hyz, List.head_cons, Bool.not_eq_false'] at hhead
      exact hhead
    have hparts := List.takeWhile_append_dropWhile (p := fun x => !p x) (l := xs)
    rw [hyz] at hparts
    refine ⟨_, y, zs, hparts.symm, hpy, hclean, ?_⟩
    rw [splitFirst, hyz, List.tail_cons]
  · left
    have hall : ∀ x ∈ xs, p x = false := fun x hx => Bool.not_eq_true _ ▸ fun h => hany ⟨x, hx, h⟩
    refine ⟨hall, ?_⟩
    rw [splitFirst, List.takeWhile_eq_self_iff.mpr fun x hx => by rw [hall x hx]; rfl,
      List.dropWhile_eq_nil_iff.mpr fun x hx => by rw [hall x hx]; rfl, List.tail_nil]

/-- A word without separators lies on one side of the first separator. -/
theorem infix_splitFirst_iff {w : List α} (hne : w ≠ []) (hw : ∀ y ∈ w, p y = false) :
    w <:+: xs ↔ w <:+: (splitFirst p xs).1 ∨ w <:+: (splitFirst p xs).2 := by
  rcases splitFirst_cases p xs with ⟨-, hsplit⟩ | ⟨ys, x, zs, rfl, hx, -, hsplit⟩
  · rw [hsplit, List.infix_nil]
    exact (or_iff_left hne).symm
  · have hxw : x ∉ w := fun hmem => by
      rw [hw x hmem] at hx
      cases hx
    rw [hsplit, List.infix_append_iff]
    constructor
    · rintro (hin | hin | ⟨left, right, rfl, hsuf, hpre⟩)
      · exact Or.inl hin
      · rcases List.infix_cons_iff.mp hin with hpre | hin
        · obtain rfl | ⟨t, rfl, -⟩ := List.prefix_cons_iff.mp hpre
          · exact absurd rfl hne
          · exact absurd List.mem_cons_self hxw
        · exact Or.inr hin
      · obtain rfl | ⟨t, rfl, -⟩ := List.prefix_cons_iff.mp hpre
        · rw [List.append_nil]
          exact Or.inl hsuf.isInfix
        · exact absurd (List.mem_append_right _ List.mem_cons_self) hxw
    · rintro (hin | hin)
      · exact Or.inl hin
      · exact Or.inr (Or.inl (List.infix_cons hin))

end Trailing

theorem Renders.trailing_iff {p : UInt8 → Bool} {q : Char → Bool} {bs : List UInt8}
    {cs : List Char} (hpq : AsciiClass p q) (h : Renders bs cs) :
    Trailing p bs ↔ Trailing q cs := by
  induction h with
  | nil => simp
  | @ascii b bs cs hb h ih =>
    simp only [Trailing, List.pairwise_cons] at ih ⊢
    rw [ih, hpq.agree b hb]
    by_cases hq : q (Char.ofNat b.toNat) = true
    · simp only [hq, true_imp_iff, h.all_eq hpq]
    · simp only [hq, false_imp_iff, implies_true, Bool.false_eq_true]
  | @wide chunk bs c cs hne hch hc h ih =>
    have hcons : Trailing q ([] ++ c :: cs) ↔ [].any q = false ∧ Trailing q cs :=
      trailing_append_cons (hpq.char c hc)
    rw [List.nil_append, List.any_nil, eq_self, true_and] at hcons
    rw [hcons, ← ih]
    refine ⟨trailing_append_right, fun ht => List.pairwise_append.mpr ⟨?_, ht, ?_⟩⟩
    · exact trailing_of_any_eq_false
        (List.any_eq_false.mpr fun b hb => by rw [hpq.octet b (hch b hb)]; decide)
    · intro b hb _ _ hp
      rw [hpq.octet b (hch b hb)] at hp
      cases hp

/-! ## Carriage return and line feed -/

def isTerminator (b : UInt8) : Bool := b == 0x0D || b == 0x0A

def isTerminatorChar (c : Char) : Bool := c == '\r' || c == '\n'

theorem terminator_class : AsciiClass isTerminator isTerminatorChar :=
  (AsciiClass.single (by decide : (0x0D : UInt8) < 0x80)).or
    (AsciiClass.single (by decide : (0x0A : UInt8) < 0x80))

end Lib
end Rtpigate
