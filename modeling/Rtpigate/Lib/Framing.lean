/-
Messages on a stream of lines.

The reader of a stream cuts it at terminators and leaves out what is empty.  A
message is a text and its terminators.  Messages sent one after the other are read as
their texts, and a message that is cut short is read as a first part of its own.
-/
import Rtpigate.Lib.Lines

namespace Rtpigate
namespace Lib

variable {α : Type*} {p : α → Bool} {xs ys m : List α}

/-- The lines of a stream. -/
def linesOf (p : α → Bool) (xs : List α) : List (List α) :=
  (xs.splitOnP p).filter fun l => !l.isEmpty

/-- A text with terminators behind it, and only there. -/
structure Message (p : α → Bool) (m : List α) : Prop where
  trailing : Trailing p m
  text : ∃ x ∈ m, p x = false
  ends : ∃ ys x, m = ys ++ [x] ∧ p x = true

@[simp] theorem linesOf_nil (p : α → Bool) : linesOf p [] = [] := by
  rw [linesOf, List.splitOnP_nil]
  rfl

theorem linesOf_append_cons (xs ys : List α) {x : α} (hx : p x = true) :
    linesOf p (xs ++ x :: ys) = linesOf p xs ++ linesOf p ys := by
  rw [linesOf, List.splitOnP_append_cons xs ys hx, List.filter_append]
  rfl

theorem linesOf_terminators (h : ∀ x ∈ xs, p x = true) : linesOf p xs = [] := by
  induction xs with
  | nil => exact linesOf_nil p
  | cons x xs ih =>
    have hcons := linesOf_append_cons [] xs (h x List.mem_cons_self)
    rwa [List.nil_append, linesOf_nil, List.nil_append,
      ih fun y hy => h y (List.mem_cons_of_mem x hy)] at hcons

theorem Message.linesOf (h : Message p m) : linesOf p m = [m.rdropWhile p] :=
  filter_splitOnP_of_trailing h.trailing h.text

theorem Message.linesOf_append (h : Message p m) (ys : List α) :
    Lib.linesOf p (m ++ ys) = m.rdropWhile p :: Lib.linesOf p ys := by
  obtain ⟨xs, x, rfl, hx⟩ := h.ends
  have hwhole := h.linesOf
  rw [linesOf_append_cons xs [] hx, linesOf_nil, List.append_nil] at hwhole
  rw [List.append_assoc, List.singleton_append, linesOf_append_cons xs ys hx, hwhole]
  rfl

theorem linesOf_messages {ms : List (List α)} (h : ∀ m ∈ ms, Message p m) (ys : List α) :
    linesOf p (ms.flatten ++ ys) = ms.map (List.rdropWhile p) ++ linesOf p ys := by
  induction ms with
  | nil => rfl
  | cons m ms ih =>
    have hm := h m List.mem_cons_self
    rw [List.flatten_cons, List.append_assoc, hm.linesOf_append,
      ih fun m' hm' => h m' (List.mem_cons_of_mem m hm')]
    rfl

/-- Without the terminators at the end, a first part stays within the text. -/
theorem rdropWhile_mono (hpre : xs <+: ys) :
    xs.rdropWhile p <+: ys.rdropWhile p := by
  have hxs : xs.rdropWhile p <+: ys := (List.rdropWhile_prefix p xs).trans hpre
  rcases List.prefix_or_prefix_of_prefix hxs (List.rdropWhile_prefix p ys) with hle | hge
  · exact hle
  · -- the text of the whole is no longer than that of the part
    obtain ⟨rest, hrest⟩ := hge
    induction rest using List.reverseRecOn with
    | nil =>
      rw [List.append_nil] at hrest
      rw [hrest]
    | append_singleton rest x _ =>
      exfalso
      have hlast : xs.rdropWhile p ≠ [] := by
        rw [← hrest, ← List.append_assoc]
        exact List.append_ne_nil_of_right_ne_nil _ (List.cons_ne_nil _ _)
      have hx : p x = false := by
        have := List.rdropWhile_last_not p xs hlast
        simp only [← hrest, ← List.append_assoc, List.getLast_concat, Bool.not_eq_true] at this
        exact this
      -- what follows the text of the whole are terminators
      obtain ⟨tail, htail⟩ := hxs
      have hparts := List.rdropWhile_append_rtakeWhile (p := p) (l := ys)
      rw [← hrest, List.append_assoc] at htail
      have hsame := List.append_cancel_left (htail.trans hparts.symm)
      have hterm : p x = true := by
        have hin : x ∈ ys.rtakeWhile p := by
          rw [← hsame]
          simp
        exact List.mem_rtakeWhile_imp hin
      rw [hx] at hterm
      cases hterm

/-- A message that is cut short. -/
theorem Message.linesOf_beginning (h : Message p m) (hpre : xs <+: m) :
    Lib.linesOf p xs = [] ∨
      ∃ part, Lib.linesOf p xs = [part] ∧ part <+: m.rdropWhile p := by
  obtain ⟨rest, rfl⟩ := hpre
  have htrail : Trailing p xs := trailing_append_left h.trailing
  by_cases htext : ∃ x ∈ xs, p x = false
  · exact Or.inr ⟨xs.rdropWhile p, filter_splitOnP_of_trailing htrail htext,
      rdropWhile_mono (List.prefix_append xs rest)⟩
  · exact Or.inl (linesOf_terminators fun x hx =>
      Bool.not_eq_false _ ▸ fun hf => htext ⟨x, hx, hf⟩)

end Lib
end Rtpigate
