/-
Tables that are filled and go on.

A table is filled with rows, or taken away, and in between gets new rows on top.  A table
that keeps a number of rows only shows the top of the one that keeps all.
-/
import Mathlib

namespace Rtpigate
namespace Lib

variable {β : Type*}

/-- Nothing happens to a table, it gets a row, or it is what it is filled with, `none` for no
table. -/
inductive Change (β : Type*)
  | keep
  | add (b : β)
  | reset (table : Option (List β))

namespace Change

def apply (table : Option (List β)) : Change β → Option (List β)
  | .keep => table
  | .add b => table.map (b :: ·)
  | .reset table => table

def applyAll (table : Option (List β)) (changes : List (Change β)) : Option (List β) :=
  changes.foldl apply table

def isReset : Change β → Bool
  | .reset _ => true
  | .keep | .add _ => false

def row : Change β → Option β
  | .add b => some b
  | .keep | .reset _ => none

/-- The rows since the last reset, the newest first. -/
def added (changes : List (Change β)) : List β :=
  ((changes.rtakeWhile fun c => !c.isReset).filterMap row).reverse

def filling : Change β → Option (Option (List β))
  | .reset table => some table
  | .keep | .add _ => none

/-- What the last reset filled the table with. -/
def base (changes : List (Change β)) : Option (Option (List β)) := changes.reverse.findSome? filling

theorem added_concat (changes : List (Change β)) (c : Change β) :
    added (changes ++ [c]) = if c.isReset then [] else c.row.toList ++ added changes := by
  rw [added, List.rtakeWhile_concat]
  cases c with
  | keep =>
    show ((_ ++ [Change.keep]).filterMap row).reverse = _
    rw [List.filterMap_append, List.reverse_append]
    rfl
  | add b =>
    show ((_ ++ [Change.add b]).filterMap row).reverse = _
    rw [List.filterMap_append, List.reverse_append]
    rfl
  | reset table => rfl

theorem base_concat (changes : List (Change β)) (c : Change β) :
    base (changes ++ [c]) = c.filling.or (base changes) := by
  rw [base, List.reverse_append, List.reverse_singleton, List.singleton_append, List.findSome?_cons]
  cases c <;> rfl

theorem applyAll_append (table : Option (List β)) (cs ds : List (Change β)) :
    applyAll table (cs ++ ds) = applyAll (applyAll table cs) ds := List.foldl_append

/-- What was there is under the rows since the last reset. -/
theorem applyAll_eq (table : Option (List β)) (changes : List (Change β)) :
    applyAll table changes = ((base changes).getD table).map (added changes ++ ·) := by
  induction changes using List.reverseRecOn with
  | nil => exact Option.map_id'.symm
  | append_singleton changes c ih =>
    rw [applyAll_append, ih, added_concat, base_concat]
    cases c with
    | keep => rfl
    | add b =>
      show (((base changes).getD table).map (added changes ++ ·)).map (b :: ·) = _
      rw [Option.map_map]
      rfl
    | reset table' => exact Option.map_id'.symm

theorem mem_of_added {changes : List (Change β)} {b : β} (h : b ∈ added changes) :
    .add b ∈ changes := by
  obtain ⟨c, hc, hrow⟩ := List.mem_filterMap.mp (List.mem_reverse.mp h)
  cases c with
  | add b' =>
    cases hrow
    exact (List.rtakeWhile_suffix _ _).subset hc
  | keep | reset table => cases hrow

theorem mem_of_base {changes : List (Change β)} {table : Option (List β)}
    (h : base changes = some table) : .reset table ∈ changes := by
  obtain ⟨c, hc, hfilling⟩ := List.exists_of_findSome?_eq_some h
  cases c with
  | reset table' =>
    cases hfilling
    exact List.mem_reverse.mp hc
  | keep | add b => cases hfilling

/-- Rows at the end stay there, or go with a reset. -/
theorem applyAll_under {changes : List (Change β)} {xs zs : List β}
    (h : applyAll (some xs) changes = some zs) (ys : List β) :
    applyAll (some (xs ++ ys)) changes = some zs ∨
      applyAll (some (xs ++ ys)) changes = some (zs ++ ys) := by
  rw [applyAll_eq] at h ⊢
  cases hbase : base changes with
  | some table =>
    rw [hbase] at h
    exact Or.inl h
  | none =>
    rw [hbase] at h
    refine Or.inr ?_
    rw [← Option.some.inj h]
    exact congrArg some (List.append_assoc _ _ _).symm

/-! ## Bounded tables -/

/-- The table keeps the first `cap` rows. -/
def applyCapped (cap : Nat) (table : Option (List β)) : Change β → Option (List β)
  | .keep => table
  | .add b => table.map fun rows => (b :: rows).take cap
  | .reset table => table.map (List.take cap)

def capped (cap : Nat) (table : Option (List β)) (changes : List (Change β)) : Option (List β) :=
  changes.foldl (applyCapped cap) table

theorem capped_append (cap : Nat) (table : Option (List β)) (cs ds : List (Change β)) :
    capped cap table (cs ++ ds) = capped cap (capped cap table cs) ds := List.foldl_append

theorem applyCapped_take (cap : Nat) (table : Option (List β)) (c : Change β) :
    applyCapped cap (table.map (List.take cap)) c = (c.apply table).map (List.take cap) := by
  cases c with
  | keep | reset table' => rfl
  | add b =>
    cases table with
    | none => rfl
    | some rows =>
      cases cap with
      | zero => rfl
      | succ cap =>
        show some ((b :: rows.take (cap + 1)).take (cap + 1)) = some ((b :: rows).take (cap + 1))
        rw [List.take_succ_cons, List.take_succ_cons, List.take_take, Nat.min_eq_left (by omega)]

/-- A bounded table shows the top of an unbounded one. -/
theorem capped_eq (cap : Nat) (table : Option (List β)) (changes : List (Change β)) :
    capped cap (table.map (List.take cap)) changes =
      (applyAll table changes).map (List.take cap) := by
  induction changes generalizing table with
  | nil => rfl
  | cons c changes ih =>
    show capped cap (applyCapped cap (table.map (List.take cap)) c) changes = _
    rw [applyCapped_take, ih]
    rfl

end Change

end Lib
end Rtpigate
