/-
Requests in flight over a table.

A request changes a memory at once and a table some time later, and requests may reach
the table in any order.  What the table is going to hold under a key is what the last
request in flight for the key outcome, or else what the table holds.  It stays as it is
as long as no request overtakes one for the same key, removals apart.
-/
import Rtpigate.Lib.Latest
import Rtpigate.Lib.Table

namespace Rtpigate
namespace Lib

/-- A change under way.  The value of a write may not be known yet. -/
inductive Pending (K V : Type*)
  | put (k : K) (v : Option V)
  | drop (k : K)
  deriving DecidableEq, Repr

namespace Pending

variable {K V : Type*}

def key : Pending K V → K
  | .put k _ => k
  | .drop k => k

def isDrop : Pending K V → Bool
  | .put _ _ => false
  | .drop _ => true

/-- What will be under the key: nothing, or a value that may not be known. -/
def outcome : Pending K V → Option (Option V)
  | .put _ v => some v
  | .drop _ => none

/-- Two requests that may be exchanged. -/
def Exchange [DecidableEq K] (q r : Pending K V) : Prop :=
  q.key = r.key → q.isDrop = true ∧ r.isDrop = true

instance [DecidableEq K] (q r : Pending K V) : Decidable (q.Exchange r) :=
  inferInstanceAs (Decidable (_ → _))

theorem latest_split [DecidableEq K] {before after : List (Pending K V)} {r : Pending K V} {k : K} :
    latest key k (before ++ r :: after) =
      (latest key k after).or (if r.key = k then some r else latest key k before) := by
  rw [List.append_cons, latest_append, latest_concat]

section View

variable [Ord K] [Std.TransOrd K] [DecidableEq K]

/-- A write without a value is not ready and does nothing. -/
def apply (t : Table K V) : Pending K V → Table K V
  | .put k (some v) => t.insert k v
  | .put _ none => t
  | .drop k => t.erase k

/-- What the table is going to hold. -/
def view (t : Table K V) (flight : List (Pending K V)) (k : K) : Option (Option V) :=
  ((latest key k flight).map outcome).getD ((t[k]?).map some)

variable {t : Table K V} {before after flight : List (Pending K V)} {r : Pending K V} {k a : K}

theorem view_nil (t : Table K V) (k : K) : view t [] k = (t[k]?).map some := rfl

theorem view_concat : view t (flight ++ [r]) k = if r.key = k then r.outcome else view t flight k := by
  rw [view, latest_concat]
  split <;> rfl

/-- The value of a write becomes known. -/
theorem view_know (v : V) : view t (before ++ .put a (some v) :: after) k =
    if k = a ∧ a ∉ after.map key then some (some v)
    else view t (before ++ .put a none :: after) k := by
  rw [view, view, latest_split, latest_split]
  cases hafter : latest key k after with
  | some q =>
    have hk : ¬ (k = a ∧ a ∉ after.map key) := by
      intro ⟨hk, hmem⟩
      rw [hk, latest_eq_none_iff.mpr hmem] at hafter
      cases hafter
    rw [if_neg hk]
    rfl
  | none =>
    rw [latest_eq_none_iff] at hafter
    by_cases hk : a = k
    · subst hk
      rw [if_pos (show (put a (some v)).key = a from rfl), if_pos (And.intro rfl hafter)]
      rfl
    · have hput : ∀ v : Option V, ¬ (put a v).key = k := fun _ => hk
      have hka : ¬ (k = a ∧ a ∉ after.map key) := fun h => hk h.1.symm
      rw [if_neg (hput _), if_neg hka, if_neg (hput _)]

/-- The last request for a key decides, whatever comes before it. -/
theorem view_of_later (hlater : k ∈ after.map key) (t t' : Table K V)
    (before before' : List (Pending K V)) : view t (before ++ after) k = view t' (before' ++ after) k := by
  rw [view, view, latest_append, latest_append]
  cases hafter : latest key k after with
  | some q => rfl
  | none => exact absurd hlater (latest_eq_none_iff.mp hafter)

theorem view_last (hlater : r.key ∉ after.map key) (t : Table K V)
    (before : List (Pending K V)) : view t (before ++ r :: after) r.key = r.outcome := by
  rw [view, latest_split, latest_eq_none_iff.mpr hlater, Option.none_or, if_pos rfl]
  rfl

/-- A request for another key does not matter. -/
theorem view_other (hk : r.key ≠ k) {t' : Table K V} (ht : t'[k]? = t[k]?) :
    view t' (before ++ after) k = view t (before ++ r :: after) k := by
  rw [view, view, latest_split, if_neg hk, latest_append, ht]

/-- Nothing is going to be under the key because nothing is, or because it is removed. -/
theorem view_eq_none (h : view t flight k = none) :
    t[k]? = none ∨ ∃ r ∈ flight, r.key = k ∧ r.isDrop = true := by
  rw [view] at h
  cases hlatest : latest key k flight with
  | none =>
    rw [hlatest] at h
    exact Or.inl (Option.map_eq_none_iff.mp h)
  | some r =>
    rw [hlatest] at h
    obtain ⟨hmem, hkey⟩ := latest_mem hlatest
    cases r with
    | put a v => cases h
    | drop a => exact Or.inr ⟨_, hmem, hkey, rfl⟩

variable [Std.LawfulEqOrd K]

theorem getElem?_apply_of_ne (hk : r.key ≠ k) : (r.apply t)[k]? = t[k]? := by
  cases r with
  | drop a =>
    rw [apply, Table.getElem?_erase_ite]
    exact if_neg hk
  | put a v =>
    cases v with
    | none => rfl
    | some v =>
      rw [apply, Table.getElem?_insert_ite]
      exact if_neg hk

/-- A request that is ready reaches the table. -/
theorem view_commit (hready : r.outcome ≠ some none) (hfree : ∀ q ∈ before, q.Exchange r) :
    view (r.apply t) (before ++ after) k = view t (before ++ r :: after) k := by
  have hget : ((r.apply t)[k]?).map some = if r.key = k then r.outcome else (t[k]?).map some := by
    cases r with
    | drop a =>
      rw [apply, Table.getElem?_erase_ite]
      show _ = if a = k then none else _
      split <;> rfl
    | put a v =>
      cases v with
      | none => exact absurd rfl hready
      | some v =>
        rw [apply, Table.getElem?_insert_ite]
        show _ = if a = k then some (some v) else _
        split <;> rfl
  rw [view, view, latest_split, latest_append, hget]
  cases latest key k after with
  | some q => rfl
  | none =>
    rw [Option.none_or, Option.none_or]
    by_cases hk : r.key = k
    · rw [if_pos hk, if_pos hk]
      cases hbefore : latest key k before with
      | none => rfl
      | some q =>
        -- only removals overtake one another
        obtain ⟨hmem, hkey⟩ := latest_mem hbefore
        obtain ⟨hq, hr⟩ := hfree q hmem (hkey.trans hk.symm)
        cases q <;> cases hq
        cases r <;> cases hr
        rfl
    · rw [if_neg hk, if_neg hk]

end View

end Pending

end Lib
end Rtpigate
