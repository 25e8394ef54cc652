/-
Tables of rows, each under its own key.

A table is an ordered map from keys to rows.  Rows are written and removed in
batches, and a table is rebuilt from its rows.  The lemmas say what a batch leaves
under each key.
-/
import Mathlib

namespace Rtpigate
namespace Lib

abbrev Table (K R : Type*) [Ord K] := Std.ExtTreeMap K R

namespace Table

variable {K R : Type*} [Ord K] [Std.TransOrd K]

/-- Every row is under its own key. -/
def Keyed (key : R → K) (m : Table K R) : Prop := ∀ k r, m[k]? = some r → key r = k

theorem keyed_empty {key : R → K} : Keyed key (∅ : Table K R) := by
  intro k r hr
  rw [Std.ExtTreeMap.getElem?_empty] at hr
  cases hr

variable [Std.LawfulEqOrd K]

def upsertAll (key : R → K) (m : Table K R) (rows : List R) : Table K R :=
  rows.foldl (fun m r => m.insert (key r) r) m

def deleteAll (m : Table K R) (ks : List K) : Table K R := ks.foldl (fun m k => m.erase k) m

theorem getElem?_insert_ite [DecidableEq K] (m : Table K R) (k a : K) (r : R) :
    (m.insert k r)[a]? = if k = a then some r else m[a]? := by
  rw [Std.ExtTreeMap.getElem?_insert]
  simp only [Std.LawfulEqOrd.compare_eq_iff_eq]

theorem getElem?_erase_ite [DecidableEq K] (m : Table K R) (k a : K) :
    (m.erase k)[a]? = if k = a then none else m[a]? := by
  rw [Std.ExtTreeMap.getElem?_erase]
  simp only [Std.LawfulEqOrd.compare_eq_iff_eq]

def rows (m : Table K R) : List R := m.toList.map Prod.snd

theorem mem_rows {key : R → K} {m : Table K R} (hm : Keyed key m) {r : R} :
    r ∈ m.rows ↔ m[key r]? = some r := by
  rw [rows, List.mem_map]
  constructor
  · intro ⟨⟨k, r'⟩, hmem, heq⟩
    have hget := Std.ExtTreeMap.mem_toList_iff_getElem?_eq_some.mp hmem
    rw [← show r' = r from heq, hm k r' hget]
    exact hget
  · intro hget
    exact ⟨(key r, r), Std.ExtTreeMap.mem_toList_iff_getElem?_eq_some.mpr hget, rfl⟩

theorem mem_keys_iff {m : Table K R} {k : K} : k ∈ m.keys ↔ (m[k]?).isSome = true := by
  rw [Std.ExtTreeMap.mem_keys, Std.ExtTreeMap.isSome_getElem?_iff_mem]

variable [DecidableEq K]

theorem getElem?_deleteAll (m : Table K R) (ks : List K) (a : K) :
    (m.deleteAll ks)[a]? = if a ∈ ks then none else m[a]? := by
  induction ks generalizing m with
  | nil => rw [if_neg List.not_mem_nil]; rfl
  | cons k ks ih =>
    show (deleteAll (m.erase k) ks)[a]? = _
    rw [ih, getElem?_erase_ite]
    by_cases hks : a ∈ ks
    · rw [if_pos hks, if_pos (List.mem_cons_of_mem k hks)]
    · rw [if_neg hks]
      by_cases hk : k = a
      · rw [if_pos hk, if_pos (hk ▸ List.mem_cons_self)]
      · rw [if_neg hk, if_neg fun h => (List.mem_cons.mp h).elim (fun h => hk h.symm) hks]

/-- Values that all agree with a function of the key. -/
theorem getElem?_insertAll {V : Type*} {key : R → K} {load : R → V} {g : K → Option V}
    {rows : List R} (h : ∀ r ∈ rows, g (key r) = some (load r)) (m : Table K V) (a : K) :
    (rows.foldl (fun m r => m.insert (key r) (load r)) m)[a]? =
      if a ∈ rows.map key then g a else m[a]? := by
  induction rows generalizing m with
  | nil => rw [List.map_nil, if_neg List.not_mem_nil]; rfl
  | cons r rows ih =>
    rw [List.foldl_cons, ih fun r' hr' => h r' (List.mem_cons_of_mem r hr'), getElem?_insert_ite,
      List.map_cons]
    by_cases hrows : a ∈ rows.map key
    · rw [if_pos hrows, if_pos (List.mem_cons_of_mem _ hrows)]
    · rw [if_neg hrows]
      by_cases hr : key r = a
      · rw [if_pos hr, if_pos (hr ▸ List.mem_cons_self), ← hr, h r List.mem_cons_self]
      · rw [if_neg hr, if_neg fun h => (List.mem_cons.mp h).elim (fun h => hr h.symm) hrows]

theorem getElem?_upsertAll {key : R → K} {g : K → Option R} {rows : List R}
    (h : ∀ r ∈ rows, g (key r) = some r) (m : Table K R) (a : K) :
    (m.upsertAll key rows)[a]? = if a ∈ rows.map key then g a else m[a]? :=
  getElem?_insertAll h m a

/-- The rows of a keyed table, loaded one by one. -/
theorem getElem?_loadAll {V : Type*} {key : R → K} {m : Table K R} (hm : Keyed key m)
    (load : R → V) (a : K) :
    (m.rows.foldl (fun (t : Table K V) r => t.insert (key r) (load r)) ∅)[a]? =
      (m[a]?).map load := by
  have hget : ∀ r ∈ m.rows, (m[key r]?).map load = some (load r) := by
    intro r hr
    rw [(mem_rows hm).mp hr]
    rfl
  rw [getElem?_insertAll (g := fun k => (m[k]?).map load) hget]
  split
  · rfl
  · next ha =>
    rw [Std.ExtTreeMap.getElem?_empty]
    cases hma : m[a]? with
    | none => rfl
    | some r =>
      have hkey : key r = a := hm a r hma
      exact absurd (hkey ▸ List.mem_map_of_mem ((mem_rows hm).mpr (hkey ▸ hma))) ha

theorem upsertAll_keyed {key : R → K} {m : Table K R} (hm : Keyed key m) (rows : List R) :
    Keyed key (m.upsertAll key rows) := by
  induction rows generalizing m with
  | nil => exact hm
  | cons r rows ih =>
    refine ih (m := m.insert (key r) r) ?_
    intro k r' hr'
    rw [getElem?_insert_ite] at hr'
    split at hr'
    · next hk =>
      cases hr'
      exact hk
    · exact hm k r' hr'

theorem mem_of_upsertAll {key : R → K} {m : Table K R} {rows : List R} {k : K} {r : R}
    (h : (m.upsertAll key rows)[k]? = some r) : r ∈ rows ∨ m[k]? = some r := by
  induction rows generalizing m with
  | nil => exact Or.inr h
  | cons r' rows ih =>
    rcases ih (m := m.insert (key r') r') h with hmem | hold
    · exact Or.inl (List.mem_cons_of_mem _ hmem)
    · rw [getElem?_insert_ite] at hold
      split at hold
      · cases hold
        exact Or.inl List.mem_cons_self
      · exact Or.inr hold

theorem deleteAll_keyed {key : R → K} {m : Table K R} (hm : Keyed key m) (ks : List K) :
    Keyed key (m.deleteAll ks) := by
  intro k r hr
  rw [getElem?_deleteAll] at hr
  split at hr
  · cases hr
  · exact hm k r hr

/-- A keyed table comes back from its rows. -/
theorem upsertAll_rows {key : R → K} {m : Table K R} (hm : Keyed key m) :
    upsertAll key ∅ m.rows = m := by
  apply Std.ExtTreeMap.ext_getElem?
  intro a
  exact (getElem?_loadAll hm id a).trans (congrFun Option.map_id _)

/-- Writing the rows of a keyed table into it changes nothing. -/
theorem upsertAll_self {key : R → K} {m : Table K R} (hm : Keyed key m) :
    upsertAll key m m.rows = m := by
  have hget : ∀ r ∈ m.rows, m[key r]? = some r := fun r hr => (mem_rows hm).mp hr
  apply Std.ExtTreeMap.ext_getElem?
  intro a
  rw [getElem?_upsertAll (g := fun k => m[k]?) hget]
  split <;> rfl

end Table

end Lib
end Rtpigate
