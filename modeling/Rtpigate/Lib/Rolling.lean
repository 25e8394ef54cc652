/-
Rolling tables.

A log of items is kept as a table under a key of theirs, such as a time stamp, and
ranges of keys are removed from time to time.  The table holds the latest item of each
key, so it holds every item that was put in and not removed exactly when no two of
them share a key.
-/
import Rtpigate.Lib.Latest
import Rtpigate.Lib.Table

namespace Rtpigate
namespace Lib

inductive Rolling (α K : Type*)
  | insert (a : α)
  | remove (gone : K → Bool)

namespace Rolling

variable {α R K : Type*}

def item : Rolling α K → Option α
  | .insert a => some a
  | .remove _ => none

def range : Rolling α K → Option (K → Bool)
  | .insert _ => none
  | .remove gone => some gone

/-- The items put in, and the ranges removed. -/
def inserted (ops : List (Rolling α K)) : List α := ops.filterMap item

def removals (ops : List (Rolling α K)) : List (K → Bool) := ops.filterMap range

theorem inserted_append (ops ops' : List (Rolling α K)) :
    inserted (ops ++ ops') = inserted ops ++ inserted ops' := List.filterMap_append

theorem removals_append (ops ops' : List (Rolling α K)) :
    removals (ops ++ ops') = removals ops ++ removals ops' := List.filterMap_append

variable (key : α → K)

/-- The items in none of the ranges removed so far. -/
def kept (ops : List (Rolling α K)) : List α :=
  (inserted ops).filter fun a => !(removals ops).any (· (key a))

/-- The items not removed since they were put in. -/
def left (ops : List (Rolling α K)) : List α :=
  ops.foldl (fun items op => match op with
    | .insert a => items ++ [a]
    | .remove gone => items.filter fun a => !gone (key a)) []

/-- An item in a range that was removed before it came is removed again. -/
def Settled (ops : List (Rolling α K)) : Prop :=
  ∀ before a after, ops = before ++ .insert a :: after →
    (removals ops).any (· (key a)) = true → (removals after).any (· (key a)) = true

variable {key} {ops : List (Rolling α K)} {a : α}

theorem left_concat (ops : List (Rolling α K)) (op : Rolling α K) :
    left key (ops ++ [op]) = match op with
      | .insert a => left key ops ++ [a]
      | .remove gone => (left key ops).filter fun a => !gone (key a) := List.foldl_concat ..

theorem left_inserts (items : List α) : left key (items.map (Rolling.insert (K := K))) = items := by
  induction items using List.reverseRecOn with
  | nil => rfl
  | append_singleton items a ih =>
    rw [List.map_append, List.map_singleton, left_concat, ih]

theorem mem_left : a ∈ left key ops ↔
    ∃ before after, ops = before ++ .insert a :: after ∧
      (removals after).any (· (key a)) = false := by
  induction ops using List.reverseRecOn with
  | nil => exact ⟨fun h => absurd h List.not_mem_nil, fun ⟨_, _, h, _⟩ => by simp at h⟩
  | append_singleton ops op ih =>
    rw [left_concat]
    constructor
    · cases op with
      | insert b =>
        intro h
        rcases List.mem_append.mp h with h | h
        · obtain ⟨before, after, rfl, hafter⟩ := ih.mp h
          refine ⟨before, after ++ [.insert b], by simp, ?_⟩
          rw [removals_append, List.any_append, hafter]
          rfl
        · rw [List.mem_singleton.mp h]
          exact ⟨ops, [], rfl, rfl⟩
      | remove gone =>
        intro h
        obtain ⟨hleft, hgone⟩ := List.mem_filter.mp h
        obtain ⟨before, after, rfl, hafter⟩ := ih.mp hleft
        refine ⟨before, after ++ [.remove gone], by simp, ?_⟩
        rw [removals_append, List.any_append, hafter]
        simpa [removals, range] using hgone
    · rintro ⟨before, after, heq, hafter⟩
      rcases List.eq_nil_or_concat after with rfl | ⟨after', op', rfl⟩
      · obtain ⟨-, rfl⟩ := List.append_singleton_inj.mp heq
        exact List.mem_append_right _ List.mem_cons_self
      · rw [List.concat_eq_append, ← List.cons_append, ← List.append_assoc] at heq
        obtain ⟨rfl, rfl⟩ := List.append_singleton_inj.mp heq
        rw [List.concat_eq_append, removals_append, List.any_append, Bool.or_eq_false_iff] at hafter
        have hmem := ih.mpr ⟨before, after', rfl, hafter.1⟩
        cases op with
        | insert b => exact List.mem_append_left _ hmem
        | remove gone =>
          have hgone : gone (key a) = false := by simpa [removals, range] using hafter.2
          exact List.mem_filter.mpr ⟨hmem, by rw [hgone]; rfl⟩

/-- A filter that lets nothing removed through does not tell what is left from what
was put in. -/
theorem filter_left {p : α → Bool}
    (hp : ∀ a, p a = true → (removals ops).any (· (key a)) = false) :
    (left key ops).filter p = (inserted ops).filter p := by
  induction ops using List.reverseRecOn with
  | nil => rfl
  | append_singleton ops op ih =>
    have hold : ∀ a, p a = true → (removals ops).any (· (key a)) = false := by
      intro a ha
      have h := hp a ha
      rw [removals_append, List.any_append, Bool.or_eq_false_iff] at h
      exact h.1
    rw [left_concat, inserted_append]
    cases op with
    | insert a =>
      show (left key ops ++ [a]).filter p = (inserted ops ++ [a]).filter p
      rw [List.filter_append, List.filter_append, ih hold]
    | remove gone =>
      show ((left key ops).filter _).filter p = (inserted ops ++ []).filter p
      rw [List.append_nil, List.filter_filter, ← ih hold]
      refine List.filter_congr fun a _ => ?_
      cases ha : p a with
      | false => rfl
      | true =>
        have h := hp a ha
        rw [removals_append, List.any_append, Bool.or_eq_false_iff] at h
        have hgone : gone (key a) = false := by simpa [removals, range] using h.2
        rw [hgone]
        rfl

theorem kept_eq (ops : List (Rolling α K)) :
    kept key ops = (left key ops).filter fun a => !(removals ops).any (· (key a)) :=
  (filter_left fun _ ha => Bool.not_eq_true' _ ▸ ha).symm

theorem kept_eq_left_iff : kept key ops = left key ops ↔ Settled key ops := by
  rw [kept_eq, List.filter_eq_self]
  constructor
  · intro h before a after heq hgone
    by_contra hafter
    have hleft : a ∈ left key ops := mem_left.mpr ⟨before, after, heq, Bool.not_eq_true _ ▸ hafter⟩
    have hkept := h a hleft
    rw [hgone] at hkept
    cases hkept
  · intro h a ha
    obtain ⟨before, after, heq, hafter⟩ := mem_left.mp ha
    rw [Bool.not_eq_true']
    by_contra hgone
    rw [Bool.not_eq_false] at hgone
    exact absurd (h before a after heq hgone) (by rw [hafter]; decide)

/-! ## The table -/

section Table

variable [Ord K] [Std.TransOrd K] [Std.LawfulEqOrd K] [DecidableEq K]

/-- `row` is what is stored of an item. -/
def store (key : α → K) (row : α → R) (t : Table K R) : Rolling α K → Table K R
  | .insert a => t.insert (key a) (row a)
  | .remove gone => t.deleteAll (t.keys.filter gone)

def replay (key : α → K) (row : α → R) (ops : List (Rolling α K)) : Table K R :=
  ops.foldl (store key row) ∅

variable {row : α → R}

/-- The table holds the latest item of each key. -/
theorem getElem?_replay (ops : List (Rolling α K)) (k : K) :
    (replay key row ops)[k]? = (latest key k (left key ops)).map row := by
  induction ops using List.reverseRecOn with
  | nil => exact Std.ExtTreeMap.getElem?_empty
  | append_singleton ops op ih =>
    rw [replay, List.foldl_concat, left_concat]
    change (store key row (replay key row ops) op)[k]? = _
    cases op with
    | insert a =>
      rw [store, Table.getElem?_insert_ite, latest_concat, ih]
      split <;> rfl
    | remove gone =>
      show (Table.deleteAll (replay key row ops) _)[k]? =
        (latest key k ((left key ops).filter fun a => !gone (key a))).map row
      rw [Table.getElem?_deleteAll]
      cases hk : gone k with
      | true =>
        have hnone : latest key k ((left key ops).filter fun a => !gone (key a)) = none := by
          rw [latest_eq_none_iff, List.mem_map]
          rintro ⟨a, ha, hkey⟩
          rw [List.mem_filter, hkey, hk] at ha
          exact absurd ha.2 (by decide)
        rw [hnone]
        split
        · rfl
        · next hmem =>
          rw [List.mem_filter, Table.mem_keys_iff, hk] at hmem
          simpa using hmem
      | false =>
        have hsame : latest key k ((left key ops).filter fun a => !gone (key a)) =
            latest key k (left key ops) := by
          rw [latest, List.filter_filter]
          refine congrArg List.getLast? (List.filter_congr fun a _ => ?_)
          by_cases ha : key a = k
          · simp [ha, hk]
          · simp [ha]
        have hmem : k ∉ (replay key row ops).keys.filter gone := fun h =>
          absurd (List.mem_filter.mp h).2 (by rw [hk]; decide)
        rw [if_neg hmem, hsame, ih]

variable (row) {rowKey : R → K}

theorem replay_keyed (hrow : ∀ a, rowKey (row a) = key a) (ops : List (Rolling α K)) :
    Table.Keyed rowKey (replay key row ops) := by
  intro k r hr
  rw [getElem?_replay] at hr
  obtain ⟨a, ha, rfl⟩ := Option.map_eq_some_iff.mp hr
  rw [hrow]
  exact (latest_mem ha).2

/-- With distinct keys, the rows are those of what is left. -/
theorem rows_replay (hdistinct : ((left key ops).map key).Nodup) :
    (replay key row ops).rows.Perm ((left key ops).map row) := by
  have hkeys : ((replay key row ops).toList.map Prod.fst).Nodup := by
    rw [Std.ExtTreeMap.map_fst_toList_eq_keys]
    exact Std.ExtTreeMap.nodup_keys
  have hpairs : (((left key ops).map fun a => (key a, row a)).map Prod.fst).Nodup := by
    rw [List.map_map]
    exact hdistinct
  have hperm : (replay key row ops).toList.Perm ((left key ops).map fun a => (key a, row a)) := by
    rw [List.perm_ext_iff_of_nodup hkeys.of_map hpairs.of_map]
    rintro ⟨k, r⟩
    rw [Std.ExtTreeMap.mem_toList_iff_getElem?_eq_some, getElem?_replay, Option.map_eq_some_iff,
      List.mem_map]
    constructor
    · rintro ⟨a, ha, hr⟩
      obtain ⟨hmem, hk⟩ := latest_mem ha
      exact ⟨a, hmem, by rw [hk, hr]⟩
    · rintro ⟨a, hmem, heq⟩
      cases heq
      obtain ⟨b, hb⟩ : ∃ b, latest key (key a) (left key ops) = some b := by
        rw [← Option.ne_none_iff_exists', Ne, latest_eq_none_iff, not_not]
        exact List.mem_map_of_mem hmem
      obtain ⟨hbmem, hbkey⟩ := latest_mem hb
      have hab : b = a := List.inj_on_of_nodup_map hdistinct hbmem hmem hbkey
      exact ⟨a, hab ▸ hb, rfl⟩
  have h := hperm.map Prod.snd
  rwa [List.map_map] at h

/-- The table holds exactly what was put in and is in no removed range if and only if
the keys of these items are distinct and what came too late is removed again. -/
theorem rows_kept_iff (hrow : ∀ a, rowKey (row a) = key a) :
    ((replay key row ops).rows.map rowKey).Perm ((kept key ops).map key) ↔
      ((kept key ops).map key).Nodup ∧ Settled key ops := by
  have hkeyed := replay_keyed row hrow ops
  have hkeys : ((replay key row ops).rows.map rowKey) = (replay key row ops).keys := by
    rw [Table.rows, List.map_map, ← Std.ExtTreeMap.map_fst_toList_eq_keys]
    refine List.map_congr_left fun e he => ?_
    exact hkeyed e.1 e.2 (Std.ExtTreeMap.mem_toList_iff_getElem?_eq_some.mp he)
  constructor
  · intro hperm
    refine ⟨hperm.nodup_iff.mp (hkeys ▸ Std.ExtTreeMap.nodup_keys), ?_⟩
    intro before a after heq hgone
    by_contra hafter
    have hleft : a ∈ left key ops := mem_left.mpr ⟨before, after, heq, Bool.not_eq_true _ ▸ hafter⟩
    have hmem : key a ∈ (replay key row ops).keys := by
      rw [Table.mem_keys_iff, getElem?_replay, Option.isSome_map, Option.isSome_iff_ne_none, Ne,
        latest_eq_none_iff, not_not]
      exact List.mem_map_of_mem hleft
    obtain ⟨b, hb, hkey⟩ := List.mem_map.mp (hperm.subset (hkeys ▸ hmem))
    have hkept := (List.mem_filter.mp hb).2
    rw [hkey, hgone] at hkept
    cases hkept
  · rintro ⟨hdistinct, hsettled⟩
    have hleft := kept_eq_left_iff.mpr hsettled
    have h := (rows_replay row (hleft ▸ hdistinct)).map rowKey
    rw [List.map_map, ← hleft] at h
    rwa [show rowKey ∘ row = key from funext hrow] at h

end Table

end Rolling

/-- Lists with the same items for every value of a function. -/
theorem perm_of_fibers {α β : Type*} [DecidableEq β] {f : α → β} {xs ys : List α}
    (h : ∀ b, (xs.filter fun a => f a = b).Perm (ys.filter fun a => f a = b)) : xs.Perm ys := by
  classical
  rw [List.perm_iff_count]
  intro a
  have hcount := (h (f a)).count_eq a
  rwa [List.count_filter (by simp), List.count_filter (by simp)] at hcount

end Lib
end Rtpigate
