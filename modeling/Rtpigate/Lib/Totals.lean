/-
Totals of a table.

Every row has a weight.  A row that changes moves the total by the change of its weight, and
rows that are evicted take their weights with them.  A table has no more rows than there are
places for its keys.
-/
import Rtpigate.Lib.WriteBack

namespace Rtpigate
namespace Lib

variable {K V : Type*} [Ord K] [Std.TransOrd K] [Std.LawfulEqOrd K] [DecidableEq K]

namespace Table

def total (weight : V → Nat) (m : Table K V) : Nat := (m.rows.map weight).sum

/-- The keys are among `count` places, `step` apart. -/
theorem length_rows_le {R : Type*} {m : Table Int R} {first step : Int} {count : Nat}
    (h : ∀ k, (m[k]?).isSome = true → ∃ i : Nat, i < count ∧ k = first + step * i) :
    m.rows.length ≤ count := by
  have hsubset : m.keys ⊆ (List.range count).map fun i : Nat => first + step * i := by
    intro k hk
    obtain ⟨i, hi, rfl⟩ := h k (mem_keys_iff.mp hk)
    exact List.mem_map.mpr ⟨i, List.mem_range.mpr hi, rfl⟩
  have hle := (List.subperm_of_subset Std.ExtTreeMap.nodup_keys hsubset).length_le
  rwa [List.length_map, List.length_range, ← Std.ExtTreeMap.map_fst_toList_eq_keys,
    List.length_map, ← List.length_map (f := Prod.snd)] at hle

/-- What is under a key adds to the total. -/
def weightAt (weight : V → Nat) (m : Table K V) (k : K) : Nat := ((m[k]?).map weight).getD 0

theorem total_eq_sum (weight : V → Nat) {m : Table K V} {ks : Finset K}
    (hks : ∀ k, (m[k]?).isSome = true → k ∈ ks) :
    m.total weight = ∑ k ∈ ks, weightAt weight m k := by
  have hrows : m.rows.map weight = m.keys.map (weightAt weight m) := by
    rw [rows, List.map_map, ← Std.ExtTreeMap.map_fst_toList_eq_keys, List.map_map]
    refine List.map_congr_left fun e he => ?_
    have hget := Std.ExtTreeMap.mem_toList_iff_getElem?_eq_some.mp he
    show weight e.2 = ((m[e.1]?).map weight).getD 0
    rw [hget]
    rfl
  have hsubset : m.keys.toFinset ⊆ ks := fun k hk =>
    hks k (mem_keys_iff.mp (List.mem_toFinset.mp hk))
  have hzero : ∀ k ∈ ks, k ∉ m.keys.toFinset → weightAt weight m k = 0 := by
    intro k _ hk
    rw [List.mem_toFinset, mem_keys_iff, Bool.not_eq_true, Option.isSome_eq_false_iff,
      Option.isNone_iff_eq_none] at hk
    rw [weightAt, hk]
    rfl
  rw [total, hrows, ← List.sum_toFinset _ Std.ExtTreeMap.nodup_keys,
    Finset.sum_subset hsubset hzero]

/-- Tables that agree but under one key. -/
theorem total_update (weight : V → Nat) {m m' : Table K V} {k : K}
    (h : ∀ a, a ≠ k → m'[a]? = m[a]?) :
    m'.total weight + weightAt weight m k = m.total weight + weightAt weight m' k := by
  let ks := insert k (m.keys.toFinset ∪ m'.keys.toFinset)
  have hm : m.total weight = ∑ a ∈ ks, weightAt weight m a :=
    total_eq_sum weight fun a ha => Finset.mem_insert_of_mem
      (Finset.mem_union_left _ (List.mem_toFinset.mpr (mem_keys_iff.mpr ha)))
  have hm' : m'.total weight = ∑ a ∈ ks, weightAt weight m' a :=
    total_eq_sum weight fun a ha => Finset.mem_insert_of_mem
      (Finset.mem_union_right _ (List.mem_toFinset.mpr (mem_keys_iff.mpr ha)))
  have hrest : ∑ a ∈ ks.erase k, weightAt weight m' a = ∑ a ∈ ks.erase k, weightAt weight m a := by
    refine Finset.sum_congr rfl fun a ha => ?_
    rw [weightAt, weightAt, h a (Finset.ne_of_mem_erase ha)]
  have hk : k ∈ ks := Finset.mem_insert_self k _
  rw [hm, hm', ← Finset.add_sum_erase ks _ hk, ← Finset.add_sum_erase ks _ hk, hrest]
  omega

theorem rows_filter_total (weight : V → Nat) (old : V → Bool) (rows : List V) :
    ((rows.filter old).map weight).sum =
      (rows.map fun v => if old v then weight v else 0).sum := by
  induction rows with
  | nil => rfl
  | cons v rows ih =>
    rw [List.map_cons, List.sum_cons, ← ih]
    cases hold : old v with
    | true => rw [List.filter_cons_of_pos hold, List.map_cons, List.sum_cons, if_pos rfl]
    | false =>
      rw [List.filter_cons_of_neg (by rw [hold]; exact Bool.false_ne_true),
        if_neg Bool.false_ne_true, Nat.zero_add]

end Table

namespace WriteBack

omit [DecidableEq K] in
theorem mem_expired {old : V → Bool} {m : Table K V} {k : K} :
    k ∈ expired old m ↔ ∃ v, m[k]? = some v ∧ old v = true := by
  rw [expired, List.mem_map]
  constructor
  · rintro ⟨⟨a, v⟩, hmem, rfl⟩
    obtain ⟨hmem, hold⟩ := List.mem_filter.mp hmem
    exact ⟨v, Std.ExtTreeMap.mem_toList_iff_getElem?_eq_some.mp hmem, hold⟩
  · rintro ⟨v, hget, hold⟩
    exact ⟨(k, v), List.mem_filter.mpr
      ⟨Std.ExtTreeMap.mem_toList_iff_getElem?_eq_some.mpr hget, hold⟩, rfl⟩

/-- What an eviction leaves has not expired. -/
theorem getElem?_evict_eq_some {old : V → Bool} {c : WriteBack K V} {k : K} {v : V} :
    (c.evict old).mem[k]? = some v ↔ c.mem[k]? = some v ∧ old v = false := by
  rw [getElem?_evict]
  by_cases hk : k ∈ expired old c.mem
  · rw [if_pos hk]
    obtain ⟨w, hget, hold⟩ := mem_expired.mp hk
    constructor
    · intro h
      cases h
    · rintro ⟨hv, hfresh⟩
      cases hget.symm.trans hv
      rw [hold] at hfresh
      cases hfresh
  · rw [if_neg hk]
    refine ⟨fun hv => ⟨hv, ?_⟩, fun h => h.1⟩
    rw [← Bool.not_eq_true]
    exact fun hold => hk (mem_expired.mpr ⟨v, hv, hold⟩)

theorem total_touch (weight : V → Nat) (k : K) (f : Option V → V) (c : WriteBack K V) :
    (c.touch k f).mem.total weight + Table.weightAt weight c.mem k =
      c.mem.total weight + weight (f c.mem[k]?) := by
  have hother : ∀ a, a ≠ k → (c.touch k f).mem[a]? = c.mem[a]? := by
    intro a ha
    rw [getElem?_touch, if_neg (Ne.symm ha)]
  rw [Table.total_update weight hother, Table.weightAt, getElem?_touch, if_pos rfl]
  rfl

theorem total_evict (weight : V → Nat) (old : V → Bool) (c : WriteBack K V) :
    (c.evict old).mem.total weight + ((c.mem.rows.filter old).map weight).sum =
      c.mem.total weight := by
  let ks := c.mem.keys.toFinset
  have hks : ∀ k, (c.mem[k]?).isSome = true → k ∈ ks := fun k hk =>
    List.mem_toFinset.mpr (Table.mem_keys_iff.mpr hk)
  have hks' : ∀ k, ((c.evict old).mem[k]?).isSome = true → k ∈ ks := by
    intro k hk
    obtain ⟨v, hv⟩ := Option.isSome_iff_exists.mp hk
    exact hks k (Option.isSome_iff_exists.mpr ⟨v, (getElem?_evict_eq_some.mp hv).1⟩)
  have hout : ((c.mem.rows.filter old).map weight).sum =
      c.mem.total fun v => if old v then weight v else 0 :=
    Table.rows_filter_total weight old c.mem.rows
  rw [hout, Table.total_eq_sum _ hks', Table.total_eq_sum _ hks, Table.total_eq_sum _ hks,
    ← Finset.sum_add_distrib]
  refine Finset.sum_congr rfl fun k _ => ?_
  rw [Table.weightAt, Table.weightAt, Table.weightAt]
  cases hget : c.mem[k]? with
  | none =>
    have hnone : (c.evict old).mem[k]? = none := by
      rw [Option.eq_none_iff_forall_ne_some]
      intro v hv
      rw [(getElem?_evict_eq_some.mp hv).1] at hget
      cases hget
    rw [hnone]
    rfl
  | some v =>
    cases hold : old v with
    | true =>
      have hnone : (c.evict old).mem[k]? = none := by
        rw [getElem?_evict, if_pos (mem_expired.mpr ⟨v, hget, hold⟩)]
      rw [hnone]
      simp [hold]
    | false =>
      rw [getElem?_evict_eq_some.mpr ⟨hget, hold⟩]
      simp [hold]

end WriteBack

end Lib
end Rtpigate
