/-
A table in memory and its copy on disk.

The memory is changed entry by entry, and the keys changed are marked.  A flush drops
the entries that have expired and deletes their rows, and writes the rows of the
marked entries.  Every write carries what the memory holds under its key once the
expired entries are dropped.  So the order of the writes does not matter, and a row
whose write is left out stays as it was.
-/
import Rtpigate.Lib.Table

set_option linter.unusedSectionVars false

namespace Rtpigate
namespace Lib

/-- A list of keys in some other order. -/
structure Shuffle (K : Type*) where
  order : List K → List K
  perm : ∀ ks, (order ks).Perm ks

def Shuffle.same (K : Type*) : Shuffle K := ⟨id, fun _ => List.Perm.refl _⟩

theorem Shuffle.mem_order {K : Type*} (sh : Shuffle K) {ks : List K} {k : K} :
    k ∈ sh.order ks ↔ k ∈ ks := (sh.perm ks).mem_iff

inductive Write (K V : Type*)
  | delete (k : K)
  | upsert (k : K) (v : V)

namespace Write

variable {K V R : Type*}

def key : Write K V → K
  | .delete k => k
  | .upsert k _ => k

def value : Write K V → Option V
  | .delete _ => none
  | .upsert _ v => some v

variable [Ord K] [Std.TransOrd K] [Std.LawfulEqOrd K]

def store (row : K → V → R) (disk : Table K R) : Write K V → Table K R
  | .delete k => disk.erase k
  | .upsert k v => disk.insert k (row k v)

theorem getElem?_store [DecidableEq K] (row : K → V → R) (disk : Table K R) (w : Write K V)
    (k : K) : (w.store row disk)[k]? = if w.key = k then w.value.map (row k) else disk[k]? := by
  cases w with
  | delete a => exact Table.getElem?_erase_ite disk a k
  | upsert a v =>
    rw [store, Table.getElem?_insert_ite]
    show (if a = k then _ else _) = if a = k then _ else _
    by_cases h : a = k
    · rw [if_pos h, if_pos h, h]
      rfl
    · rw [if_neg h, if_neg h]

/-- Every write carries what is in memory. -/
def Reflect (mem : Table K V) (ws : List (Write K V)) : Prop := ∀ w ∈ ws, w.value = mem[w.key]?

variable [DecidableEq K]

theorem getElem?_stores (row : K → V → R) {mem : Table K V} {ws : List (Write K V)}
    (h : Reflect mem ws) (disk : Table K R) (k : K) :
    (ws.foldl (store row) disk)[k]? =
      if k ∈ ws.map key then (mem[k]?).map (row k) else disk[k]? := by
  induction ws using List.reverseRecOn with
  | nil => rfl
  | append_singleton ws w ih =>
    rw [List.foldl_concat, getElem?_store, ih fun w hw => h w (List.mem_append_left _ hw),
      h w (List.mem_append_right _ List.mem_cons_self), List.map_append, List.map_singleton]
    by_cases hk : w.key = k
    · rw [if_pos hk, hk, if_pos (List.mem_append_right _ List.mem_cons_self)]
    · rw [if_neg hk]
      have hlast : k ∉ [w.key] := fun hmem => hk (List.mem_singleton.mp hmem).symm
      simp only [List.mem_append, hlast, or_false]

end Write

/-- The entries in memory, with the keys changed since the last flush. -/
structure WriteBack (K V : Type*) [Ord K] where
  mem : Table K V := ∅
  dirty : List K := []

namespace WriteBack

variable {K V R : Type*} [Ord K] [Std.TransOrd K] [Std.LawfulEqOrd K] [DecidableEq K]

def touch (k : K) (f : Option V → V) (c : WriteBack K V) : WriteBack K V where
  mem := c.mem.alter k fun v => some (f v)
  dirty := c.dirty.insert k

def expired (old : V → Bool) (mem : Table K V) : List K :=
  (mem.toList.filter fun e => old e.2).map Prod.fst

/-- Drop the expired entries and their marks. -/
def evict (old : V → Bool) (c : WriteBack K V) : WriteBack K V where
  mem := c.mem.deleteAll (expired old c.mem)
  dirty := c.dirty.filter fun k => k ∉ expired old c.mem

/-- The deletes of the expired entries. -/
def deletes (old : V → Bool) (sh : Shuffle K) (mem : Table K V) : List (Write K V) :=
  (sh.order (expired old mem)).map .delete

/-- The upserts of the marked entries. -/
def upserts (sh : Shuffle K) (c : WriteBack K V) : List (Write K V) :=
  (sh.order c.dirty).filterMap fun k => (c.mem[k]?).map (.upsert k)

/-- Only what is in memory is marked. -/
def Marked (c : WriteBack K V) : Prop := ∀ k ∈ c.dirty, (c.mem[k]?).isSome = true

theorem getElem?_touch (k : K) (f : Option V → V) (c : WriteBack K V) (a : K) :
    (c.touch k f).mem[a]? = if k = a then some (f c.mem[a]?) else c.mem[a]? := by
  rw [touch, Std.ExtTreeMap.getElem?_alter]
  simp only [Std.LawfulEqOrd.compare_eq_iff_eq]
  by_cases h : k = a
  · rw [if_pos h, if_pos h, h]
  · rw [if_neg h, if_neg h]

theorem mem_dirty_touch {k : K} {f : Option V → V} {c : WriteBack K V} {a : K} :
    a ∈ (c.touch k f).dirty ↔ a = k ∨ a ∈ c.dirty := List.mem_insert_iff

theorem getElem?_evict (old : V → Bool) (c : WriteBack K V) (k : K) :
    (c.evict old).mem[k]? = if k ∈ expired old c.mem then none else c.mem[k]? :=
  Table.getElem?_deleteAll c.mem _ k

theorem mem_dirty_evict {old : V → Bool} {c : WriteBack K V} {k : K} :
    k ∈ (c.evict old).dirty ↔ k ∈ c.dirty ∧ k ∉ expired old c.mem := by
  rw [evict, List.mem_filter, decide_eq_true_eq]

theorem Marked.touch {c : WriteBack K V} (h : c.Marked) (k : K) (f : Option V → V) :
    (c.touch k f).Marked := by
  intro a ha
  rw [getElem?_touch]
  split
  · rfl
  · next hne => exact h a ((mem_dirty_touch.mp ha).resolve_left fun he => hne he.symm)

theorem Marked.evict {c : WriteBack K V} (h : c.Marked) (old : V → Bool) :
    (c.evict old).Marked := by
  intro k hk
  obtain ⟨hdirty, hkept⟩ := mem_dirty_evict.mp hk
  rw [getElem?_evict, if_neg hkept]
  exact h k hdirty

/-! ## The writes of a flush -/

theorem reflect_upserts (sh : Shuffle K) (c : WriteBack K V) :
    Write.Reflect c.mem (upserts sh c) := by
  intro w hw
  obtain ⟨k, -, hget⟩ := List.mem_filterMap.mp hw
  obtain ⟨v, hv, rfl⟩ := Option.map_eq_some_iff.mp hget
  exact hv.symm

theorem reflect_deletes (old : V → Bool) (sh : Shuffle K) (c : WriteBack K V) :
    Write.Reflect (c.evict old).mem (deletes old sh c.mem) := by
  intro w hw
  obtain ⟨k, hk, rfl⟩ := List.mem_map.mp hw
  show none = (c.evict old).mem[k]?
  rw [getElem?_evict, if_pos (sh.mem_order.mp hk)]

theorem mem_keys_upserts {sh : Shuffle K} {c : WriteBack K V} (h : c.Marked) {k : K} :
    k ∈ (upserts sh c).map Write.key ↔ k ∈ c.dirty := by
  rw [List.mem_map]
  constructor
  · intro ⟨w, hw, hkey⟩
    obtain ⟨a, ha, hget⟩ := List.mem_filterMap.mp hw
    obtain ⟨v, -, rfl⟩ := Option.map_eq_some_iff.mp hget
    rw [← hkey]
    exact sh.mem_order.mp ha
  · intro hk
    obtain ⟨v, hv⟩ := Option.isSome_iff_exists.mp (h k hk)
    refine ⟨.upsert k v, List.mem_filterMap.mpr ⟨k, sh.mem_order.mpr hk, ?_⟩, rfl⟩
    rw [hv]
    rfl

theorem mem_keys_deletes {old : V → Bool} {sh : Shuffle K} {mem : Table K V} {k : K} :
    k ∈ (deletes old sh mem).map Write.key ↔ k ∈ expired old mem := by
  rw [deletes, List.map_map, Function.comp_def]
  simp only [Write.key, List.map_id']
  exact sh.mem_order

/-- The writes of a flush, the deletes first. -/
def Flushes (old : V → Bool) (c : WriteBack K V) (ws : List (Write K V)) : Prop :=
  ∃ evicted dirty : Shuffle K, ws = deletes old evicted c.mem ++ upserts dirty (c.evict old)

theorem Flushes.reflect {old : V → Bool} {c : WriteBack K V} {ws : List (Write K V)}
    (h : Flushes old c ws) : Write.Reflect (c.evict old).mem ws := by
  obtain ⟨evicted, dirty, rfl⟩ := h
  intro w hw
  rcases List.mem_append.mp hw with hw | hw
  · exact reflect_deletes old evicted c w hw
  · exact reflect_upserts dirty (c.evict old) w hw

/-- A flush writes what has expired and what is marked. -/
theorem Flushes.mem_keys {old : V → Bool} {c : WriteBack K V} {ws : List (Write K V)}
    (h : Flushes old c ws) (hm : c.Marked) {k : K} :
    k ∈ ws.map Write.key ↔ k ∈ expired old c.mem ∨ k ∈ c.dirty := by
  obtain ⟨evicted, dirty, rfl⟩ := h
  rw [List.map_append, List.mem_append, mem_keys_deletes, mem_keys_upserts (hm.evict old),
    mem_dirty_evict]
  tauto

end WriteBack

end Lib
end Rtpigate
