/-
A map whose entries are believed for a fixed time.

The map remembers when a key was last recorded, a purge drops the entries that
are too old, and a lookup trusts an entry only while it is young.  `Tracks`
compares the map with the list of everything ever recorded: nothing is in the map
that was not recorded, and nothing young is missing from it.  Both a purge and a
later clock keep it.
-/
import Mathlib

namespace Rtpigate
namespace Lib

/-- Each key with the second it was last recorded at. -/
abbrev Expiring (K : Type*) := K → Option Int

namespace Expiring

variable {K : Type*}

def empty : Expiring K := fun _ => none

def fresh (ttl : Int) (m : Expiring K) (now : Int) (k : K) : Bool :=
  match m k with
  | some t => now - t < ttl
  | none => false

def purge (ttl : Int) (m : Expiring K) (now : Int) : Expiring K :=
  fun k => (m k).filter fun t => now - t < ttl

def insert [DecidableEq K] (m : Expiring K) (k : K) (now : Int) : Expiring K :=
  Function.update m k (some now)

/-- What the list of records says of a key. -/
def recorded [DecidableEq K] (ttl : Int) (records : List (K × Int)) (now : Int) (k : K) : Bool :=
  records.any fun r => decide (r.1 = k) && decide (now - r.2 < ttl)

/-- Lists of records that tell the same items by different keys say the same. -/
theorem recorded_map_congr {L ι : Type*} [DecidableEq K] [DecidableEq L] {items : List ι}
    {f : ι → K} {g : ι → L} {a : K} {b : L} (h : ∀ x ∈ items, f x = a ↔ g x = b)
    (ttl now : Int) (time : ι → Int) :
    recorded ttl (items.map fun x => (f x, time x)) now a =
      recorded ttl (items.map fun x => (g x, time x)) now b := by
  induction items with
  | nil => rfl
  | cons x items ih =>
    have hhead : decide (f x = a) = decide (g x = b) :=
      decide_eq_decide.mpr (h x List.mem_cons_self)
    have htail := ih fun y hy => h y (List.mem_cons_of_mem x hy)
    rw [recorded, recorded] at htail
    rw [recorded, recorded, List.map_cons, List.map_cons, List.any_cons, List.any_cons, htail]
    dsimp only
    rw [hhead]

/-- The map against the list of all records, at clock reading `now`. -/
structure Tracks (ttl : Int) (m : Expiring K) (records : List (K × Int)) (now : Int) : Prop where
  sound : ∀ k t, m k = some t → (k, t) ∈ records
  complete : ∀ k t, (k, t) ∈ records → now - t < ttl → ∃ t', m k = some t' ∧ t ≤ t'
  past : ∀ k t, (k, t) ∈ records → t ≤ now

variable {ttl now now' : Int} {m : Expiring K} {records : List (K × Int)}

theorem tracks_empty : Tracks ttl (empty : Expiring K) [] now where
  sound _ _ h := by cases h
  complete _ _ h := by cases h
  past _ _ h := by cases h

theorem Tracks.later (h : Tracks ttl m records now) (hle : now ≤ now') :
    Tracks ttl m records now' where
  sound := h.sound
  complete k t hmem hyoung := h.complete k t hmem (by omega)
  past k t hmem := Int.le_trans (h.past k t hmem) hle

theorem Tracks.purge (h : Tracks ttl m records now) :
    Tracks ttl (Expiring.purge ttl m now) records now where
  sound k t hk := h.sound k t (Option.filter_eq_some_iff.mp hk).1
  complete k t hmem hyoung := by
    obtain ⟨t', hk, hle⟩ := h.complete k t hmem hyoung
    exact ⟨t', Option.filter_eq_some_iff.mpr ⟨hk, by simp; omega⟩, hle⟩
  past := h.past

theorem Tracks.insert [DecidableEq K] (h : Tracks ttl m records now) (k : K) :
    Tracks ttl (Expiring.insert m k now) (records ++ [(k, now)]) now where
  sound k' t hk := by
    rw [Expiring.insert, Function.update_apply] at hk
    split at hk
    · next he =>
      subst he
      cases hk
      exact List.mem_append_right _ (List.mem_singleton.mpr rfl)
    · exact List.mem_append_left _ (h.sound k' t hk)
  complete k' t hmem hyoung := by
    rw [Expiring.insert, Function.update_apply]
    rcases List.mem_append.mp hmem with hmem | hmem
    · split
      · exact ⟨now, rfl, h.past k' t hmem⟩
      · exact h.complete k' t hmem hyoung
    · rw [List.mem_singleton, Prod.mk.injEq] at hmem
      exact ⟨now, by rw [if_pos hmem.1], by omega⟩
  past k' t hmem := by
    rcases List.mem_append.mp hmem with hmem | hmem
    · exact h.past k' t hmem
    · rw [List.mem_singleton, Prod.mk.injEq] at hmem
      omega

/-- A fresh key was recorded less than `ttl` ago. -/
theorem Tracks.recorded_of_fresh (h : Tracks ttl m records now) {k : K}
    (hf : fresh ttl m now k = true) : ∃ t, (k, t) ∈ records ∧ t ≤ now ∧ now - t < ttl := by
  unfold fresh at hf
  cases hk : m k with
  | none => simp [hk] at hf
  | some t =>
    simp only [hk, decide_eq_true_eq] at hf
    exact ⟨t, h.sound k t hk, h.past k t (h.sound k t hk), hf⟩

/-- Every record of a key that is not fresh is at least `ttl` old. -/
theorem Tracks.old_of_not_fresh (h : Tracks ttl m records now) {k : K}
    (hf : fresh ttl m now k = false) {t : Int} (hmem : (k, t) ∈ records) : t + ttl ≤ now := by
  by_contra hlt
  obtain ⟨t', hk, hle⟩ := h.complete k t hmem (by omega)
  simp only [fresh, hk, decide_eq_false_iff_not] at hf
  omega

/-- The map answers as the list does. -/
theorem Tracks.fresh_eq [DecidableEq K] (h : Tracks ttl m records now) (k : K) :
    fresh ttl m now k = recorded ttl records now k := by
  cases hf : fresh ttl m now k with
  | true =>
    obtain ⟨t, hmem, _, hyoung⟩ := h.recorded_of_fresh hf
    refine (List.any_eq_true.mpr ⟨(k, t), hmem, ?_⟩).symm
    rw [decide_eq_true rfl, decide_eq_true hyoung, Bool.and_self]
  | false =>
    refine (List.any_eq_false.mpr fun r hr => ?_).symm
    rw [Bool.and_eq_true, decide_eq_true_eq, decide_eq_true_eq]
    rintro ⟨rfl, hyoung⟩
    have hold := h.old_of_not_fresh hf hr
    omega

end Expiring

end Lib
end Rtpigate
