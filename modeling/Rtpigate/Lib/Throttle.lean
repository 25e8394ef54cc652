/-
Messages on a change, and otherwise at a slow pace.

A source takes readings.  A throttle lets a reading through when its key differs from that of
the reading before, or when nothing went through for an interval.  So what goes through shows
every change of the key in order, and is never behind the readings by an interval.

Times are natural numbers and may go back.  A difference is zero then.
-/
import Mathlib

namespace Rtpigate
namespace Lib

variable {α K : Type*} [DecidableEq K]

/-! ## Lists without repeats -/

theorem destutter'_concat (a b : K) (l : List K) :
    (l ++ [a]).destutter' (· ≠ ·) b =
      if (b :: l).getLast? = some a then l.destutter' (· ≠ ·) b
      else l.destutter' (· ≠ ·) b ++ [a] := by
  induction l generalizing b with
  | nil =>
    rw [List.nil_append, List.destutter'_singleton, List.getLast?_singleton, List.destutter'_nil]
    by_cases h : b = a
    · rw [if_neg (not_not_intro h), if_pos (congrArg some h)]
    · rw [if_pos h, if_neg fun hs => h (Option.some.inj hs)]
      rfl
  | cons c l ih =>
    rw [List.cons_append, List.getLast?_cons_cons]
    by_cases h : b = c
    · subst h
      rw [List.destutter'_cons_neg _ (not_not_intro rfl),
        List.destutter'_cons_neg _ (not_not_intro rfl), ih]
    · rw [List.destutter'_cons_pos _ h, List.destutter'_cons_pos _ h, ih]
      split <;> rfl

/-- An item at the end counts if it differs from the one before. -/
theorem destutter_concat (a : K) (l : List K) :
    (l ++ [a]).destutter (· ≠ ·) =
      if l.getLast? = some a then l.destutter (· ≠ ·) else l.destutter (· ≠ ·) ++ [a] := by
  cases l with
  | nil =>
    rw [List.nil_append, List.destutter_singleton]
    rfl
  | cons b l => exact destutter'_concat a b l

/-! ## The throttle -/

/-- The key read last, and the time at which a reading went through last. -/
structure Throttle (K : Type*) where
  prev : Option K := none
  last : Option Nat := none

namespace Throttle

def due (interval : Nat) (th : Throttle K) (now : Nat) (k : K) : Bool :=
  th.prev != some k || th.last.all fun t => decide (interval ≤ now - t)

def read (interval : Nat) (th : Throttle K) (now : Nat) (k : K) : Throttle K where
  prev := some k
  last := if th.due interval now k then some now else th.last

/-- The throttle against the readings so far and those of them that went through. -/
structure Tracks (interval : Nat) (time : α → Nat) (key : α → K) (through : α → Bool)
    (readings : List α) (th : Throttle K) : Prop where
  prev : th.prev = readings.getLast?.map key
  last : th.last = (readings.filter through).getLast?.map time
  same : (readings.filter through).getLast?.map key = readings.getLast?.map key
  recent : ∀ x ∈ readings.getLast?, ∀ y ∈ (readings.filter through).getLast?,
    time x - time y < interval
  spaced : (readings.filter through).IsChain fun a b =>
    key a ≠ key b ∨ interval ≤ time b - time a
  changes : ((readings.filter through).map key).destutter (· ≠ ·) =
    (readings.map key).destutter (· ≠ ·)

variable {interval : Nat} {time : α → Nat} {key : α → K} {through : α → Bool}
  {readings : List α} {th : Throttle K}

theorem tracks_start : Tracks interval time key through [] ({} : Throttle K) where
  prev := rfl
  last := rfl
  same := rfl
  recent _ h := by cases h
  spaced := .nil
  changes := rfl

theorem Tracks.pass (h : Tracks interval time key through readings th) {x : α}
    (hpos : 0 < interval) (hx : through x = true)
    (hdue : th.due interval (time x) (key x) = true) :
    Tracks interval time key through (readings ++ [x]) (th.read interval (time x) (key x)) := by
  have hfilter : (readings ++ [x]).filter through = readings.filter through ++ [x] := by
    rw [List.filter_append, List.filter_cons_of_pos hx, List.filter_nil]
  have hends : (readings.map key).getLast? = ((readings.filter through).map key).getLast? := by
    rw [List.getLast?_map, List.getLast?_map, h.same]
  constructor
  · rw [read, List.getLast?_concat, Option.map_some]
  · rw [read, hfilter, List.getLast?_concat, if_pos hdue, Option.map_some]
  · rw [hfilter, List.getLast?_concat, List.getLast?_concat]
  · intro a ha b hb
    rw [List.getLast?_concat, Option.mem_some_iff] at ha
    rw [hfilter, List.getLast?_concat, Option.mem_some_iff] at hb
    rw [← ha, ← hb, Nat.sub_self]
    exact hpos
  · rw [hfilter, List.isChain_append]
    refine ⟨h.spaced, .singleton x, ?_⟩
    intro a ha b hb
    rw [List.head?_cons, Option.mem_some_iff] at hb
    subst hb
    have hprev : th.prev = some (key a) := by
      rw [h.prev, ← h.same, Option.mem_def.mp ha, Option.map_some]
    have hlast : th.last = some (time a) := by
      rw [h.last, Option.mem_def.mp ha, Option.map_some]
    rw [due, hprev, hlast, Bool.or_eq_true, bne_iff_ne, Option.all_some, decide_eq_true_eq] at hdue
    exact hdue.imp_left fun hne heq => hne (congrArg some heq)
  · rw [hfilter, List.map_append, List.map_append, List.map_singleton, destutter_concat,
      destutter_concat, hends, h.changes]

theorem Tracks.hold (h : Tracks interval time key through readings th) {x : α}
    (hx : through x = false) (hdue : th.due interval (time x) (key x) = false) :
    Tracks interval time key through (readings ++ [x]) (th.read interval (time x) (key x)) := by
  have hfilter : (readings ++ [x]).filter through = readings.filter through := by
    rw [List.filter_append, List.filter_cons_of_neg (by rw [hx]; decide), List.filter_nil,
      List.append_nil]
  rw [due, Bool.or_eq_false_iff, bne_eq_false_iff_eq] at hdue
  obtain ⟨hprev, hrecent⟩ := hdue
  have hkey : readings.getLast?.map key = some (key x) := h.prev.symm.trans hprev
  constructor
  · rw [read, List.getLast?_concat, Option.map_some]
  · rw [read, hfilter, due, hprev, bne_self_eq_false, Bool.false_or, hrecent]
    exact h.last
  · rw [hfilter, List.getLast?_concat, h.same, hkey, Option.map_some]
  · intro a ha b hb
    rw [List.getLast?_concat, Option.mem_some_iff] at ha
    rw [hfilter, Option.mem_def] at hb
    subst ha
    rw [h.last, hb, Option.map_some, Option.all_some, decide_eq_false_iff_not] at hrecent
    exact Nat.lt_of_not_le hrecent
  · rw [hfilter]
    exact h.spaced
  · rw [hfilter, List.map_append, List.map_singleton, destutter_concat, List.getLast?_map,
      if_pos hkey]
    exact h.changes

/-- One reading, which goes through exactly if it is due. -/
theorem Tracks.read (h : Tracks interval time key through readings th) {x : α}
    (hpos : 0 < interval) (hx : through x = th.due interval (time x) (key x)) :
    Tracks interval time key through (readings ++ [x]) (th.read interval (time x) (key x)) := by
  cases hdue : th.due interval (time x) (key x) with
  | true => exact h.pass hpos (hx.trans hdue) hdue
  | false => exact h.hold (hx.trans hdue) hdue

/-- As soon as there is a reading, one with its key went through less than an interval
before. -/
theorem Tracks.shown (h : Tracks interval time key through readings th) {x : α}
    (hx : readings.getLast? = some x) :
    ∃ y, (readings.filter through).getLast? = some y ∧ key y = key x ∧
      time x - time y < interval := by
  have hsame := h.same
  rw [hx, Option.map_some, Option.map_eq_some_iff] at hsame
  obtain ⟨y, hy, hkey⟩ := hsame
  exact ⟨y, hy, hkey, h.recent x hx y hy⟩

end Throttle

end Lib
end Rtpigate
