/-
A replica that misses windows.

A list is published as windows of its last items, and whoever merges them keeps the
latest item of each slot.  A primary merges the messages as they come, and a replica
misses some of them.  It has what the primary has again as soon as it merges a window
that reaches back to where it stopped.
-/
import Rtpigate.Lib.Latest

namespace Rtpigate
namespace Lib

variable {α K : Type*}

/-- The items from `a` up to `b`. -/
def span (items : List α) (a b : Nat) : List α := (items.drop a).take (b - a)

theorem span_append (items : List α) {a b c : Nat} (hab : a ≤ b) (hbc : b ≤ c) :
    span items a b ++ span items b c = span items a c := by
  have hdrop : items.drop b = (items.drop a).drop (b - a) := by
    rw [List.drop_drop, Nat.add_sub_cancel' hab]
  have hlen : c - a = (b - a) + (c - b) := by omega
  rw [span, span, span, hdrop, hlen, List.take_add]

/-- The window of a message, which shows the items up to its own. -/
theorem rtake_take {items : List α} {i : Nat} (hi : i < items.length) (size : Nat) :
    (items.take (i + 1)).rtake size = span items (i + 1 - size) (i + 1) := by
  have hlen : (items.take (i + 1)).length = i + 1 := by
    rw [List.length_take]
    omega
  rw [List.rtake, hlen, List.drop_take, span]

variable [DecidableEq K] (slot : α → K)

/-- The latest items of the slots after a merge. -/
def merged (shown : List α) (content : K → Option α) (k : K) : Option α :=
  (latest slot k shown).or (content k)

/-- The primary has merged messages up to `sent`, the replica had all the primary had
when they were up to `next`. -/
structure Behind (size : Nat) (items : List α) (next sent : Nat)
    (primary replica : K → Option α) : Prop where
  le : next ≤ sent
  /-- The primary shows its last message. -/
  newest : ∀ k x, latest slot k (span items (sent - size) sent) = some x → primary k = some x
  /-- They differ in slots of later items only. -/
  differ : ∀ k, latest slot k (span items next sent) = none → primary k = replica k

variable {slot} {size : Nat} {items : List α} {next sent i : Nat} {primary replica : K → Option α}

theorem latest_span {a b c : Nat} (hab : a ≤ b) (hbc : b ≤ c) (k : K) :
    latest slot k (span items a c) =
      (latest slot k (span items b c)).or (latest slot k (span items a b)) := by
  rw [← span_append items hab hbc, latest_append]

theorem Behind.self (h : Behind slot size items next sent primary replica) :
    Behind slot size items sent sent primary primary :=
  ⟨Nat.le_refl sent, h.newest, fun _ _ => rfl⟩

theorem Behind.level (h : Behind slot size items next sent primary replica) (heq : next = sent) :
    primary = replica := by
  funext k
  refine h.differ k ?_
  rw [heq, span, Nat.sub_self, List.take_zero, latest_nil]

/-- A merge shows its window. -/
theorem merged_newest (content : K → Option α) (k : K) (x : α)
    (h : latest slot k (span items (i + 1 - size) (i + 1)) = some x) :
    merged slot (span items (i + 1 - size) (i + 1)) content k = some x := by
  rw [merged, h, Option.some_or]

theorem Behind.missed (h : Behind slot size items next sent primary replica) (hi : sent ≤ i) :
    Behind slot size items next (i + 1)
      (merged slot (span items (i + 1 - size) (i + 1)) primary) replica where
  le := by
    have := h.le
    omega
  newest := merged_newest primary
  differ k hnone := by
    have hle := h.le
    rw [latest_span hle (by omega : sent ≤ i + 1), Option.or_eq_none_iff] at hnone
    rw [← h.differ k hnone.2, merged]
    cases hshown : latest slot k (span items (i + 1 - size) (i + 1)) with
    | none => exact Option.none_or
    | some x =>
      -- the item is older than the message before, so the primary has shown it already
      refine (h.newest k x ?_).symm
      by_cases hreach : i + 1 - size ≤ sent
      · rw [latest_span hreach (by omega), hnone.1, Option.none_or] at hshown
        rw [latest_span (by omega : sent - size ≤ i + 1 - size) hreach, hshown, Option.some_or]
      · have hlater := hnone.1
        rw [latest_span (by omega : sent ≤ i + 1 - size) (by omega), hshown] at hlater
        cases hlater

/-- Nothing is missing once a window reaches back to where the replica stopped. -/
theorem Behind.heard (h : Behind slot size items next sent primary replica) (hi : sent ≤ i)
    (hgap : next = sent ∨ i < next + size) :
    merged slot (span items (i + 1 - size) (i + 1)) primary =
      merged slot (span items (i + 1 - size) (i + 1)) replica := by
  rcases hgap with heq | hgap
  · rw [h.level heq]
  · have hle := h.le
    funext k
    rw [merged, merged]
    cases hshown : latest slot k (span items (i + 1 - size) (i + 1)) with
    | none =>
      rw [latest_span (by omega : i + 1 - size ≤ next) (by omega), Option.or_eq_none_iff,
        latest_span hle (by omega : sent ≤ i + 1), Option.or_eq_none_iff] at hshown
      rw [h.differ k hshown.1.2]
    | some x => rw [Option.some_or, Option.some_or]

/-- Both have merged the same message, and nothing is missing. -/
theorem Behind.heard_self (h : Behind slot size items next sent primary replica) (hi : sent ≤ i)
    (hgap : next = sent ∨ i < next + size) :
    Behind slot size items (i + 1) (i + 1)
      (merged slot (span items (i + 1 - size) (i + 1)) primary)
      (merged slot (span items (i + 1 - size) (i + 1)) replica) where
  le := Nat.le_refl _
  newest := merged_newest primary
  differ _ _ := congrFun (h.heard hi hgap) _

theorem behind_nil : Behind slot size items 0 0 (fun _ => none) (fun _ => none) where
  le := Nat.le_refl 0
  newest k x h := by
    rw [span, Nat.zero_sub, List.take_zero, latest_nil] at h
    cases h
  differ _ _ := rfl

end Lib
end Rtpigate
