/-
A bounded broadcast channel, seen from one receiver.

The channel keeps the last `capacity` messages.  A receiver that has fallen
further behind is told how many it missed and continues with the oldest one kept.
The log holds everything sent since the receiver subscribed, so what it read,
what it was told it missed and what is still before it are consecutive parts of
one list.
-/
import Mathlib

namespace Rtpigate
namespace Lib

inductive Received (α : Type*)
  | message (a : α)
  | lagged (missed : Nat)

/-- One receiver: all messages sent since it subscribed, and the index of the
next one to be read. -/
structure Receiver (α : Type*) where
  log : List α
  next : Nat

namespace Receiver

variable {α : Type*}

def subscribe : Receiver α := ⟨[], 0⟩

def send (r : Receiver α) (items : List α) : Receiver α := { r with log := r.log ++ items }

/-- How many messages the receiver has missed and not been told of. -/
def missed (capacity : Nat) (r : Receiver α) : Nat := r.log.length - capacity - r.next

def skipped (capacity : Nat) (r : Receiver α) : List α :=
  (r.log.drop r.next).take (r.missed capacity)

/-- Take the next message or the report of the missed ones.  `none` means the
receiver waits. -/
def recv (capacity : Nat) (r : Receiver α) : Option (Received α × Receiver α) :=
  if 0 < r.missed capacity then
    some (.lagged (r.missed capacity), { r with next := r.next + r.missed capacity })
  else
    match r.log[r.next]? with
    | some a => some (.message a, { r with next := r.next + 1 })
    | none => none

def passed (r : Receiver α) : List α := r.log.take r.next

def pending (r : Receiver α) : List α := r.log.drop r.next

theorem passed_append_pending (r : Receiver α) : r.passed ++ r.pending = r.log :=
  List.take_append_drop r.next r.log

def Valid (r : Receiver α) : Prop := r.next ≤ r.log.length

theorem subscribe_valid : (subscribe : Receiver α).Valid := Nat.le_refl 0

theorem send_valid {r : Receiver α} (h : r.Valid) (items : List α) : (r.send items).Valid := by
  show r.next ≤ (r.log ++ items).length
  rw [List.length_append]
  exact Nat.le_trans h (Nat.le_add_right _ _)

theorem send_passed {r : Receiver α} (h : r.Valid) (items : List α) :
    (r.send items).passed = r.passed := List.take_append_of_le_length h

/-- The two things a receive can do, with what each leaves behind. -/
theorem recv_cases {capacity : Nat} {r r' : Receiver α} {m : Received α}
    (h : r.recv capacity = some (m, r')) :
    (m = .lagged (r.skipped capacity).length ∧ 0 < (r.skipped capacity).length ∧
        r'.log = r.log ∧ r'.Valid ∧ r'.passed = r.passed ++ r.skipped capacity) ∨
      (∃ a, m = .message a ∧ r'.log = r.log ∧ r'.Valid ∧ r'.passed = r.passed ++ [a]) := by
  unfold recv at h
  by_cases hm : 0 < r.missed capacity
  · rw [if_pos hm, Option.some.injEq, Prod.mk.injEq] at h
    obtain ⟨rfl, rfl⟩ := h
    have hbound : r.next + r.missed capacity ≤ r.log.length := by
      simp only [missed] at hm ⊢
      omega
    have hlen : (r.skipped capacity).length = r.missed capacity := by
      rw [skipped, List.length_take, List.length_drop]
      omega
    exact Or.inl ⟨by rw [hlen], by omega, rfl, hbound, List.take_add⟩
  · rw [if_neg hm] at h
    cases hn : r.log[r.next]? with
    | none => simp [hn] at h
    | some a =>
      simp only [hn, Option.some.injEq, Prod.mk.injEq] at h
      obtain ⟨rfl, rfl⟩ := h
      obtain ⟨hlt, _⟩ := List.getElem?_eq_some_iff.mp hn
      refine Or.inr ⟨a, rfl, rfl, hlt, ?_⟩
      show r.log.take (r.next + 1) = r.log.take r.next ++ [a]
      rw [List.take_add_one, hn, Option.toList_some]

end Receiver

end Lib
end Rtpigate
