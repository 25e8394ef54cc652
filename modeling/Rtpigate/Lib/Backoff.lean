/-
Capped exponential backoff.

A delay is doubled after each failure up to a cap, and a success sets it back to its
base.
-/
import Mathlib

namespace Rtpigate
namespace Lib

/-- The delay after `k` doublings. -/
def backoff (base cap k : Nat) : Nat := min (base * 2 ^ k) cap

variable {base cap : Nat}

theorem backoff_zero (h : base ≤ cap) : backoff base cap 0 = base := by
  rw [backoff, Nat.pow_zero, Nat.mul_one, Nat.min_eq_left h]

theorem backoff_double (k : Nat) : min (backoff base cap k * 2) cap = backoff base cap (k + 1) := by
  have hpow : base * 2 ^ (k + 1) = base * 2 ^ k * 2 := by rw [Nat.pow_succ, Nat.mul_assoc]
  simp only [backoff, hpow]
  omega

/-- A delay that has been doubled is not the base. -/
theorem base_lt_backoff (hbase : 0 < base) (h : base < cap) (k : Nat) :
    base < backoff base cap (k + 1) := by
  have hle : base * 2 ≤ base * 2 ^ (k + 1) :=
    Nat.mul_le_mul_left base (Nat.le_self_pow (Nat.succ_ne_zero k) 2)
  simp only [backoff]
  omega

/-! ## Five seconds, doubled -/

/-- The delay after `k + 1` failures in a row, for the cap of a task. -/
def retryDelay (cap k : Nat) : Nat := backoff 5 cap k

theorem retryDelay_zero (h : 5 ≤ cap) : retryDelay cap 0 = 5 := backoff_zero h

theorem retryDelay_double (k : Nat) : min (retryDelay cap k * 2) cap = retryDelay cap (k + 1) :=
  backoff_double k

theorem retryDelay_lt (h : 5 < cap) (k : Nat) : 5 < retryDelay cap (k + 1) :=
  base_lt_backoff (by decide) h k

end Lib
end Rtpigate
