/-
One axis of a beacon.

The magnitude is split into degrees, hundredths of minutes and a rest, which the token
takes up to the last unit of its mode.  A nudge before the truncation may put the
hundredths past the true ones, and then there is no rest.
-/
import Rtpigate.Beacon
import Rtpigate.Exact

namespace Rtpigate

open Exact

/-! ## One axis -/

/-- The minutes above the whole degrees. -/
def degreeMinutes (x : ℚ) : ℚ := Int.fract |x| * 60

theorem degreeMinutes_nonneg (x : ℚ) : 0 ≤ degreeMinutes x := by
  have := Int.fract_nonneg |x|
  unfold degreeMinutes
  linarith

theorem degreeMinutes_lt (x : ℚ) : degreeMinutes x < 60 := by
  have := Int.fract_lt_one |x|
  unfold degreeMinutes
  linarith

theorem natCast_toNat_floor {x : ℚ} (h : 0 ≤ x) : ((⌊x⌋.toNat : Nat) : ℚ) = (⌊x⌋ : ℚ) := by
  have hz : ((⌊x⌋.toNat : Nat) : ℤ) = ⌊x⌋ := Int.toNat_of_nonneg (Int.floor_nonneg.mpr h)
  exact_mod_cast congrArg (Int.cast : ℤ → ℚ) hz

theorem axisParts_deg (x : ℚ) : (axisParts x).deg = ⌊|x|⌋.toNat := by
  rw [axisParts, abs_eq, toNat_eq]

/-- Degrees and minutes of the magnitude. -/
theorem abs_mul_sixty (x : ℚ) : |x| * 60 = (axisParts x).deg * 60 + degreeMinutes x := by
  rw [axisParts_deg, natCast_toNat_floor (abs_nonneg x), degreeMinutes, Int.fract]
  ring

theorem axisParts_hund (x : ℚ) :
    (axisParts x).hund = ⌊degreeMinutes x * 100 + 1e-6⌋.toNat := by
  have hm : (|x| - ((axisParts x).deg : ℚ)) * 60.0 = degreeMinutes x := by
    have := abs_mul_sixty x
    norm_num
    linarith
  rw [axisParts_deg] at hm
  simp only [axisParts, abs_eq, toNat_eq, floor_eq, Int.floor_intCast]
  rw [hm]
  norm_num

theorem axisParts_rem (x : ℚ) :
    (axisParts x).rem = max (degreeMinutes x - (axisParts x).hund / 100) 0 := by
  have hm : (|x| - ((axisParts x).deg : ℚ)) * 60.0 = degreeMinutes x := by
    have := abs_mul_sixty x
    norm_num
    linarith
  rw [axisParts_deg] at hm
  show F64.max ((F64.abs x - ((F64.toNat (F64.abs x) : Nat) : ℚ)) * 60.0 -
    ((axisParts x).hund : ℚ) / 100.0) 0.0 = _
  rw [abs_eq, toNat_eq, hm, max_eq]
  norm_num

/-- The hundredths written are the minutes nudged and truncated. -/
theorem hund_bounds (x : ℚ) :
    ((axisParts x).hund : ℚ) ≤ degreeMinutes x * 100 + 1e-6 ∧
      degreeMinutes x * 100 + 1e-6 < (axisParts x).hund + 1 := by
  have hnonneg : 0 ≤ degreeMinutes x * 100 + 1e-6 := by
    have := degreeMinutes_nonneg x
    norm_num
    linarith
  rw [axisParts_hund, natCast_toNat_floor hnonneg]
  exact ⟨Int.floor_le _, Int.lt_floor_add_one _⟩

theorem hund_le (x : ℚ) : (axisParts x).hund ≤ 6000 := by
  have hlt := degreeMinutes_lt x
  have hle : ((axisParts x).hund : ℚ) < 6001 := by
    have := (hund_bounds x).1
    norm_num at this
    linarith
  have : (axisParts x).hund < 6001 := by exact_mod_cast hle
  omega

/-- The nudge does not complete the degree. -/
theorem hund_lt_iff (x : ℚ) : (axisParts x).hund < 6000 ↔ degreeMinutes x + 1e-8 < 60 := by
  obtain ⟨hlo, hhi⟩ := hund_bounds x
  constructor
  · intro h
    have : ((axisParts x).hund : ℚ) + 1 ≤ 6000 := by exact_mod_cast h
    norm_num at hhi ⊢
    linarith
  · intro h
    have : ((axisParts x).hund : ℚ) < 6000 := by
      norm_num at hlo h
      linarith
    exact_mod_cast this

/-- What is left over behind the hundredths is the true rest, or nothing where the nudge
has gone past it. -/
theorem rem_cases (x : ℚ) :
    (axisParts x).rem < 1 / 100 ∧
      (0 ≤ (axisParts x).rem ∧
          (axisParts x).hund / 100 + (axisParts x).rem = degreeMinutes x ∨
        (axisParts x).rem = 0 ∧ degreeMinutes x < (axisParts x).hund / 100 ∧
          (axisParts x).hund / 100 ≤ degreeMinutes x + 1e-8) := by
  obtain ⟨hlo, hhi⟩ := hund_bounds x
  norm_num at hlo hhi
  rw [axisParts_rem]
  by_cases hpast : degreeMinutes x < (axisParts x).hund / 100
  · have hzero : max (degreeMinutes x - (axisParts x).hund / 100) 0 = (0 : ℚ) :=
      max_eq_right (by linarith)
    rw [hzero]
    refine ⟨by norm_num, Or.inr ⟨rfl, hpast, ?_⟩⟩
    norm_num
    linarith
  · have hrest : 0 ≤ degreeMinutes x - (axisParts x).hund / 100 := by linarith
    rw [max_eq_left hrest]
    exact ⟨by linarith, Or.inl ⟨hrest, by ring⟩⟩

/-! ## Digits behind the hundredths -/

/-- What a character of the token adds, in minutes. -/
def daoMinutes (dao : DaoMode) (c : Char) : ℚ :=
  match dao with
  | .off => 0
  | .human => ((c.toNat - '0'.toNat : Nat) : ℚ) / 1000
  | .base91 => ((c.toNat - 33 : Nat) : ℚ) / 91 / 100

/-- The last unit of a mode, in minutes. -/
def daoUnit (dao : DaoMode) : ℚ :=
  match dao with
  | .off => 1 / 100
  | .human => 1 / 1000
  | .base91 => 1 / 100 / 91

/-- The character of an axis in the token. -/
def daoChar (dao : DaoMode) (rem : ℚ) : Char :=
  match dao with
  | .off => ' '
  | .human => Nat.digitChar (daoDigit rem)
  | .base91 => base91DaoChar rem

/-- The digit stops at nine, which no remainder below a hundredth needs. -/
theorem daoDigit_bounds {rem : ℚ} (h : 0 ≤ rem) (hlt : rem < 1 / 100) :
    daoDigit rem < 10 ∧ (daoDigit rem : ℚ) ≤ rem * 1000 + 1e-6 ∧
      rem * 1000 < daoDigit rem + 1 := by
  have hfloor : 0 ≤ ⌊rem * 1000.0 + 1e-6⌋ := by
    refine Int.floor_nonneg.mpr ?_
    norm_num
    linarith
  have hlo := Int.floor_le (rem * 1000.0 + 1e-6)
  have hhi := Int.lt_floor_add_one (rem * 1000.0 + 1e-6)
  have hscale : rem * 1000.0 = rem * 1000 := by norm_num
  have hdigit : (daoDigit rem : ℤ) = min ⌊rem * 1000.0 + 1e-6⌋ 9 := by
    have hnine : (9.0 : ℚ) = ((9 : ℤ) : ℚ) := by norm_num
    have hu8 : u8Max = 255 := rfl
    unfold daoDigit
    rw [floor_eq, min_eq, toNat_eq, hnine, ← Int.cast_min, Int.floor_intCast]
    omega
  generalize ⌊rem * 1000.0 + 1e-6⌋ = k at hfloor hlo hhi hdigit
  rw [hscale] at hlo hhi
  have hcast : (daoDigit rem : ℚ) = ((daoDigit rem : ℤ) : ℚ) := by norm_cast
  refine ⟨by omega, ?_⟩
  rw [hcast]
  rcases le_total k 9 with hle | hle
  · rw [hdigit, min_eq_left hle]
    norm_num at hlo hhi ⊢
    exact ⟨hlo, by linarith⟩
  · have hnine : (9 : ℚ) ≤ k := by exact_mod_cast hle
    rw [hdigit, min_eq_right hle]
    norm_num at hlo ⊢
    constructor <;> linarith

theorem daoMinutes_human {rem : ℚ} (h : 0 ≤ rem) (hlt : rem < 1 / 100) :
    -1e-8 ≤ rem - daoMinutes .human (daoChar .human rem) ∧
      rem - daoMinutes .human (daoChar .human rem) < daoUnit .human := by
  obtain ⟨hten, hlo, hhi⟩ := daoDigit_bounds h hlt
  have hchar : ∀ d < 10, (Nat.digitChar d).toNat - '0'.toNat = d := by decide
  rw [daoMinutes, daoChar, hchar _ hten, daoUnit]
  norm_num at hlo ⊢
  constructor <;> linarith

theorem base91DaoChar_toNat {rem : ℚ} (h : 0 ≤ rem) (hlt : rem < 1 / 100) :
    (((base91DaoChar rem).toNat - 33 : Nat) : ℤ) = ⌊rem / 0.01 * 91.0⌋ := by
  have hnonneg : 0 ≤ ⌊rem / 0.01 * 91.0⌋ := by
    refine Int.floor_nonneg.mpr ?_
    norm_num
    linarith
  have hle : ⌊rem / 0.01 * 91.0⌋ < 91 := by
    refine Int.floor_lt.mpr ?_
    norm_num
    linarith
  have hvalid : (33 + ⌊rem / 0.01 * 91.0⌋.toNat).isValidChar := Or.inl (by omega)
  have hclamp : (max 0 (min ⌊rem / 0.01 * 91.0⌋ 90)).toNat = ⌊rem / 0.01 * 91.0⌋.toNat := by omega
  unfold base91DaoChar
  simp only [floor_eq, toInt_intCast, hclamp]
  rw [Char.toNat_ofNat, if_pos hvalid]
  omega

theorem daoMinutes_base91 {rem : ℚ} (h : 0 ≤ rem) (hlt : rem < 1 / 100) :
    0 ≤ rem - daoMinutes .base91 (daoChar .base91 rem) ∧
      rem - daoMinutes .base91 (daoChar .base91 rem) < daoUnit .base91 := by
  have hchar : (((base91DaoChar rem).toNat - 33 : Nat) : ℚ) = (⌊rem / 0.01 * 91.0⌋ : ℚ) := by
    exact_mod_cast congrArg (Int.cast : ℤ → ℚ) (base91DaoChar_toNat h hlt)
  have hscale : rem / 0.01 * 91.0 = rem * 9100 := by
    norm_num
    ring
  have hlo := Int.floor_le (rem * 9100)
  have hhi := Int.lt_floor_add_one (rem * 9100)
  rw [daoMinutes, daoChar, hchar, hscale, daoUnit]
  constructor <;> linarith

/-- What the token leaves out of the remainder. -/
theorem daoMinutes_bounds (dao : DaoMode) {rem : ℚ} (h : 0 ≤ rem) (hlt : rem < 1 / 100) :
    -1e-8 ≤ rem - daoMinutes dao (daoChar dao rem) ∧
      rem - daoMinutes dao (daoChar dao rem) < daoUnit dao := by
  cases dao with
  | off =>
    rw [daoMinutes, daoUnit, sub_zero]
    norm_num
    constructor <;> linarith
  | human => exact daoMinutes_human h hlt
  | base91 =>
    obtain ⟨hlo, hhi⟩ := daoMinutes_base91 h hlt
    refine ⟨?_, hhi⟩
    norm_num
    linarith

/-- A remainder of nothing adds nothing. -/
theorem daoMinutes_zero (dao : DaoMode) : daoMinutes dao (daoChar dao 0) = 0 := by
  cases dao with
  | off => rfl
  | human =>
    obtain ⟨-, hlo, -⟩ := daoDigit_bounds (le_refl (0 : ℚ)) (by norm_num)
    have hlt : (daoDigit (0 : ℚ) : ℚ) < 1 := by
      norm_num at hlo
      linarith
    have hzero : daoDigit (0 : ℚ) = 0 := by
      have : daoDigit (0 : ℚ) < 1 := by exact_mod_cast hlt
      omega
    have hchar : (Nat.digitChar 0).toNat - '0'.toNat = 0 := rfl
    rw [daoMinutes, daoChar, hzero, hchar, Nat.cast_zero, zero_div]
  | base91 =>
    have hchar := base91DaoChar_toNat (le_refl (0 : ℚ)) (by norm_num)
    rw [zero_div, zero_mul, Int.floor_zero] at hchar
    rw [daoMinutes, daoChar, Int.natCast_eq_zero.mp hchar, Nat.cast_zero, zero_div, zero_div]

end Rtpigate
