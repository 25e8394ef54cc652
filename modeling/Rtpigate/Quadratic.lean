/-
The quadratic form over the rationals.

A value is split into multiples of 128² and of 128 and a rest, or for a small value into
its whole part and a rest, and the rest is rounded to six decimals.  The raw value is
unsigned, so that a small value whose whole part is negative is lost.
-/
import Rtpigate.Exact
import Rtpigate.Telemetry

namespace Rtpigate

open Exact

/-- What a receiver computes from the coefficients and the raw value. -/
def APRSQuadratic.value (q : APRSQuadratic ℚ) : ℚ := q.a * q.x ^ 2 + q.b * q.x + q.c

/-- How far off a value may be that is rounded to six decimals. -/
def halfMicro : ℚ := 5 / 10000000

/-! ## Rounding -/

theorem round6_near (v : ℚ) : |round6 v - v| ≤ halfMicro := by
  obtain ⟨k, hk, hnear⟩ := round_near (v * 1000000.0)
  rw [round6, hk, halfMicro]
  rw [abs_le] at hnear ⊢
  have hscale : (1000000.0 : ℚ) = 1000000 := by norm_num
  rw [hscale] at hnear ⊢
  constructor
  · rw [le_sub_iff_add_le, le_div_iff₀ (by norm_num)]
    linarith [hnear.1]
  · rw [sub_le_iff_le_add, div_le_iff₀ (by norm_num)]
    linarith [hnear.2]

theorem round6_intCast (n : ℤ) : round6 (n : ℚ) = n := by
  have hscale : (n : ℚ) * 1000000.0 = ((n * 1000000 : ℤ) : ℚ) := by
    push_cast
    norm_num
  rw [round6, hscale, round_intCast]
  push_cast
  norm_num

/-- A rounded value has six decimals. -/
theorem round6_den (v : ℚ) : (round6 v).den ∣ 10 ^ 24 := by
  obtain ⟨k, hk, -⟩ := round_near (v * 1000000.0)
  have hform : round6 v = ((k : ℤ) : ℚ) / ((1000000 : ℤ) : ℚ) := by
    rw [round6, hk]
    norm_num
  have hdvd : ((round6 v).den : ℤ) ∣ 1000000 := by
    rw [hform, ← Rat.divInt_eq_div]
    exact Rat.den_dvd k 1000000
  have hnat : (round6 v).den ∣ 1000000 := by exact_mod_cast hdvd
  exact hnat.trans (by norm_num)

/-! ## Large values -/

theorem asU32_intCast {n : ℤ} (h : n ≤ u32Max) : asU32 (n : ℚ) = n.toNat := by
  rw [asU32, toNat_eq, Int.floor_intCast]
  omega

theorem isSmall_iff (v : ℚ) :
    (F64.le (-255.0) v && F64.le v 255.0) = true ↔ -255 ≤ v ∧ v ≤ 255 := by
  have hbound : (255.0 : ℚ) = 255 := by norm_num
  rw [le_eq, le_eq, Bool.and_eq_true, decide_eq_true_eq, decide_eq_true_eq, hbound]

/-- Every value outside the small range is a multiple of 128², a multiple of 128 and a
rest. -/
theorem ofValue_large {v : ℚ} (h : ¬ (-255 ≤ v ∧ v ≤ 255)) :
    ∃ a b : ℤ, APRSQuadratic.ofValue v =
      { a := a, b := b, c := round6 (v - a * 128 * 128 - b * 128), x := 128 } := by
  have hx : (128.0 : ℚ) = 128 := by norm_num
  have hraw : asU32 (128 : ℚ) = 128 := asU32_intCast (n := 128) (by decide)
  rw [APRSQuadratic.ofValue, if_neg (by rw [isSmall_iff]; exact h)]
  by_cases hpos : F64.lt 0.0 v = true
  · refine ⟨⌊v / (128.0 * 128.0)⌋, ⌊(v - ⌊v / (128.0 * 128.0)⌋ * 128.0 * 128.0) / 128.0⌋, ?_⟩
    simp only [hpos, if_true, floor_eq, round6_intCast, hx, hraw]
  · refine ⟨⌈v / (128.0 * 128.0)⌉, ⌈(v - ⌈v / (128.0 * 128.0)⌉ * 128.0 * 128.0) / 128.0⌉, ?_⟩
    simp only [hpos, if_false, ceil_eq, round6_intCast, hx, hraw, Bool.false_eq_true]

/-! ## Small values -/

theorem ofValue_nonneg {v : ℚ} (h : 0 ≤ v) (h' : v ≤ 255) :
    APRSQuadratic.ofValue v =
      { a := 0, b := 1, c := round6 (v - ⌊v⌋), x := ⌊v⌋.toNat } := by
  have hzero : (0.0 : ℚ) = 0 := by norm_num
  have hone : (1.0 : ℚ) = 1 := by norm_num
  have hfloor : ⌊v⌋ ≤ (u32Max : ℤ) := by
    have hle : ⌊v⌋ ≤ 255 := Int.floor_le_iff.mpr (by push_cast; linarith)
    exact hle.trans (by decide)
  rw [APRSQuadratic.ofValue, if_pos ((isSmall_iff v).mpr ⟨by linarith, h'⟩)]
  simp only [le_eq, hzero, hone, h, decide_true, if_true, floor_eq, asU32_intCast hfloor]

theorem ofValue_neg {v : ℚ} (h : -255 ≤ v) (h' : v < 0) :
    APRSQuadratic.ofValue v = { a := 0, b := 1, c := round6 (v - ⌈v⌉), x := 0 } := by
  have hzero : (0.0 : ℚ) = 0 := by norm_num
  have hone : (1.0 : ℚ) = 1 := by norm_num
  have hceil : ⌈v⌉ ≤ 0 := Int.ceil_le.mpr (by push_cast; exact h'.le)
  have hraw : asU32 (⌈v⌉ : ℚ) = 0 := by
    rw [asU32_intCast (hceil.trans (by decide))]
    omega
  rw [APRSQuadratic.ofValue, if_pos ((isSmall_iff v).mpr ⟨h, by linarith⟩)]
  simp only [le_eq, hzero, hone, not_le.mpr h', decide_false, Bool.false_eq_true, if_false, ceil_eq,
    hraw]

/-! ## Values -/

/-- A form whose last coefficient is rounded is off by what that loses. -/
theorem value_rounded_near {a b rest v : ℚ} {x : Nat} (h : a * x ^ 2 + b * x + rest = v) :
    |APRSQuadratic.value { a := a, b := b, c := round6 rest, x := x } - v| ≤ halfMicro := by
  have hvalue : APRSQuadratic.value { a := a, b := b, c := round6 rest, x := x } - v =
      round6 rest - rest := by
    rw [APRSQuadratic.value, ← h]
    ring
  rw [hvalue]
  exact round6_near rest

theorem value_ofValue_large {v : ℚ} (h : ¬ (-255 ≤ v ∧ v ≤ 255)) :
    (APRSQuadratic.ofValue v).x ≤ 255 ∧ |(APRSQuadratic.ofValue v).value - v| ≤ halfMicro := by
  obtain ⟨a, b, hq⟩ := ofValue_large h
  rw [hq]
  refine ⟨by show 128 ≤ 255; omega, value_rounded_near ?_⟩
  push_cast
  ring

theorem value_ofValue_nonneg {v : ℚ} (h : 0 ≤ v) (h' : v ≤ 255) :
    (APRSQuadratic.ofValue v).x ≤ 255 ∧ |(APRSQuadratic.ofValue v).value - v| ≤ halfMicro := by
  have hfloor : 0 ≤ ⌊v⌋ := Int.floor_nonneg.mpr h
  have hfloor' : ⌊v⌋ ≤ 255 := Int.floor_le_iff.mpr (by push_cast; linarith)
  have hcast : ((⌊v⌋.toNat : ℕ) : ℚ) = (⌊v⌋ : ℚ) := by
    exact_mod_cast Int.toNat_of_nonneg hfloor
  rw [ofValue_nonneg h h']
  refine ⟨by show ⌊v⌋.toNat ≤ 255; omega, value_rounded_near ?_⟩
  rw [hcast]
  ring

/-- The whole part of a negative small value is lost. -/
theorem value_ofValue_neg {v : ℚ} (h : -255 ≤ v) (h' : v < 0) :
    (APRSQuadratic.ofValue v).x ≤ 255 ∧
      |(APRSQuadratic.ofValue v).value - (v - ⌈v⌉)| ≤ halfMicro := by
  rw [ofValue_neg h h']
  refine ⟨by show 0 ≤ 255; omega, value_rounded_near ?_⟩
  push_cast
  ring

/-- What is off is what the rest loses in rounding, and for a negative small value the
whole part. -/
theorem value_ofValue (v : ℚ) :
    (APRSQuadratic.ofValue v).x ≤ 255 ∧
      ∃ lost : ℤ, |(APRSQuadratic.ofValue v).value - (v - lost)| ≤ halfMicro ∧
        (lost = 0 ↔ v < -255 ∨ -1 < v) := by
  have hwhole : v - ((0 : ℤ) : ℚ) = v := by rw [Int.cast_zero, sub_zero]
  by_cases hsmall : -255 ≤ v ∧ v ≤ 255
  case neg =>
    obtain ⟨hx, hnear⟩ := value_ofValue_large hsmall
    refine ⟨hx, 0, by rw [hwhole]; exact hnear, iff_of_true rfl ?_⟩
    by_contra hin
    rw [not_or, not_lt, not_lt] at hin
    exact hsmall ⟨hin.1, by linarith [hin.2]⟩
  obtain ⟨hlo, hhi⟩ := hsmall
  by_cases hneg : v < 0
  · obtain ⟨hx, hnear⟩ := value_ofValue_neg hlo hneg
    refine ⟨hx, ⌈v⌉, hnear, ?_⟩
    rw [Int.ceil_eq_iff]
    push_cast
    constructor
    · rintro ⟨h, -⟩
      exact Or.inr (by linarith)
    · rintro (h | h)
      · exact absurd h (not_lt.mpr hlo)
      · exact ⟨by linarith, hneg.le⟩
  · rw [not_lt] at hneg
    obtain ⟨hx, hnear⟩ := value_ofValue_nonneg hneg hhi
    exact ⟨hx, 0, by rw [hwhole]; exact hnear, iff_of_true rfl (Or.inr (by linarith))⟩

/-- Whole numbers lose nothing. -/
theorem value_ofValue_natCast (n : ℕ) : (APRSQuadratic.ofValue (n : ℚ)).value = n := by
  by_cases hsmall : (-255 : ℚ) ≤ n ∧ (n : ℚ) ≤ 255
  · have hrest : (n : ℚ) - ⌊(n : ℚ)⌋ = ((0 : ℤ) : ℚ) := by
      rw [Int.floor_natCast]
      push_cast
      ring
    rw [ofValue_nonneg (Nat.cast_nonneg n) hsmall.2, hrest, round6_intCast, Int.floor_natCast,
      Int.toNat_natCast, APRSQuadratic.value]
    push_cast
    ring
  · obtain ⟨a, b, hq⟩ := ofValue_large hsmall
    have hrest : (n : ℚ) - a * 128 * 128 - b * 128 = ((n - a * 128 * 128 - b * 128 : ℤ) : ℚ) := by
      push_cast
      ring
    rw [hq, hrest, round6_intCast, APRSQuadratic.value]
    push_cast
    ring

/-- The coefficients have six decimals. -/
theorem ofValue_den (v : ℚ) :
    (APRSQuadratic.ofValue v).a.den ∣ 10 ^ 24 ∧ (APRSQuadratic.ofValue v).b.den ∣ 10 ^ 24 ∧
      (APRSQuadratic.ofValue v).c.den ∣ 10 ^ 24 := by
  by_cases hsmall : -255 ≤ v ∧ v ≤ 255
  · by_cases hneg : v < 0
    · rw [ofValue_neg hsmall.1 hneg]
      exact ⟨one_dvd _, one_dvd _, round6_den _⟩
    · rw [ofValue_nonneg (not_lt.mp hneg) hsmall.2]
      exact ⟨one_dvd _, one_dvd _, round6_den _⟩
  · obtain ⟨a, b, hq⟩ := ofValue_large hsmall
    rw [hq]
    exact ⟨one_dvd _, one_dvd _, round6_den _⟩

/-- The quadratic form gives a value back unless it lies between -255 and -1. -/
theorem quadratic_represents_iff (v : ℚ) :
    ((APRSQuadratic.ofValue v).x ≤ 255 ∧ |(APRSQuadratic.ofValue v).value - v| ≤ 0.0000005) ↔
      v < -255 ∨ -1 < v := by
  obtain ⟨hx, lost, hnear, hlost⟩ := value_ofValue v
  have hmicro : halfMicro = 0.0000005 := by norm_num [halfMicro]
  rw [← hlost, ← hmicro]
  constructor
  · rintro ⟨-, hclose⟩
    have hsplit : (lost : ℚ) = ((APRSQuadratic.ofValue v).value - (v - lost)) -
        ((APRSQuadratic.ofValue v).value - v) := by ring
    have hdist : |(lost : ℚ)| ≤ halfMicro + halfMicro := by
      rw [hsplit]
      exact (abs_sub _ _).trans (add_le_add hnear hclose)
    have hlt : ((|lost| : ℤ) : ℚ) < ((1 : ℤ) : ℚ) := by
      rw [Int.cast_abs, Int.cast_one]
      exact hdist.trans_lt (by norm_num [halfMicro])
    exact Int.abs_lt_one_iff.mp (Int.cast_lt.mp hlt)
  · intro hzero
    rw [hzero, Int.cast_zero, sub_zero] at hnear
    exact ⟨hx, hnear⟩

/-- Minus two and a half loses its whole part. -/
theorem negative_value_lost :
    ¬ ((APRSQuadratic.ofValue (-2.5 : ℚ)).x ≤ 255 ∧
      |(APRSQuadratic.ofValue (-2.5 : ℚ)).value - (-2.5)| ≤ 0.0000005) := by
  rintro ⟨-, hclose⟩
  have hceil : ⌈(-2.5 : ℚ)⌉ = -2 := by norm_num
  have hnear := round6_near (-2.5 - ((-2 : ℤ) : ℚ))
  rw [ofValue_neg (by norm_num) (by norm_num), hceil, APRSQuadratic.value] at hclose
  rw [abs_le] at hnear hclose
  push_cast at hnear hclose
  have hmicro : halfMicro = 0.0000005 := by norm_num [halfMicro]
  rw [hmicro] at hnear
  linarith [hnear.1, hclose.2]

end Rtpigate
