/-
Exact arithmetic and its text.

Over the rationals the operations are those of mathematics, and nothing rounds but
where the program asks for it.  A number in digits reads back as that number, a rational
when its decimal expansion ends within the places written.
-/
import Rtpigate.Num

namespace Rtpigate

/-! ## Operations -/

namespace Exact

@[simp] theorem le_eq (a b : ℚ) : F64.le a b = decide (a ≤ b) := rfl

@[simp] theorem lt_eq (a b : ℚ) : F64.lt a b = decide (a < b) := rfl

@[simp] theorem abs_eq (a : ℚ) : F64.abs a = |a| := by
  show (if a < 0 then -a else a) = |a|
  split
  · next h => exact (abs_of_neg h).symm
  · next h => exact (abs_of_nonneg (not_lt.mp h)).symm

@[simp] theorem floor_eq (a : ℚ) : F64.floor a = (⌊a⌋ : ℚ) := rfl

@[simp] theorem ceil_eq (a : ℚ) : F64.ceil a = (⌈a⌉ : ℚ) := by
  show (a.ceil : ℚ) = (⌈a⌉ : ℚ)
  rw [Rat.ceil_eq_neg_floor_neg]
  rfl

@[simp] theorem max_eq (a b : ℚ) : F64.max a b = max a b := rfl

@[simp] theorem min_eq (a b : ℚ) : F64.min a b = min a b := rfl

@[simp] theorem toNat_eq (a : ℚ) : F64.toNat a = ⌊a⌋.toNat := rfl

theorem toInt_intCast (n : ℤ) : F64.toInt (n : ℚ) = n := by
  show (if (n : ℚ) < 0 then (n : ℚ).ceil else (n : ℚ).floor) = n
  rw [Rat.ceil_intCast, Rat.floor_intCast, ite_self]

theorem round_near (a : ℚ) : ∃ k : ℤ, F64.round a = (k : ℚ) ∧ |(k : ℚ) - a| ≤ 1 / 2 := by
  show ∃ k : ℤ, (if a < 0 then -(⌊-a + 1 / 2⌋ : ℚ) else (⌊a + 1 / 2⌋ : ℚ)) = k ∧ _
  by_cases hneg : a < 0
  · refine ⟨-⌊-a + 1 / 2⌋, by rw [if_pos hneg, Int.cast_neg], ?_⟩
    have hlo := Int.floor_le (-a + 1 / 2)
    have hhi := Int.lt_floor_add_one (-a + 1 / 2)
    rw [Int.cast_neg, abs_le]
    constructor <;> linarith
  · refine ⟨⌊a + 1 / 2⌋, by rw [if_neg hneg], ?_⟩
    have hlo := Int.floor_le (a + 1 / 2)
    have hhi := Int.lt_floor_add_one (a + 1 / 2)
    rw [abs_le]
    constructor <;> linarith

/-- The nearest integer to an integer. -/
theorem round_intCast (n : ℤ) : F64.round (n : ℚ) = (n : ℚ) := by
  obtain ⟨k, hk, hnear⟩ := round_near (n : ℚ)
  rw [hk]
  have hlt : |k - n| < 1 := by
    have : ((|k - n| : ℤ) : ℚ) ≤ 1 / 2 := by
      rw [Int.cast_abs, Int.cast_sub]
      exact hnear
    have hlt : ((|k - n| : ℤ) : ℚ) < ((1 : ℤ) : ℚ) := by
      rw [Int.cast_one]
      linarith
    exact Int.cast_lt.mp hlt
  have heq : k = n := by
    have := Int.abs_lt_one_iff.mp hlt
    omega
  rw [heq]

end Exact

/-! ## Reading -/

def readNat (cs : List Char) : Option Nat :=
  if cs ≠ [] ∧ ∀ c ∈ cs, c.isDigit then some (Nat.ofDigitChars 10 cs 0) else none

/-- A whole number, and digits behind a point if there is one. -/
def readMagnitude (cs : List Char) : Option ℚ :=
  match readNat (cs.takeWhile (· ≠ '.')), cs.dropWhile (· ≠ '.') with
  | some whole, [] => some (whole : ℚ)
  | some whole, _ :: digits =>
    (readNat digits).map fun (n : Nat) => (whole : ℚ) + (n : ℚ) / 10 ^ digits.length
  | none, _ => none

def readRat (cs : List Char) : Option ℚ :=
  match cs with
  | '-' :: rest => (readMagnitude rest).map fun q => -q
  | _ => readMagnitude cs

/-! ## Whole numbers -/

theorem natPad_toList (width n : Nat) :
    (natPad width n).toList =
      List.replicate (width - (Nat.toDigits 10 n).length) '0' ++ Nat.toDigits 10 n := by
  rw [natPad, zeroPad, String.toList_ofList, Nat.toList_repr, List.leftpad]

theorem isDigit_of_mem_natPad {width n : Nat} {c : Char} (h : c ∈ (natPad width n).toList) :
    c.isDigit = true := by
  rw [natPad_toList] at h
  rcases List.mem_append.mp h with h | h
  · rw [List.eq_of_mem_replicate h]
    rfl
  · exact Nat.isDigit_of_mem_toDigits (by omega) (by omega) h

theorem length_natPad {width n : Nat} (hw : 0 < width) (h : n < 10 ^ width) :
    (natPad width n).toList.length = width := by
  have hlen := (Nat.length_toDigits_le_iff (b := 10) (by omega) hw).mpr h
  rw [natPad_toList, List.length_append, List.length_replicate]
  omega

theorem readNat_natPad (width n : Nat) : readNat (natPad width n).toList = some n := by
  have hne : (natPad width n).toList ≠ [] := by
    rw [natPad_toList]
    exact List.append_ne_nil_of_right_ne_nil _ Nat.toDigits_ne_nil
  rw [readNat, if_pos ⟨hne, fun c hc => isDigit_of_mem_natPad hc⟩, natPad_toList,
    Nat.ofDigitChars_append, Nat.ofDigitChars_replicate_zero, Nat.mul_zero,
    Nat.ofDigitChars_ten_toDigits]

theorem readNat_repr (n : Nat) : readNat (Nat.repr n).toList = some n := by
  have hdigits : ∀ c ∈ Nat.toDigits 10 n, c.isDigit = true :=
    fun c hc => Nat.isDigit_of_mem_toDigits (by omega) (by omega) hc
  rw [Nat.toList_repr, readNat, if_pos ⟨Nat.toDigits_ne_nil, hdigits⟩,
    Nat.ofDigitChars_ten_toDigits]

/-! ## Rationals -/

open Exact

theorem isDigit_of_mem_fractionDigits {den : Nat} (hden : 0 < den) :
    ∀ {fuel num : Nat} {c : Char}, num < den → c ∈ fractionDigits den fuel num →
      c.isDigit = true
  | 0, _, _, _, h => by cases h
  | _ + 1, 0, _, _, h => by cases h
  | fuel + 1, num + 1, c, hlt, h => by
    rw [fractionDigits] at h
    rcases List.mem_cons.mp h with rfl | h
    · have hdigit : (num + 1) * 10 / den < 10 := by
        rw [Nat.div_lt_iff_lt_mul hden]
        omega
      rw [Nat.isDigit_digitChar]
      exact decide_eq_true hdigit
    · exact isDigit_of_mem_fractionDigits hden (Nat.mod_lt _ hden) h

/-- The digits of a fraction that ends within them. -/
theorem ofDigitChars_fractionDigits {den : Nat} (hden : 0 < den) :
    ∀ {fuel num : Nat}, num < den → den ∣ num * 10 ^ fuel →
      Nat.ofDigitChars 10 (fractionDigits den fuel num) 0 * den =
        num * 10 ^ (fractionDigits den fuel num).length
  | 0, num, hlt, hdvd => by
    rw [pow_zero, mul_one] at hdvd
    rw [Nat.eq_zero_of_dvd_of_lt hdvd hlt, fractionDigits, Nat.ofDigitChars_nil, zero_mul, zero_mul]
  | fuel + 1, 0, _, _ => by
    simp [fractionDigits]
  | fuel + 1, num + 1, hlt, hdvd => by
    have hmod := Nat.div_add_mod ((num + 1) * 10) den
    have hdigit : (num + 1) * 10 / den < 10 := by
      rw [Nat.div_lt_iff_lt_mul hden]
      omega
    have hrest : den ∣ (num + 1) * 10 % den * 10 ^ fuel := by
      have hwhole : den ∣ (den * ((num + 1) * 10 / den) + (num + 1) * 10 % den) * 10 ^ fuel := by
        rw [hmod]
        have : (num + 1) * 10 * 10 ^ fuel = (num + 1) * 10 ^ (fuel + 1) := by ring
        rwa [this]
      rw [add_mul] at hwhole
      exact (Nat.dvd_add_right (Dvd.intro _ (mul_assoc _ _ _).symm)).mp hwhole
    have ih := ofDigitChars_fractionDigits hden (Nat.mod_lt ((num + 1) * 10) hden) hrest
    rw [fractionDigits, Nat.ofDigitChars_cons_digitChar_of_lt_ten hdigit,
      Nat.ofDigitChars_eq_ofDigitChars_zero, List.length_cons]
    generalize fractionDigits den fuel ((num + 1) * 10 % den) = ds at ih ⊢
    generalize (num + 1) * 10 / den = d at hmod hdigit ⊢
    generalize hr : (num + 1) * 10 % den = r at hmod ih ⊢
    rw [Nat.mul_zero, Nat.zero_add, add_mul, ih, pow_succ]
    calc 10 ^ ds.length * d * den + r * 10 ^ ds.length
        = (den * d + r) * 10 ^ ds.length := by ring
      _ = (num + 1) * (10 ^ ds.length * 10) := by rw [hmod]; ring

theorem fractionDigits_eq_nil_iff {den fuel num : Nat} :
    fractionDigits den fuel num = [] ↔ fuel = 0 ∨ num = 0 := by
  cases fuel <;> cases num <;> simp [fractionDigits]

theorem ne_point_of_mem_repr {n : Nat} {c : Char} (h : c ∈ (Nat.repr n).toList) : c ≠ '.' := by
  intro hpoint
  rw [Nat.toList_repr] at h
  have hdigit := Nat.isDigit_of_mem_toDigits (by omega) (by omega) h
  rw [hpoint] at hdigit
  exact absurd hdigit (by decide)

theorem readMagnitude_whole (n : Nat) : readMagnitude (Nat.repr n).toList = some (n : ℚ) := by
  have hwhole : ∀ c ∈ (Nat.repr n).toList, decide (c ≠ '.') = true :=
    fun c hc => decide_eq_true (ne_point_of_mem_repr hc)
  rw [readMagnitude, List.takeWhile_eq_self_iff.mpr hwhole,
    List.dropWhile_eq_nil_iff.mpr hwhole, readNat_repr]

theorem readMagnitude_point (n : Nat) {ds : List Char} (hne : ds ≠ [])
    (hdigits : ∀ c ∈ ds, c.isDigit = true) :
    readMagnitude ((Nat.repr n).toList ++ '.' :: ds) =
      some ((n : ℚ) + (Nat.ofDigitChars 10 ds 0 : ℕ) / 10 ^ ds.length) := by
  have hwhole : ∀ c ∈ (Nat.repr n).toList, decide (c ≠ '.') = true :=
    fun c hc => decide_eq_true (ne_point_of_mem_repr hc)
  have hread : readNat ds = some (Nat.ofDigitChars 10 ds 0) := if_pos ⟨hne, hdigits⟩
  rw [readMagnitude, List.takeWhile_append_of_pos hwhole, List.dropWhile_append_of_pos hwhole]
  simp only [ne_eq, not_true_eq_false, decide_false, List.takeWhile_cons, List.dropWhile_cons,
    Bool.false_eq_true, if_false, List.append_nil, readNat_repr, hread, Option.map_some]

theorem readMagnitude_display {den : Nat} (hden : 0 < den) (h : den ∣ 10 ^ 24) (m : Nat) :
    readMagnitude ((Nat.repr (m / den)).toList ++
        (if (fractionDigits den 24 (m % den)).isEmpty then ""
          else "." ++ String.ofList (fractionDigits den 24 (m % den))).toList) =
      some ((m : ℚ) / den) := by
  have hdenq : (den : ℚ) ≠ 0 := Nat.cast_ne_zero.mpr (by omega)
  have hdm : (den : ℚ) * (m / den : Nat) + (m % den : Nat) = m := by
    exact_mod_cast Nat.div_add_mod m den
  have hlt := Nat.mod_lt m hden
  have hvalue : Nat.ofDigitChars 10 (fractionDigits den 24 (m % den)) 0 * den =
      m % den * 10 ^ (fractionDigits den 24 (m % den)).length :=
    ofDigitChars_fractionDigits hden hlt (Dvd.dvd.mul_left h _)
  have hdigits : ∀ c ∈ fractionDigits den 24 (m % den), c.isDigit = true :=
    fun c hc => isDigit_of_mem_fractionDigits hden hlt hc
  have hempty : fractionDigits den 24 (m % den) = [] ↔ 24 = 0 ∨ m % den = 0 :=
    fractionDigits_eq_nil_iff
  generalize fractionDigits den 24 (m % den) = ds at hvalue hdigits hempty ⊢
  by_cases hds : ds = []
  · have hzero : m % den = 0 := (hempty.mp hds).resolve_left (by omega)
    rw [hds, List.isEmpty_nil, if_pos rfl, String.toList_empty, List.append_nil,
      readMagnitude_whole]
    rw [hzero, Nat.cast_zero, add_zero] at hdm
    rw [← hdm, mul_div_cancel_left₀ _ hdenq]
  · have hpow : (10 : ℚ) ^ ds.length ≠ 0 := by positivity
    have hpoint : (".").toList = ['.'] := by decide
    have hvalueq : (Nat.ofDigitChars 10 ds 0 : ℚ) * den = (m % den : Nat) * 10 ^ ds.length := by
      exact_mod_cast hvalue
    rw [if_neg (by rw [List.isEmpty_iff]; exact hds), String.toList_append, hpoint,
      List.singleton_append, String.toList_ofList, readMagnitude_point _ hds hdigits,
      Option.some.injEq, ← hdm, eq_div_iff hdenq, add_mul, div_mul_eq_mul_div, hvalueq,
      mul_div_cancel_right₀ _ hpow, mul_comm]

theorem natAbs_div_den (q : ℚ) : ((q.num.natAbs : ℚ) / q.den) = |q| := by
  conv_rhs => rw [← Rat.num_div_den q]
  rw [abs_div, Nat.cast_natAbs, Nat.abs_cast, Int.cast_abs]

/-- A rational with at most 24 decimal places reads back from its text. -/
theorem readRat_display {q : ℚ} (h : q.den ∣ 10 ^ 24) : readRat (display q).toList = some q := by
  have hmag := readMagnitude_display q.den_pos h q.num.natAbs
  rw [natAbs_div_den] at hmag
  rw [display, String.toList_append, String.toList_append, List.append_assoc]
  by_cases hneg : q < 0
  · have hminus : ("-").toList = ['-'] := by decide
    rw [if_pos hneg, hminus, List.singleton_append, readRat, hmag, abs_of_neg hneg,
      Option.map_some, neg_neg]
  · rw [if_neg hneg, String.toList_empty, List.nil_append]
    rw [abs_of_nonneg (not_lt.mp hneg)] at hmag
    rw [readRat]
    · exact hmag
    · intro rest heq
      have hd : ('-').isDigit = true := by
        have hne : Nat.toDigits 10 (q.num.natAbs / q.den) ≠ [] := Nat.toDigits_ne_nil
        have hdigits : ∀ c ∈ Nat.toDigits 10 (q.num.natAbs / q.den), c.isDigit = true :=
          fun c hc => Nat.isDigit_of_mem_toDigits (by omega) (by omega) hc
        rw [Nat.toList_repr] at heq
        obtain ⟨c, cs, hcs⟩ := List.exists_cons_of_ne_nil hne
        rw [hcs, List.cons_append, List.cons.injEq] at heq
        rw [← heq.1]
        exact hdigits c (by rw [hcs]; exact List.mem_cons_self)
      exact absurd hd (by decide)

/-- No comma stands in the text of a number. -/
theorem comma_not_mem_display (q : ℚ) : ',' ∉ (display q).toList := by
  intro h
  have hdigit : (',').isDigit = true → False := by decide
  rw [display, String.toList_append, String.toList_append, List.mem_append, List.mem_append] at h
  rcases h with (h | h) | h
  · split at h <;> simp at h
  · rw [Nat.toList_repr] at h
    exact hdigit (Nat.isDigit_of_mem_toDigits (by omega) (by omega) h)
  · split at h
    · simp at h
    · rw [String.toList_append, List.mem_append] at h
      rcases h with h | h
      · simp at h
      · rw [String.toList_ofList] at h
        exact hdigit (isDigit_of_mem_fractionDigits q.den_pos (Nat.mod_lt _ q.den_pos) h)

end Rtpigate
