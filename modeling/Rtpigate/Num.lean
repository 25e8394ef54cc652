/-
The floating-point operations of the program.

The definitions that compute with `f64` values are generic in the number type and
use these operations only.  IEEE doubles are one instance and the rationals, where
nothing rounds, another.  No law is asked of the operations, so what is proved for
every instance holds of doubles too, NaN included.
-/
import Mathlib

namespace Rtpigate

/-- The operations on `f64`.  `f32` values are carried by the same type: the only modelled
conversions widen them, and every `f32` is an `f64` value. -/
class F64 (F : Type) extends Add F, Sub F, Mul F, Div F, Neg F, NatCast F, OfScientific F,
    BEq F where
  lt : F → F → Bool
  le : F → F → Bool
  abs : F → F
  floor : F → F
  ceil : F → F
  /-- Nearest integer, halves away from zero. -/
  round : F → F
  max : F → F → F
  min : F → F → F
  /-- The cast to an unsigned integer: truncates, and negative values give 0. -/
  toNat : F → Nat
  /-- The cast to a signed integer: truncates towards zero. -/
  toInt : F → Int
  /-- The text of `{}`. -/
  display : F → String
  /-- The text of `{:.0}`: nearest integer, halves to even. -/
  display0 : F → String

class Display3 (F : Type) where
  /-- The text of `{:.3}`. -/
  display3 : F → String

/-- The largest `u8`, `u32` and `u64`, where casts and saturating additions
stop. -/
def u8Max : Nat := 2 ^ 8 - 1
def u32Max : Nat := 2 ^ 32 - 1
def u64Max : Nat := 2 ^ 64 - 1

def zeroPad (width : Nat) (s : String) : String :=
  String.ofList (s.toList.leftpad width '0')

def natPad (width n : Nat) : String := zeroPad width (Nat.repr n)

def blankPad (width : Nat) (s : String) : String :=
  String.ofList (s.toList.rightpad width ' ')

namespace Exact

def fractionDigits (den : Nat) : Nat → Nat → List Char
  | 0, _ => []
  | _, 0 => []
  | fuel + 1, num + 1 =>
    Nat.digitChar ((num + 1) * 10 / den) :: fractionDigits den fuel ((num + 1) * 10 % den)

/-- Decimal text of a rational, to 24 places. -/
def display (q : ℚ) : String :=
  let magnitude := q.num.natAbs / q.den
  let digits := fractionDigits q.den 24 (q.num.natAbs % q.den)
  (if q < 0 then "-" else "") ++ Nat.repr magnitude ++
    (if digits.isEmpty then "" else "." ++ String.ofList digits)

/-- Nearest integer to a rational, halves to even. -/
def halfEven (q : ℚ) : Int :=
  let lower := q.floor
  if q - lower < 1 / 2 then lower
  else if 1 / 2 < q - lower then lower + 1
  else if lower % 2 = 0 then lower else lower + 1

instance : F64 ℚ where
  lt a b := decide (a < b)
  le a b := decide (a ≤ b)
  abs a := if a < 0 then -a else a
  floor a := a.floor
  ceil a := a.ceil
  round a := if a < 0 then -((-a + 1 / 2).floor : ℚ) else (a + 1 / 2).floor
  max a b := if a ≤ b then b else a
  min a b := if a ≤ b then a else b
  toNat a := a.floor.toNat
  toInt a := if a < 0 then a.ceil else a.floor
  display := display
  display0 a := toString (halfEven a)

instance : Display3 ℚ where
  display3 a :=
    let thousandths := (halfEven ((if a < 0 then -a else a) * 1000)).toNat
    (if a < 0 then "-" else "") ++ Nat.repr (thousandths / 1000) ++ "." ++
      natPad 3 (thousandths % 1000)

end Exact

end Rtpigate
