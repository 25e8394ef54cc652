/-
Telemetry reports.

A report is five lines: the values, the equations that recover the quantities from
them, their names, their units, and the digital bits.
-/
import Rtpigate.Config

namespace Rtpigate

/-- Coefficients and raw value with `a x² + b x + c` the quantity reported. -/
structure APRSQuadratic (F : Type) where
  a : F
  b : F
  c : F
  x : Nat
  deriving DecidableEq

structure AnalogItem (F : Type) where
  equation : APRSQuadratic F
  label : String
  units : String

structure Telemetry (F : Type) where
  telemetry : List (AnalogItem F)
  name : String
  sequence : UInt32

section Quadratic

variable {F : Type} [F64 F]

def round6 (v : F) : F := F64.round (v * 1000000.0) / 1000000.0

def asU32 (v : F) : Nat := min (F64.toNat v) u32Max

def APRSQuadratic.ofValue (v : F) : APRSQuadratic F :=
  if F64.le (-255.0) v && F64.le v 255.0 then
    let x := if F64.le 0.0 v then F64.floor v else F64.ceil v
    { a := 0.0, b := 1.0, c := round6 (v - x), x := asU32 x }
  else
    let x : F := 128.0
    let whole : F → F := if F64.lt 0.0 v then F64.floor else F64.ceil
    let a := whole (v / (x * x))
    let aRemainder := v - a * x * x
    let b := whole (aRemainder / x)
    let c := aRemainder - b * x
    { a := round6 a, b := round6 b, c := round6 c, x := asU32 x }

end Quadratic

/-! ## Report text -/

/-- The four lines `to_aprs` builds item by item, and its item counter. -/
structure ReportText where
  telem : String
  eqn : String
  parm : String
  unit : String
  i : Nat

namespace ReportText

variable {F : Type} [F64 F]

def addItem (r : ReportText) (item : AnalogItem F) : ReportText :=
  let separator := if r.i = 1 then "." else ","
  { telem := r.telem ++ "," ++ natPad 3 item.equation.x
    eqn := r.eqn ++ separator ++ F64.display item.equation.a ++ "," ++
      F64.display item.equation.b ++ "," ++ F64.display item.equation.c
    parm := r.parm ++ separator ++ item.label
    unit := r.unit ++ separator ++ item.units
    i := r.i + 1 }

/-- APRS allows five analog items, later ones are left out. -/
def addItems (r : ReportText) : List (AnalogItem F) → ReportText
  | [] => r
  | item :: rest => if 5 < r.i then r else (r.addItem item).addItems rest

def addZero (r : ReportText) : ReportText :=
  { r with telem := r.telem ++ ",000", eqn := r.eqn ++ ",0,0,0" }

/-- The padding loop over `i..5`. -/
def addZeros (r : ReportText) : Nat → ReportText
  | 0 => r
  | n + 1 => r.addZero.addZeros n

end ReportText

/-- The lines of a report: values, equations, names, units and bits. -/
def Telemetry.toAprs {F : Type} [F64 F] (t : Telemetry F) (callsign : String) :
    Except RtpigateError (List String) :=
  if t.telemetry.isEmpty then
    .error (.validation "No telemetry analog items defined")
  else
    let addressee := ":" ++ blankPad 9 callsign
    let start : ReportText := {
      telem := "T#" ++ Nat.repr t.sequence.toNat
      eqn := addressee ++ ":EQNS"
      parm := addressee ++ ":PARM"
      unit := addressee ++ ":UNIT"
      i := 1 }
    let items := start.addItems t.telemetry
    let padded := items.addZeros (5 - items.i)
    .ok [padded.telem ++ ",00000000," ++ t.name, padded.eqn, padded.parm, padded.unit,
      addressee ++ ":BITS.00000000," ++ t.name]

/-- A report with an item has five lines. -/
theorem toAprs_length {F : Type} [F64 F] {t : Telemetry F} (h : t.telemetry.isEmpty = false)
    (callsign : String) : ∃ lines, t.toAprs callsign = .ok lines ∧ lines.length = 5 := by
  unfold Telemetry.toAprs
  rw [h]
  exact ⟨_, rfl, rfl⟩

end Rtpigate
