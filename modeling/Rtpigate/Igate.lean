/-
The rules that keep a packet off APRS-IS.

`droppacket` tries them in a fixed order and names the first that applies.  Each
rule is a predicate of its own here, so that a packet passes exactly when none
holds, whatever the order.
-/
import Rtpigate.Packet

namespace Rtpigate

open Lib

inductive DropReason
  | stale
  | rfOnly
  | genericQuery
  | thirdPartyInternet
  | satelliteDirect
  | malformedField
  deriving DecidableEq, Repr

/-- A field with a CR or LF left once the trailing ones are cut off. -/
def hasEmbeddedTerminator (field : String) : Bool :=
  (utf8 (String.ofList (field.toList.rdropWhile isTerminatorChar))).any isTerminator

def toAsciiUppercase (s : String) : String := String.ofList (s.toList.map Char.toUpper)

/-- `info.get(1..).unwrap_or("")`: byte 1 is no character boundary when the first
character is longer than an octet. -/
def afterFirstByte (info : String) : String :=
  match info.toList with
  | [] => ""
  | c :: cs => if c.utf8Size = 1 then String.ofList cs else ""

def eqIgnoreAsciiCase (s t : String) : Bool :=
  s.toList.map Char.toLower == t.toList.map Char.toLower

def knownSats : List String := ["RS0ISS", "NA1SS", "DP0ISS", "OR4ISS", "IR0ISS", "DP0SNX"]

def ageThreshold : Nat := 30 * 10 ^ 9

namespace RTPPacket

variable {F : Type}

def malformed (p : RTPPacket F) : Bool :=
  [p.source, p.destination, p.path, p.info].any hasEmbeddedTerminator

def isStale (now : Nat) (p : RTPPacket F) : Bool := ageThreshold < now - p.receivedInstant

def isThirdPartyInternet (p : RTPPacket F) : Bool :=
  p.ptype == '}' &&
    (strContains (toAsciiUppercase (afterFirstByte p.info)) "TCPIP" ||
      strContains (toAsciiUppercase (afterFirstByte p.info)) "TCPXX")

def isSatelliteDirect (p : RTPPacket F) : Bool :=
  !p.wasDigipeated && p.isSatellite && !knownSats.any fun s => eqIgnoreAsciiCase s p.source

end RTPPacket

/-- The first rule that drops a packet, `none` when it is to be gated.  `now` is
the monotonic clock. -/
def droppacket {F : Type} (now : Nat) (p : RTPPacket F) : Option DropReason :=
  if p.malformed then some .malformedField
  else if p.isStale now then some .stale
  else if p.rfonly then some .rfOnly
  else if p.ptype == '?' then some .genericQuery
  else if p.isThirdPartyInternet then some .thirdPartyInternet
  else if p.isSatelliteDirect then some .satelliteDirect
  else none

section Rules

variable {F : Type} {p : RTPPacket F} {now : Nat}

theorem droppacket_eq_none_iff :
    droppacket now p = none ↔
      p.malformed = false ∧ p.isStale now = false ∧ p.rfonly = false ∧ p.ptype ≠ '?' ∧
        p.isThirdPartyInternet = false ∧ p.isSatelliteDirect = false := by
  unfold droppacket
  split_ifs <;> simp_all

theorem droppacket_eq_malformed_iff :
    droppacket now p = some .malformedField ↔ p.malformed = true := by
  unfold droppacket
  split_ifs <;> simp_all

theorem isStale_eq_false_iff : p.isStale now = false ↔ now ≤ p.receivedInstant + ageThreshold := by
  simp only [RTPPacket.isStale, decide_eq_false_iff_not]
  omega

theorem hasEmbeddedTerminator_eq_false_iff (field : String) :
    hasEmbeddedTerminator field = false ↔ Trailing isTerminatorChar field.toList := by
  rw [hasEmbeddedTerminator, (utf8_renders _).any_eq terminator_class, String.toList_ofList,
    any_rdropWhile_eq_false_iff]

theorem utf8_any_isTerminator (field : String) :
    (utf8 field).any isTerminator = field.toList.any isTerminatorChar :=
  (utf8_renders field).any_eq terminator_class

theorem malformed_eq_false_iff :
    p.malformed = false ↔
      Trailing isTerminatorChar p.source.toList ∧ Trailing isTerminatorChar p.destination.toList ∧
        Trailing isTerminatorChar p.path.toList ∧ Trailing isTerminatorChar p.info.toList := by
  simp only [RTPPacket.malformed, List.any_cons, List.any_nil, Bool.or_eq_false_iff,
    hasEmbeddedTerminator_eq_false_iff, Bool.or_false]

/-- A rule other than age holds of the packet. -/
def RTPPacket.RuledOut (p : RTPPacket F) : Prop :=
  p.malformed = true ∨ p.rfonly = true ∨ p.ptype = '?' ∨ p.isThirdPartyInternet = true ∨
    p.isSatelliteDirect = true

theorem droppacket_eq_none_iff_of_fresh (h : now ≤ p.receivedInstant + ageThreshold) :
    droppacket now p = none ↔ ¬ p.RuledOut := by
  rw [droppacket_eq_none_iff, isStale_eq_false_iff, RTPPacket.RuledOut]
  simp only [h, true_and, not_or, Bool.not_eq_true, ne_eq]

/-- The fields set for display do not matter. -/
theorem droppacket_display (igated : Bool) (twist : Option (TwistInfo F)) :
    droppacket now { p with igated := igated, twist := twist } = droppacket now p := by
  simp only [droppacket, RTPPacket.malformed, RTPPacket.isStale, RTPPacket.isThirdPartyInternet,
    RTPPacket.isSatelliteDirect]
  rfl

end Rules

end Rtpigate
