/-
The internal packet, how a frame becomes one, and the line it is gated as.
-/
import Rtpigate.Frame
import Rtpigate.Lib.Lines

namespace Rtpigate

open Lib

structure TwistInfo (F : Type) where
  cols : Nat
  mask : UInt16
  zones : List UInt8
  centroidDb : F

/-- A packet.  Wall-clock times are nanoseconds since the epoch, monotonic ones
nanoseconds since an arbitrary start. -/
structure RTPPacket (F : Type) where
  receivetime : Int
  receivedInstant : Nat
  raw : String
  /-- The info field rendered as text, for display and duplicate detection. -/
  info : String
  /-- The info field as received, for gating. -/
  infoBytes : List UInt8
  path : String
  digipeaterPath : List String
  hops : Nat
  ptype : Char
  source : String
  destination : String
  heardDirect : Bool
  heardfrom : String
  wasDigipeated : Bool
  rfonly : Bool
  frequency : F
  isSatellite : Bool
  igated : Bool
  infoInvalidBytes : Nat
  objectName : Option String
  latitude : Option F
  longitude : Option F
  altitudeFt : Option F
  speedMph : Option F
  courseDeg : Option Nat
  snrDb : Option F
  slicerMask : UInt16
  twist : Option (TwistInfo F)

def strContains (s pat : String) : Bool := decide (pat.toList <:+: s.toList)

theorem strContains_iff (s pat : String) :
    strContains s pat = true ↔ pat.toList <:+: s.toList := by
  rw [strContains, decide_eq_true_eq]

namespace RTPPacket

variable {F : Type}

def forRxigate (p : RTPPacket F) (callsign : String) : String :=
  if p.path.isEmpty then
    p.source ++ ">" ++ p.destination ++ ",qAO," ++ callsign ++ ":" ++ p.info
  else
    p.source ++ ">" ++ p.destination ++ "," ++ p.path ++ ",qAO," ++ callsign ++ ":" ++ p.info

def rxigateHeader (p : RTPPacket F) (callsign : String) : String :=
  if p.path.isEmpty then
    p.source ++ ">" ++ p.destination ++ ",qAO," ++ callsign ++ ":"
  else
    p.source ++ ">" ++ p.destination ++ "," ++ p.path ++ ",qAO," ++ callsign ++ ":"

/-- The octets of the gated line, with the info field as received. -/
def forRxigateBytes (p : RTPPacket F) (callsign : String) : List UInt8 :=
  utf8 (p.rxigateHeader callsign) ++ p.infoBytes

end RTPPacket

/-! ## Mapping a frame -/

def excludedAddrs : List String := ["WIDE", "TCPIP", "NOGATE", "RFONLY", "SGATE"]

/-- Via addresses that keep a packet off the Internet. -/
def rfonlyAddrs : List String := ["TCPIP", "TCPXX", "RFONLY", "NOGATE"]

structure MapClock where
  wall : Int
  instant : Nat

/-- The cast of a `u64` to `i64`. -/
def u64AsI64 (n : Nat) : Int := if n < 2 ^ 63 then n else (n : Int) - 2 ^ 64

/-- `DateTime::from_timestamp_millis`: `none` outside the range of dates. -/
def fromTimestampMillis (ms : Int) : Option Int :=
  if -8334601228800 ≤ ms / 1000 ∧ ms / 1000 ≤ 8210266876799 then some (ms * 1000000) else none

structure MappedPacket (F : Type) where
  packet : RTPPacket F
  symbolTable : Option Char
  symbolCode : Option Char

structure Parsed (F : Type) where
  latitude : Option F := none
  longitude : Option F := none
  altitudeFt : Option F := none
  speedMph : Option F := none
  courseDeg : Option Nat := none
  objectName : Option String := none
  symbolTable : Option Char := none
  symbolCode : Option Char := none

section MapFrame

variable {F : Type} [F64 F]

def knotsToMph : F := 1.150779

/-- Speed in mph and course of a data extension; course 000 is unknown. -/
def courseSpeedFromExtension : Option Extension → Option F × Option Nat
  | some (.directionSpeed direction speed) =>
    (some ((speed : F) * knotsToMph), if direction = 0 then none else some direction)
  | _ => (none, none)

def Parsed.ofPosition (name : Option String) (pos : PositionData F) (ext : Option Extension) :
    Parsed F where
  latitude := some pos.latitude
  longitude := some pos.longitude
  altitudeFt := pos.altitudeFt
  speedMph := (courseSpeedFromExtension ext).1
  courseDeg := (courseSpeedFromExtension (F := F) ext).2
  objectName := name
  symbolTable := some pos.symbolTable
  symbolCode := some pos.symbolCode

def Parsed.ofData : AprsData F → Parsed F
  | .position pos ext => .ofPosition none pos ext
  | .micE mice => {
      latitude := some mice.latitude
      longitude := some mice.longitude
      altitudeFt := mice.altitudeM.map fun m => m * 3.28084
      speedMph := some ((mice.speedKnots : F) * knotsToMph)
      courseDeg := if mice.courseDegrees = 0 then none else some mice.courseDegrees
      symbolTable := some mice.symbolTable
      symbolCode := some mice.symbolCode }
  | .object name pos ext => .ofPosition (some (fromUtf8Lossy name)) pos ext
  | .item name pos ext => .ofPosition (some (fromUtf8Lossy name)) pos ext
  | .other => {}

/-- Frequency in MHz, from the radio metadata or else from the SSRC in kHz. -/
def frameFrequency (frame : AprsFrame F) : F :=
  match frame.rf.frequencyHz with
  | some hz => (hz : F) / 1000000.0
  | none =>
    match frame.capture.ssrc with
    | some s => (s : F) / 1000.0
    | none => 0.0

/-- Data type identifier: the producer's, or else the first character of the
text. -/
def framePtype (ax : Ax25Meta) (text : String) : Char :=
  match ax.dti with
  | some b => Char.ofNat b.toNat
  | none => text.toList.head?.getD '\x00'

def viaPath (ax : Ax25Meta) : String := ",".intercalate (ax.via.map fun h => h.call)

def frameRaw (frame : AprsFrame F) (ax : Ax25Meta) (text : String) : String :=
  match frame.parsed.bind fun p => p.textual with
  | some bytes => fromUtf8Lossy bytes
  | none =>
    if (viaPath ax).isEmpty then
      ax.source ++ ">" ++ ax.destination ++ ":" ++ text
    else
      ax.source ++ ">" ++ ax.destination ++ "," ++ viaPath ax ++ ":" ++ text

/-- Map a frame into a packet.  A frame without AX.25 facts is skipped.
`decodeTextual` is the payload decoder, asked only when the producer sent no
decoded payload. -/
def mapFrame (decodeTextual : List UInt8 → Option (DecodedPacket F)) (clock : MapClock)
    (frame : AprsFrame F) : Option (MappedPacket F) :=
  match frame.ax25Meta with
  | none => none
  | some ax =>
    let infoBytes := infoField frame ax
    let text := fromUtf8Lossy infoBytes
    let digipeaterPath := (ax.via.map fun h => h.call).filter fun s =>
      excludedAddrs.all fun x => !strContains s x
    let raw := frameRaw frame ax text
    let parsed : Parsed F :=
      match frame.parsed.or (decodeTextual (utf8 raw)) with
      | some p => .ofData p.data
      | none => {}
    some {
      packet := {
        receivetime := (fromTimestampMillis (u64AsI64 frame.capture.receivedAtMs)).getD clock.wall
        receivedInstant := clock.instant
        raw := raw
        info := text
        infoBytes := infoBytes
        path := viaPath ax
        digipeaterPath := digipeaterPath
        hops := digipeaterPath.length
        ptype := framePtype ax text
        source := ax.source
        destination := ax.destination
        heardDirect := ax.heardDirect
        heardfrom := ax.heardFrom
        wasDigipeated := ax.via.any fun h => h.heard
        rfonly := ax.via.any fun h => rfonlyAddrs.any fun x => strContains h.call x
        frequency := frameFrequency frame
        isSatellite := false
        igated := false
        infoInvalidBytes := ax.infoInvalidBytes
        objectName := parsed.objectName
        latitude := parsed.latitude
        longitude := parsed.longitude
        altitudeFt := parsed.altitudeFt
        speedMph := parsed.speedMph
        courseDeg := parsed.courseDeg
        snrDb := frame.rf.snrDb
        slicerMask := frame.rf.slicerMask.getD 0
        twist := none }
      symbolTable := parsed.symbolTable
      symbolCode := parsed.symbolCode }

theorem mapFrame_some {decodeTextual : List UInt8 → Option (DecodedPacket F)} {clock : MapClock}
    {frame : AprsFrame F} {mapped : MappedPacket F}
    (h : mapFrame decodeTextual clock frame = some mapped) :
    ∃ ax, frame.ax25Meta = some ax ∧
      mapped.packet.receivedInstant = clock.instant ∧
      mapped.packet.source = ax.source ∧
      mapped.packet.infoBytes = infoField frame ax ∧
      mapped.packet.info = fromUtf8Lossy (infoField frame ax) ∧
      mapped.packet.ptype = framePtype ax (fromUtf8Lossy (infoField frame ax)) ∧
      mapped.packet.wasDigipeated = (ax.via.any fun h => h.heard) ∧
      mapped.packet.rfonly =
        (ax.via.any fun h => rfonlyAddrs.any fun x => strContains h.call x) ∧
      mapped.packet.frequency = frameFrequency frame := by
  rw [mapFrame] at h
  split at h
  · cases h
  · next ax hax =>
    cases h
    exact ⟨ax, hax, rfl, rfl, rfl, rfl, rfl, rfl, rfl, rfl⟩

end MapFrame

end Rtpigate
