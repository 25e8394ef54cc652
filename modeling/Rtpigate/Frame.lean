/-
Frames as the stream delivers them.

The producer and the APRS payload decoder are other programs.  A frame carries
what `map_frame` reads of theirs: the AX.25 octets, the addresses the producer
parsed out of them, the radio metadata, and the payload in decoded form.
-/
import Rtpigate.Num

namespace Rtpigate

structure Hop where
  call : String
  heard : Bool
  deriving DecidableEq

/-- The AX.25 facts a producer attaches to a frame. -/
structure Ax25Meta where
  source : String
  destination : String
  via : List Hop
  heardDirect : Bool
  heardFrom : String
  dti : Option UInt8
  infoOffset : Option Nat
  infoInvalidBytes : Nat

structure Capture where
  receivedAtMs : Nat
  ssrc : Option Nat

structure RfMeta (F : Type) where
  frequencyHz : Option Nat
  snrDb : Option F
  slicerMask : Option UInt16
  slicerGains : Option (List F)

inductive Extension
  | directionSpeed (directionDegrees speedKnots : Nat)
  | other

structure PositionData (F : Type) where
  latitude : F
  longitude : F
  altitudeFt : Option F
  symbolTable : Char
  symbolCode : Char

structure MicEData (F : Type) where
  latitude : F
  longitude : F
  altitudeM : Option F
  speedKnots : Nat
  courseDegrees : Nat
  symbolTable : Char
  symbolCode : Char

/-- Decoded payloads, with the variants `map_frame` tells apart. -/
inductive AprsData (F : Type)
  | position (pos : PositionData F) (ext : Option Extension)
  | micE (mice : MicEData F)
  | object (name : List UInt8) (pos : PositionData F) (ext : Option Extension)
  | item (name : List UInt8) (pos : PositionData F) (ext : Option Extension)
  | other

structure DecodedPacket (F : Type) where
  data : AprsData F
  textual : Option (List UInt8)

structure AprsFrame (F : Type) where
  capture : Capture
  rf : RfMeta F
  ax25 : List UInt8
  ax25Meta : Option Ax25Meta
  parsed : Option (DecodedPacket F)

/-- The info field of a frame: the AX.25 octets from the producer's offset on,
nothing when there is no offset or it lies past the end. -/
def infoField {F : Type} (frame : AprsFrame F) (ax : Ax25Meta) : List UInt8 :=
  match ax.infoOffset with
  | some off => if off ≤ frame.ax25.length then frame.ax25.drop off else []
  | none => []

end Rtpigate
