/-
Packets in the store.

The satellite log and the packet history are tables of packets under their receive
time in microseconds.  A satellite row leaves out what is shown of speed, course,
signal and twist.
-/
import Rtpigate.Packet
import Rtpigate.Store

namespace Rtpigate

structure SatPacketRec (F : Type) where
  keyMicros : Int
  raw : String
  info : String
  path : String
  digipeaterPath : List String
  hops : Nat
  ptype : Char
  source : String
  destination : String
  heardDirect : Bool
  heardfrom : String
  wasDigipeated : Bool
  rfonly : Bool
  frequency : F
  isSatellite : Bool
  igated : Bool
  infoInvalidBytes : Nat
  objectName : Option String
  latitude : Option F
  longitude : Option F
  altitudeFt : Option F
  deriving DecidableEq

structure PacketRec (F : Type) where
  keyMicros : Int
  source : String
  raw : String
  info : String
  path : String
  digipeaterPath : List String
  hops : Nat
  ptype : Char
  destination : String
  heardDirect : Bool
  heardfrom : String
  wasDigipeated : Bool
  rfonly : Bool
  frequency : F
  isSatellite : Bool
  igated : Bool
  infoInvalidBytes : Nat
  objectName : Option String
  latitude : Option F
  longitude : Option F
  altitudeFt : Option F
  twistCols : Nat
  twistMask : UInt16
  twistZones : List UInt8
  twistCentroidDb : F
  speedMph : Option F
  courseDeg : Option Nat
  snrDb : Option F
  deriving DecidableEq

variable {F : Type}

/-- `sat_packet_key`, and the key of a row in both tables. -/
def RTPPacket.keyMicros (p : RTPPacket F) : Int := toMicros p.receivetime

def SatPacketRec.fromPacket (p : RTPPacket F) : SatPacketRec F where
  keyMicros := p.keyMicros
  raw := p.raw
  info := p.info
  path := p.path
  digipeaterPath := p.digipeaterPath
  hops := p.hops
  ptype := p.ptype
  source := p.source
  destination := p.destination
  heardDirect := p.heardDirect
  heardfrom := p.heardfrom
  wasDigipeated := p.wasDigipeated
  rfonly := p.rfonly
  frequency := p.frequency
  isSatellite := p.isSatellite
  igated := p.igated
  infoInvalidBytes := p.infoInvalidBytes
  objectName := p.objectName
  latitude := p.latitude
  longitude := p.longitude
  altitudeFt := p.altitudeFt

/-- `instant` is the monotonic clock at the load. -/
def SatPacketRec.intoPacket (instant : Nat) (r : SatPacketRec F) : RTPPacket F where
  receivetime := fromMicros r.keyMicros
  receivedInstant := instant
  raw := r.raw
  info := r.info
  infoBytes := []
  path := r.path
  digipeaterPath := r.digipeaterPath
  hops := r.hops
  ptype := r.ptype
  source := r.source
  destination := r.destination
  heardDirect := r.heardDirect
  heardfrom := r.heardfrom
  wasDigipeated := r.wasDigipeated
  rfonly := r.rfonly
  frequency := r.frequency
  isSatellite := r.isSatellite
  igated := r.igated
  infoInvalidBytes := r.infoInvalidBytes
  objectName := r.objectName
  latitude := r.latitude
  longitude := r.longitude
  altitudeFt := r.altitudeFt
  speedMph := none
  courseDeg := none
  snrDb := none
  slicerMask := 0
  twist := none

def PacketRec.fromPacket [F64 F] (p : RTPPacket F) : PacketRec F where
  keyMicros := p.keyMicros
  source := p.source
  raw := p.raw
  info := p.info
  path := p.path
  digipeaterPath := p.digipeaterPath
  hops := p.hops
  ptype := p.ptype
  destination := p.destination
  heardDirect := p.heardDirect
  heardfrom := p.heardfrom
  wasDigipeated := p.wasDigipeated
  rfonly := p.rfonly
  frequency := p.frequency
  isSatellite := p.isSatellite
  igated := p.igated
  infoInvalidBytes := p.infoInvalidBytes
  objectName := p.objectName
  latitude := p.latitude
  longitude := p.longitude
  altitudeFt := p.altitudeFt
  twistCols := p.twist.elim 0 fun t => t.cols % 2 ^ 32
  twistMask := p.twist.elim 0 fun t => t.mask
  twistZones := p.twist.elim [] fun t => t.zones
  twistCentroidDb := p.twist.elim 0.0 fun t => t.centroidDb
  speedMph := p.speedMph
  courseDeg := p.courseDeg
  snrDb := p.snrDb

def PacketRec.intoPacket (instant : Nat) (r : PacketRec F) : RTPPacket F where
  receivetime := fromMicros r.keyMicros
  receivedInstant := instant
  raw := r.raw
  info := r.info
  infoBytes := []
  path := r.path
  digipeaterPath := r.digipeaterPath
  hops := r.hops
  ptype := r.ptype
  source := r.source
  destination := r.destination
  heardDirect := r.heardDirect
  heardfrom := r.heardfrom
  wasDigipeated := r.wasDigipeated
  rfonly := r.rfonly
  frequency := r.frequency
  isSatellite := r.isSatellite
  igated := r.igated
  infoInvalidBytes := r.infoInvalidBytes
  objectName := r.objectName
  latitude := r.latitude
  longitude := r.longitude
  altitudeFt := r.altitudeFt
  speedMph := r.speedMph
  courseDeg := r.courseDeg
  snrDb := r.snrDb
  slicerMask := 0
  twist :=
    if 0 < r.twistCols then some ⟨r.twistCols, r.twistMask, r.twistZones, r.twistCentroidDb⟩
    else none

end Rtpigate
