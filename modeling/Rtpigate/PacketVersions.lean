/-
The versions of the packet record.

Earlier builds have stored packets without their twist, without course and speed, or
without the signal-to-noise ratio.  A row of an earlier version is migrated one version at
a time, and back in the same way.
-/
import Rtpigate.PacketStore

namespace Rtpigate

structure PacketRecV1 (F : Type) where
  keyMicros : Int
  source : String
  raw : String
  info : String
  path : String
  digipeaterPath : List String
  hops : Nat
  ptype : Char
  destination : String
  heardDirect : Bool
  heardfrom : String
  wasDigipeated : Bool
  rfonly : Bool
  frequency : F
  isSatellite : Bool
  igated : Bool
  infoInvalidBytes : Nat
  objectName : Option String
  latitude : Option F
  longitude : Option F
  altitudeFt : Option F
  deriving DecidableEq

/-- With the twist. -/
structure PacketRecV2 (F : Type) where
  keyMicros : Int
  source : String
  raw : String
  info : String
  path : String
  digipeaterPath : List String
  hops : Nat
  ptype : Char
  destination : String
  heardDirect : Bool
  heardfrom : String
  wasDigipeated : Bool
  rfonly : Bool
  frequency : F
  isSatellite : Bool
  igated : Bool
  infoInvalidBytes : Nat
  objectName : Option String
  latitude : Option F
  longitude : Option F
  altitudeFt : Option F
  twistCols : Nat
  twistMask : UInt16
  twistZones : List UInt8
  twistCentroidDb : F
  deriving DecidableEq

/-- With course and speed. -/
structure PacketRecV3 (F : Type) where
  keyMicros : Int
  source : String
  raw : String
  info : String
  path : String
  digipeaterPath : List String
  hops : Nat
  ptype : Char
  destination : String
  heardDirect : Bool
  heardfrom : String
  wasDigipeated : Bool
  rfonly : Bool
  frequency : F
  isSatellite : Bool
  igated : Bool
  infoInvalidBytes : Nat
  objectName : Option String
  latitude : Option F
  longitude : Option F
  altitudeFt : Option F
  twistCols : Nat
  twistMask : UInt16
  twistZones : List UInt8
  twistCentroidDb : F
  speedMph : Option F
  courseDeg : Option Nat
  deriving DecidableEq

section Migration

variable {F : Type}

def PacketRecV2.fromV1 [F64 F] (v : PacketRecV1 F) : PacketRecV2 F where
  keyMicros := v.keyMicros
  source := v.source
  raw := v.raw
  info := v.info
  path := v.path
  digipeaterPath := v.digipeaterPath
  hops := v.hops
  ptype := v.ptype
  destination := v.destination
  heardDirect := v.heardDirect
  heardfrom := v.heardfrom
  wasDigipeated := v.wasDigipeated
  rfonly := v.rfonly
  frequency := v.frequency
  isSatellite := v.isSatellite
  igated := v.igated
  infoInvalidBytes := v.infoInvalidBytes
  objectName := v.objectName
  latitude := v.latitude
  longitude := v.longitude
  altitudeFt := v.altitudeFt
  twistCols := 0
  twistMask := 0
  twistZones := []
  twistCentroidDb := 0.0

def PacketRecV1.fromV2 (v : PacketRecV2 F) : PacketRecV1 F where
  keyMicros := v.keyMicros
  source := v.source
  raw := v.raw
  info := v.info
  path := v.path
  digipeaterPath := v.digipeaterPath
  hops := v.hops
  ptype := v.ptype
  destination := v.destination
  heardDirect := v.heardDirect
  heardfrom := v.heardfrom
  wasDigipeated := v.wasDigipeated
  rfonly := v.rfonly
  frequency := v.frequency
  isSatellite := v.isSatellite
  igated := v.igated
  infoInvalidBytes := v.infoInvalidBytes
  objectName := v.objectName
  latitude := v.latitude
  longitude := v.longitude
  altitudeFt := v.altitudeFt

def PacketRecV3.fromV2 (v : PacketRecV2 F) : PacketRecV3 F where
  keyMicros := v.keyMicros
  source := v.source
  raw := v.raw
  info := v.info
  path := v.path
  digipeaterPath := v.digipeaterPath
  hops := v.hops
  ptype := v.ptype
  destination := v.destination
  heardDirect := v.heardDirect
  heardfrom := v.heardfrom
  wasDigipeated := v.wasDigipeated
  rfonly := v.rfonly
  frequency := v.frequency
  isSatellite := v.isSatellite
  igated := v.igated
  infoInvalidBytes := v.infoInvalidBytes
  objectName := v.objectName
  latitude := v.latitude
  longitude := v.longitude
  altitudeFt := v.altitudeFt
  twistCols := v.twistCols
  twistMask := v.twistMask
  twistZones := v.twistZones
  twistCentroidDb := v.twistCentroidDb
  speedMph := none
  courseDeg := none

def PacketRecV2.fromV3 (v : PacketRecV3 F) : PacketRecV2 F where
  keyMicros := v.keyMicros
  source := v.source
  raw := v.raw
  info := v.info
  path := v.path
  digipeaterPath := v.digipeaterPath
  hops := v.hops
  ptype := v.ptype
  destination := v.destination
  heardDirect := v.heardDirect
  heardfrom := v.heardfrom
  wasDigipeated := v.wasDigipeated
  rfonly := v.rfonly
  frequency := v.frequency
  isSatellite := v.isSatellite
  igated := v.igated
  infoInvalidBytes := v.infoInvalidBytes
  objectName := v.objectName
  latitude := v.latitude
  longitude := v.longitude
  altitudeFt := v.altitudeFt
  twistCols := v.twistCols
  twistMask := v.twistMask
  twistZones := v.twistZones
  twistCentroidDb := v.twistCentroidDb

def PacketRec.fromV3 (v : PacketRecV3 F) : PacketRec F where
  keyMicros := v.keyMicros
  source := v.source
  raw := v.raw
  info := v.info
  path := v.path
  digipeaterPath := v.digipeaterPath
  hops := v.hops
  ptype := v.ptype
  destination := v.destination
  heardDirect := v.heardDirect
  heardfrom := v.heardfrom
  wasDigipeated := v.wasDigipeated
  rfonly := v.rfonly
  frequency := v.frequency
  isSatellite := v.isSatellite
  igated := v.igated
  infoInvalidBytes := v.infoInvalidBytes
  objectName := v.objectName
  latitude := v.latitude
  longitude := v.longitude
  altitudeFt := v.altitudeFt
  twistCols := v.twistCols
  twistMask := v.twistMask
  twistZones := v.twistZones
  twistCentroidDb := v.twistCentroidDb
  speedMph := v.speedMph
  courseDeg := v.courseDeg
  snrDb := none

/-- From the current version back. -/
def PacketRecV3.fromV4 (v : PacketRec F) : PacketRecV3 F where
  keyMicros := v.keyMicros
  source := v.source
  raw := v.raw
  info := v.info
  path := v.path
  digipeaterPath := v.digipeaterPath
  hops := v.hops
  ptype := v.ptype
  destination := v.destination
  heardDirect := v.heardDirect
  heardfrom := v.heardfrom
  wasDigipeated := v.wasDigipeated
  rfonly := v.rfonly
  frequency := v.frequency
  isSatellite := v.isSatellite
  igated := v.igated
  infoInvalidBytes := v.infoInvalidBytes
  objectName := v.objectName
  latitude := v.latitude
  longitude := v.longitude
  altitudeFt := v.altitudeFt
  twistCols := v.twistCols
  twistMask := v.twistMask
  twistZones := v.twistZones
  twistCentroidDb := v.twistCentroidDb
  speedMph := v.speedMph
  courseDeg := v.courseDeg

/-- A row of version 2 in the current version. -/
def PacketRecV2.migrate (v : PacketRecV2 F) : PacketRec F := .fromV3 (.fromV2 v)

def PacketRecV2.restore (r : PacketRec F) : PacketRecV2 F := .fromV3 (.fromV4 r)

def PacketRecV1.migrate [F64 F] (v : PacketRecV1 F) : PacketRec F :=
  (PacketRecV2.fromV1 v).migrate

def PacketRecV1.restore (r : PacketRec F) : PacketRecV1 F := .fromV2 (.restore r)

end Migration

/-! ## What a row says -/

/-- The columns that every version has, beside its key. -/
structure PacketColumns (F : Type) where
  source : String
  raw : String
  info : String
  path : String
  digipeaterPath : List String
  hops : Nat
  ptype : Char
  destination : String
  heardDirect : Bool
  heardfrom : String
  wasDigipeated : Bool
  rfonly : Bool
  frequency : F
  isSatellite : Bool
  igated : Bool
  infoInvalidBytes : Nat
  objectName : Option String
  latitude : Option F
  longitude : Option F
  altitudeFt : Option F

section Columns

variable {F : Type}

def PacketRecV1.columns (v : PacketRecV1 F) : PacketColumns F where
  source := v.source
  raw := v.raw
  info := v.info
  path := v.path
  digipeaterPath := v.digipeaterPath
  hops := v.hops
  ptype := v.ptype
  destination := v.destination
  heardDirect := v.heardDirect
  heardfrom := v.heardfrom
  wasDigipeated := v.wasDigipeated
  rfonly := v.rfonly
  frequency := v.frequency
  isSatellite := v.isSatellite
  igated := v.igated
  infoInvalidBytes := v.infoInvalidBytes
  objectName := v.objectName
  latitude := v.latitude
  longitude := v.longitude
  altitudeFt := v.altitudeFt

def PacketRecV2.columns (v : PacketRecV2 F) : PacketColumns F where
  source := v.source
  raw := v.raw
  info := v.info
  path := v.path
  digipeaterPath := v.digipeaterPath
  hops := v.hops
  ptype := v.ptype
  destination := v.destination
  heardDirect := v.heardDirect
  heardfrom := v.heardfrom
  wasDigipeated := v.wasDigipeated
  rfonly := v.rfonly
  frequency := v.frequency
  isSatellite := v.isSatellite
  igated := v.igated
  infoInvalidBytes := v.infoInvalidBytes
  objectName := v.objectName
  latitude := v.latitude
  longitude := v.longitude
  altitudeFt := v.altitudeFt

def PacketRecV3.columns (v : PacketRecV3 F) : PacketColumns F where
  source := v.source
  raw := v.raw
  info := v.info
  path := v.path
  digipeaterPath := v.digipeaterPath
  hops := v.hops
  ptype := v.ptype
  destination := v.destination
  heardDirect := v.heardDirect
  heardfrom := v.heardfrom
  wasDigipeated := v.wasDigipeated
  rfonly := v.rfonly
  frequency := v.frequency
  isSatellite := v.isSatellite
  igated := v.igated
  infoInvalidBytes := v.infoInvalidBytes
  objectName := v.objectName
  latitude := v.latitude
  longitude := v.longitude
  altitudeFt := v.altitudeFt

def RTPPacket.columns (v : RTPPacket F) : PacketColumns F where
  source := v.source
  raw := v.raw
  info := v.info
  path := v.path
  digipeaterPath := v.digipeaterPath
  hops := v.hops
  ptype := v.ptype
  destination := v.destination
  heardDirect := v.heardDirect
  heardfrom := v.heardfrom
  wasDigipeated := v.wasDigipeated
  rfonly := v.rfonly
  frequency := v.frequency
  isSatellite := v.isSatellite
  igated := v.igated
  infoInvalidBytes := v.infoInvalidBytes
  objectName := v.objectName
  latitude := v.latitude
  longitude := v.longitude
  altitudeFt := v.altitudeFt

/-- The twist of the columns of a row. -/
def storedTwist (cols : Nat) (mask : UInt16) (zones : List UInt8) (centroidDb : F) :
    Option (TwistInfo F) :=
  if 0 < cols then some ⟨cols, mask, zones, centroidDb⟩ else none

end Columns

end Rtpigate
