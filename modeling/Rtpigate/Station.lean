/-
The station table and the frequency table.

A station is filed under the name of its object if its packet reports one, and else
under its source.  The tables are stored row by row, times in microseconds.
-/
import Rtpigate.Packet
import Rtpigate.Store

namespace Rtpigate

/-- `lastHeard` is in nanoseconds since the epoch. -/
structure StationEntry (F : Type) where
  callsign : String
  transmittedBy : Option String
  lastHeard : Int
  frequency : F
  latitude : Option F
  longitude : Option F
  altitudeFt : Option F
  heardDirect : Bool
  positionPath : List String
  positionHops : Nat
  altitudePath : List String
  altitudeHops : Nat
  symbolTable : Option Char
  symbolCode : Option Char
  count : Nat
  countDirect : Nat
  countDigipeated : Nat
  deriving DecidableEq

structure StationRec (F : Type) where
  callsign : String
  transmittedBy : Option String
  lastHeardMicros : Int
  frequency : F
  latitude : Option F
  longitude : Option F
  altitudeFt : Option F
  heardDirect : Bool
  positionPath : List String
  positionHops : Nat
  altitudePath : List String
  altitudeHops : Nat
  symbolTable : Option Char
  symbolCode : Option Char
  count : Nat
  countDirect : Nat
  countDigipeated : Nat
  deriving DecidableEq

/-- A heard count and the time last heard. -/
structure FreqEntry where
  count : Nat
  lastHeard : Int
  deriving DecidableEq, Repr

structure FreqRec where
  frequency : String
  count : Nat
  lastHeardMicros : Int
  deriving DecidableEq, Repr

variable {F : Type}

def StationRec.fromEntry (s : StationEntry F) : StationRec F where
  callsign := s.callsign
  transmittedBy := s.transmittedBy
  lastHeardMicros := toMicros s.lastHeard
  frequency := s.frequency
  latitude := s.latitude
  longitude := s.longitude
  altitudeFt := s.altitudeFt
  heardDirect := s.heardDirect
  positionPath := s.positionPath
  positionHops := s.positionHops
  altitudePath := s.altitudePath
  altitudeHops := s.altitudeHops
  symbolTable := s.symbolTable
  symbolCode := s.symbolCode
  count := s.count
  countDirect := s.countDirect
  countDigipeated := s.countDigipeated

def StationRec.intoEntry (r : StationRec F) : StationEntry F where
  callsign := r.callsign
  transmittedBy := r.transmittedBy
  lastHeard := fromMicros r.lastHeardMicros
  frequency := r.frequency
  latitude := r.latitude
  longitude := r.longitude
  altitudeFt := r.altitudeFt
  heardDirect := r.heardDirect
  positionPath := r.positionPath
  positionHops := r.positionHops
  altitudePath := r.altitudePath
  altitudeHops := r.altitudeHops
  symbolTable := r.symbolTable
  symbolCode := r.symbolCode
  count := r.count
  countDirect := r.countDirect
  countDigipeated := r.countDigipeated

/-- The record `upsert_freq` writes. -/
def FreqRec.fromEntry (frequency : String) (e : FreqEntry) : FreqRec where
  frequency := frequency
  count := e.count
  lastHeardMicros := toMicros e.lastHeard

def FreqRec.intoEntry (r : FreqRec) : FreqEntry where
  count := r.count
  lastHeard := fromMicros r.lastHeardMicros

/-! ## Hearing a packet -/

def RTPPacket.stationKey (p : RTPPacket F) : String := p.objectName.getD p.source

def RTPPacket.transmittedBy (p : RTPPacket F) : Option String := p.objectName.map fun _ => p.source

def RTPPacket.freqKey [Display3 F] (p : RTPPacket F) : String := Display3.display3 p.frequency

/-- The entry made for a station that is not in the table. -/
def StationEntry.ofPacket (p : RTPPacket F) : StationEntry F where
  callsign := p.stationKey
  transmittedBy := p.transmittedBy
  lastHeard := p.receivetime
  frequency := p.frequency
  latitude := none
  longitude := none
  altitudeFt := none
  heardDirect := p.heardDirect
  positionPath := p.digipeaterPath
  positionHops := p.hops
  altitudePath := p.digipeaterPath
  altitudeHops := p.hops
  symbolTable := none
  symbolCode := none
  count := 0
  countDirect := 0
  countDigipeated := 0

def StationEntry.countPacket (p : RTPPacket F) (e : StationEntry F) : StationEntry F :=
  { e with
    lastHeard := p.receivetime
    frequency := p.frequency
    heardDirect := p.heardDirect
    transmittedBy := p.transmittedBy.or e.transmittedBy
    count := e.count + 1
    countDirect := e.countDirect + p.heardDirect.toNat
    countDigipeated := e.countDigipeated + (!p.heardDirect).toNat }

def StationEntry.position (p : RTPPacket F) (e : StationEntry F) : StationEntry F :=
  if p.latitude.isSome && p.longitude.isSome then
    { e with
      latitude := p.latitude
      longitude := p.longitude
      positionPath := p.digipeaterPath
      positionHops := p.hops }
  else e

theorem StationEntry.position_frame (p : RTPPacket F) (e : StationEntry F) :
    (e.position p).callsign = e.callsign ∧ (e.position p).lastHeard = e.lastHeard := by
  unfold position
  split <;> exact ⟨rfl, rfl⟩

section Hear

variable [F64 F]

/-- The highest altitude reported, and the path of the packet that reported it
first. -/
def StationEntry.altitude (p : RTPPacket F) (e : StationEntry F) : StationEntry F :=
  match p.altitudeFt with
  | none => e
  | some alt =>
    let e :=
      if e.altitudeFt.all fun prev => F64.lt prev alt then
        { e with altitudePath := p.digipeaterPath, altitudeHops := p.hops }
      else e
    { e with altitudeFt := some (match e.altitudeFt with
        | none => alt
        | some prev => F64.max prev alt) }

def StationEntry.symbol (symTable symCode : Option Char) (e : StationEntry F) : StationEntry F :=
  { e with symbolTable := symTable.or e.symbolTable, symbolCode := symCode.or e.symbolCode }

/-- What a packet does to the entry of its station. -/
def StationEntry.hear (p : RTPPacket F) (symTable symCode : Option Char)
    (e : Option (StationEntry F)) : StationEntry F :=
  ((((e.getD (.ofPacket p)).countPacket p).position p).altitude p).symbol symTable symCode

theorem StationEntry.altitude_frame (p : RTPPacket F) (e : StationEntry F) :
    (e.altitude p).callsign = e.callsign ∧ (e.altitude p).lastHeard = e.lastHeard := by
  unfold altitude
  cases p.altitudeFt with
  | none => exact ⟨rfl, rfl⟩
  | some alt =>
    show (if _ then _ else _ : StationEntry F).callsign = _ ∧
      (if _ then _ else _ : StationEntry F).lastHeard = _
    split <;> exact ⟨rfl, rfl⟩

/-- A packet keeps the callsign of its entry and sets the time. -/
theorem StationEntry.hear_frame (p : RTPPacket F) (symTable symCode : Option Char)
    (e : Option (StationEntry F)) :
    (StationEntry.hear p symTable symCode e).callsign = (e.getD (.ofPacket p)).callsign ∧
      (StationEntry.hear p symTable symCode e).lastHeard = p.receivetime := by
  obtain ⟨hcall, htime⟩ := altitude_frame p (((e.getD (.ofPacket p)).countPacket p).position p)
  obtain ⟨hcall', htime'⟩ := position_frame p ((e.getD (.ofPacket p)).countPacket p)
  exact ⟨hcall.trans hcall', htime.trans htime'⟩

end Hear

/-- What a packet does to the entry of its frequency. -/
def FreqEntry.hear (p : RTPPacket F) (e : Option FreqEntry) : FreqEntry :=
  let entry := e.getD ⟨0, p.receivetime⟩
  { count := entry.count + 1, lastHeard := p.receivetime }

/-! ## Records -/

/-- Stored and loaded, an entry differs by less than a microsecond. -/
theorem StationRec.fromEntry_intoEntry {e : StationEntry F} (h : InDates e.lastHeard) :
    StationRec.fromEntry (StationRec.fromEntry e).intoEntry = StationRec.fromEntry e := by
  rw [fromEntry, intoEntry]
  simp only [fromEntry, toMicros_fromMicros h]

theorem FreqRec.fromEntry_intoEntry (frequency : String) {e : FreqEntry} (h : InDates e.lastHeard) :
    FreqRec.fromEntry frequency (FreqRec.fromEntry frequency e).intoEntry =
      FreqRec.fromEntry frequency e := by
  rw [fromEntry, intoEntry]
  simp only [fromEntry, toMicros_fromMicros h]

end Rtpigate
