/-
The listener with its tables and the store.

A frame is counted, filed in the station and the frequency table, and written to the
packet history, and to the satellite log if it is one.  A tick publishes, drops what
has expired, and writes what has changed.  The memory never waits for the outcome of
a store call, so that a step gives the calls it makes, and the disk is what the calls
that succeed have left.

The tallies of the slicers are not part of this model.
-/
import Rtpigate.Lib.WriteBack
import Rtpigate.Listener
import Rtpigate.PacketStore
import Rtpigate.Station

namespace Rtpigate
namespace Listener

open Lib

/-! ## The store -/

/-- The transactions of the listener. -/
inductive Call (F : Type)
  | savePacketLifetime (row : PacketLifetime)
  | deleteStation (callsign : String)
  | deleteFreq (frequency : String)
  | upsertStation (s : StationEntry F)
  | upsertFreq (frequency : String) (e : FreqEntry)
  | deleteSatPackets (keys : List Int)
  | prunePackets (cutoffMicros : Int)
  | insertSatPacket (p : RTPPacket F)
  | insertPacket (p : RTPPacket F)

/-- The tables the listener writes, each under its primary key. -/
structure Disk (F : Type) where
  packetLifetime : Option PacketLifetime := none
  stations : Table String (StationRec F) := ∅
  freqs : Table String FreqRec := ∅
  satPackets : Table Int (SatPacketRec F) := ∅
  packets : Table Int (PacketRec F) := ∅

namespace Disk

variable {F : Type}

def apply [F64 F] (d : Disk F) : Call F → Disk F
  | .savePacketLifetime row => { d with packetLifetime := some row }
  | .deleteStation callsign => { d with stations := d.stations.erase callsign }
  | .deleteFreq frequency => { d with freqs := d.freqs.erase frequency }
  | .upsertStation s => { d with stations := d.stations.insert s.callsign (.fromEntry s) }
  | .upsertFreq frequency e => { d with freqs := d.freqs.insert frequency (.fromEntry frequency e) }
  | .deleteSatPackets keys => { d with satPackets := Table.deleteAll d.satPackets keys }
  | .prunePackets cutoffMicros =>
    { d with packets := Table.deleteAll d.packets (d.packets.keys.filter (· < cutoffMicros)) }
  | .insertSatPacket p => { d with satPackets := d.satPackets.insert p.keyMicros (.fromPacket p) }
  | .insertPacket p => { d with packets := d.packets.insert p.keyMicros (.fromPacket p) }

def applyAll [F64 F] (d : Disk F) (calls : List (Call F)) : Disk F := calls.foldl apply d

def loadStations (d : Disk F) : List (StationEntry F) :=
  (Table.rows d.stations).map StationRec.intoEntry

def loadFreqs (d : Disk F) : List (String × FreqEntry) :=
  (Table.rows d.freqs).map fun r => (r.frequency, r.intoEntry)

def loadSatPackets (instant : Nat) (d : Disk F) : List (RTPPacket F) :=
  (Table.rows d.satPackets).map (SatPacketRec.intoPacket instant)

/-- The scan of the secondary index gives the rows of a source by their primary key. -/
def loadPacketsBySource (instant : Nat) (d : Disk F) (source : String) : List (RTPPacket F) :=
  (((Table.rows d.packets).filter fun r => r.source = source).insertionSort
    fun a b => b.keyMicros ≤ a.keyMicros).map (PacketRec.intoPacket instant)

end Disk

/-! ## The task -/

structure Task (F : Type) where
  counters : State := {}
  stationMap : Table String (StationEntry F) := ∅
  freqCounts : Table String FreqEntry := ∅
  dirtyStations : List String := []
  dirtyFreqs : List String := []
  satPacketLog : List (RTPPacket F) := []

/-- The orders in which sets and maps give their keys. -/
structure Orders where
  evictedStations : Shuffle String
  evictedFreqs : Shuffle String
  dirtyStations : Shuffle String
  dirtyFreqs : Shuffle String

/-- The clocks of a tick: for the points, for the message, and for what expires. -/
structure TickWorld where
  theTime : Int
  utc : Int
  now : Int
  orders : Orders

inductive Input (F : Type)
  | frame (world : FrameWorld F) (fr : AprsFrame F)
  | tick (world : TickWorld)

def Input.isTick {F : Type} : Input F → Bool
  | .frame _ _ => false
  | .tick _ => true

def hours (n : Nat) : Int := n * (3600 * 10 ^ 9)

def stationExpired {F : Type} (now : Int) (e : StationEntry F) : Bool :=
  !decide (now - e.lastHeard < hours 36)

def freqExpired (now : Int) (e : FreqEntry) : Bool := !decide (now - e.lastHeard < hours 24)

def satExpired {F : Type} (now : Int) (p : RTPPacket F) : Bool :=
  decide (hours 24 < now - p.receivetime)

def stationCall {F : Type} : Write String (StationEntry F) → Call F
  | .delete callsign => .deleteStation callsign
  | .upsert _ e => .upsertStation e

def freqCall {F : Type} : Write String FreqEntry → Call F
  | .delete frequency => .deleteFreq frequency
  | .upsert frequency e => .upsertFreq frequency e

/-- The record `persist_packet_lifetime` writes. -/
def Counts.packetLifetime (lifetime : Counts) : PacketLifetime where
  total := lifetime.totalPackets
  heardDirect := lifetime.heardDirect
  digipeated := lifetime.digipeated
  decodeErrors := lifetime.decodeErrors

def Counts.ofPacketLifetime (pl : PacketLifetime) : Counts where
  totalPackets := pl.total
  heardDirect := pl.heardDirect
  digipeated := pl.digipeated

namespace Task

variable {F : Type}

def stations (s : Task F) : WriteBack String (StationEntry F) := ⟨s.stationMap, s.dirtyStations⟩

def freqs (s : Task F) : WriteBack String FreqEntry := ⟨s.freqCounts, s.dirtyFreqs⟩

/-- The task before its loop.  A load is `none` when it fails.  The satellite log is
loaded by the main program. -/
def seed (lifetime : Option PacketLifetime) (stations : Option (List (StationEntry F)))
    (freqs : Option (List (String × FreqEntry))) (satPackets : Option (List (RTPPacket F))) :
    Task F where
  counters := { lifetime := lifetime.elim {} .ofPacketLifetime }
  stationMap := Table.upsertAll StationEntry.callsign ∅ (stations.getD [])
  freqCounts := (freqs.getD []).foldl (fun m e => m.insert e.1 e.2) ∅
  satPacketLog := satPackets.getD []

/-- A start that reads everything from the disk. -/
def boot (instant : Nat) (d : Disk F) : Task F :=
  seed (some (loadPacketLifetime d.packetLifetime)) (some d.loadStations) (some d.loadFreqs)
    (some (d.loadSatPackets instant))

variable [F64 F]

/-- The calls of a packet. -/
def packetCalls (p : RTPPacket F) : List (Call F) :=
  (if p.isSatellite then [.insertSatPacket p] else []) ++ [.insertPacket p]

/-- `mapped` with its flags set is `p`. -/
def hear [Display3 F] (mapped : MappedPacket F) (p : RTPPacket F) (s : Task F) : Task F where
  counters := { s.counters with
    interval := s.counters.interval.frame p.heardDirect
    lifetime := s.counters.lifetime.frame p.heardDirect }
  stationMap := s.stationMap.alter p.stationKey fun e =>
    some (StationEntry.hear p mapped.symbolTable mapped.symbolCode e)
  freqCounts := s.freqCounts.alter p.freqKey fun e => some (FreqEntry.hear p e)
  dirtyStations := s.dirtyStations.insert p.stationKey
  dirtyFreqs := s.dirtyFreqs.insert p.freqKey
  satPacketLog := if p.isSatellite then s.satPacketLog ++ [p] else s.satPacketLog

def frame [Display3 F] (satFreqs : List F) (world : FrameWorld F) (fr : AprsFrame F)
    (s : Task F) : Task F × List (Call F) :=
  match mapFrame world.decodeTextual world.clock fr with
  | none => (s, [])
  | some mapped =>
    let p := flagged satFreqs world.now world.twist mapped.packet
    (s.hear mapped p, packetCalls p)

/-- The evicted rows go first, then the rows of the dirty keys that are left. -/
def tick (historyHours : Nat) (world : TickWorld) (s : Task F) : Task F × List (Call F) :=
  let counters := (Listener.tick (F := F) world.theTime world.utc s.counters).1
  let stations := s.stations.evict (stationExpired world.now)
  let freqs := s.freqs.evict (freqExpired world.now)
  let prunedSat := s.satPacketLog.takeWhile (satExpired world.now)
  let packetCutoff := world.now - hours historyHours
  ({ counters := counters
     stationMap := stations.mem
     freqCounts := freqs.mem
     satPacketLog := s.satPacketLog.dropWhile (satExpired world.now) },
    [.savePacketLifetime s.counters.lifetime.packetLifetime] ++
      (WriteBack.deletes (stationExpired world.now) world.orders.evictedStations
        s.stationMap).map stationCall ++
      (WriteBack.deletes (freqExpired world.now) world.orders.evictedFreqs
        s.freqCounts).map freqCall ++
      (WriteBack.upserts world.orders.dirtyStations stations).map stationCall ++
      (WriteBack.upserts world.orders.dirtyFreqs freqs).map freqCall ++
      [.deleteSatPackets (prunedSat.map RTPPacket.keyMicros),
        .prunePackets (toMicros packetCutoff)])

/-- The calls of the final flush. -/
def finalFlush (orders : Orders) (s : Task F) : List (Call F) :=
  [.savePacketLifetime s.counters.lifetime.packetLifetime] ++
    (WriteBack.upserts orders.dirtyStations s.stations).map stationCall ++
    (WriteBack.upserts orders.dirtyFreqs s.freqs).map freqCall

def step [Display3 F] (satFreqs : List F) (historyHours : Nat) (s : Task F) :
    Input F → Task F × List (Call F)
  | .frame world fr => s.frame satFreqs world fr
  | .tick world => s.tick historyHours world

end Task

end Listener
end Rtpigate
