/-
Statistics as they travel on the data channel.

Every 15 seconds the two counting tasks append one point to each of their series
and publish the series whole, so that a reader that misses a few messages still
sees the points.
-/
import Rtpigate.Packet

namespace Rtpigate

/-- A count of one interval.  The time stamp is in nanoseconds since the epoch. -/
structure DataPoint where
  timestamp : Int
  value : Nat
  deriving DecidableEq, Repr

def epochSecs (ns : Int) : Int := ns / 10 ^ 9

structure DataSeries where
  name : String
  data : List DataPoint
  deriving DecidableEq, Repr

namespace DataSeries

/-- Series keep their last 100 points. -/
def window : Nat := 100

/-- Append a point and drop the oldest one past the window. -/
def push (s : DataSeries) (p : DataPoint) : DataSeries :=
  let data := s.data ++ [p]
  { s with data := if window < data.length then data.tail else data }

theorem push_sublist (s : DataSeries) (p : DataPoint) :
    (s.push p).data.Sublist (s.data ++ [p]) := by
  show (if window < (s.data ++ [p]).length then (s.data ++ [p]).tail
    else s.data ++ [p]).Sublist _
  split
  · exact List.tail_sublist _
  · exact List.Sublist.refl _

theorem mem_push {s : DataSeries} {p q : DataPoint} (h : q ∈ (s.push p).data) :
    q ∈ s.data ∨ q = p := by
  have hmem := (push_sublist s p).subset h
  rw [List.mem_append, List.mem_singleton] at hmem
  exact hmem

theorem push_last (s : DataSeries) (p : DataPoint) : p ∈ (s.push p).data := by
  show p ∈ if window < (s.data ++ [p]).length then (s.data ++ [p]).tail else s.data ++ [p]
  split
  · next h =>
    cases hs : s.data with
    | nil =>
      simp [hs, window] at h
    | cons q qs => exact List.mem_append_right qs (List.mem_singleton.mpr rfl)
  · exact List.mem_append_right _ (List.mem_singleton.mpr rfl)

end DataSeries

/-- `timestamp_micros() as f64 / 1000000.0` of a time in nanoseconds. -/
def asMicrosecs {F : Type} [F64 F] (ns : Int) : F :=
  let micros := ns / 1000
  (if micros < 0 then -((micros.natAbs : Nat) : F) else ((micros.natAbs : Nat) : F)) / 1000000.0

structure PacketTelemetry (F : Type) where
  name : String
  timestamp : Int
  microsecs : F
  totalPackets : DataSeries
  heardDirect : DataSeries
  digipeated : DataSeries
  decodeErrors : DataSeries
  lifetimeTotalPackets : Nat
  lifetimeHeardDirect : Nat
  lifetimeDigipeated : Nat
  lifetimeDecodeErrors : Nat

structure AprsisTelemetry (F : Type) where
  name : String
  timestamp : Int
  microsecs : F
  reconnects : DataSeries
  packetsIgated : DataSeries
  packetsDropped : DataSeries
  rfReceived : DataSeries
  lifetimeRfReceived : Nat
  lifetimePacketsIgated : Nat
  lifetimePacketsDropped : Nat
  lifetimeReconnects : Nat
  lifetimeDropsStale : Nat
  lifetimeDropsRfonly : Nat
  lifetimeDropsQuery : Nat
  lifetimeDropsThirdparty : Nat
  lifetimeDropsSat : Nat
  lifetimeDropsDuplicate : Nat
  lifetimeDropsMalformed : Nat
  lifetimeLaggedDrops : Nat

/-- The messages of the producers.  Of the last three only the name travels here, which is
all that the SSE task reads of them. -/
inductive AppTelemetry (F : Type)
  | packetStatus (t : PacketTelemetry F)
  | aprsisStatus (t : AprsisTelemetry F)
  | slicerStatus (name : String)
  | stationStatus (name : String)
  | gpsStatus (name : String)

inductive DataItem (F : Type)
  | pkt (p : RTPPacket F)
  | tlm (t : AppTelemetry F)

def DataItem.isPkt {F : Type} : DataItem F → Bool
  | .pkt _ => true
  | .tlm _ => false

end Rtpigate
