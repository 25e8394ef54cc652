/-
The stream listener.

Each frame is mapped, flagged and sent on the data channel; every 15 seconds the
counts since the last tick are published as points.  The station table, the slicer
tallies and the packet log of the listener are not part of this model, so the
slicer summary of a packet comes with the frame.
-/
import Rtpigate.Config
import Rtpigate.Igate
import Rtpigate.Statistics
import Rtpigate.Store

namespace Rtpigate
namespace Listener

variable {F : Type} [F64 F]

/-- The flags the listener sets on a mapped packet.  `now` is the monotonic clock,
`twist` the slicer summary.  The satellite flag comes first, since one of the rules
of `droppacket` reads it. -/
def flagged (satFreqs : List F) (now : Nat) (twist : Option (TwistInfo F)) (p : RTPPacket F) :
    RTPPacket F :=
  let tuned := { p with isSatellite := satFreqs.contains p.frequency }
  { tuned with igated := (droppacket now tuned).isNone, twist := twist }

structure Counts where
  heardDirect : Nat := 0
  digipeated : Nat := 0
  decodeErrors : Nat := 0
  totalPackets : Nat := 0
  deriving DecidableEq, Repr

def Counts.frame (c : Counts) (heardDirect : Bool) : Counts :=
  { c with
    heardDirect := c.heardDirect + heardDirect.toNat
    digipeated := c.digipeated + (!heardDirect).toNat
    totalPackets := c.totalPackets + 1 }

structure SeriesSet where
  packets : DataSeries := ⟨"total_packets", []⟩
  heardDirect : DataSeries := ⟨"heard_direct", []⟩
  digipeated : DataSeries := ⟨"digipeated", []⟩
  decodeErrors : DataSeries := ⟨"decode_errors", []⟩

/-- The counters of the listener.  The producer sends decoded frames only, so the
decode errors stay at zero. -/
structure State where
  interval : Counts := {}
  lifetime : Counts := {}
  series : SeriesSet := {}

/-- What the world decides about a frame: the clocks, the slicer summary, and the
answer of the payload decoder. -/
structure FrameWorld (F : Type) where
  clock : MapClock
  now : Nat
  twist : Option (TwistInfo F)
  decodeTextual : List UInt8 → Option (DecodedPacket F)

/-- The packet sent for a frame, `none` when the frame is skipped. -/
def packet (satFreqs : List F) (world : FrameWorld F) (fr : AprsFrame F) : Option (RTPPacket F) :=
  (mapFrame world.decodeTextual world.clock fr).map fun mapped =>
    flagged satFreqs world.now world.twist mapped.packet

def frame (satFreqs : List F) (world : FrameWorld F) (fr : AprsFrame F) (s : State) :
    State × Option (RTPPacket F) :=
  match packet satFreqs world fr with
  | none => (s, none)
  | some p =>
    ({ s with
        interval := s.interval.frame p.heardDirect
        lifetime := s.lifetime.frame p.heardDirect },
      some p)

def State.sample (s : State) (now : Int) : SeriesSet where
  packets := s.series.packets.push ⟨now, s.interval.totalPackets⟩
  heardDirect := s.series.heardDirect.push ⟨now, s.interval.heardDirect⟩
  digipeated := s.series.digipeated.push ⟨now, s.interval.digipeated⟩
  decodeErrors := s.series.decodeErrors.push ⟨now, s.interval.decodeErrors⟩

def State.statistics (s : State) (now utc : Int) : PacketTelemetry F where
  name := "packet_statistics"
  timestamp := now
  microsecs := asMicrosecs utc
  totalPackets := (s.sample now).packets
  heardDirect := (s.sample now).heardDirect
  digipeated := (s.sample now).digipeated
  decodeErrors := (s.sample now).decodeErrors
  lifetimeTotalPackets := s.lifetime.totalPackets
  lifetimeHeardDirect := s.lifetime.heardDirect
  lifetimeDigipeated := s.lifetime.digipeated
  lifetimeDecodeErrors := s.lifetime.decodeErrors

/-- The 15 s tick: the state after it, and the statistics published. -/
def tick (now utc : Int) (s : State) : State × PacketTelemetry F :=
  ({ s with series := s.sample now, interval := {} }, s.statistics now utc)

/-! ## Flags -/

/-- The flag tells what the rules say at the time it is set. -/
theorem flagged_igated (satFreqs : List F) (now : Nat) (twist : Option (TwistInfo F))
    (p : RTPPacket F) : (flagged satFreqs now twist p).igated =
      (droppacket now (flagged satFreqs now twist p)).isNone := by
  rw [flagged, droppacket_display]

theorem packet_some {satFreqs : List F} {world : FrameWorld F} {fr : AprsFrame F}
    {p : RTPPacket F} (h : packet satFreqs world fr = some p) :
    ∃ mapped, mapFrame world.decodeTextual world.clock fr = some mapped ∧
      p = flagged satFreqs world.now world.twist mapped.packet := by
  obtain ⟨mapped, hmap, rfl⟩ := Option.map_eq_some_iff.mp h
  exact ⟨mapped, hmap, rfl⟩

/-! ## A sample packet -/

def sampleFrame (source : String) (info : List UInt8) : AprsFrame ℚ where
  capture := { receivedAtMs := 0, ssrc := none }
  rf := { frequencyHz := some 144390000, snrDb := none, slicerMask := none, slicerGains := none }
  ax25 := info
  ax25Meta := some {
    source := source, destination := "APRS", via := [], heardDirect := true, heardFrom := source
    dti := info.head?, infoOffset := some 0, infoInvalidBytes := 0 }
  parsed := none

def sampleWorld : FrameWorld ℚ where
  clock := { wall := 0, instant := 0 }
  now := 0
  twist := none
  decodeTextual := fun _ => none

def samplePacket (source : String) (info : List UInt8) : RTPPacket ℚ :=
  (packet sampleConfig.satelliteFrequencies sampleWorld (sampleFrame source info)).get rfl

theorem packet_sampleFrame (source : String) (info : List UInt8) :
    packet sampleConfig.satelliteFrequencies sampleWorld (sampleFrame source info) =
      some (samplePacket source info) := rfl

end Listener
end Rtpigate
