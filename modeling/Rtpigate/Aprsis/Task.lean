/-
The APRS-IS task.

The outer loop connects and logs in, the inner loop waits for the next of several
events: cancellation, the statistics tick, a line from the server, an item of the
data channel, the report tick and the movement tick.  A step takes the state and
one of these and returns the new state and what it did to the outside.  What the
world decides, the clocks and the outcome of each write, comes with the input.

The counters are natural numbers, except where the source casts or saturates.  The
sequence number of the reports wraps around.
-/
import Rtpigate.Beacon
import Rtpigate.Igate
import Rtpigate.Lib.Broadcast
import Rtpigate.Lib.Expiring
import Rtpigate.Lib.Machine
import Rtpigate.Statistics
import Rtpigate.Store
import Rtpigate.Telemetry

namespace Rtpigate
namespace Aprsis

open Lib

/-! ## State -/

/-- How a bounded write ends.  Only `done` means that all bytes went out. -/
inductive WriteResult
  | done
  | failed
  | timedOut
  deriving DecidableEq, Repr

/-- The clocks read for a gating decision: monotonic nanoseconds for the age of the
packet, wall-clock seconds for duplicates. -/
structure GateClock where
  instant : Nat
  now : Int

/-- Counters of a telemetry report, cleared when the report is complete. -/
structure Interval where
  rfReceived : Nat := 0
  dropped : Nat := 0
  heardDirect : Nat := 0
  receivedSat : Nat := 0
  receivedOther : Nat := 0
  deriving DecidableEq, Repr

/-- Counters of a statistics tick. -/
structure Stats where
  packetsDropped : Nat := 0
  packetsIgated : Nat := 0
  rfReceived : Nat := 0
  reconnects : Nat := 0
  deriving DecidableEq, Repr

/-- Counters that are never reset. -/
structure Lifetime where
  rfReceived : Nat := 0
  packetsIgated : Nat := 0
  packetsDropped : Nat := 0
  dropsStale : Nat := 0
  dropsRfonly : Nat := 0
  dropsQuery : Nat := 0
  dropsThirdparty : Nat := 0
  dropsSat : Nat := 0
  dropsDuplicate : Nat := 0
  dropsMalformed : Nat := 0
  laggedDrops : Nat := 0
  deriving DecidableEq, Repr

structure SeriesSet where
  rfReceived : DataSeries := ⟨"rf_received", []⟩
  dropped : DataSeries := ⟨"packets_dropped", []⟩
  igated : DataSeries := ⟨"packets_igated", []⟩
  reconnect : DataSeries := ⟨"aprsis_reconnects", []⟩

inductive Phase
  | outer
  | inner
  | ended
  deriving DecidableEq, Repr

structure State (F : Type) where
  interval : Interval := {}
  stats : Stats := {}
  lifetime : Lifetime := {}
  series : SeriesSet := {}
  lastBeaconPos : Option (F × F) := none
  sequence : UInt32 := 0
  dedupCache : Expiring String := Expiring.empty
  totalReconnects : Nat := 0
  firstConnect : Bool := true
  backoffSecs : Nat := 5
  phase : Phase := .outer

inductive Line (F : Type)
  | packet (p : RTPPacket F) (clock : GateClock)
  | posit (loc : Location F)
  | report (report : Telemetry F) (index : Nat)

/-- What a step does to the outside.  `received` marks that a packet was taken
from the channel. -/
inductive Event (F : Type)
  | received (p : RTPPacket F)
  | write (line : Line F) (bytes : List UInt8) (result : WriteResult)
  | publish (t : AprsisTelemetry F)
  | saveLifetime (row : AprsisLifetime)
  | saveSeq (seq : UInt32)
  | sleep (secs : Nat)

def dedupTtlSecs : Int := 30

def maxBackoffSecs : Nat := 300

variable {F : Type}

/-! ## Start and end -/

def State.aprsisLifetime (s : State F) : AprsisLifetime where
  rfReceived := s.lifetime.rfReceived
  packetsIgated := s.lifetime.packetsIgated
  packetsDropped := s.lifetime.packetsDropped
  reconnects := s.totalReconnects
  dropsStale := s.lifetime.dropsStale
  dropsRfonly := s.lifetime.dropsRfonly
  dropsQuery := s.lifetime.dropsQuery
  dropsThirdparty := s.lifetime.dropsThirdparty
  dropsSat := s.lifetime.dropsSat
  dropsDuplicate := s.lifetime.dropsDuplicate
  dropsMalformed := s.lifetime.dropsMalformed
  laggedDrops := s.lifetime.laggedDrops

def Lifetime.ofRow (al : AprsisLifetime) : Lifetime where
  rfReceived := al.rfReceived
  packetsIgated := al.packetsIgated
  packetsDropped := al.packetsDropped
  dropsStale := al.dropsStale
  dropsRfonly := al.dropsRfonly
  dropsQuery := al.dropsQuery
  dropsThirdparty := al.dropsThirdparty
  dropsSat := al.dropsSat
  dropsDuplicate := al.dropsDuplicate
  dropsMalformed := al.dropsMalformed
  laggedDrops := al.laggedDrops

/-- The state before the outer loop.  `row` is the loaded record, `none` when the
load failed.  A sequence number taken over from the legacy file is saved at
once. -/
def start (row : Option AprsisLifetime) (seq : SeqLoad) : State F × List (Event F) :=
  let seeded : State F :=
    match row with
    | some al => { lifetime := .ofRow al, totalReconnects := al.reconnects % 2 ^ 32 }
    | none => {}
  match seq with
  | .stored n => ({ seeded with sequence := n }, [])
  | .missing legacy => ({ seeded with sequence := legacy.getD 0 }, [.saveSeq (legacy.getD 0)])
  | .failed => (seeded, [])

def shutdown (s : State F) : State F × List (Event F) :=
  ({ s with phase := .ended }, [.saveLifetime s.aprsisLifetime, .saveSeq s.sequence])

/-! ## Connecting -/

inductive Attempt
  | resolveError
  | noAddress
  | connectError
  | connectTimeout
  | loginRefused
  | loginError
  | loginTimeout
  | loginCancelled
  | loggedIn
  deriving DecidableEq, Repr

def retry (s : State F) : State F × List (Event F) :=
  ({ s with backoffSecs := min (s.backoffSecs * 2) maxBackoffSecs }, [.sleep s.backoffSecs])

def connected (s : State F) : State F :=
  if s.firstConnect then { s with backoffSecs := 5, firstConnect := false }
  else { s with
    backoffSecs := 5
    totalReconnects := s.totalReconnects + 1
    stats := { s.stats with reconnects := s.stats.reconnects + 1 } }

def attempt (a : Attempt) (s : State F) : State F × List (Event F) :=
  match a with
  | .resolveError | .noAddress | .connectError | .connectTimeout => retry s
  | .loginRefused | .loginError | .loginTimeout => retry (connected s)
  | .loginCancelled => shutdown (connected s)
  | .loggedIn => ({ connected s with phase := .inner }, [])

/-! ## Packets -/

/-- A dropped packet; `count` is the step of the breakdown. -/
def State.drop (s : State F) (count : Lifetime → Lifetime) : State F :=
  { s with
    interval := { s.interval with dropped := s.interval.dropped + 1 }
    stats := { s.stats with packetsDropped := s.stats.packetsDropped + 1 }
    lifetime := count { s.lifetime with packetsDropped := s.lifetime.packetsDropped + 1 } }

def countDuplicate (l : Lifetime) : Lifetime := { l with dropsDuplicate := l.dropsDuplicate + 1 }

def countMalformed (l : Lifetime) : Lifetime := { l with dropsMalformed := l.dropsMalformed + 1 }

def countReason (reason : DropReason) (l : Lifetime) : Lifetime :=
  match reason with
  | .stale => { l with dropsStale := l.dropsStale + 1 }
  | .rfOnly => { l with dropsRfonly := l.dropsRfonly + 1 }
  | .genericQuery => { l with dropsQuery := l.dropsQuery + 1 }
  | .thirdPartyInternet => { l with dropsThirdparty := l.dropsThirdparty + 1 }
  | .satelliteDirect => { l with dropsSat := l.dropsSat + 1 }
  | .malformedField => countMalformed l

def State.gate (s : State F) (key : String) (now : Int) : State F :=
  { s with
    dedupCache := s.dedupCache.insert key now
    stats := { s.stats with packetsIgated := s.stats.packetsIgated + 1 }
    lifetime := { s.lifetime with packetsIgated := s.lifetime.packetsIgated + 1 } }

def dedupKey (p : RTPPacket F) : String := p.source ++ ":" ++ p.info

def crlf : List UInt8 := [13, 10]

/-- The assembled line has a terminator inside. -/
def refused (bytes : List UInt8) : Bool := (bytes.rdropWhile isTerminator).any isTerminator

section Float

variable [F64 F]

def State.receive (s : State F) (p : RTPPacket F) : State F :=
  { s with
    interval := { s.interval with
      rfReceived := s.interval.rfReceived + 1
      heardDirect := s.interval.heardDirect + p.heardDirect.toNat
      receivedSat := s.interval.receivedSat + p.isSatellite.toNat
      receivedOther := s.interval.receivedOther + (p.frequency != 144.390).toNat }
    stats := { s.stats with rfReceived := s.stats.rfReceived + 1 }
    lifetime := { s.lifetime with rfReceived := s.lifetime.rfReceived + 1 } }

/-- The packet branch.  `outcome` is how the write ends if there is one. -/
def handlePacket (t : Captured F) (clock : GateClock) (outcome : WriteResult) (s : State F)
    (p : RTPPacket F) : State F × List (Event F) :=
  let s := s.receive p
  if t.igating && t.rw then
    match droppacket clock.instant p with
    | some reason => (s.drop (countReason reason), [.received p])
    | none =>
      if s.dedupCache.fresh dedupTtlSecs clock.now (dedupKey p) then
        (s.drop countDuplicate, [.received p])
      else
        let packetBytes := p.forRxigateBytes t.callsign
        if refused packetBytes then (s.drop countMalformed, [.received p])
        else
          let written := [.received p, .write (.packet p clock) (packetBytes ++ crlf) outcome]
          match outcome with
          | .done => (s.gate (dedupKey p) clock.now, written)
          | _ => ({ s with phase := .outer }, written)
  else (s, [.received p])

/-- A receive on the data channel.  Telemetry is not for this task. -/
def handleMessage (t : Captured F) (clock : GateClock) (outcome : WriteResult)
    (m : Received (DataItem F)) (s : State F) : State F × List (Event F) :=
  match m with
  | .message (.pkt p) => handlePacket t clock outcome s p
  | .message (.tlm _) => (s, [])
  | .lagged n =>
    ({ s with lifetime := { s.lifetime with
        laggedDrops := min (s.lifetime.laggedDrops + n) u64Max } }, [])

/-! ## Statistics -/

def State.sample (s : State F) (now : Int) : SeriesSet where
  rfReceived := s.series.rfReceived.push ⟨now, s.stats.rfReceived⟩
  dropped := s.series.dropped.push ⟨now, s.stats.packetsDropped⟩
  igated := s.series.igated.push ⟨now, s.stats.packetsIgated⟩
  reconnect := s.series.reconnect.push ⟨now, s.stats.reconnects⟩

def State.statistics (s : State F) (now utc : Int) : AprsisTelemetry F where
  name := "aprsis_statistics"
  timestamp := now
  microsecs := asMicrosecs utc
  reconnects := (s.sample now).reconnect
  rfReceived := (s.sample now).rfReceived
  packetsDropped := (s.sample now).dropped
  packetsIgated := (s.sample now).igated
  lifetimeRfReceived := s.lifetime.rfReceived
  lifetimePacketsIgated := s.lifetime.packetsIgated
  lifetimePacketsDropped := s.lifetime.packetsDropped
  lifetimeReconnects := s.totalReconnects
  lifetimeDropsStale := s.lifetime.dropsStale
  lifetimeDropsRfonly := s.lifetime.dropsRfonly
  lifetimeDropsQuery := s.lifetime.dropsQuery
  lifetimeDropsThirdparty := s.lifetime.dropsThirdparty
  lifetimeDropsSat := s.lifetime.dropsSat
  lifetimeDropsDuplicate := s.lifetime.dropsDuplicate
  lifetimeDropsMalformed := s.lifetime.dropsMalformed
  lifetimeLaggedDrops := s.lifetime.laggedDrops

/-- The 15 s tick, at local time `now` and a second reading `utc`: purge the
duplicates, publish, clear the counters of the tick and save. -/
def telemetryTick (now utc : Int) (s : State F) : State F × List (Event F) :=
  ({ s with
      dedupCache := s.dedupCache.purge dedupTtlSecs (epochSecs now)
      series := s.sample now
      stats := {} },
    [.publish (s.statistics now utc), .saveLifetime s.aprsisLifetime])

/-! ## Beacons and reports -/

/-- What a beacon looks at: the monotonic clock, the epoch second, and the latest
fix. -/
structure BeaconWorld (F : Type) where
  instant : Nat
  utc : Int
  gpsState : Option (GpsFix F)

/-- Write a position beacon.  `true` means that the connection is still healthy,
also when the position was not valid and nothing was written. -/
def sendPositionBeacon (t : Captured F) (utc : Int) (loc : Location F) (outcome : WriteResult) :
    Bool × List (Event F) :=
  match positpacket utc loc t.callsign t.stationName t.symbol t.overlay t.daoMode with
  | .error _ => (true, [])
  | .ok text => (outcome == .done, [.write (.posit loc) (utf8 (text ++ "\r\n")) outcome])

def beacon (t : Captured F) (utc : Int) (outcome : WriteResult) (loc : Location F)
    (s : State F) : State F × List (Event F) :=
  let sent := sendPositionBeacon t utc loc outcome
  if sent.1 then
    match loc.lat, loc.lon with
    | some la, some lo => ({ s with lastBeaconPos := some (la, lo) }, sent.2)
    | _, _ => (s, sent.2)
  else ({ s with phase := .outer }, sent.2)

/-- A share in percent, no less than zero, zero of nothing. -/
def percent (part whole : Nat) : F :=
  if 0 < whole then
    let pct := (100.0 * (part : F)) / (whole : F)
    if F64.lt pct 0.0 then 0.0 else pct
  else 0.0

def telemetryReport (t : Captured F) (interval : Interval) (sequence : UInt32) : Telemetry F :=
  let minutes := Nat.repr (t.telemetryThreshold / 60) ++ "min"
  { telemetry := [
      { label := "Rx_" ++ minutes, units := "Pkts", equation := .ofValue (interval.rfReceived : F) },
      { label := "RxSat_" ++ minutes, units := "Pkts",
        equation := .ofValue (interval.receivedSat : F) },
      { label := "%Drop_" ++ minutes, units := "%",
        equation := .ofValue (percent interval.dropped interval.rfReceived) },
      { label := "%Direct_" ++ minutes, units := "%",
        equation := .ofValue (percent interval.heardDirect interval.rfReceived) },
      { label := "RxAltFreq_" ++ minutes, units := "Pkts",
        equation := .ofValue (interval.receivedOther : F) }]
    name := "Telemetry Report"
    sequence := sequence }

def reportBytes (t : Captured F) (info : String) : List UInt8 :=
  utf8 (t.callsign ++ ">" ++ TOCALL ++ ",TCPIP*:" ++ info ++ "\r\n")

/-- Write the lines of a report from index `i` on, up to the first write that is
not done.  `true` when all are. -/
def writeLines (t : Captured F) (report : Telemetry F) (outcomes : Nat → WriteResult) :
    Nat → List String → List (Event F) × Bool
  | _, [] => ([], true)
  | i, info :: rest =>
    let event := .write (.report report i) (reportBytes t info) (outcomes i)
    match outcomes i with
    | .done =>
      let later := writeLines t report outcomes (i + 1) rest
      (event :: later.1, later.2)
    | _ => ([event], false)

/-- Send the report.  The sequence number moves on and the counters are cleared
only when every line went out. -/
def sendReport (t : Captured F) (outcomes : Nat → WriteResult) (s : State F) :
    State F × List (Event F) :=
  let report := telemetryReport t s.interval s.sequence
  match report.toAprs t.callsign with
  | .error _ => (s, [])
  | .ok packets =>
    let written := writeLines t report outcomes 0 packets
    if written.2 then
      ({ s with sequence := s.sequence + 1, interval := {} },
        written.1 ++ [.saveSeq (s.sequence + 1)])
    else ({ s with phase := .outer }, written.1)

def beaconLocation (t : Captured F) (world : BeaconWorld F) : Option (Location F) :=
  match t.location.source with
  | .config => some t.location
  | .gpsd => gpsdBeaconLocation world.instant world.gpsState t.location.alt

def floorTick (t : Captured F) (world : BeaconWorld F) (posit : WriteResult)
    (outcomes : Nat → WriteResult) (s : State F) : State F × List (Event F) :=
  if t.beaconing && t.rw then
    match beaconLocation t world with
    | some loc =>
      let sent := beacon t world.utc posit loc s
      if (sendPositionBeacon t world.utc loc posit).1 then
        let reported := sendReport t outcomes sent.1
        (reported.1, sent.2 ++ reported.2)
      else sent
    | none => sendReport t outcomes s
  else (s, [])

/-- The location differs from the last beacon by more than the threshold. -/
def moved (t : Captured F) (last : Option (F × F)) (loc : Location F) : Bool :=
  match last, loc.lat, loc.lon with
  | some (plat, plon), some la, some lo =>
    F64.lt t.moveThresholdDeg (F64.abs (la - plat)) ||
      F64.lt t.moveThresholdDeg (F64.abs (lo - plon))
  | none, some _, some _ => true
  | _, _, _ => false

def moveTick (t : Captured F) (world : BeaconWorld F) (posit : WriteResult) (s : State F) :
    State F × List (Event F) :=
  if t.location.source == .gpsd && t.beaconing && t.rw then
    match gpsdBeaconLocation world.instant world.gpsState t.location.alt with
    | some loc =>
      if moved t s.lastBeaconPos loc then beacon t world.utc posit loc s else (s, [])
    | none => (s, [])
  else (s, [])

/-! ## The task -/

/-- A read from the server, which is only watched for its end. -/
inductive ServerRead
  | line
  | closed
  | error
  deriving DecidableEq, Repr

inductive Input (F : Type)
  | attempt (a : Attempt)
  | cancel
  | telemetryTick (now utc : Int)
  | serverRead (r : ServerRead)
  | recv (m : Received (DataItem F)) (clock : GateClock) (outcome : WriteResult)
  | floorTick (world : BeaconWorld F) (posit : WriteResult) (outcomes : Nat → WriteResult)
  | moveTick (world : BeaconWorld F) (posit : WriteResult)

/-- One pass of a loop.  Nothing happens on an input the task does not wait for in
its phase. -/
def step (t : Captured F) (s : State F) (i : Input F) : State F × List (Event F) :=
  match s.phase, i with
  | .outer, .attempt a => attempt a s
  | .outer, .cancel => shutdown s
  | .inner, .cancel => shutdown s
  | .inner, .telemetryTick now utc => telemetryTick now utc s
  | .inner, .serverRead .line => (s, [])
  | .inner, .serverRead _ => ({ s with phase := .outer }, [])
  | .inner, .recv m clock outcome => handleMessage t clock outcome m s
  | .inner, .floorTick world posit outcomes => floorTick t world posit outcomes s
  | .inner, .moveTick world posit => moveTick t world posit s
  | _, _ => (s, [])

end Float

end Aprsis
end Rtpigate
