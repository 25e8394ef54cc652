/-
Configuration, as far as the tasks read it.

`capture` is the prologue of `aprsis_task`: it copies the settings into locals
that stay fixed for the life of the task, and refuses a configuration that lacks
one it needs.
-/
import Rtpigate.Num

namespace Rtpigate

inductive RtpigateError
  | config (message : String)
  | validation (message : String)
  deriving DecidableEq, Repr

inductive PositionSource
  | config
  | gpsd
  deriving DecidableEq, Repr

inductive DaoMode
  | off
  | human
  | base91
  deriving DecidableEq, Repr

structure StationConfig where
  callsign : Option String
  name : Option String

structure Location (F : Type) where
  lat : Option F
  lon : Option F
  alt : Option F
  source : PositionSource

structure GpsdConfig (F : Type) where
  moveThresholdDeg : Option F := none
  minBeaconSecs : Option Nat := none

structure AprsisConfig where
  passcode : Option String
  host : Option String
  port : Option Nat
  enabled : Option Bool
  beaconing : Option Bool
  igating : Option Bool
  symbol : Option String
  overlay : Option String
  threshold : Option Nat
  dao : Option DaoMode

structure SatelliteConfig (F : Type) where
  frequencies : Option (List F)

structure Config (F : Type) where
  station : StationConfig
  location : Location F
  aprsis : AprsisConfig
  satellite : Option (SatelliteConfig F)
  gpsd : Option (GpsdConfig F)

/-! ## Passcode -/

/-- The loop of `passcode`, from byte index `i`. -/
def passcodeLoop : Nat → List Char → Nat → Nat
  | _, [], hash => hash
  | i, c :: cs, hash =>
    if c = '-' then hash
    else passcodeLoop (i + c.utf8Size) cs (hash ^^^ (c.toNat <<< (if i % 2 = 0 then 8 else 0)))

/-- The APRS-IS passcode of a callsign.  `up` is the Unicode uppercase mapping of
a character. -/
def passcode (up : Char → List Char) (callsign : String) : Int :=
  ((passcodeLoop 0 (callsign.toList.flatMap up) 0x73E2 &&& 0x7FFF : Nat) : Int)

def parseDigits : List Char → Nat → Option Nat
  | [], n => some n
  | c :: cs, n => if c.isDigit then parseDigits cs (n * 10 + (c.toNat - '0'.toNat)) else none

/-- `str::parse::<i32>`: an optional sign and at least one digit, in range. -/
def parseI32 (s : String) : Option Int :=
  let signed : Option Int :=
    match s.toList with
    | [] => none
    | '-' :: cs => if cs.isEmpty then none else (parseDigits cs 0).map fun n => -(n : Int)
    | '+' :: cs => if cs.isEmpty then none else (parseDigits cs 0).map fun n => (n : Int)
    | cs => (parseDigits cs 0).map fun n => (n : Int)
  signed.filter fun i => -2147483648 ≤ i ∧ i ≤ 2147483647

namespace Config

variable {F : Type}

def computePasscode (up : Char → List Char) (c : Config F) : Int :=
  match c.station.callsign with
  | some callsign => passcode up callsign
  | none => -1

def passcodeIsvalid (up : Char → List Char) (c : Config F) : Bool :=
  match c.aprsis.passcode with
  | some p =>
    match parseI32 p with
    | some i => c.computePasscode up == i
    | none => false
  | none => false

def daoMode (c : Config F) : DaoMode := c.aprsis.dao.getD .human

def gpsdConfig (c : Config F) : GpsdConfig F := c.gpsd.getD {}

variable [F64 F]

/-- The configured satellite frequencies, 145.825 MHz when none are. -/
def satelliteFrequencies (c : Config F) : List F :=
  (c.satellite.bind fun s => s.frequencies).getD [145.825]

end Config

namespace GpsdConfig

variable {F : Type} [F64 F]

def effectiveThresholdDeg (g : GpsdConfig F) : F := g.moveThresholdDeg.getD 0.0001

def effectiveBeaconSecs (g : GpsdConfig F) : Nat := g.minBeaconSecs.getD 30

end GpsdConfig

/-! ## The locals of the APRS-IS task -/

/-- What `aprsis_task` reads from the configuration when it starts.  None of it
changes while the task runs. -/
structure Captured (F : Type) where
  callsign : String
  beaconing : Bool
  igating : Bool
  stationName : String
  symbol : Option String
  overlay : Option String
  daoMode : DaoMode
  location : Location F
  moveThresholdDeg : F
  minBeaconSecs : Nat
  rw : Bool
  telemetryThreshold : Nat

def capture {F : Type} [F64 F] (up : Char → List Char) (c : Config F) :
    Except RtpigateError (Captured F) :=
  match c.aprsis.host with
  | none => .error (.config "Unable to determine APRS-IS host")
  | some _ =>
    match c.aprsis.port with
    | none => .error (.config "Unable to determine APRS-IS port number")
    | some _ =>
      match c.station.callsign with
      | none => .error (.config "Unable to determine station callsign")
      | some callsign =>
        .ok {
          callsign := callsign
          beaconing := c.aprsis.beaconing.getD false
          igating := c.aprsis.igating.getD false
          stationName := c.station.name.getD (callsign ++ "'s station")
          symbol := c.aprsis.symbol
          overlay := c.aprsis.overlay
          daoMode := c.daoMode
          location := c.location
          moveThresholdDeg := c.gpsdConfig.effectiveThresholdDeg
          minBeaconSecs := c.gpsdConfig.effectiveBeaconSecs
          rw := c.passcodeIsvalid up
          telemetryThreshold := c.aprsis.threshold.getD 600 }

theorem capture_ok {F : Type} [F64 F] {up : Char → List Char} {c : Config F} {t : Captured F}
    (h : capture up c = .ok t) :
    c.station.callsign = some t.callsign ∧ t.igating = c.aprsis.igating.getD false ∧
      t.beaconing = c.aprsis.beaconing.getD false ∧ t.rw = c.passcodeIsvalid up := by
  unfold capture at h
  split at h
  · cases h
  · split at h
    · cases h
    · split at h
      · cases h
      · next hc =>
        cases h
        exact ⟨hc, rfl, rfl, rfl⟩

theorem capture_settings {F : Type} [F64 F] {up : Char → List Char} {c : Config F}
    {t : Captured F} (h : capture up c = .ok t) :
    t.symbol = c.aprsis.symbol ∧ t.overlay = c.aprsis.overlay ∧ t.daoMode = c.daoMode ∧
      t.telemetryThreshold = c.aprsis.threshold.getD 600 ∧
      t.minBeaconSecs = (c.gpsd.bind fun g => g.minBeaconSecs).getD 30 := by
  have hsecs : c.gpsdConfig.effectiveBeaconSecs =
      (c.gpsd.bind fun g => g.minBeaconSecs).getD 30 := by
    rw [GpsdConfig.effectiveBeaconSecs, Config.gpsdConfig]
    cases c.gpsd <;> rfl
  unfold capture at h
  split at h
  · cases h
  · split at h
    · cases h
    · split at h
      · cases h
      · cases h
        exact ⟨rfl, rfl, rfl, rfl, hsecs⟩

/-! ## A sample station -/

def asciiUpper (c : Char) : List Char := [c.toUpper]

def sampleConfig : Config ℚ where
  station := { callsign := some "N0CALL", name := none }
  location := { lat := some 40, lon := some (-105), alt := some 5000, source := .config }
  aprsis := {
    passcode := some "13023", host := some "noam.aprs2.net", port := some 14580
    enabled := some true, beaconing := some true, igating := some true, symbol := none
    overlay := none, threshold := some 600, dao := none }
  satellite := none
  gpsd := none

def sampleStation : Captured ℚ where
  callsign := "N0CALL"
  beaconing := true
  igating := true
  stationName := "N0CALL's station"
  symbol := none
  overlay := none
  daoMode := .human
  location := sampleConfig.location
  moveThresholdDeg := 0.0001
  minBeaconSecs := 30
  rw := true
  telemetryThreshold := 600

theorem capture_sampleConfig : capture asciiUpper sampleConfig = .ok sampleStation := rfl

end Rtpigate
