/-
The GPSD task.

The task keeps a connection to gpsd and merges what the reports say into one rolling fix:
a TPV report brings the position, its mode and its age, a SKY report the satellites.
Every report of the two kinds makes the merged fix the shared one.

A line comes as what the parser makes of it.  The clocks of a line are read once.
-/
import Rtpigate.Beacon
import Rtpigate.Lib.Machine

namespace Rtpigate
namespace Gpsd

/-! ## Reports -/

inductive Mode
  | noFix
  | fix2d
  | fix3d
  deriving DecidableEq, Repr

def Mode.number : Mode → Nat
  | .noFix => 1
  | .fix2d => 2
  | .fix3d => 3

/-- A position report.  Altitudes are in meters. -/
structure Tpv (F : Type) where
  mode : Mode
  lat : Option F
  lon : Option F
  altMsl : Option F
  alt : Option F
  time : Option String

/-- A satellite report.  The satellites come as whether each is used, or as two
counts. -/
structure Sky (F : Type) where
  hdop : Option F
  satellites : Option (List Bool)
  uSat : Option Nat
  nSat : Option Nat

inductive Line (F : Type)
  | blank
  | tpv (r : Tpv F)
  | sky (r : Sky F)
  | other
  | unparsable

/-- The fix with the fields that are for display only.  `time` is in nanoseconds since the
epoch. -/
structure Fix (F : Type) extends GpsFix F where
  satsUsed : Nat
  satsVisible : Nat
  hdop : Option F
  time : Option Int

structure GpsTelemetry (F : Type) where
  name : String
  timestamp : Int
  lat : Option F
  lon : Option F
  altFt : Option F
  mode : Nat
  satsUsed : Nat
  satsVisible : Nat
  hdop : Option F
  time : Option Int
  fresh : Bool

/-! ## State -/

inductive Phase
  | outer
  | inner
  | ended
  deriving DecidableEq, Repr

/-- The rolling fields, and the shared fix. -/
structure State (F : Type) where
  lat : Option F := none
  lon : Option F := none
  altFt : Option F := none
  mode : Nat := 1
  time : Option Int := none
  satsUsed : Nat := 0
  satsVisible : Nat := 0
  hdop : Option F := none
  receivedAt : Nat
  prevMode : Option Nat := none
  lastTelem : Option Nat := none
  backoffSecs : Nat := 5
  phase : Phase := .outer
  gpsState : Option (Fix F) := none

inductive Event (F : Type)
  | publish (t : GpsTelemetry F)
  | sleep (secs : Nat)

inductive Attempt
  | resolveError
  | noAddress
  | connectError
  | connectTimeout
  | watchError
  | watchTimeout
  | watching
  deriving DecidableEq, Repr

/-- `theTime` is the local time for a message. -/
inductive Input (F : Type)
  | attempt (a : Attempt)
  | cancel
  | line (l : Line F) (theTime : Int)
  | closed
  | readError

def maxBackoffSecs : Nat := 300

def gpsTelemInterval : Nat := 10 ^ 9

variable {F : Type}

/-- The task starts at monotonic time `now`. -/
def start (now : Nat) : State F where
  receivedAt := now

/-! ## Connecting -/

/-- The delay is set back by the connection, and a WATCH that cannot be written leads to
the next attempt at once. -/
def attempt (a : Attempt) (s : State F) : State F × List (Event F) :=
  match a with
  | .resolveError | .noAddress | .connectError | .connectTimeout =>
    ({ s with backoffSecs := min (s.backoffSecs * 2) maxBackoffSecs }, [.sleep s.backoffSecs])
  | .watchError | .watchTimeout => ({ s with backoffSecs := 5 }, [])
  | .watching => ({ s with backoffSecs := 5, phase := .inner }, [])

/-! ## Lines -/

section Float

variable [F64 F]

def metersToFeet : F := 3.28084

/-- The MSL altitude, or else the generic one, in feet. -/
def Tpv.altFt (r : Tpv F) : Option F := (r.altMsl.or r.alt).map fun m => m * metersToFeet

/-- A position report sets everything the position rests on.  `parseTime` reads an
RFC 3339 time. -/
def mergeTpv (parseTime : String → Option Int) (now : Nat) (r : Tpv F) (s : State F) : State F :=
  { s with
    mode := r.mode.number
    lat := r.lat
    lon := r.lon
    altFt := r.altFt
    time := r.time.bind parseTime
    receivedAt := now }

end Float

/-- The counts are cast to 32 bits. -/
def mergeSky (r : Sky F) (s : State F) : State F :=
  match r.satellites with
  | some sats =>
    { s with
      hdop := r.hdop
      satsVisible := sats.length % 2 ^ 32
      satsUsed := sats.countP id % 2 ^ 32 }
  | none =>
    { s with
      hdop := r.hdop
      satsUsed := (r.uSat.map fun n => n % 2 ^ 32).getD s.satsUsed
      satsVisible := (r.nSat.map fun n => n % 2 ^ 32).getD s.satsVisible }

def State.fix (s : State F) : Fix F where
  lat := s.lat
  lon := s.lon
  altFt := s.altFt
  mode := s.mode
  satsUsed := s.satsUsed
  satsVisible := s.satsVisible
  hdop := s.hdop
  time := s.time
  receivedAt := s.receivedAt

def telemetry (now : Nat) (theTime : Int) (fix : Fix F) : GpsTelemetry F where
  name := "gps_status"
  timestamp := theTime
  lat := fix.lat
  lon := fix.lon
  altFt := fix.altFt
  mode := fix.mode
  satsUsed := fix.satsUsed
  satsVisible := fix.satsVisible
  hdop := fix.hdop
  time := fix.time
  fresh := fix.toGpsFix.isFresh now

/-- What follows a report: the message, when the mode has changed or the last one is a
second old, and the shared fix. -/
def share (now : Nat) (theTime : Int) (s : State F) : State F × List (Event F) :=
  let modeChanged := s.prevMode != some s.fix.mode
  let due := modeChanged || s.lastTelem.all fun t => decide (gpsTelemInterval ≤ now - t)
  ({ s with
      prevMode := if modeChanged then some s.fix.mode else s.prevMode
      lastTelem := if due then some now else s.lastTelem
      gpsState := some s.fix },
    if due then [.publish (telemetry now theTime s.fix)] else [])

variable [F64 F]

def line (parseTime : String → Option Int) (now : Nat) (theTime : Int) (l : Line F) (s : State F) :
    State F × List (Event F) :=
  match l with
  | .tpv r => share now theTime (mergeTpv parseTime now r s)
  | .sky r => share now theTime (mergeSky r s)
  | .blank | .other | .unparsable => (s, [])

/-- One pass of a loop, at monotonic time `now`. -/
def step (parseTime : String → Option Int) (now : Nat) (s : State F) (i : Input F) :
    State F × List (Event F) :=
  match s.phase, i with
  | .outer, .attempt a => attempt a s
  | .outer, .cancel | .inner, .cancel => ({ s with phase := .ended }, [])
  | .inner, .line l theTime => line parseTime now theTime l s
  | .inner, .closed | .inner, .readError => ({ s with phase := .outer }, [])
  | _, _ => (s, [])

/-! ## The position -/

/-- What the position of the rolling fix rests on. -/
abbrev State.position (s : State F) : GpsFix F := s.fix.toGpsFix

/-- The shared fix, as far as a beacon reads it. -/
def State.shared (s : State F) : Option (GpsFix F) := s.gpsState.map Fix.toGpsFix

/-- The position a report brings. -/
def Tpv.position (now : Nat) (r : Tpv F) : GpsFix F where
  lat := r.lat
  lon := r.lon
  altFt := r.altFt
  mode := r.mode.number
  receivedAt := now

omit [F64 F] in
theorem mergeSky_position (r : Sky F) (s : State F) : (mergeSky r s).position = s.position := by
  rw [mergeSky]
  split <;> rfl

omit [F64 F] in
theorem attempt_position (a : Attempt) (s : State F) :
    (attempt a s).1.position = s.position ∧ (attempt a s).1.shared = s.shared := by
  cases a <;> exact ⟨rfl, rfl⟩

/-- A step takes over the position of a TPV report and shares it, or shares the position it
has with a SKY report, or changes neither. -/
inductive StepCase (parseTime : String → Option Int) (now : Nat) (s : State F) (i : Input F) : Prop
  | tpv (r : Tpv F) (theTime : Int) (hi : i = .line (.tpv r) theTime) (hphase : s.phase = .inner)
      (hposition : (step parseTime now s i).1.position = r.position now)
      (hshared : (step parseTime now s i).1.shared = some (r.position now))
  | sky (r : Sky F) (theTime : Int) (hi : i = .line (.sky r) theTime)
      (hposition : (step parseTime now s i).1.position = s.position)
      (hshared : (step parseTime now s i).1.shared = some s.position)
  | other (hi : ∀ r theTime, i = .line (.tpv r) theTime → s.phase ≠ .inner)
      (hposition : (step parseTime now s i).1.position = s.position)
      (hshared : (step parseTime now s i).1.shared = s.shared)

theorem step_cases (parseTime : String → Option Int) (now : Nat) (s : State F) (i : Input F) :
    StepCase parseTime now s i := by
  cases hphase : s.phase with
  | ended =>
    have hstep : step parseTime now s i = (s, []) := by cases i <;> simp only [step, hphase]
    exact .other (fun _ _ _ h => by cases hphase.symm.trans h) (by rw [hstep]) (by rw [hstep])
  | outer =>
    refine .other (fun _ _ _ h => by cases hphase.symm.trans h) ?_ ?_
    all_goals
      cases i with
      | attempt a => simp only [step, hphase, attempt_position]
      | cancel | line | closed | readError =>
        simp only [step, hphase, State.position, State.fix, State.shared]
  | inner =>
    cases i with
    | line l theTime =>
      have hstep : step parseTime now s (.line l theTime) = line parseTime now theTime l s := by
        simp only [step, hphase]
      cases l with
      | tpv r => exact .tpv r theTime rfl hphase (by rw [hstep]; rfl) (by rw [hstep]; rfl)
      | sky r =>
        have hsky := mergeSky_position r s
        refine .sky r theTime rfl ?_ ?_
        · rw [hstep]
          exact hsky
        · rw [hstep]
          exact congrArg some hsky
      | blank | other | unparsable =>
        exact .other (fun _ _ h => by cases h) (by rw [hstep]; rfl) (by rw [hstep]; rfl)
    | attempt | cancel | closed | readError =>
      refine .other (fun _ _ h => by cases h) ?_ ?_ <;>
        simp only [step, hphase, State.position, State.fix, State.shared]

end Gpsd
end Rtpigate
