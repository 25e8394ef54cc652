/-
Beacons of the live fix.

The GPSD task and the APRS-IS task run side by side and share the fix.  Both read the same
monotonic clock, the one when a report comes in and the other when it is about to beacon.
Whatever comes in between, the fix found then is that of the last TPV report.
-/
import Rtpigate.Aprsis.Movement
import Rtpigate.Gpsd

namespace Rtpigate

open Lib Aprsis

/-- The two tasks on their clock.  `lastTpv` is the TPV report processed last, with the
time it was. -/
structure GpsSystem (F : Type) where
  now : Nat
  gpsd : Gpsd.State F
  task : Aprsis.State F
  lastTpv : Option (Gpsd.Tpv F × Nat) := none

/-- Time passes, something happens to the GPSD task, one of the two beacon ticks fires, or
something else happens to the APRS-IS task. -/
inductive GpsInput (F : Type)
  | elapse (ns : Nat)
  | gpsd (i : Gpsd.Input F)
  | floorTick (utc : Int) (posit : WriteResult) (outcomes : Nat → WriteResult)
  | moveTick (utc : Int) (posit : WriteResult)
  | own (i : Aprsis.Input F)

def Aprsis.Input.isBeaconTick {F : Type} : Aprsis.Input F → Bool
  | .floorTick _ _ _ | .moveTick _ _ => true
  | _ => false

namespace GpsSystem

variable {F : Type}

def start (now : Nat) (row : Option AprsisLifetime) (seq : SeqLoad) : GpsSystem F where
  now := now
  gpsd := Gpsd.start now
  task := (Aprsis.start row seq).1

def world (sys : GpsSystem F) (utc : Int) : BeaconWorld F := ⟨sys.now, utc, sys.gpsd.shared⟩

/-- What the APRS-IS task is given. -/
def taskInput (sys : GpsSystem F) : GpsInput F → Option (Aprsis.Input F)
  | .floorTick utc posit outcomes => some (.floorTick (sys.world utc) posit outcomes)
  | .moveTick utc posit => some (.moveTick (sys.world utc) posit)
  | .own i => if i.isBeaconTick then none else some i
  | .elapse _ | .gpsd _ => none

/-- The last TPV report once the GPSD task has taken the input. -/
def tpvAfter (sys : GpsSystem F) (i : Gpsd.Input F) : Option (Gpsd.Tpv F × Nat) :=
  match sys.gpsd.phase, i with
  | .inner, .line (.tpv r) _ => some (r, sys.now)
  | _, _ => sys.lastTpv

variable [F64 F]

/-- One step, with the events of the APRS-IS task. -/
def next (t : Captured F) (parseTime : String → Option Int) (sys : GpsSystem F) (i : GpsInput F) :
    GpsSystem F × List (Event F) :=
  match i with
  | .elapse ns => ({ sys with now := sys.now + ns }, [])
  | .gpsd i =>
    ({ sys with
        gpsd := (Gpsd.step parseTime sys.now sys.gpsd i).1
        lastTpv := sys.tpvAfter i }, [])
  | i =>
    match sys.taskInput i with
    | some own => ({ sys with task := (step t sys.task own).1 }, (step t sys.task own).2)
    | none => (sys, [])

/-- The step puts the location into a position packet, or writes a line for it. -/
def Builds (t : Captured F) (parseTime : String → Option Int) (sys : GpsSystem F) (i : GpsInput F)
    (loc : Location F) : Prop :=
  (∃ own x, sys.taskInput i = some own ∧ tried t sys.task own = some x ∧ x.loc = loc) ∨
    ∃ result, (loc, result) ∈ posits (sys.next t parseTime i).2

/-- The location is that of the report, which had a fix and is less than 30 s old, but for
an altitude it may lack. -/
structure Current (t : Captured F) (now : Nat) (r : Gpsd.Tpv F) (arrived : Nat)
    (loc : Location F) : Prop where
  position : ∃ lat lon, r.lat = some lat ∧ r.lon = some lon ∧ loc.lat = some lat ∧
    loc.lon = some lon
  fixed : r.mode = .fix2d ∨ r.mode = .fix3d
  recent : arrived ≤ now ∧ now < arrived + 30 * 10 ^ 9
  altitude : loc.alt = r.altFt ∨ r.altFt = none ∧ loc.alt = t.location.alt

/-- The rolling position is that of the last TPV report, and it is the shared one. -/
structure Tracks (sys : GpsSystem F) : Prop where
  report : ∀ r arrived, sys.lastTpv = some (r, arrived) →
    sys.gpsd.position = r.position arrived ∧ arrived ≤ sys.now
  unknown : sys.lastTpv = none → sys.gpsd.lat = none
  shared : sys.gpsd.shared = some sys.gpsd.position ∨ sys.gpsd.shared = none ∧ sys.lastTpv = none

variable {t : Captured F} {parseTime : String → Option Int} {sys : GpsSystem F}

/-- Time passes, the GPSD task takes a step, or the APRS-IS task, or nothing happens. -/
inductive NextCase (t : Captured F) (parseTime : String → Option Int) (sys : GpsSystem F)
    (i : GpsInput F) : Prop
  | elapse (ns : Nat) (h : sys.next t parseTime i = ({ sys with now := sys.now + ns }, []))
  | gpsd (j : Gpsd.Input F) (hi : i = .gpsd j) (h : (sys.next t parseTime i).2 = [])
  | task (own : Aprsis.Input F) (hown : sys.taskInput i = some own)
      (h : sys.next t parseTime i =
        ({ sys with task := (step t sys.task own).1 }, (step t sys.task own).2))
  | idle (h : sys.next t parseTime i = (sys, []))

theorem next_cases (t : Captured F) (parseTime : String → Option Int) (sys : GpsSystem F)
    (i : GpsInput F) : NextCase t parseTime sys i := by
  cases i with
  | elapse ns => exact .elapse ns rfl
  | gpsd j => exact .gpsd j rfl rfl
  | floorTick utc posit outcomes => exact .task _ rfl rfl
  | moveTick utc posit => exact .task _ rfl rfl
  | own i =>
    cases hown : sys.taskInput (.own i) with
    | some own => exact .task own hown (by simp only [next, hown])
    | none => exact .idle (by simp only [next, hown])

omit [F64 F] in
theorem tpvAfter_other {i : Gpsd.Input F}
    (h : ∀ r theTime, i = .line (.tpv r) theTime → sys.gpsd.phase ≠ .inner) :
    sys.tpvAfter i = sys.lastTpv := by
  unfold tpvAfter
  split
  · next r theTime hphase => exact absurd hphase (h r theTime rfl)
  · rfl

theorem Tracks.gpsd (h : sys.Tracks) (i : Gpsd.Input F) :
    (sys.next t parseTime (.gpsd i)).1.Tracks := by
  cases Gpsd.step_cases parseTime sys.now sys.gpsd i with
  | tpv r theTime hi hphase hposition hshared =>
    have hafter : sys.tpvAfter i = some (r, sys.now) := by simp only [tpvAfter, hphase, hi]
    refine ⟨fun r' arrived hr' => ?_, fun hnone => ?_, Or.inl (hshared.trans ?_)⟩
    · cases hafter.symm.trans hr'
      exact ⟨hposition, le_refl _⟩
    · cases hafter.symm.trans hnone
    · exact congrArg some hposition.symm
  | sky r theTime hi hposition hshared =>
    have hafter : sys.tpvAfter i = sys.lastTpv :=
      tpvAfter_other fun _ _ htpv => by cases hi.symm.trans htpv
    refine ⟨fun r' arrived hr' => ?_, fun hnone => ?_, Or.inl (hshared.trans ?_)⟩
    · obtain ⟨hreport, hle⟩ := h.report r' arrived (hafter.symm.trans hr')
      exact ⟨hposition.trans hreport, hle⟩
    · exact (congrArg GpsFix.lat hposition).trans (h.unknown (hafter.symm.trans hnone))
    · exact congrArg some hposition.symm
  | other hi hposition hshared =>
    have hafter : sys.tpvAfter i = sys.lastTpv := tpvAfter_other hi
    refine ⟨fun r' arrived hr' => ?_, fun hnone => ?_, ?_⟩
    · obtain ⟨hreport, hle⟩ := h.report r' arrived (hafter.symm.trans hr')
      exact ⟨hposition.trans hreport, hle⟩
    · exact (congrArg GpsFix.lat hposition).trans (h.unknown (hafter.symm.trans hnone))
    · show (Gpsd.step parseTime sys.now sys.gpsd i).1.shared =
          some (Gpsd.step parseTime sys.now sys.gpsd i).1.position ∨
        (Gpsd.step parseTime sys.now sys.gpsd i).1.shared = none ∧ sys.tpvAfter i = none
      rw [hshared, hposition, hafter]
      exact h.shared

theorem Tracks.next (h : sys.Tracks) (i : GpsInput F) : (sys.next t parseTime i).1.Tracks := by
  cases next_cases t parseTime sys i with
  | elapse ns hnext =>
    rw [hnext]
    refine ⟨fun r arrived hr => ?_, h.unknown, h.shared⟩
    obtain ⟨hreport, hle⟩ := h.report r arrived hr
    exact ⟨hreport, hle.trans (Nat.le_add_right _ _)⟩
  | gpsd j hi =>
    rw [hi]
    exact h.gpsd j
  | task own _ hnext =>
    rw [hnext]
    exact ⟨h.report, h.unknown, h.shared⟩
  | idle hnext =>
    rw [hnext]
    exact h

/-- A location found is that of the last TPV report. -/
theorem Tracks.current (h : sys.Tracks) {loc : Location F}
    (hloc : gpsdBeaconLocation sys.now sys.gpsd.shared t.location.alt = some loc) :
    ∃ r arrived, sys.lastTpv = some (r, arrived) ∧ Current t sys.now r arrived loc := by
  obtain ⟨fix, hfix, hfresh, rfl⟩ := gpsdBeaconLocation_eq_some hloc
  obtain ⟨hage, hmode, ⟨lat, hlat⟩, ⟨lon, hlon⟩⟩ := GpsFix.isFresh_iff.mp hfresh
  have hrolling : fix = sys.gpsd.position := by
    rcases h.shared with hshared | ⟨hshared, -⟩
    · exact Option.some.inj (hfix.symm.trans hshared)
    · cases hfix.symm.trans hshared
  cases htpv : sys.lastTpv with
  | none =>
    have hnone : fix.lat = none := hrolling ▸ h.unknown htpv
    cases hnone.symm.trans hlat
  | some report =>
    obtain ⟨r, arrived⟩ := report
    obtain ⟨hposition, hle⟩ := h.report r arrived htpv
    subst hrolling
    rw [hposition] at hage hmode hlat hlon ⊢
    refine ⟨r, arrived, rfl, ⟨lat, lon, hlat, hlon, hlat, hlon⟩, ?_, ⟨hle, ?_⟩, ?_⟩
    · cases hr : r.mode with
      | noFix =>
        have hlow : 2 ≤ r.mode.number := hmode
        rw [hr] at hlow
        exact absurd hlow (by decide)
      | fix2d => exact Or.inl rfl
      | fix3d => exact Or.inr rfl
    · have hage' : sys.now - arrived < gpsFreshness := hage
      rw [gpsFreshness] at hage'
      omega
    · show r.altFt.or t.location.alt = r.altFt ∨
        r.altFt = none ∧ r.altFt.or t.location.alt = t.location.alt
      cases r.altFt with
      | none => exact Or.inr ⟨rfl, rfl⟩
      | some alt => exact Or.inl rfl

omit [F64 F] in
/-- A beacon tick of the task finds the world of the system. -/
theorem world_of_tick {i : GpsInput F} {own : Aprsis.Input F} (hown : sys.taskInput i = some own)
    {world : BeaconWorld F} (htick : (∃ posit outcomes, own = .floorTick world posit outcomes) ∨
      ∃ posit, own = .moveTick world posit) : ∃ utc, world = sys.world utc := by
  cases i with
  | elapse | gpsd => cases hown
  | own i =>
    rw [taskInput] at hown
    split at hown
    · cases hown
    · next hother =>
      cases hown
      rcases htick with ⟨_, _, rfl⟩ | ⟨_, rfl⟩ <;> exact absurd rfl hother
  | floorTick utc | moveTick utc =>
    cases hown
    rcases htick with ⟨_, _, h⟩ | ⟨_, h⟩ <;> cases h
    exact ⟨utc, rfl⟩

/-- A beacon tick tries the location found. -/
theorem tried_location (hsource : t.location.source = .gpsd) {i : GpsInput F}
    {own : Aprsis.Input F} {x : Trial F} (hown : sys.taskInput i = some own)
    (hx : tried t sys.task own = some x) :
    gpsdBeaconLocation sys.now sys.gpsd.shared t.location.alt = some x.loc := by
  rcases tried_cases hx with ⟨world, posit, outcomes, hi, hloc⟩ | ⟨world, posit, hi, hloc⟩
  · obtain ⟨utc, rfl⟩ := world_of_tick hown (Or.inl ⟨posit, outcomes, hi⟩)
    rw [beaconLocation, hsource] at hloc
    exact hloc
  · obtain ⟨utc, rfl⟩ := world_of_tick hown (Or.inr ⟨posit, hi⟩)
    exact hloc

theorem Builds.location (hsource : t.location.source = .gpsd) {i : GpsInput F} {loc : Location F}
    (h : Builds t parseTime sys i loc) :
    gpsdBeaconLocation sys.now sys.gpsd.shared t.location.alt = some loc := by
  rcases h with ⟨own, x, hown, hx, rfl⟩ | ⟨result, hmem⟩
  · exact tried_location hsource hown hx
  cases next_cases t parseTime sys i with
  | elapse _ hnext =>
    rw [hnext] at hmem
    cases hmem
  | gpsd _ _ hnone =>
    rw [hnone] at hmem
    cases hmem
  | task own hown hnext =>
    rw [hnext] at hmem
    obtain ⟨x, hx, rfl⟩ := tried_of_posit hmem
    exact tried_location hsource hown hx
  | idle hnext =>
    rw [hnext] at hmem
    cases hmem

theorem start_tracks (now : Nat) (row : Option AprsisLifetime) (seq : SeqLoad) :
    (start now row seq : GpsSystem F).Tracks where
  report _ _ h := by cases h
  unknown _ := rfl
  shared := Or.inr ⟨rfl, rfl⟩

/-- A SKY report leaves the location as it is, at any time. -/
theorem Tracks.sky (h : sys.Tracks) (r : Gpsd.Sky F) (theTime : Int) (now : Nat)
    (fallbackAlt : Option F) :
    gpsdBeaconLocation now (sys.next t parseTime (.gpsd (.line (.sky r) theTime))).1.gpsd.shared
      fallbackAlt = gpsdBeaconLocation now sys.gpsd.shared fallbackAlt := by
  show gpsdBeaconLocation now
    (Gpsd.step parseTime sys.now sys.gpsd (.line (.sky r) theTime)).1.shared fallbackAlt = _
  cases Gpsd.step_cases parseTime sys.now sys.gpsd (.line (.sky r) theTime) with
  | tpv _ _ hi => cases hi
  | other _ _ hshared => rw [hshared]
  | sky _ _ _ _ hshared =>
    rw [hshared]
    rcases h.shared with hsome | ⟨hnone, hunknown⟩
    · rw [hsome]
    · have hlat : sys.gpsd.position.lat = none := h.unknown hunknown
      have hstale : sys.gpsd.position.isFresh now = false := by
        simp only [GpsFix.isFresh, hlat, Option.isSome_none, Bool.and_false, Bool.false_and]
      simp only [hnone, gpsdBeaconLocation, hstale, Bool.false_eq_true, if_false]

/-- In every run a beacon is built from the last TPV report, which had a fix and is less
than 30 s old, and a SKY report changes nothing about the beacons to come. -/
theorem beacon_current (t : Captured F) (hsource : t.location.source = .gpsd)
    (parseTime : String → Option Int) (now : Nat) (row : Option AprsisLifetime) (seq : SeqLoad)
    (is : List (GpsInput F)) :
    (∀ i loc, Builds t parseTime (run (next t parseTime) (start now row seq) is).1 i loc →
      ∃ r arrived, (run (next t parseTime) (start now row seq) is).1.lastTpv = some (r, arrived) ∧
        Current t (run (next t parseTime) (start now row seq) is).1.now r arrived loc) ∧
    ∀ (r : Gpsd.Sky F) (theTime : Int) (later : Nat) (fallbackAlt : Option F),
      gpsdBeaconLocation later (next t parseTime (run (next t parseTime) (start now row seq) is).1
          (.gpsd (.line (.sky r) theTime))).1.gpsd.shared fallbackAlt =
        gpsdBeaconLocation later (run (next t parseTime) (start now row seq) is).1.gpsd.shared
          fallbackAlt := by
  have htracks : (run (next t parseTime) (start now row seq) is).1.Tracks :=
    run_invariant (P := fun _ (sys : GpsSystem F) _ => sys.Tracks) (start_tracks now row seq)
      (fun _ i _ _ h => h.next i) is
  refine ⟨fun i loc hbuilds => ?_, fun r theTime later fallbackAlt => ?_⟩
  · exact htracks.current (hbuilds.location hsource)
  · exact htracks.sky r theTime later fallbackAlt

def sampleReport : Gpsd.Tpv ℚ where
  mode := .fix3d
  lat := some 40
  lon := some (-105)
  altMsl := some 1500
  alt := none
  time := none

/-- A report, satellites, a lost connection, and 20 s later the floor tick. -/
def sampleRun : List (GpsInput ℚ) :=
  [.gpsd (.attempt .watching), .gpsd (.line (.tpv sampleReport) 0), .own (.attempt .loggedIn),
    .gpsd (.line (.sky ⟨some 1, some [true, false], none, none⟩) 0), .gpsd .closed,
    .elapse (20 * 10 ^ 9)]

theorem beacon_current_sample :
    ∃ r arrived,
      (run (next movingStation fun _ => none) (start 0 none .failed) sampleRun).1.lastTpv =
        some (r, arrived) ∧
      Current movingStation
        (run (next movingStation fun _ => none) (start 0 none .failed) sampleRun).1.now r arrived
        { lat := some 40, lon := some (-105), alt := sampleReport.altFt, source := .gpsd } :=
  (beacon_current movingStation rfl (fun _ => none) 0 none .failed sampleRun).1
    (.floorTick 20 .done fun _ => .done) _ (Or.inl ⟨_, ⟨20, _, .done⟩, rfl, rfl, rfl⟩)

end GpsSystem

end Rtpigate
