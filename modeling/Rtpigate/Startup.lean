/-
What a valid configuration is good for.

The process starts with a file that passes validation and, if it is to write to APRS-IS,
the check of its passcode.  The tasks then make their timers and compute their cutoffs,
and the beacon is encoded, from values that validation looks at under other conditions, or
only in part.
-/
import Rtpigate.Beacon
import Rtpigate.ConfigFile
import Rtpigate.Listener.Task

namespace Rtpigate

namespace ConfigFile

variable {F : Type} [F64 F]

/-! ## Startup -/

omit [F64 F] in
/-- The check of the passcode, for a file that gates or beacons. -/
def passcodeAccepted (up : Char → List Char) (c : ConfigFile F) : Bool :=
  !(c.aprsis.enabled == some true &&
      (c.aprsis.igating == some true || c.aprsis.beaconing == some true)) ||
    c.passcodeIsvalid up

/-- The process goes on past its checks. -/
structure Starts (up : Char → List Char) (dirExists : String → Bool) (c : ConfigFile F) : Prop where
  valid : c.validate dirExists = []
  passcode : c.passcodeAccepted up = true

/-- The captured settings of the APRS-IS task, if the process starts one. -/
def aprsisTask (up : Char → List Char) (c : ConfigFile F) : Option (Captured F) :=
  if c.aprsis.enabled = some true then (capture up c.toConfig).toOption else none

/-- The task finds all it needs in a valid file. -/
theorem Valid.aprsisTask {c : ConfigFile F} (h : c.Valid) (up : Char → List Char)
    (henabled : c.aprsis.enabled = some true) :
    ∃ t, capture up c.toConfig = .ok t ∧ c.aprsisTask up = some t := by
  obtain ⟨callsign, hcallsign⟩ := h.callsign
  obtain ⟨hhost, hport⟩ := h.server henabled
  obtain ⟨host, hhost⟩ := Option.isSome_iff_exists.mp hhost
  obtain ⟨port, hport⟩ := Option.isSome_iff_exists.mp hport
  have hok : ∃ t, capture up c.toConfig = .ok t := by
    simp only [capture, hhost, hport, hcallsign]
    exact ⟨_, rfl⟩
  obtain ⟨t, ht⟩ := hok
  refine ⟨t, ht, ?_⟩
  rw [ConfigFile.aprsisTask, if_pos henabled, ht]
  rfl

theorem Valid.aprsisTask_isSome_iff {c : ConfigFile F} (h : c.Valid) (up : Char → List Char) :
    (c.aprsisTask up).isSome = true ↔ c.aprsis.enabled = some true := by
  by_cases henabled : c.aprsis.enabled = some true
  · obtain ⟨t, -, htask⟩ := h.aprsisTask up henabled
    rw [htask]
    exact iff_of_true rfl henabled
  · rw [ConfigFile.aprsisTask, if_neg henabled]
    exact iff_of_false Bool.false_ne_true henabled

theorem aprsisTask_disabled {c : ConfigFile F} (up : Char → List Char)
    (hdisabled : c.aprsis.enabled ≠ some true) : c.aprsisTask up = none := if_neg hdisabled

/-! ## Timers and cutoffs -/

/-- The periods of the timers, in seconds: of the listener, and of the APRS-IS task. -/
def timerPeriods (up : Char → List Char) (c : ConfigFile F) : List Nat :=
  [15] ++ (c.aprsisTask up).elim [] fun t => [15, t.telemetryThreshold, t.minBeaconSecs]

/-- No timer has a period of zero, and the packet-history cutoff has a date. -/
structure Runs (up : Char → List Char) (c : ConfigFile F) (now : Int) : Prop where
  timers : ∀ period ∈ c.timerPeriods up, period ≠ 0
  cutoff : InDates (now - Listener.hours c.packetHistoryHours)

omit [F64 F] in
/-- A cutoff has a date when the hours do not go back past the first one. -/
theorem cutoff_inDates_iff {now : Int} (hnow : InDates now) (n : Nat) :
    InDates (now - Listener.hours n) ↔ (n : Int) * 3600 ≤ now / 10 ^ 9 + 8334601228800 := by
  simp only [InDates, Listener.hours] at hnow ⊢
  omega

theorem Valid.timers_iff {c : ConfigFile F} (h : c.Valid) (up : Char → List Char) :
    (∀ period ∈ c.timerPeriods up, period ≠ 0) ↔
      (c.aprsis.enabled = some true → c.aprsis.threshold ≠ some 0 ∧
        (c.location.source = .config → (c.gpsd.bind fun g => g.minBeaconSecs) ≠ some 0)) := by
  by_cases henabled : c.aprsis.enabled = some true
  case neg =>
    rw [timerPeriods, aprsisTask_disabled up henabled]
    refine iff_of_true (fun period hmem => ?_) fun hon => absurd hon henabled
    rw [List.mem_singleton.mp hmem]
    decide
  obtain ⟨t, ht, htask⟩ := h.aprsisTask up henabled
  obtain ⟨-, -, -, hthreshold, hspacing⟩ := capture_settings ht
  have hperiods : (∀ period ∈ c.timerPeriods up, period ≠ 0) ↔
      t.telemetryThreshold ≠ 0 ∧ t.minBeaconSecs ≠ 0 := by
    rw [timerPeriods, htask]
    simp
  have hzero : ∀ (o : Option Nat) (d : Nat), d ≠ 0 → (o.getD d ≠ 0 ↔ o ≠ some 0) := by
    intro o d hd
    cases o with
    | none => exact iff_of_true hd (fun h => by cases h)
    | some n => simp
  rw [hperiods, hthreshold, hspacing, hzero _ _ (by decide), hzero _ _ (by decide)]
  constructor
  · exact fun ⟨hnonzero, hspaced⟩ _ => ⟨hnonzero, fun _ => hspaced⟩
  · intro hcond
    obtain ⟨hnonzero, hspaced⟩ := hcond henabled
    refine ⟨hnonzero, ?_⟩
    -- validation has looked at the spacing for the other source
    cases hsource : c.location.source with
    | config => exact hspaced hsource
    | gpsd => exact h.spacing hsource

/-- The timers and the cutoff of a process that starts are sound exactly when, with APRS-IS
enabled, the threshold is not zero, nor with a fixed position the spacing of movement
beacons, and the packet history does not go back past the first date. -/
theorem runs_iff (up : Char → List Char) (dirExists : String → Bool) (c : ConfigFile F)
    (hstarts : c.Starts up dirExists) (now : Int) (hnow : InDates now) :
    c.Runs up now ↔
      (c.aprsis.enabled = some true → c.aprsis.threshold ≠ some 0 ∧
        (c.location.source = .config → (c.gpsd.bind fun g => g.minBeaconSecs) ≠ some 0)) ∧
      (c.packetHistoryHours : Int) * 3600 ≤ now / 10 ^ 9 + 8334601228800 := by
  have htimers := (valid_of_validate hstarts.valid).timers_iff up
  have hcutoff := cutoff_inDates_iff hnow c.packetHistoryHours
  constructor
  · intro hruns
    exact ⟨htimers.mp hruns.timers, hcutoff.mp hruns.cutoff⟩
  · rintro ⟨hperiods, hhours⟩
    exact ⟨htimers.mpr hperiods, hcutoff.mpr hhours⟩

theorem starts_sampleFile : sampleFile.Starts asciiUpper fun _ => true where
  valid := validate_sampleFile
  passcode := by decide +kernel

theorem runs_iff_sample :
    sampleFile.Runs asciiUpper 0 ↔
      (sampleFile.aprsis.enabled = some true → sampleFile.aprsis.threshold ≠ some 0 ∧
        (sampleFile.location.source = .config →
          (sampleFile.gpsd.bind fun g => g.minBeaconSecs) ≠ some 0)) ∧
      (sampleFile.packetHistoryHours : Int) * 3600 ≤ 0 / 10 ^ 9 + 8334601228800 :=
  runs_iff asciiUpper (fun _ => true) sampleFile starts_sampleFile 0 (by decide)

/-- A threshold of zero, a spacing of zero with a fixed position, and the longest packet
history: three files that pass all checks. -/
def zeroThreshold : ConfigFile ℚ :=
  { sampleFile with aprsis := { sampleFile.aprsis with threshold := some 0 } }

def zeroSpacing : ConfigFile ℚ :=
  { sampleFile with gpsd := some { minBeaconSecs := some 0 } }

def longestHistory : ConfigFile ℚ :=
  { sampleFile with storage := some { path := none, packetHistory := some 4294967295 } }

/-- The clock shows the first day of 2026. -/
theorem valid_files_panic :
    (zeroThreshold.Starts asciiUpper (fun _ => true) ∧
        ¬ ∀ period ∈ zeroThreshold.timerPeriods asciiUpper, period ≠ 0) ∧
      (zeroSpacing.Starts asciiUpper (fun _ => true) ∧
        ¬ ∀ period ∈ zeroSpacing.timerPeriods asciiUpper, period ≠ 0) ∧
      longestHistory.Starts asciiUpper (fun _ => true) ∧
        ¬ InDates (1767225600 * 10 ^ 9 - Listener.hours longestHistory.packetHistoryHours) :=
  ⟨⟨⟨by decide +kernel, by decide +kernel⟩, by decide +kernel⟩,
    ⟨⟨by decide +kernel, by decide +kernel⟩, by decide +kernel⟩,
    ⟨by decide +kernel, by decide +kernel⟩, by decide +kernel⟩

/-! ## Beacons -/

/-- The position packet is encoded exactly when the values of its location are acceptable. -/
theorem positpacket_ok_iff {loc : Location F} {altFt lat lon : F} (halt : loc.alt = some altFt)
    (hlat : loc.lat = some lat) (hlon : loc.lon = some lon) (utc : Int) (callsign name : String)
    (symbol overlay : Option String) (dao : DaoMode) :
    (∃ text, positpacket utc loc callsign name symbol overlay dao = .ok text) ↔
      F64.le altFt 0.0 = false ∧ (lat == 0.0) = false ∧ (lon == 0.0) = false := by
  have hisOk : (∃ text, positpacket utc loc callsign name symbol overlay dao = .ok text) ↔
      (positpacket utc loc callsign name symbol overlay dao).isOk = true := by
    cases positpacket utc loc callsign name symbol overlay dao with
    | error e => exact iff_of_false (fun ⟨_, h⟩ => by cases h) (fun h => by cases h)
    | ok text => exact iff_of_true ⟨text, rfl⟩ rfl
  rw [hisOk, positpacket_isOk_iff, halt, hlat, hlon]
  simp only [Option.some.injEq, Bool.or_eq_false_iff, and_assoc]
  constructor
  · rintro ⟨_, _, _, rfl, rfl, rfl, hgood⟩
    exact hgood
  · exact fun hgood => ⟨altFt, lat, lon, rfl, rfl, rfl, hgood⟩

/-- A valid file with a fixed position to beacon can be beaconed exactly when its altitude
is above zero and neither coordinate is zero. -/
theorem beaconing_iff (dirExists : String → Bool) (c : ConfigFile F)
    (hvalid : c.validate dirExists = []) (henabled : c.aprsis.enabled = some true)
    (hbeaconing : c.aprsis.beaconing = some true) (hsource : c.location.source = .config) :
    (∀ (utc : Int) (callsign name : String) (symbol overlay : Option String) (dao : DaoMode),
        ∃ text, positpacket utc c.location callsign name symbol overlay dao = .ok text) ↔
      ∀ altFt lat lon, c.location.alt = some altFt → c.location.lat = some lat →
        c.location.lon = some lon →
          F64.le altFt 0.0 = false ∧ (lat == 0.0) = false ∧ (lon == 0.0) = false := by
  obtain ⟨hlat, hlon, halt⟩ :=
    (valid_of_validate hvalid).fixed henabled hbeaconing hsource
  obtain ⟨lat, hlat⟩ := Option.isSome_iff_exists.mp hlat
  obtain ⟨lon, hlon⟩ := Option.isSome_iff_exists.mp hlon
  obtain ⟨altFt, halt⟩ := Option.isSome_iff_exists.mp halt
  simp only [positpacket_ok_iff halt hlat hlon, halt, hlat, hlon, Option.some.injEq]
  constructor
  · rintro hgood _ _ _ rfl rfl rfl
    exact hgood 0 "" "" none none .off
  · intro hgood _ _ _ _ _ _
    exact hgood altFt lat lon rfl rfl rfl

theorem beaconing_iff_sample :
    (∀ (utc : Int) (callsign name : String) (symbol overlay : Option String) (dao : DaoMode),
        ∃ text, positpacket utc sampleFile.location callsign name symbol overlay dao = .ok text) ↔
      ∀ altFt lat lon, sampleFile.location.alt = some altFt → sampleFile.location.lat = some lat →
        sampleFile.location.lon = some lon →
          F64.le altFt 0.0 = false ∧ (lat == 0.0) = false ∧ (lon == 0.0) = false :=
  beaconing_iff (fun _ => true) sampleFile validate_sampleFile rfl rfl rfl

/-- A station at sea level. -/
def seaLevel : ConfigFile ℚ :=
  { sampleFile with location := { sampleFile.location with alt := some 0 } }

theorem sea_level_never_beacons :
    seaLevel.validate (fun _ => true) = [] ∧ seaLevel.aprsis.enabled = some true ∧
      seaLevel.aprsis.beaconing = some true ∧ seaLevel.location.source = .config ∧
      (positpacket 0 seaLevel.location "N0CALL" "sea level" none none .human).isOk = false := by
  decide +kernel

end ConfigFile

end Rtpigate
