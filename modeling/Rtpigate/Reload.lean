/-
Reloading the configuration.

A SIGHUP reads the file again and shows the dashboard what it says, if it is valid.  The
tasks keep the settings they took over at the start, and the APRS-IS task is started then
or not at all.  So the dashboard shows what is in force as long as no valid file changes one
of these settings, or turns APRS-IS on or off.
-/
import Rtpigate.Lib.Machine
import Rtpigate.Startup

namespace Rtpigate

open Lib

/-! ## Settings -/

/-- The settings of the APRS-IS task that the dashboard shows, with the defaults that the
task fills in. -/
structure Effective where
  callsign : Option String
  igating : Bool
  beaconing : Bool
  symbol : Option String
  overlay : Option String
  threshold : Nat
  dao : DaoMode
  deriving DecidableEq

variable {F : Type}

/-- What the task acts on. -/
def Captured.effective (t : Captured F) : Effective where
  callsign := some t.callsign
  igating := t.igating
  beaconing := t.beaconing
  symbol := t.symbol
  overlay := t.overlay
  threshold := t.telemetryThreshold
  dao := t.daoMode

/-- What the dashboard shows. -/
def PublicConfig.effective (p : PublicConfig F) : Effective where
  callsign := p.station.callsign
  igating := p.aprsis.igating.getD false
  beaconing := p.aprsis.beaconing.getD false
  symbol := p.aprsis.symbol
  overlay := p.aprsis.overlay
  threshold := p.aprsis.threshold.getD 600
  dao := p.aprsis.dao

/-- What the file says. -/
def ConfigFile.effective (c : ConfigFile F) : Effective where
  callsign := c.station.callsign
  igating := c.aprsis.igating.getD false
  beaconing := c.aprsis.beaconing.getD false
  symbol := c.aprsis.symbol
  overlay := c.aprsis.overlay
  threshold := c.aprsis.threshold.getD 600
  dao := c.daoMode

variable [F64 F]

theorem ConfigFile.toPublic_effective (c : ConfigFile F) : c.toPublic.effective = c.effective := rfl

theorem capture_effective {up : Char → List Char} {c : ConfigFile F} {t : Captured F}
    (h : capture up c.toConfig = .ok t) : t.effective = c.effective := by
  obtain ⟨hcallsign, higating, hbeaconing, -⟩ := capture_ok h
  obtain ⟨hsymbol, hoverlay, hdao, hthreshold, -⟩ := capture_settings h
  rw [Captured.effective, ← hcallsign, higating, hbeaconing, hsymbol, hoverlay, hdao, hthreshold]
  rfl

/-! ## The process -/

/-- What the dashboard is shown, and the settings of the tasks. -/
structure Settled (F : Type) where
  publicConfig : PublicConfig F
  satFreqs : List F
  aprsis : Option (Captured F)

/-- A SIGHUP, with the file found, `none` when it does not read, and the directories of the
moment. -/
structure Reload (F : Type) where
  file : Option (ConfigFile F)
  dirExists : String → Bool

/-- The file, if it is valid. -/
def Reload.accepted (i : Reload F) : Option (ConfigFile F) :=
  i.file.filter fun c => (c.validate i.dirExists).isEmpty

namespace Settled

/-- The start at local time `startedAt`. -/
def start (up : Char → List Char) (startedAt : Int) (c : ConfigFile F) : Settled F where
  publicConfig := { c.toPublic with startedAt := some startedAt }
  satFreqs := c.satelliteFrequencies
  aprsis := c.aprsisTask up

/-- A reload, with what is pushed to the browsers. -/
def reload (startedAt : Int) (s : Settled F) (i : Reload F) : Settled F × List (PublicConfig F) :=
  match i.accepted with
  | none => (s, [])
  | some c =>
    let newPublic := { c.toPublic with startedAt := some startedAt }
    ({ s with publicConfig := newPublic }, [newPublic])

/-- The settings the dashboard shows are those of the tasks that run, and it shows APRS-IS
as enabled when its task runs. -/
structure InForce (s : Settled F) : Prop where
  satelliteFrequencies : s.publicConfig.satelliteFrequencies = s.satFreqs
  enabled : s.publicConfig.aprsis.enabled = some true ↔ s.aprsis.isSome = true
  aprsis : ∀ t ∈ s.aprsis, s.publicConfig.effective = t.effective

/-- The file has the settings of the start, those of APRS-IS if that was enabled. -/
structure Same (c₀ c : ConfigFile F) : Prop where
  satelliteFrequencies : c.satelliteFrequencies = c₀.satelliteFrequencies
  enabled : c.aprsis.enabled = some true ↔ c₀.aprsis.enabled = some true
  aprsis : c₀.aprsis.enabled = some true → c.effective = c₀.effective

variable {up : Char → List Char} (startedAt : Int) {c₀ c : ConfigFile F}

/-- The tasks were started from one file and the dashboard shows another. -/
theorem inForce_iff (hvalid : c₀.Valid) {s : Settled F}
    (hsat : s.satFreqs = c₀.satelliteFrequencies) (haprsis : s.aprsis = c₀.aprsisTask up)
    (hpublic : s.publicConfig = { c.toPublic with startedAt := some startedAt }) :
    s.InForce ↔ Same c₀ c := by
  have hfreqs : s.publicConfig.satelliteFrequencies = c.satelliteFrequencies := by rw [hpublic]; rfl
  have heffective : s.publicConfig.effective = c.effective := by
    rw [hpublic]
    exact c.toPublic_effective
  have hshown : s.publicConfig.aprsis.enabled = c.aprsis.enabled := by rw [hpublic]; rfl
  have hruns : s.aprsis.isSome = true ↔ c₀.aprsis.enabled = some true := by
    rw [haprsis]
    exact hvalid.aprsisTask_isSome_iff up
  constructor
  · intro h
    refine ⟨hfreqs.symm.trans (h.satelliteFrequencies.trans hsat), ?_, fun henabled => ?_⟩
    · rw [← hshown, ← hruns]
      exact h.enabled
    obtain ⟨t, ht, htask⟩ := hvalid.aprsisTask up henabled
    rw [← heffective, h.aprsis t (haprsis.trans htask), capture_effective ht]
  · intro h
    refine ⟨hfreqs.trans (h.satelliteFrequencies.trans hsat.symm), ?_, fun t ht => ?_⟩
    · rw [hshown, hruns]
      exact h.enabled
    have hrunning : c₀.aprsisTask up = some t := haprsis.symm.trans ht
    by_cases henabled : c₀.aprsis.enabled = some true
    · obtain ⟨t', ht', htask⟩ := hvalid.aprsisTask up henabled
      cases htask.symm.trans hrunning
      rw [heffective, h.aprsis henabled, capture_effective ht']
    · rw [ConfigFile.aprsisTask_disabled up henabled] at hrunning
      cases hrunning

/-- The tasks keep what they have. -/
theorem run_tasks (s : Settled F) (is : List (Reload F)) :
    (run (reload startedAt) s is).1.satFreqs = s.satFreqs ∧
      (run (reload startedAt) s is).1.aprsis = s.aprsis := by
  refine run_invariant (P := fun _ (s' : Settled F) _ => s'.satFreqs = s.satFreqs ∧
    s'.aprsis = s.aprsis) ⟨rfl, rfl⟩ (fun _ i s' _ h => ?_) is
  rw [reload]
  cases i.accepted with
  | none => exact h
  | some c => exact h

/-- The dashboard shows the settings in force in every state, and a reload that fails
changes nothing, exactly when every valid file of the run has the settings of the start. -/
theorem config_in_force_iff (up : Char → List Char) (startedAt : Int) (dirExists : String → Bool)
    (c₀ : ConfigFile F) (hvalid : c₀.validate dirExists = []) (is : List (Reload F)) :
    ((∀ js, js <+: is → (run (reload startedAt) (start up startedAt c₀) js).1.InForce) ∧
        ∀ js i, js ++ [i] <+: is → i.accepted = none →
          (run (reload startedAt) (start up startedAt c₀) (js ++ [i])).1 =
            (run (reload startedAt) (start up startedAt c₀) js).1) ↔
      ∀ js i, js ++ [i] <+: is → ∀ c ∈ i.accepted, Same c₀ c := by
  have hfails : ∀ js i, js ++ [i] <+: is → i.accepted = none →
      (run (reload startedAt) (start up startedAt c₀) (js ++ [i])).1 =
        (run (reload startedAt) (start up startedAt c₀) js).1 := by
    intro js i _ hnone
    rw [run_concat, reload, hnone]
  have hvalid := ConfigFile.valid_of_validate hvalid
  have hstart : (start up startedAt c₀).InForce :=
    (inForce_iff startedAt hvalid rfl rfl rfl).mpr ⟨rfl, Iff.rfl, fun _ => rfl⟩
  rw [and_iff_left hfails, forall_prefix_iff (P := fun js =>
    (run (reload startedAt) (start up startedAt c₀) js).1.InForce) hstart]
  refine forall_step_iff (I := fun js =>
    (run (reload startedAt) (start up startedAt c₀) js).1.InForce) hstart (fun js i h => ?_) is
  have hiff : (run (reload startedAt) (start up startedAt c₀) (js ++ [i])).1.InForce ↔
      ∀ c ∈ i.accepted, Same c₀ c := by
    cases haccepted : i.accepted with
    | none =>
      rw [run_concat, reload, haccepted]
      exact iff_of_true h fun _ hc => by cases hc
    | some c =>
      obtain ⟨hsat, haprsis⟩ := run_tasks startedAt (start up startedAt c₀)
        (js ++ [i])
      have hpublic : (run (reload startedAt) (start up startedAt c₀) (js ++ [i])).1.publicConfig =
          { c.toPublic with startedAt := some startedAt } := by
        rw [run_concat, reload, haccepted]
      rw [inForce_iff startedAt hvalid hsat haprsis hpublic]
      exact ⟨fun hsame _ hc => by cases hc; exact hsame, fun hall => hall c rfl⟩
  exact ⟨hiff, hiff.mpr⟩

/-- The sample file with gating turned off. -/
def quietFile : ConfigFile ℚ :=
  { sampleFile with aprsis := { sampleFile.aprsis with igating := some false } }

def quietReload : Reload ℚ := ⟨some quietFile, fun _ => true⟩

theorem config_in_force_iff_sample :
    ((∀ js, js <+: [quietReload] →
          (run (reload 0) (start asciiUpper 0 sampleFile) js).1.InForce) ∧
        ∀ js i, js ++ [i] <+: [quietReload] → i.accepted = none →
          (run (reload 0) (start asciiUpper 0 sampleFile) (js ++ [i])).1 =
            (run (reload 0) (start asciiUpper 0 sampleFile) js).1) ↔
      ∀ js i, js ++ [i] <+: [quietReload] → ∀ c ∈ i.accepted, Same sampleFile c :=
  config_in_force_iff asciiUpper 0 (fun _ => true) sampleFile validate_sampleFile [quietReload]

/-- The dashboard shows that packets are not gated, and the task gates them. -/
theorem reload_shows_other_settings :
    sampleFile.validate (fun _ => true) = [] ∧
      ¬ ∀ js, js <+: [quietReload] →
        (run (reload 0) (start asciiUpper 0 sampleFile) js).1.InForce := by
  refine ⟨validate_sampleFile, fun h => ?_⟩
  have hshown : (run (reload 0) (start asciiUpper 0 sampleFile)
      [quietReload]).1.publicConfig.effective = quietFile.effective := by
    decide +kernel
  have htask : (run (reload 0) (start asciiUpper 0 sampleFile) [quietReload]).1.aprsis =
      some sampleStation := (run_tasks 0 (start asciiUpper 0 sampleFile) [quietReload]).2
  have hforce := (h [quietReload] List.prefix_rfl).aprsis sampleStation htask
  rw [hshown] at hforce
  exact absurd hforce (by decide)

end Settled

end Rtpigate
