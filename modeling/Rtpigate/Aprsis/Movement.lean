/-
Beacons that follow the fix.

The floor tick and the movement tick both try to beacon the latest fix, and both note its
place when the helper reports no failure of the connection.  The helper reports none
either when the position was not valid and nothing was written: then the place noted is
that of a beacon nobody has seen.

The movement tick does not look at the time of the last beacon, only at the place.  So its
beacons are as far apart as the ticks the task takes, and a timer that has been kept waiting
delivers a tick late and the next one on time.
-/
import Rtpigate.Aprsis.Steps

namespace Rtpigate
namespace Aprsis

open Lib

variable {F : Type}

/-! ## Beacons of a trace -/

def coords (loc : Location F) : Option (F × F) :=
  match loc.lat, loc.lon with
  | some la, some lo => some (la, lo)
  | _, _ => none

def Event.posit : Event F → Option (Location F × WriteResult)
  | .write (.posit loc) _ result => some (loc, result)
  | _ => none

/-- The position lines written, with how each write ended. -/
def posits (tr : List (Event F)) : List (Location F × WriteResult) := tr.filterMap Event.posit

/-- The locations whose lines went out whole. -/
def beacons (tr : List (Event F)) : List (Location F) :=
  ((posits tr).filter fun w => w.2 = .done).map Prod.fst

/-- The place of the last beacon, `none` before the first. -/
def lastWritten (tr : List (Event F)) : Option (F × F) := (beacons tr).getLast?.bind coords

theorem posits_append (a b : List (Event F)) : posits (a ++ b) = posits a ++ posits b :=
  List.filterMap_append

theorem beacons_append (a b : List (Event F)) : beacons (a ++ b) = beacons a ++ beacons b := by
  rw [beacons, posits_append, List.filter_append, List.map_append, beacons, beacons]

theorem beacons_of_silent {evs : List (Event F)} (h : posits evs = []) : beacons evs = [] := by
  rw [beacons, h]
  rfl

theorem beacons_of_failed {evs : List (Event F)} {loc : Location F} {result : WriteResult}
    (h : posits evs = [(loc, result)]) (hdone : result ≠ .done) : beacons evs = [] := by
  rw [beacons, h, List.filter_singleton, decide_eq_false hdone]
  rfl

theorem beacons_of_done {evs : List (Event F)} {loc : Location F}
    (h : posits evs = [(loc, .done)]) : beacons evs = [loc] := by
  rw [beacons, h]
  rfl

section Float

variable [F64 F]

/-- The position packet accepts the location. -/
def accepted (t : Captured F) (utc : Int) (loc : Location F) : Bool :=
  (positpacket utc loc t.callsign t.stationName t.symbol t.overlay t.daoMode).isOk

theorem coords_of_accepted {t : Captured F} {utc : Int} {loc : Location F}
    (h : accepted t utc loc = true) : ∃ pos, coords loc = some pos := by
  obtain ⟨_, lat, lon, _, hlat, hlon, _⟩ := positpacket_isOk_iff.mp h
  refine ⟨(lat, lon), ?_⟩
  rw [coords, hlat, hlon]

/-! ## Trials -/

/-- A beacon a step tries to send, with how its write would end. -/
structure Trial (F : Type) where
  utc : Int
  loc : Location F
  outcome : WriteResult

/-- The beacon a step tries to send. -/
def tried (t : Captured F) (s : State F) (i : Input F) : Option (Trial F) :=
  match s.phase, i with
  | .inner, .floorTick world posit _ =>
    if t.beaconing && t.rw then
      (beaconLocation t world).map fun loc => ⟨world.utc, loc, posit⟩
    else none
  | .inner, .moveTick world posit =>
    if t.location.source == .gpsd && t.beaconing && t.rw then
      ((gpsdBeaconLocation world.instant world.gpsState t.location.alt).filter
        (moved t s.lastBeaconPos)).map fun loc => ⟨world.utc, loc, posit⟩
    else none
  | _, _ => none

/-- A location is tried at one of the two ticks, and is the one the tick finds. -/
theorem tried_cases {t : Captured F} {s : State F} {i : Input F} {x : Trial F}
    (h : tried t s i = some x) :
    (∃ world posit outcomes, i = .floorTick world posit outcomes ∧
        beaconLocation t world = some x.loc) ∨
      ∃ world posit, i = .moveTick world posit ∧
        gpsdBeaconLocation world.instant world.gpsState t.location.alt = some x.loc := by
  unfold tried at h
  split at h
  · next world posit outcomes _ =>
    split at h
    · obtain ⟨loc, hloc, rfl⟩ := Option.map_eq_some_iff.mp h
      exact Or.inl ⟨world, posit, outcomes, rfl, hloc⟩
    · cases h
  · next world posit _ =>
    split at h
    · obtain ⟨loc, hloc, rfl⟩ := Option.map_eq_some_iff.mp h
      exact Or.inr ⟨world, posit, rfl, (Option.filter_eq_some_iff.mp hloc).1⟩
    · cases h
  · cases h

/-- How a trial ends: the position is not valid, the write fails, or the line goes out. -/
inductive TrialResult (t : Captured F) (x : Trial F) (s : State F) (r : State F × List (Event F)) :
    Prop
  | rejected (hvalid : accepted t x.utc x.loc = false)
      (hpos : r.1.lastBeaconPos = (coords x.loc).or s.lastBeaconPos) (hnone : posits r.2 = [])
  | failed (hvalid : accepted t x.utc x.loc = true) (hdone : x.outcome ≠ .done)
      (hpos : r.1.lastBeaconPos = s.lastBeaconPos) (hsent : posits r.2 = [(x.loc, x.outcome)])
  | written (hvalid : accepted t x.utc x.loc = true) (hdone : x.outcome = .done)
      (hpos : r.1.lastBeaconPos = coords x.loc) (hsent : posits r.2 = [(x.loc, .done)])

theorem sendPositionBeacon_rejected {t : Captured F} {utc : Int} {loc : Location F}
    (h : accepted t utc loc = false) (outcome : WriteResult) :
    sendPositionBeacon t utc loc outcome = (true, []) := by
  rw [accepted] at h
  rw [sendPositionBeacon]
  cases hp : positpacket utc loc t.callsign t.stationName t.symbol t.overlay t.daoMode with
  | error e => rfl
  | ok text =>
    rw [hp] at h
    cases h

theorem sendPositionBeacon_accepted {t : Captured F} {utc : Int} {loc : Location F}
    (h : accepted t utc loc = true) (outcome : WriteResult) :
    ∃ bytes, sendPositionBeacon t utc loc outcome =
      (outcome == .done, [.write (.posit loc) bytes outcome]) := by
  rw [accepted] at h
  rw [sendPositionBeacon]
  cases hp : positpacket utc loc t.callsign t.stationName t.symbol t.overlay t.daoMode with
  | error e =>
    rw [hp] at h
    cases h
  | ok text => exact ⟨_, rfl⟩

omit [F64 F] in
theorem beacon_place (loc : Location F) (s : State F) (evs : List (Event F)) :
    ∃ s' : State F, (match loc.lat, loc.lon with
      | some la, some lo => ({ s with lastBeaconPos := some (la, lo) }, evs)
      | _, _ => (s, evs)) = (s', evs) ∧
        s'.lastBeaconPos = (coords loc).or s.lastBeaconPos := by
  rw [coords]
  cases loc.lat with
  | none => exact ⟨s, rfl, rfl⟩
  | some la =>
    cases loc.lon with
    | none => exact ⟨s, rfl, rfl⟩
    | some lo => exact ⟨_, rfl, rfl⟩

theorem beacon_result (t : Captured F) (x : Trial F) (s : State F) :
    TrialResult t x s (beacon t x.utc x.outcome x.loc s) := by
  obtain ⟨utc, loc, outcome⟩ := x
  rw [beacon]
  cases hvalid : accepted t utc loc with
  | false =>
    rw [sendPositionBeacon_rejected hvalid]
    obtain ⟨s', hs', hpos⟩ := beacon_place loc s []
    show TrialResult t _ s (match loc.lat, loc.lon with
      | some la, some lo => ({ s with lastBeaconPos := some (la, lo) }, [])
      | _, _ => (s, []))
    rw [hs']
    exact .rejected hvalid hpos rfl
  | true =>
    obtain ⟨bytes, hsent⟩ := sendPositionBeacon_accepted hvalid outcome
    rw [hsent]
    cases outcome with
    | failed | timedOut => exact .failed hvalid (fun h => by cases h) rfl rfl
    | done =>
      obtain ⟨pos, hplace⟩ := coords_of_accepted hvalid
      obtain ⟨s', hs', hpos⟩ := beacon_place loc s [.write (.posit loc) bytes .done]
      show TrialResult t _ s (match loc.lat, loc.lon with
        | some la, some lo => ({ s with lastBeaconPos := some (la, lo) }, _)
        | _, _ => (s, _))
      rw [hs']
      rw [hplace, Option.some_or] at hpos
      exact .written hvalid rfl (hpos.trans hplace.symm) rfl

/-! ## Steps -/

/-- The step sends no beacon and leaves the place noted alone. -/
structure NoBeacon (s : State F) (r : State F × List (Event F)) : Prop where
  lastBeaconPos : r.1.lastBeaconPos = s.lastBeaconPos
  silent : posits r.2 = []

omit [F64 F] in
theorem attempt_noBeacon (a : Attempt) (s : State F) : NoBeacon s (attempt a s) := by
  have hconn : (connected s).lastBeaconPos = s.lastBeaconPos := by
    rw [connected]
    split <;> rfl
  cases a <;> first | exact ⟨rfl, rfl⟩ | exact ⟨hconn, rfl⟩

theorem handleMessage_noBeacon (t : Captured F) (clock : GateClock) (outcome : WriteResult)
    (m : Received (DataItem F)) (s : State F) : NoBeacon s (handleMessage t clock outcome m s) := by
  refine ⟨(handleMessage_stays t clock outcome m s).lastBeaconPos, ?_⟩
  cases m with
  | lagged n => rfl
  | message d =>
    cases d with
    | tlm x => rfl
    | pkt p =>
      have hexit := handlePacket_exit t clock outcome s p
      show posits (handlePacket t clock outcome s p).2 = []
      generalize handlePacket t clock outcome s p = r at hexit
      cases hexit <;> rfl

theorem sendReport_noBeacon (t : Captured F) (outcomes : Nat → WriteResult) (s : State F) :
    NoBeacon s (sendReport t outcomes s) := by
  refine ⟨(sendReport_stays t outcomes s).lastBeaconPos, ?_⟩
  have hlines : ∀ lines, posits (writeLines t (telemetryReport t s.interval s.sequence)
      outcomes 0 lines).1 = [] :=
    fun lines => filterMap_writeLines t _ outcomes 0 lines fun _ _ _ => rfl
  have hexit := sendReport_exit t outcomes s
  generalize sendReport t outcomes s = r at hexit
  cases hexit with
  | invalid => rfl
  | done lines =>
    rw [posits_append, hlines]
    rfl
  | failed lines => exact hlines lines

theorem NoBeacon.after {t : Captured F} {x : Trial F} {s : State F}
    {r r' : State F × List (Event F)} (h' : NoBeacon r.1 r') (h : TrialResult t x s r) :
    TrialResult t x s (r'.1, r.2 ++ r'.2) := by
  have hposits : posits (r.2 ++ r'.2) = posits r.2 := by
    rw [posits_append, h'.silent, List.append_nil]
  cases h with
  | rejected hvalid hpos hnone =>
    exact .rejected hvalid (h'.lastBeaconPos.trans hpos) (hposits.trans hnone)
  | failed hvalid hdone hpos hsent =>
    exact .failed hvalid hdone (h'.lastBeaconPos.trans hpos) (hposits.trans hsent)
  | written hvalid hdone hpos hsent =>
    exact .written hvalid hdone (h'.lastBeaconPos.trans hpos) (hposits.trans hsent)

/-- A step tries no beacon, or the one `tried` names. -/
inductive BeaconStep (t : Captured F) (s : State F) (i : Input F) : Prop
  | none (htried : tried t s i = none) (h : NoBeacon s (step t s i))
  | tried (x : Trial F) (htried : tried t s i = some x) (h : TrialResult t x s (step t s i))

theorem floorTick_beacon {t : Captured F} {s : State F} (hphase : s.phase = .inner)
    (world : BeaconWorld F) (posit : WriteResult) (outcomes : Nat → WriteResult)
    (hstep : step t s (.floorTick world posit outcomes) = floorTick t world posit outcomes s) :
    BeaconStep t s (.floorTick world posit outcomes) := by
  by_cases hon : (t.beaconing && t.rw) = true
  case neg =>
    have hnone : tried t s (.floorTick world posit outcomes) = none := by
      simp only [tried, hphase, if_neg hon]
    refine .none hnone ?_
    rw [hstep, floorTick, if_neg hon]
    exact ⟨rfl, rfl⟩
  cases hloc : beaconLocation t world with
  | none =>
    have hnone : tried t s (.floorTick world posit outcomes) = none := by
      simp only [tried, hphase, if_pos hon, hloc, Option.map_none]
    refine .none hnone ?_
    rw [hstep, floorTick, if_pos hon, hloc]
    exact sendReport_noBeacon t outcomes s
  | some loc =>
    have hsome : tried t s (.floorTick world posit outcomes) = some ⟨world.utc, loc, posit⟩ := by
      simp only [tried, hphase, if_pos hon, hloc, Option.map_some]
    refine .tried _ hsome ?_
    have hresult := beacon_result t ⟨world.utc, loc, posit⟩ s
    rw [hstep, floorTick, if_pos hon, hloc]
    show TrialResult t _ s (if (sendPositionBeacon t world.utc loc posit).1 = true then _ else _)
    split
    · exact (sendReport_noBeacon t outcomes _).after hresult
    · exact hresult

theorem moveTick_beacon {t : Captured F} {s : State F} (hphase : s.phase = .inner)
    (world : BeaconWorld F) (posit : WriteResult)
    (hstep : step t s (.moveTick world posit) = moveTick t world posit s) :
    BeaconStep t s (.moveTick world posit) := by
  by_cases hon : (t.location.source == .gpsd && t.beaconing && t.rw) = true
  case neg =>
    have hnone : tried t s (.moveTick world posit) = none := by
      simp only [tried, hphase, if_neg hon]
    refine .none hnone ?_
    rw [hstep, moveTick, if_neg hon]
    exact ⟨rfl, rfl⟩
  cases hloc : gpsdBeaconLocation world.instant world.gpsState t.location.alt with
  | none =>
    have hnone : tried t s (.moveTick world posit) = none := by
      simp only [tried, hphase, if_pos hon, hloc, Option.filter_none, Option.map_none]
    refine .none hnone ?_
    rw [hstep, moveTick, if_pos hon, hloc]
    exact ⟨rfl, rfl⟩
  | some loc =>
    cases hmoved : moved t s.lastBeaconPos loc with
    | false =>
      have hnone : tried t s (.moveTick world posit) = none := by
        simp only [tried, hphase, if_pos hon, hloc, Option.filter_some, hmoved, Option.map_none,
          Bool.false_eq_true, if_false]
      refine .none hnone ?_
      rw [hstep, moveTick, if_pos hon, hloc]
      simp only [hmoved]
      exact ⟨rfl, rfl⟩
    | true =>
      have hsome : tried t s (.moveTick world posit) = some ⟨world.utc, loc, posit⟩ := by
        simp only [tried, hphase, if_pos hon, hloc, Option.filter_some, hmoved, if_true,
          Option.map_some]
      refine .tried _ hsome ?_
      rw [hstep, moveTick, if_pos hon, hloc]
      simp only [hmoved, if_true]
      exact beacon_result t ⟨world.utc, loc, posit⟩ s

/-- Nothing is tried but on the two ticks of the inner loop. -/
theorem tried_eq_none {t : Captured F} {s : State F} {i : Input F}
    (hfloor : s.phase = .inner → ∀ world posit outcomes, i ≠ .floorTick world posit outcomes)
    (hmove : s.phase = .inner → ∀ world posit, i ≠ .moveTick world posit) : tried t s i = none := by
  unfold tried
  split
  · next world posit outcomes hphase => exact absurd rfl (hfloor hphase world posit outcomes)
  · next world posit hphase => exact absurd rfl (hmove hphase world posit)
  · rfl

theorem step_beacon (t : Captured F) (s : State F) (i : Input F) : BeaconStep t s i := by
  cases step_branch t s i with
  | attempt a hi hphase hstep =>
    subst hi
    refine .none (tried_eq_none (fun _ _ _ _ h => by cases h) fun _ _ _ h => by cases h) ?_
    rw [hstep]
    exact attempt_noBeacon a s
  | cancel hi hstep | sample _ _ hi _ hstep | lost _ hi hstep =>
    subst hi
    refine .none (tried_eq_none (fun _ _ _ _ h => by cases h) fun _ _ _ h => by cases h) ?_
    rw [hstep]
    exact ⟨rfl, rfl⟩
  | recv m clock outcome hi _ hstep =>
    subst hi
    refine .none (tried_eq_none (fun _ _ _ _ h => by cases h) fun _ _ _ h => by cases h) ?_
    rw [hstep]
    exact handleMessage_noBeacon t clock outcome m s
  | floor world posit outcomes hi hphase hstep =>
    subst hi
    exact floorTick_beacon hphase world posit outcomes hstep
  | move world posit hi hphase hstep =>
    subst hi
    exact moveTick_beacon hphase world posit hstep
  | idle hwait hstep =>
    refine .none (tried_eq_none (fun hphase _ _ _ hi => ?_) fun hphase _ _ hi => ?_) ?_
    · rcases hwait hphase with ⟨_, hother⟩ | hother <;> cases hother.symm.trans hi
    · rcases hwait hphase with ⟨_, hother⟩ | hother <;> cases hother.symm.trans hi
    · rw [hstep]
      exact ⟨rfl, rfl⟩

/-- A position line is one the step tries to send. -/
theorem tried_of_posit {t : Captured F} {s : State F} {i : Input F} {w : Location F × WriteResult}
    (h : w ∈ posits (step t s i).2) : ∃ x, tried t s i = some x ∧ x.loc = w.1 := by
  cases step_beacon t s i with
  | none _ hnone =>
    rw [hnone.silent] at h
    cases h
  | tried x htried hresult =>
    refine ⟨x, htried, ?_⟩
    cases hresult with
    | rejected _ _ hnone =>
      rw [hnone] at h
      cases h
    | failed _ _ _ hsent | written _ _ _ hsent =>
      rw [hsent, List.mem_singleton] at h
      rw [h]

/-! ## The place of the last beacon -/

/-- A position that is not valid is tried at the place already noted only. -/
def Harmless (t : Captured F) (s : State F) (i : Input F) : Prop :=
  ∀ x, tried t s i = some x → accepted t x.utc x.loc = false →
    ∀ pos, coords x.loc = some pos → s.lastBeaconPos = some pos

omit [F64 F] in
theorem lastWritten_silent {tr evs : List (Event F)} (h : beacons evs = []) :
    lastWritten (tr ++ evs) = lastWritten tr := by
  rw [lastWritten, beacons_append, h, List.append_nil, lastWritten]

omit [F64 F] in
theorem lastWritten_sent {tr evs : List (Event F)} {loc : Location F} (h : beacons evs = [loc]) :
    lastWritten (tr ++ evs) = coords loc := by
  rw [lastWritten, beacons_append, h, List.getLast?_concat, Option.bind_some]

/-- What the step tries is harmless when it is valid, or has no place, or has the place
noted. -/
theorem harmless_iff {t : Captured F} {s : State F} {i : Input F} {x : Trial F}
    (htried : tried t s i = some x) :
    Harmless t s i ↔ (accepted t x.utc x.loc = false →
      ∀ pos, coords x.loc = some pos → s.lastBeaconPos = some pos) := by
  constructor
  · exact fun h => h x htried
  · intro h y hy
    cases htried.symm.trans hy
    exact h

theorem harmless_of_accepted {t : Captured F} {s : State F} {i : Input F} {x : Trial F}
    (htried : tried t s i = some x) (hvalid : accepted t x.utc x.loc = true) : Harmless t s i := by
  rw [harmless_iff htried, hvalid]
  exact fun h => by cases h

omit [F64 F] in
/-- The place of a location leaves the place noted as it is, when it is the same or there is
none. -/
theorem place_or_eq_iff {loc : Location F} {noted : Option (F × F)} :
    (coords loc).or noted = noted ↔ ∀ pos, coords loc = some pos → noted = some pos := by
  cases coords loc with
  | none => exact iff_of_true Option.none_or fun _ h => by cases h
  | some pos =>
    rw [Option.some_or]
    constructor
    · intro h _ hpos
      cases hpos
      exact h.symm
    · exact fun h => (h pos rfl).symm

theorem step_place_iff {t : Captured F} {s : State F} {tr : List (Event F)}
    (h : s.lastBeaconPos = lastWritten tr) (i : Input F) :
    (step t s i).1.lastBeaconPos = lastWritten (tr ++ (step t s i).2) ↔ Harmless t s i := by
  cases step_beacon t s i with
  | none htried hnone =>
    rw [hnone.lastBeaconPos, lastWritten_silent (beacons_of_silent hnone.silent)]
    refine iff_of_true h fun x hx => ?_
    rw [htried] at hx
    cases hx
  | tried x htried hresult =>
    cases hresult with
    | rejected hvalid hpos hnone =>
      rw [hpos, lastWritten_silent (beacons_of_silent hnone), ← h, harmless_iff htried, hvalid,
        forall_prop_of_true rfl]
      exact place_or_eq_iff
    | failed hvalid hdone hpos hsent =>
      rw [hpos, lastWritten_silent (beacons_of_failed hsent hdone)]
      exact iff_of_true h (harmless_of_accepted htried hvalid)
    | written hvalid _ hpos hsent =>
      rw [hpos, lastWritten_sent (beacons_of_done hsent)]
      exact iff_of_true rfl (harmless_of_accepted htried hvalid)

/-- The place noted is that of the last beacon written, in every state of a run, exactly
when the run tries no invalid position but at the place already noted. -/
theorem lastBeaconPos_iff (t : Captured F) (row : Option AprsisLifetime) (seq : SeqLoad)
    (is : List (Input F)) :
    (∀ js, js <+: is → (run (step t) (start row seq).1 js).1.lastBeaconPos =
        lastWritten (run (step t) (start row seq).1 js).2) ↔
      ∀ js i, js ++ [i] <+: is → Harmless t (run (step t) (start row seq).1 js).1 i := by
  have hstart : (start row seq : State F × List (Event F)).1.lastBeaconPos = none := by
    cases row <;> cases seq <;> rfl
  generalize (start row seq : State F × List (Event F)).1 = s₀ at hstart
  rw [forall_prefix_iff (P := fun js => (run (step t) s₀ js).1.lastBeaconPos =
    lastWritten (run (step t) s₀ js).2) hstart]
  refine forall_step_iff (I := fun js => (run (step t) s₀ js).1.lastBeaconPos =
    lastWritten (run (step t) s₀ js).2) hstart (fun js i h => ?_) is
  simp only [run_concat]
  have hiff := step_place_iff (t := t) h i
  exact ⟨hiff, hiff.mpr⟩

/-- A station on the move, with no altitude to fall back to. -/
def movingStation : Captured ℚ :=
  { sampleStation with location := { lat := none, lon := none, alt := none, source := .gpsd } }

/-- A world with a fresh fix, or none, at `secs` seconds. -/
def fixedAt (secs : Nat) (lat : ℚ) (alt : Option ℚ) : BeaconWorld ℚ where
  instant := secs * 10 ^ 9
  utc := secs
  gpsState := some { lat := some lat, lon := some (-105), altFt := alt, mode := 2,
                     receivedAt := secs * 10 ^ 9 }

/-- A fix without an altitude is not beaconed, and its place is noted. -/
theorem unsent_place_noted :
    let is : List (Input ℚ) :=
      [.attempt .loggedIn, .floorTick (fixedAt 0 40 none) .done fun _ => .done]
    ¬ ∀ js, js <+: is →
      (run (step movingStation) (start none .failed).1 js).1.lastBeaconPos =
        lastWritten (run (step movingStation) (start none .failed).1 js).2 := by
  intro is h
  have hplace := h is List.prefix_rfl
  have hnoted : (run (step movingStation) (start none .failed).1 is).1.lastBeaconPos =
      some (40, -105) := by decide +kernel
  have hsent : beacons (run (step movingStation) (start none .failed).1 is).2 = [] := by
    rw [← List.isEmpty_iff]
    decide +kernel
  rw [hnoted, lastWritten, hsent] at hplace
  cases hplace

/-! ## The spacing of movement beacons -/

/-- The time of a movement tick that the task takes. -/
def tickTaken (s : State F) (i : Input F) : Option Nat :=
  match s.phase, i with
  | .inner, .moveTick world _ => some world.instant
  | _, _ => none

/-- The time of the beacon a step sends from a movement tick. -/
def moveBeacon (t : Captured F) (s : State F) (i : Input F) : Option Nat :=
  match i with
  | .moveTick world _ => if (beacons (step t s i).2).isEmpty then none else some world.instant
  | _ => none

/-- The task, with the times of the movement ticks taken and of the movement beacons sent so
far. -/
structure Timed (F : Type) where
  state : State F
  moveTicks : List Nat := []
  moveBeacons : List Nat := []

def Timed.step (t : Captured F) (r : Timed F) (i : Input F) : Timed F × List (Event F) :=
  (⟨(Aprsis.step t r.state i).1, r.moveTicks ++ (tickTaken r.state i).toList,
      r.moveBeacons ++ (moveBeacon t r.state i).toList⟩,
    (Aprsis.step t r.state i).2)

/-- The task with the times of its beacons is the task. -/
theorem run_timed (t : Captured F) (r : Timed F) (is : List (Input F)) :
    (run (Timed.step t) r is).1.state = (run (step t) r.state is).1 ∧
      (run (Timed.step t) r is).2 = (run (step t) r.state is).2 :=
  run_project (f := Timed.state) (fun _ _ => ⟨rfl, rfl⟩) r is

/-- `b` is no less than the minimum spacing after `a`. -/
def SpacedBy (t : Captured F) (a b : Nat) : Prop := a + t.minBeaconSecs * 10 ^ 9 ≤ b

omit [F64 F] in
instance (t : Captured F) (a b : Nat) : Decidable (SpacedBy t a b) :=
  inferInstanceAs (Decidable (_ ≤ _))

/-- A movement tick that is taken is far enough from all that have been. -/
def Timed.OnTime (t : Captured F) (r : Timed F) (i : Input F) : Prop :=
  ∀ b ∈ tickTaken r.state i, ∀ a ∈ r.moveTicks, SpacedBy t a b

omit [F64 F] in
instance (t : Captured F) (r : Timed F) (i : Input F) : Decidable (r.OnTime t i) :=
  inferInstanceAs (Decidable (∀ b ∈ tickTaken r.state i, _))

theorem moveBeacon_eq_some_iff {t : Captured F} {s : State F} {world : BeaconWorld F}
    {posit : WriteResult} {b : Nat} :
    moveBeacon t s (.moveTick world posit) = some b ↔ world.instant = b ∧
      ∃ x, tried t s (.moveTick world posit) = some x ∧ accepted t x.utc x.loc = true ∧
        x.outcome = .done := by
  rw [moveBeacon]
  cases step_beacon t s (.moveTick world posit) with
  | none htried hnone =>
    rw [beacons_of_silent hnone.silent, htried]
    simp
  | tried x htried hresult =>
    rw [htried]
    cases hresult with
    | rejected hvalid _ hnone => simp [beacons_of_silent hnone, hvalid]
    | failed _ hdone _ hsent => simp [beacons_of_failed hsent hdone, hdone]
    | written hvalid hdone _ hsent => simp [beacons_of_done hsent, hvalid, hdone]

/-- A movement beacon is sent from a tick that is taken. -/
theorem moveBeacon_taken {t : Captured F} {s : State F} {i : Input F} {b : Nat}
    (h : moveBeacon t s i = some b) : tickTaken s i = some b := by
  cases i with
  | moveTick world posit =>
    obtain ⟨hb, x, htried, -⟩ := moveBeacon_eq_some_iff.mp h
    cases hphase : s.phase with
    | inner => simp only [tickTaken, hphase, hb]
    | outer | ended =>
      simp only [tried, hphase] at htried
      cases htried
  | attempt | cancel | telemetryTick | serverRead | recv | floorTick => cases h

/-- The beacons are sent from ticks, and those are far enough apart. -/
structure Timed.Spaced (t : Captured F) (r : Timed F) : Prop where
  beacons : r.moveBeacons.Sublist r.moveTicks
  ticks : r.moveTicks.Pairwise (SpacedBy t)

theorem Timed.Spaced.step {t : Captured F} {r : Timed F} (h : r.Spaced t) {i : Input F}
    (htime : r.OnTime t i) : (Timed.step t r i).1.Spaced t where
  beacons := by
    refine h.beacons.append ?_
    cases hb : moveBeacon t r.state i with
    | none => exact List.nil_sublist _
    | some b => rw [moveBeacon_taken hb]
  ticks := by
    show (r.moveTicks ++ (tickTaken r.state i).toList).Pairwise (SpacedBy t)
    rw [List.pairwise_append]
    refine ⟨h.ticks, ?_, fun a ha b hb => htime b (Option.mem_toList.mp hb) a ha⟩
    cases tickTaken r.state i with
    | none => exact List.Pairwise.nil
    | some b => exact List.pairwise_singleton _ b

/-- In a run that takes no two movement ticks closer to each other than `min_beacon_secs`,
no two movement beacons are closer either, whatever the fixes and the writes. -/
theorem moveBeacons_spaced (t : Captured F) (row : Option AprsisLifetime) (seq : SeqLoad)
    (is : List (Input F))
    (htime : ∀ js i, js ++ [i] <+: is →
      (run (Timed.step t) ⟨(start row seq).1, [], []⟩ js).1.OnTime t i) :
    (run (Timed.step t) ⟨(start row seq).1, [], []⟩ is).1.moveBeacons.Pairwise (SpacedBy t) ∧
      (run (Timed.step t) ⟨(start row seq).1, [], []⟩ is).2 =
        (run (step t) (start row seq).1 is).2 := by
  have hspaced : (run (Timed.step t) ⟨(start row seq).1, [], []⟩ is).1.Spaced t :=
    run_guarded (P := fun r => r.Spaced t) ⟨List.Sublist.refl _, List.Pairwise.nil⟩
      (fun _ _ hok h => h.step hok) is htime
  exact ⟨hspaced.ticks.sublist hspaced.beacons, (run_timed t _ is).2⟩

/-- The ticks of an interval timer that catches up with the ticks it has missed: in order,
and the tick number `k` no sooner than `k` periods after the start. -/
structure Bursts (start period : Nat) (times : List Nat) : Prop where
  ordered : times.Pairwise (· ≤ ·)
  due : ∀ e ∈ times.zipIdx, start + e.2 * period ≤ e.1

/-- The connection is lost and comes back between two ticks, and the fix moves. -/
def punctualTicks : List (Input ℚ) :=
  [.attempt .loggedIn, .moveTick (fixedAt 0 40 (some 5000)) .done,
    .moveTick (fixedAt 30 40.01 (some 5000)) .done, .serverRead .closed, .attempt .connectTimeout,
    .attempt .loggedIn, .moveTick (fixedAt 60 40.02 (some 5000)) .failed, .attempt .loggedIn,
    .moveTick (fixedAt 90 40.03 (some 5000)) .done]

theorem moveBeacons_spaced_punctual :
    (run (Timed.step movingStation) ⟨(start none .failed).1, [], []⟩
      punctualTicks).1.moveBeacons.Pairwise (SpacedBy movingStation) :=
  (moveBeacons_spaced movingStation none .failed punctualTicks
    (forall_prefix_of_take (by decide +kernel))).1

/-- The connection is down from the first tick until 95 s.  The three ticks missed come
at once, and the next one is on time. -/
def lateTicks : List (Input ℚ) :=
  [.attempt .loggedIn, .moveTick (fixedAt 0 40 (some 5000)) .done, .serverRead .closed,
    .attempt .connectTimeout, .attempt .loggedIn,
    .moveTick (fixedAt 95 40.01 (some 5000)) .done, .moveTick (fixedAt 95 40.01 (some 5000)) .done,
    .moveTick (fixedAt 95 40.01 (some 5000)) .done,
    .moveTick (fixedAt 120 40.02 (some 5000)) .done]

/-- The beacons at 95 s and at 120 s are 25 s apart. -/
theorem late_tick_beacons_too_soon :
    let r := (run (Timed.step movingStation) ⟨(start none .failed).1, [], []⟩ lateTicks).1
    Bursts 0 (movingStation.minBeaconSecs * 10 ^ 9) r.moveTicks ∧
      ¬ r.moveBeacons.Pairwise (SpacedBy movingStation) :=
  ⟨⟨by decide +kernel, by decide +kernel⟩, by decide +kernel⟩

end Float

end Aprsis
end Rtpigate
