/-
The tallies of the slicers.

The listener counts for each slicer of the demodulator the frames it has recovered, in
rows of 15 seconds and over its lifetime.  How many slicers there are comes with the
first frame that carries their gains; rows are pushed before that too, and the store
may give back what an earlier run has saved.
-/
import Rtpigate.Listener.Process

namespace Rtpigate

structure SlicerInterval where
  timestamp : Int
  counts : List Nat
  deriving DecidableEq, Repr

structure SlicerTelemetry (F : Type) where
  name : String
  timestamp : Int
  microsecs : F
  slicerCount : Nat
  slicerGains : List F
  intervals : List SlicerInterval
  lifetimeSlicerHits : List Nat

structure SlicerIntervalRec where
  tsMicros : Int
  counts : List Nat
  deriving DecidableEq, Repr

/-- The one row of the slicers in the store. -/
structure SlicerState (F : Type) where
  slicerCount : Nat
  slicerGains : List F
  lifetimeHits : List Nat
  history : List SlicerIntervalRec

structure RestoredSlicer where
  lifetimeHits : List Nat
  history : List SlicerInterval

def SlicerIntervalRec.fromInterval (h : SlicerInterval) : SlicerIntervalRec where
  tsMicros := toMicros h.timestamp
  counts := h.counts

def SlicerIntervalRec.intoInterval (h : SlicerIntervalRec) : SlicerInterval where
  timestamp := fromMicros h.tsMicros
  counts := h.counts

/-- `Store::load_slicer` of a readable store. -/
def loadSlicer {F : Type} (row : Option (SlicerState F)) : Option RestoredSlicer :=
  row.map fun s =>
    { lifetimeHits := s.lifetimeHits, history := s.history.map SlicerIntervalRec.intoInterval }

namespace Listener

open Lib

/-! ## The task -/

/-- The locals of the listener that deal with slicers.  There are none of them until a
ladder of gains has come. -/
structure Slicers (F : Type) where
  count : Nat := 0
  gains : List F := []
  interval : List Nat := []
  history : List SlicerInterval := []
  lifetimeHits : List Nat := []
  restored : Option RestoredSlicer := none

namespace Slicers

variable {F : Type}

/-- The first ladder fixes the bank.  The restored tallies are used up with it, and
count only if they are for as many slicers. -/
def learn (slicerGains : Option (List F)) (s : Slicers F) : Slicers F :=
  match s.count, slicerGains.filter (!·.isEmpty) with
  | 0, some g =>
    let learned := { s with
      count := g.length, gains := g, interval := List.replicate g.length 0, restored := none }
    match s.restored with
    | some r =>
      if r.lifetimeHits.length = g.length then
        { learned with lifetimeHits := r.lifetimeHits, history := r.history }
      else { learned with lifetimeHits := List.replicate g.length 0 }
    | none => { learned with lifetimeHits := List.replicate g.length 0 }
  | _, _ => s

/-- One more for each slicer in the mask.  A shift takes its amount modulo the width. -/
def tallied (slicerMask : UInt16) (count : Nat) (counts : List Nat) : List Nat :=
  (List.range count).foldl (fun cs s =>
    if slicerMask &&& (1 <<< UInt16.ofNat s) ≠ 0 then cs.modify s (· + 1) else cs) counts

def tally (slicerMask : UInt16) (s : Slicers F) : Slicers F :=
  { s with
    interval := tallied slicerMask s.count s.interval
    lifetimeHits := tallied slicerMask s.count s.lifetimeHits }

/-- The ladder is read before the frame is mapped, the mask only of a mapped frame. -/
def frame [F64 F] (world : FrameWorld F) (fr : AprsFrame F) (s : Slicers F) : Slicers F :=
  let learned := s.learn fr.rf.slicerGains
  match mapFrame world.decodeTextual world.clock fr with
  | none => learned
  | some mapped => learned.tally mapped.packet.slicerMask

/-- The rows of the waterfall with a new one, the last ten. -/
def pushed (theTime : Int) (s : Slicers F) : List SlicerInterval :=
  let rows := s.history ++ [{ timestamp := theTime, counts := s.interval }]
  rows.drop (rows.length - 10)

def statistics [F64 F] (theTime utc : Int) (s : Slicers F) : SlicerTelemetry F where
  name := "slicer_statistics"
  timestamp := theTime
  microsecs := asMicrosecs utc
  slicerCount := s.count
  slicerGains := s.gains
  intervals := s.pushed theTime
  lifetimeSlicerHits := s.lifetimeHits

def tick (theTime : Int) (s : Slicers F) : Slicers F :=
  { s with history := s.pushed theTime, interval := s.interval.map fun _ => 0 }

/-- The row for the store, none without slicers. -/
def saved (s : Slicers F) : Option (SlicerState F) :=
  if 0 < s.count then
    some { slicerCount := s.count, slicerGains := s.gains, lifetimeHits := s.lifetimeHits,
           history := s.history.map SlicerIntervalRec.fromInterval }
  else none

end Slicers

/-! ## Over restarts -/

/-- The slicers of a listener process. -/
structure SlicerProcess (F : Type) where
  disk : Option (SlicerState F) := none
  task : Option (Slicers F) := none

/-- An input of the process, and whether its call of `load_slicer` or `save_slicer`
succeeds. -/
abbrev SlicerInput (F : Type) : Type := ProcessInput F × Bool

namespace SlicerProcess

variable {F : Type}

/-- The row after a flush. -/
def flushed (pr : SlicerProcess F) (ok : Bool) (s : Slicers F) : Option (SlicerState F) :=
  if ok then s.saved.or pr.disk else pr.disk

/-- The process after an input, and the messages sent on it. -/
def next [F64 F] (pr : SlicerProcess F) (i : SlicerInput F) :
    SlicerProcess F × List (SlicerTelemetry F) :=
  match i.1, pr.task with
  | .start _ _, _ =>
    ({ pr with task := some { restored := if i.2 then loadSlicer pr.disk else none } }, [])
  | .step (.frame world fr) _, some s => ({ pr with task := some (s.frame world fr) }, [])
  | .step (.tick world) _, some s =>
    let ticked := s.tick world.theTime
    ({ disk := pr.flushed i.2 ticked, task := some ticked },
      [s.statistics world.theTime world.utc])
  | .shutdown _ _, some s => ({ disk := pr.flushed i.2 s, task := none }, [])
  | .step _ _, none | .shutdown _ _, none => (pr, [])
  | .kill, _ => ({ pr with task := none }, [])

end SlicerProcess

/-- The slicers are there while the task runs. -/
theorem SlicerProcess.running {F : Type} [F64 F] [Display3 F] (is : List (SlicerInput F))
    {slicers : SlicerProcess F} {pr : Process F} (h : slicers.task.isSome = pr.task.isSome) :
    (run SlicerProcess.next slicers is).1.task.isSome =
      (is.foldl (fun pr i => pr.next i.1) pr).task.isSome := by
  induction is generalizing slicers pr with
  | nil => exact h
  | cons i is ih =>
    refine ih ?_
    obtain ⟨i, ok⟩ := i
    obtain ⟨disk, task⟩ := pr
    obtain ⟨row, s⟩ := slicers
    cases i with
    | start | kill => rfl
    | shutdown => cases s <;> cases task <;> rfl
    | step i oks => cases i <;> cases s <;> cases task <;> first | rfl | cases h

/-! ## Rectangular telemetry -/

/-- Every row has a column for each slicer, and there are ten at most. -/
structure Rows (count : Nat) (rows : List SlicerInterval) : Prop where
  width : ∀ row ∈ rows, row.counts.length = count
  bounded : rows.length ≤ 10

structure Rectangular {F : Type} (m : SlicerTelemetry F) : Prop where
  gains : m.slicerGains.length = m.slicerCount
  hits : m.lifetimeSlicerHits.length = m.slicerCount
  rows : Rows m.slicerCount m.intervals

/-- A time as the store keeps it. -/
def storedTime (ns : Int) : Int := fromMicros (toMicros ns)

/-- The times of the ticks, oldest first. -/
def tickTimes {F : Type} (is : List (SlicerInput F)) : List Int :=
  is.filterMap fun i => match i.1 with
    | .step (.tick world) _ => some world.theTime
    | _ => none

theorem tickTimes_concat {F : Type} (is : List (SlicerInput F)) (i : SlicerInput F) :
    tickTimes (is ++ [i]) = tickTimes is ++ tickTimes [i] := List.filterMap_append

/-- The rows are those of ticks, in the order of these.  Rows from the store have their
times in microseconds. -/
def FromTicks (ticks : List Int) (rows : List SlicerInterval) : Prop :=
  (rows.map fun row => storedTime row.timestamp).Sublist (ticks.map storedTime)

/-- Tallies that an earlier run may leave. -/
structure Restorable (ticks : List Int) (r : RestoredSlicer) : Prop where
  rows : Rows r.lifetimeHits.length r.history
  fromTicks : FromTicks ticks r.history

/-- The bank is learned with nothing to its rows but what the store has for as many
slicers. -/
def Slicers.CleanLadder {F : Type} (slicerGains : Option (List F)) (s : Slicers F) : Prop :=
  s.count = 0 → ∀ g ∈ slicerGains, g ≠ [] →
    s.history = [] ∨ ∃ r ∈ s.restored, r.lifetimeHits.length = g.length

instance {F : Type} (slicerGains : Option (List F)) (s : Slicers F) :
    Decidable (s.CleanLadder slicerGains) := inferInstanceAs (Decidable (_ → _))

def ProcessInput.frame? {F : Type} : ProcessInput F → Option (AprsFrame F)
  | .step (.frame _ fr) _ => some fr
  | _ => none

theorem ProcessInput.frame?_eq_some {F : Type} {i : ProcessInput F} {fr : AprsFrame F}
    (h : i.frame? = some fr) : ∃ world oks, i = .step (.frame world fr) oks := by
  cases i with
  | start | shutdown | kill => cases h
  | step i oks =>
    cases i with
    | frame world fr' =>
      cases h
      exact ⟨world, oks, rfl⟩
    | tick => cases h

/-- A frame does not bring the first ladder of a run behind a tick of it, unless a bank of
its size was restored. -/
def SlicerProcess.LearnsClean {F : Type} (pr : SlicerProcess F) (i : SlicerInput F) : Prop :=
  ∀ s ∈ pr.task, ∀ fr ∈ i.1.frame?, s.CleanLadder fr.rf.slicerGains

instance {F : Type} (pr : SlicerProcess F) (i : SlicerInput F) : Decidable (pr.LearnsClean i) :=
  inferInstanceAs (Decidable (∀ s ∈ pr.task, _))

theorem storedTime_fromMicros (micros : Int) :
    storedTime (fromMicros micros) = fromMicros micros := by
  by_cases h : InDates (micros * 1000)
  · have hdate : fromMicros micros = micros * 1000 := if_pos h
    have hback : toMicros (micros * 1000) = micros := Int.mul_ediv_cancel _ (by decide)
    rw [storedTime, hdate, hback, hdate]
  · have hepoch : fromMicros micros = 0 := if_neg h
    rw [hepoch]
    decide

theorem Rows.nil (count : Nat) : Rows count [] :=
  ⟨fun _ h => absurd h List.not_mem_nil, Nat.zero_le _⟩

theorem FromTicks.nil (ticks : List Int) : FromTicks ticks [] := List.nil_sublist _

theorem FromTicks.append {ticks : List Int} {rows : List SlicerInterval}
    (h : FromTicks ticks rows) (later : List Int) : FromTicks (ticks ++ later) rows := by
  unfold FromTicks
  rw [List.map_append]
  exact h.trans (List.sublist_append_left _ _)

theorem Restorable.later {ticks : List Int} {r : RestoredSlicer} (h : Restorable ticks r)
    (later : List Int) : Restorable (ticks ++ later) r := ⟨h.rows, h.fromTicks.append later⟩

namespace Slicers

variable {F : Type}

theorem length_tallied (slicerMask : UInt16) (count : Nat) (counts : List Nat) :
    (tallied slicerMask count counts).length = counts.length := by
  unfold tallied
  induction List.range count generalizing counts with
  | nil => rfl
  | cons s slicers ih =>
    rw [List.foldl_cons, ih]
    split
    · rw [List.length_modify]
    · rfl

/-- The shapes fit together, and what the store gave fits itself. -/
structure Inv (ticks : List Int) (s : Slicers F) : Prop where
  gains : s.gains.length = s.count
  interval : s.interval.length = s.count
  hits : s.lifetimeHits.length = s.count
  rows : Rows s.count s.history
  fromTicks : FromTicks ticks s.history
  restored : ∀ r, s.restored = some r → Restorable ticks r

theorem learn_inv {ticks : List Int} {s : Slicers F} (h : s.Inv ticks)
    {slicerGains : Option (List F)} (hclean : s.CleanLadder slicerGains) :
    (s.learn slicerGains).Inv ticks := by
  unfold learn
  split
  · next g hcount hladder =>
    obtain ⟨hsome, hne⟩ := Option.filter_eq_some_iff.mp hladder
    have hbank := hclean hcount g hsome (by simpa using hne)
    have hunused : ∀ r, (none : Option RestoredSlicer) = some r → Restorable ticks r :=
      fun _ hr => by cases hr
    have hfresh : s.history = [] →
        Rows g.length s.history ∧ FromTicks ticks s.history := by
      intro hnil
      rw [hnil]
      exact ⟨.nil _, .nil _⟩
    split
    · next r hr =>
      obtain ⟨hrows, hticks⟩ := h.restored r hr
      split
      · next hlen =>
        exact ⟨rfl, List.length_replicate, hlen, hlen ▸ hrows, hticks, hunused⟩
      · next hlen =>
        -- the tallies of another bank: nothing may have been pushed
        obtain ⟨hrows, hticks⟩ := hfresh (hbank.resolve_right fun ⟨r', hr', hlen'⟩ => by
          rw [hr, Option.mem_some_iff] at hr'
          exact hlen (hr' ▸ hlen'))
        exact ⟨rfl, List.length_replicate, List.length_replicate, hrows, hticks, hunused⟩
    · next hnone =>
      obtain ⟨hrows, hticks⟩ := hfresh (hbank.resolve_right fun ⟨r', hr', _⟩ => by
        rw [hnone] at hr'
        cases hr')
      exact ⟨rfl, List.length_replicate, List.length_replicate, hrows, hticks, hunused⟩
  · exact h

theorem tally_inv {ticks : List Int} {s : Slicers F} (h : s.Inv ticks) (slicerMask : UInt16) :
    (s.tally slicerMask).Inv ticks where
  gains := h.gains
  interval := (length_tallied _ _ _).trans h.interval
  hits := (length_tallied _ _ _).trans h.hits
  rows := h.rows
  fromTicks := h.fromTicks
  restored := h.restored

theorem frame_inv [F64 F] {ticks : List Int} {s : Slicers F} (h : s.Inv ticks)
    (world : FrameWorld F) {fr : AprsFrame F} (hclean : s.CleanLadder fr.rf.slicerGains) :
    (s.frame world fr).Inv ticks := by
  rw [frame]
  split
  · exact learn_inv h hclean
  · exact tally_inv (learn_inv h hclean) _

theorem pushed_rows {ticks : List Int} {s : Slicers F} (h : s.Inv ticks) (theTime : Int) :
    Rows s.count (s.pushed theTime) ∧ FromTicks (ticks ++ [theTime]) (s.pushed theTime) := by
  refine ⟨⟨fun row hrow => ?_, ?_⟩, ?_⟩
  · rcases List.mem_append.mp (List.mem_of_mem_drop hrow) with hrow | hrow
    · exact h.rows.width row hrow
    · rw [List.mem_singleton.mp hrow]
      exact h.interval
  · rw [pushed, List.length_drop]
    omega
  · unfold FromTicks pushed
    refine ((List.drop_sublist _ _).map _).trans ?_
    rw [List.map_append, List.map_append]
    exact List.Sublist.append h.fromTicks (List.Sublist.refl _)

theorem Inv.later {ticks : List Int} {s : Slicers F} (h : s.Inv ticks) (later : List Int) :
    s.Inv (ticks ++ later) where
  gains := h.gains
  interval := h.interval
  hits := h.hits
  rows := h.rows
  fromTicks := h.fromTicks.append later
  restored r hr := (h.restored r hr).later later

theorem tick_inv {ticks : List Int} {s : Slicers F} (h : s.Inv ticks) (theTime : Int) :
    (s.tick theTime).Inv (ticks ++ [theTime]) where
  gains := h.gains
  interval := by
    rw [tick, List.length_map]
    exact h.interval
  hits := h.hits
  rows := (pushed_rows h theTime).1
  fromTicks := (pushed_rows h theTime).2
  restored := (h.later _).restored

theorem statistics_rectangular [F64 F] {ticks : List Int} {s : Slicers F} (h : s.Inv ticks)
    (theTime utc : Int) : Rectangular (s.statistics theTime utc) :=
  ⟨h.gains, h.hits, (pushed_rows h theTime).1⟩

/-- A ladder that finds rows it does not fit keeps them. -/
theorem learn_ragged {s : Slicers F} {slicerGains : Option (List F)}
    (h : ¬ s.CleanLadder slicerGains) :
    s.count = 0 ∧ (s.learn slicerGains).count ≠ 0 ∧ (s.learn slicerGains).history = s.history ∧
      s.history ≠ [] := by
  unfold CleanLadder at h
  push Not at h
  obtain ⟨hcount, g, hsome, hne, hrows, hbank⟩ := h
  have hladder : slicerGains.filter (!·.isEmpty) = some g :=
    Option.filter_eq_some_iff.mpr ⟨hsome, by simpa using hne⟩
  have hlen : g.length ≠ 0 := fun h0 => hne (List.length_eq_zero_iff.mp h0)
  refine ⟨hcount, ?_⟩
  unfold learn
  rw [hcount, hladder]
  cases hr : s.restored with
  | none => exact ⟨hlen, rfl, hrows⟩
  | some r =>
    simp only [if_neg (hbank r hr)]
    exact ⟨hlen, trivial, hrows⟩

theorem frame_ragged [F64 F] {s : Slicers F} {fr : AprsFrame F}
    (h : ¬ s.CleanLadder fr.rf.slicerGains) (world : FrameWorld F) :
    s.count = 0 ∧ (s.frame world fr).count ≠ 0 ∧ (s.frame world fr).history = s.history ∧
      s.history ≠ [] := by
  rw [frame]
  split
  · exact learn_ragged h
  · exact learn_ragged h

/-- The last row before is a row still. -/
theorem exists_mem_pushed {s : Slicers F} (h : s.history ≠ []) (theTime : Int) :
    ∃ row ∈ s.history, row ∈ s.pushed theTime := by
  obtain ⟨rows, row, hlast⟩ := (List.eq_nil_or_concat s.history).resolve_left h
  rw [hlast, List.concat_eq_append]
  refine ⟨row, List.mem_append_right _ (List.mem_singleton_self row), ?_⟩
  unfold pushed
  rw [hlast, List.concat_eq_append, List.append_assoc, List.drop_append_of_le_length]
  · exact List.mem_append_right _ List.mem_cons_self
  · simp only [List.length_append, List.length_singleton]
    omega

end Slicers

namespace SlicerProcess

variable {F : Type} {ticks : List Int} {pr : SlicerProcess F}

/-- The task fits together, and so does the row on disk. -/
structure Inv (ticks : List Int) (pr : SlicerProcess F) : Prop where
  task : ∀ s, pr.task = some s → s.Inv ticks
  disk : ∀ r, loadSlicer pr.disk = some r → Restorable ticks r

theorem Inv.later (h : pr.Inv ticks) (later : List Int) : pr.Inv (ticks ++ later) where
  task s hs := (h.task s hs).later later
  disk r hr := (h.disk r hr).later later

theorem loadSlicer_saved {s : Slicers F} (h : s.Inv ticks) {r : RestoredSlicer}
    (hr : loadSlicer s.saved = some r) : Restorable ticks r := by
  rw [Slicers.saved] at hr
  split at hr
  · cases hr
    refine ⟨?_, ?_⟩
    · show Rows s.lifetimeHits.length ((s.history.map _).map _)
      rw [List.map_map, h.hits]
      refine ⟨fun row hrow => ?_, ?_⟩
      · obtain ⟨row, hmem, rfl⟩ := List.mem_map.mp hrow
        exact h.rows.width row hmem
      · rw [List.length_map]
        exact h.rows.bounded
    · show FromTicks ticks ((s.history.map _).map _)
      have hsame : ∀ row : SlicerInterval,
          storedTime (SlicerIntervalRec.fromInterval row).intoInterval.timestamp =
            storedTime row.timestamp :=
        fun row => storedTime_fromMicros (toMicros row.timestamp)
      rw [FromTicks, List.map_map, List.map_map]
      exact (List.map_congr_left fun row _ => hsame row) ▸ h.fromTicks
  · cases hr

theorem flushed_restorable (h : pr.Inv ticks) {s : Slicers F} (hs : s.Inv ticks) (ok : Bool)
    {r : RestoredSlicer} (hr : loadSlicer (pr.flushed ok s) = some r) : Restorable ticks r := by
  rw [flushed] at hr
  split at hr
  · cases hsaved : s.saved with
    | none =>
      rw [hsaved, Option.none_or] at hr
      exact h.disk r hr
    | some row =>
      rw [hsaved, Option.some_or, ← hsaved] at hr
      exact loadSlicer_saved hs hr
  · exact h.disk r hr

theorem start_inv (h : pr.Inv ticks) (ok : Bool) :
    ({ restored := if ok then loadSlicer pr.disk else none } : Slicers F).Inv ticks where
  gains := rfl
  interval := rfl
  hits := rfl
  rows := .nil 0
  fromTicks := .nil ticks
  restored r hr := by
    cases ok with
    | false => cases hr
    | true => exact h.disk r hr

variable [F64 F]

theorem next_frame {s : Slicers F} (h : pr.task = some s) (world : FrameWorld F)
    (fr : AprsFrame F) (oks : Nat → Bool) (ok : Bool) :
    pr.next (.step (.frame world fr) oks, ok) =
      ({ pr with task := some (s.frame world fr) }, []) := by
  simp only [next, h]

theorem next_tick {s : Slicers F} (h : pr.task = some s) (world : TickWorld)
    (oks : Nat → Bool) (ok : Bool) :
    pr.next (.step (.tick world) oks, ok) =
      ({ disk := pr.flushed ok (s.tick world.theTime), task := some (s.tick world.theTime) },
        [s.statistics world.theTime world.utc]) := by
  simp only [next, h]

theorem next_stopped (h : pr.task = none) (i : Input F) (oks : Nat → Bool) (ok : Bool) :
    pr.next (.step i oks, ok) = (pr, []) := by
  simp only [next, h]

/-- Messages are sent by the ticks of a running task. -/
theorem mem_next {i : SlicerInput F} {m : SlicerTelemetry F} (h : m ∈ (pr.next i).2) :
    ∃ s world oks, pr.task = some s ∧ i.1 = .step (.tick world) oks ∧
      m = s.statistics world.theTime world.utc := by
  obtain ⟨i, ok⟩ := i
  cases i with
  | start | kill => cases h
  | shutdown =>
    rw [next] at h
    cases htask : pr.task <;> rw [htask] at h <;> cases h
  | step i oks =>
    cases htask : pr.task with
    | none =>
      rw [next_stopped htask] at h
      cases h
    | some s =>
      cases i with
      | frame world fr =>
        rw [next_frame htask] at h
        cases h
      | tick world =>
        rw [next_tick htask] at h
        exact ⟨s, world, oks, rfl, rfl, List.mem_singleton.mp h⟩

theorem next_inv {is : List (SlicerInput F)} (h : pr.Inv (tickTimes is)) {i : SlicerInput F}
    (hclean : pr.LearnsClean i) : (pr.next i).1.Inv (tickTimes (is ++ [i])) := by
  have hlater := h.later (tickTimes [i])
  rw [tickTimes_concat]
  obtain ⟨i, ok⟩ := i
  cases i with
  | start settings loads =>
    exact ⟨fun s hs => Option.some.inj hs ▸ start_inv hlater ok, hlater.disk⟩
  | kill => exact ⟨fun s hs => (by cases hs), hlater.disk⟩
  | shutdown orders oks =>
    rw [next]
    cases htask : pr.task with
    | none => exact hlater
    | some s =>
      exact ⟨fun s hs => (by cases hs), fun r hr =>
        flushed_restorable hlater (hlater.task s htask) ok hr⟩
  | step i oks =>
    cases htask : pr.task with
    | none =>
      rw [next_stopped htask]
      exact hlater
    | some s =>
      have hs := hlater.task s htask
      cases i with
      | frame world fr =>
        rw [next_frame htask]
        have hframe := Slicers.frame_inv hs world (hclean s htask fr rfl)
        exact ⟨fun s' hs' => Option.some.inj hs' ▸ hframe, hlater.disk⟩
      | tick world =>
        rw [next_tick htask]
        have hticked := Slicers.tick_inv (h.task s htask) world.theTime
        exact ⟨fun s' hs' => Option.some.inj hs' ▸ hticked, fun r hr =>
          flushed_restorable hlater hticked ok hr⟩

/-- Every step so far has learned cleanly. -/
def CleanRun (is : List (SlicerInput F)) : Prop :=
  ∀ js i, js ++ [i] <+: is → (run SlicerProcess.next {} js).1.LearnsClean i

theorem CleanRun.initial {is js : List (SlicerInput F)} (h : CleanRun is) (hpre : js <+: is) :
    CleanRun js := fun js' i hpre' => h js' i (hpre'.trans hpre)

theorem run_inv {is : List (SlicerInput F)} (h : CleanRun is) :
    (run SlicerProcess.next {} is).1.Inv (tickTimes is) := by
  induction is using List.reverseRecOn with
  | nil => exact ⟨fun s hs => (by cases hs), fun r hr => (by cases hr)⟩
  | append_singleton is i ih =>
    rw [run_concat]
    exact next_inv (ih (h.initial (List.prefix_append is [i]))) (h is i List.prefix_rfl)

/-- A step that has not learned cleanly shows in the message of a tick behind it. -/
theorem next_tick_rectangular_iff {is : List (SlicerInput F)} (h : CleanRun is)
    (i : SlicerInput F) (world : TickWorld) (oks : Nat → Bool) (ok : Bool) :
    (∀ m ∈ ((run SlicerProcess.next {} (is ++ [i])).1.next (.step (.tick world) oks, ok)).2,
        Rectangular m) ↔ (run SlicerProcess.next {} is).1.LearnsClean i := by
  have hinv := run_inv h
  rw [run_concat]
  generalize (run SlicerProcess.next {} is).1 = pr at hinv ⊢
  constructor
  · intro hrect
    by_contra hragged
    unfold LearnsClean at hragged
    push Not at hragged
    obtain ⟨s, htask, fr, hfr, hragged⟩ := hragged
    obtain ⟨i, ok'⟩ := i
    obtain ⟨world', oks', rfl⟩ := ProcessInput.frame?_eq_some hfr
    obtain ⟨hnone, hsome, hkept, hne⟩ := Slicers.frame_ragged hragged world'
    have hm := hrect ((s.frame world' fr).statistics world.theTime world.utc) (by
      rw [next_frame htask, next_tick rfl]
      exact List.mem_singleton_self _)
    rw [← hkept] at hne
    obtain ⟨row, hrow, hpushed⟩ := Slicers.exists_mem_pushed hne world.theTime
    have hnarrow := (hinv.task s htask).rows.width row (hkept ▸ hrow)
    have hwide := hm.rows.width row hpushed
    exact hsome (hwide.symm.trans (hnarrow.trans hnone))
  · intro hclean m hm
    obtain ⟨s, world', oks', htask, -, rfl⟩ := mem_next hm
    exact Slicers.statistics_rectangular ((next_inv hinv hclean).task s htask) _ _

/-- In a run that has learned cleanly the telemetry is rectangular, its rows oldest first,
and a step that does not learn cleanly shows in the message of a tick behind it. -/
theorem slicer_rectangular (is : List (SlicerInput F)) (h : CleanRun is) :
    (∀ js i, js ++ [i] <+: is → ∀ m ∈ ((run SlicerProcess.next {} js).1.next i).2,
      Rectangular m ∧ FromTicks (tickTimes (js ++ [i])) m.intervals) ∧
    ∀ i world oks ok,
      (∀ m ∈ ((run SlicerProcess.next {} (is ++ [i])).1.next (.step (.tick world) oks, ok)).2,
        Rectangular m) ↔ (run SlicerProcess.next {} is).1.LearnsClean i := by
  refine ⟨fun js i hpre m hm => ?_, next_tick_rectangular_iff h⟩
  obtain ⟨s, world, oks, htask, hi, rfl⟩ := mem_next hm
  have hs := (run_inv (h.initial ((List.prefix_append js [i]).trans hpre))).task s htask
  refine ⟨Slicers.statistics_rectangular hs world.theTime world.utc, ?_⟩
  have hticks : tickTimes [i] = [world.theTime] := by
    rw [tickTimes, List.filterMap_cons, hi]
    rfl
  rw [tickTimes_concat, hticks]
  exact (Slicers.pushed_rows hs world.theTime).2

end SlicerProcess

/-! ## Samples -/

/-- A frame with a ladder of two slicers, recovered by the first of them. -/
def ladderFrame : AprsFrame ℚ :=
  { sampleFrame "W1AW" [] with
    rf := { frequencyHz := some 144390000, snrDb := none, slicerMask := some 1,
            slicerGains := some [1, 2] } }

def slicerStart : SlicerInput ℚ := (.start ⟨[], 6⟩ ⟨true, true, true, true, 0⟩, true)

def slicerFrame : SlicerInput ℚ := (.step (.frame sampleWorld ladderFrame) fun _ => true, true)

def slicerTick (time : Int) : SlicerInput ℚ := (.step (.tick (sampleTick time)) fun _ => true, true)

/-- The frame comes before the first tick, and the second start finds its bank. -/
def cleanRun : List (SlicerInput ℚ) :=
  [slicerStart, slicerFrame, slicerTick 0, (.kill, true), slicerStart, slicerTick 15000000000,
    slicerFrame, slicerTick 30000000000]

theorem slicer_rectangular_cleanRun :
    SlicerProcess.CleanRun cleanRun ∧
      ∀ m ∈ ((run SlicerProcess.next {} (cleanRun.take 7)).1.next (slicerTick 30000000000)).2,
        Rectangular m ∧ FromTicks (tickTimes (cleanRun.take 7 ++ [slicerTick 30000000000]))
          m.intervals := by
  have hclean : SlicerProcess.CleanRun cleanRun := forall_prefix_of_take (by decide +kernel)
  exact ⟨hclean, (SlicerProcess.slicer_rectangular cleanRun hclean).1 (cleanRun.take 7)
    (slicerTick 30000000000) ⟨[], rfl⟩⟩

/-- Two slicers, and a row without columns. -/
theorem tick_before_ladder :
    ∃ m ∈ (run SlicerProcess.next {}
        [slicerStart, slicerTick 0, slicerFrame, slicerTick 15000000000]).2,
      m.slicerCount = 2 ∧ m.intervals.map SlicerInterval.counts = [[], [1, 0]] ∧
        ¬ Rectangular m := by
  refine ⟨_, List.mem_cons_of_mem _ List.mem_cons_self, by decide +kernel, by decide +kernel, ?_⟩
  intro h
  have hwidth := h.rows.width ⟨0, []⟩ (by decide +kernel)
  have hcount : (0 : Nat) = 2 := hwidth
  omega

end Listener
end Rtpigate
