/-
What the tables show.

The tables are read off what has happened to them: rows come on top of those a table was
last filled with, and the lowest ones go when there are too many, or, in the table of the
satellites, when they are a day old.
-/
import Rtpigate.Lib.Machine
import Rtpigate.Lib.Seeded
import Rtpigate.Page.Tabs

namespace Rtpigate
namespace Page
namespace Tabs

open Lib

variable {F : Type}

namespace Event

/-- What an event does to the table of all packets. -/
def recent : Event F → Change (RTPPacket F)
  | .loaded => .reset (some [])
  | .packet _ p => .add p
  | .opened _ | .closed _ | .filled _ _ | .satFilled _ _ | .notice _ => .keep

/-- What it does to the tab of a station. -/
def tab (station : String) : Event F → Change (RTPPacket F)
  | .loaded => .reset none
  | .packet _ p => if p.source ≠ "" ∧ p.source = station then .add p else .keep
  | .opened s => if s = station then .reset (some []) else .keep
  | .closed s => if s = station then .reset none else .keep
  | .filled s packets => if s = station then .reset (some packets) else .keep
  | .satFilled _ _ | .notice _ => .keep

/-- What it does to the log of the satellites. -/
def sat : Event F → Change (RTPPacket F)
  | .loaded => .reset (some [])
  | .packet _ p => if p.isSatellite then .add p else .keep
  | .satFilled _ packets => .reset (some packets)
  | .opened _ | .closed _ | .filled _ _ | .notice _ => .keep

def clock : Event F → Option Int
  | .packet now _ | .satFilled now _ => some now
  | .loaded | .opened _ | .closed _ | .filled _ _ | .notice _ => none

end Event

/-- The tab that is shown is open. -/
def View.ActiveOpen (v : View F) : Prop :=
  ∀ station, v.active = some station → (v.stationTabs[station]?).isSome = true

/-- The tables have changed as the events say. -/
structure View.Follows (v v' : View F) (events : List (Event F)) : Prop where
  recent : some v'.packetBody =
    Change.capped MAX_PACKETS (some v.packetBody) (events.map Event.recent)
  tabs : ∀ station, v'.stationTabs[station]? =
    Change.capped STATION_MAX_ROWS v.stationTabs[station]? (events.map (Event.tab station))
  sat : ∃ gone, Change.applyAll (some v.satPackets) (events.map Event.sat) =
      some (v'.satPackets ++ gone) ∧
    ∀ p ∈ gone, ∃ now ∈ events.filterMap Event.clock, satOld now p = true
  active : v.ActiveOpen → v'.ActiveOpen

namespace View.Follows

variable {v v' v'' : View F} {events events' : List (Event F)}

theorem refl (v : View F) : v.Follows v [] where
  recent := rfl
  tabs _ := rfl
  sat := ⟨[], congrArg some (List.append_nil _).symm, fun _ hp => nomatch hp⟩
  active := id

theorem trans (h : v.Follows v' events) (h' : v'.Follows v'' events') :
    v.Follows v'' (events ++ events') where
  recent := by
    rw [List.map_append, Change.capped_append, ← h.recent]
    exact h'.recent
  tabs station := by
    rw [List.map_append, Change.capped_append, ← h.tabs station]
    exact h'.tabs station
  sat := by
    obtain ⟨gone, hsat, hgone⟩ := h.sat
    obtain ⟨gone', hsat', hgone'⟩ := h'.sat
    have hold : ∀ p ∈ gone, ∃ now ∈ (events ++ events').filterMap Event.clock,
        satOld now p = true := by
      intro p hp
      obtain ⟨now, hnow, hp⟩ := hgone p hp
      rw [List.filterMap_append]
      exact ⟨now, List.mem_append_left _ hnow, hp⟩
    have hold' : ∀ p ∈ gone', ∃ now ∈ (events ++ events').filterMap Event.clock,
        satOld now p = true := by
      intro p hp
      obtain ⟨now, hnow, hp⟩ := hgone' p hp
      rw [List.filterMap_append]
      exact ⟨now, List.mem_append_right _ hnow, hp⟩
    rw [List.map_append, Change.applyAll_append, hsat]
    rcases Change.applyAll_under hsat' gone with hkept | hkept
    · exact ⟨gone', hkept, hold'⟩
    · refine ⟨gone' ++ gone, by rw [hkept, List.append_assoc], fun p hp => ?_⟩
      exact (List.mem_append.mp hp).elim (hold' p) (hold p)
  active := h'.active ∘ h.active

/-- The log of the satellites is left alone. -/
theorem sat_kept (hsat : v'.satPackets = v.satPackets)
    (hevents : ∀ e ∈ events, e.sat = Change.keep) :
    ∃ gone, Change.applyAll (some v.satPackets) (events.map Event.sat) =
        some (v'.satPackets ++ gone) ∧
      ∀ p ∈ gone, ∃ now ∈ events.filterMap Event.clock, satOld now p = true := by
  refine ⟨[], ?_, fun _ hp => nomatch hp⟩
  rw [hsat, List.append_nil]
  induction events with
  | nil => rfl
  | cons e events ih =>
    show Change.applyAll (Change.apply _ e.sat) _ = _
    rw [hevents e List.mem_cons_self]
    exact ih fun e he => hevents e (List.mem_cons_of_mem _ he)

end View.Follows

/-! ## The functions of the page -/

section Functions

variable {v : View F}

theorem View.ActiveOpen.insert (h : v.ActiveOpen) (station : String)
    (rows : List (RTPPacket F)) :
    ({ v with stationTabs := v.stationTabs.insert station rows } : View F).ActiveOpen := by
  intro s hs
  show ((v.stationTabs.insert station rows)[s]?).isSome = true
  rw [Table.getElem?_insert_ite]
  split
  · rfl
  · exact h s hs

theorem openStationTab_follows (station : String) (activate : Bool) (v : View F) :
    v.Follows (openStationTab station activate v).view
      (openStationTab station activate v).events := by
  rw [openStationTab]
  cases hget : v.stationTabs[station]? with
  | some rows =>
    cases activate with
    | false => exact View.Follows.refl v
    | true =>
      refine ⟨rfl, fun _ => rfl, View.Follows.sat_kept rfl (fun _ he => nomatch he),
        fun _ s hs => ?_⟩
      cases hs
      show (v.stationTabs[station]?).isSome = true
      rw [hget]
      rfl
  | none =>
    have htabs : ∀ s, (v.stationTabs.insert station [])[s]? =
        Change.capped STATION_MAX_ROWS v.stationTabs[s]? [Event.tab s (.opened station)] := by
      intro s
      rw [Table.getElem?_insert_ite, Event.tab]
      split <;> rfl
    have hkeep : ∀ e ∈ [Event.opened (F := F) station], e.sat = Change.keep := by
      intro e he
      rw [List.mem_singleton.mp he]
      rfl
    cases activate with
    | false =>
      exact ⟨rfl, htabs, View.Follows.sat_kept rfl hkeep, fun h => h.insert station []⟩
    | true =>
      refine ⟨rfl, htabs, View.Follows.sat_kept rfl hkeep, fun _ s hs => ?_⟩
      cases hs
      show ((v.stationTabs.insert station [])[station]?).isSome = true
      rw [Table.getElem?_insert_ite, if_pos rfl]
      rfl

variable [F64 F] [JsonNumber F]

theorem addPacketRow_cases (trim : Nat) (data : RTPPacket F) (body : List (RTPPacket F)) :
    (rowBuilds data = true ∧ addPacketRow trim data body = some ((data :: body).take trim)) ∨
      (¬ rowBuilds data = true ∧ addPacketRow trim data body = none) := by
  rw [addPacketRow]
  by_cases hbuilds : rowBuilds data = true
  · exact Or.inl ⟨hbuilds, if_pos hbuilds⟩
  · exact Or.inr ⟨hbuilds, if_neg hbuilds⟩

theorem addPacketRows_capped (cap : Nat) (packets body : List (RTPPacket F)) :
    some (addPacketRows cap packets body) =
      Change.capped cap (some body) ((packets.takeWhile rowBuilds).map Change.add) := by
  induction packets generalizing body with
  | nil => rfl
  | cons p packets ih =>
    rw [addPacketRows]
    rcases addPacketRow_cases cap p body with ⟨hbuilds, hrow⟩ | ⟨hbuilds, hrow⟩
    · rw [hrow, List.takeWhile_cons_of_pos hbuilds]
      exact ih _
    · rw [hrow, List.takeWhile_cons_of_neg hbuilds]
      rfl

/-- Feeding the rows from the end leaves the first of those that can be built. -/
theorem addPacketRows_all (cap : Nat) (packets : List (RTPPacket F)) :
    addPacketRows cap packets.reverse [] = (packets.rtakeWhile rowBuilds).take cap := by
  have hall : ∀ packets : List (RTPPacket F),
      Change.applyAll (some []) (packets.map Change.add) = some packets.reverse := by
    intro packets
    induction packets using List.reverseRecOn with
    | nil => rfl
    | append_singleton packets p ih =>
      rw [List.map_append, Change.applyAll_append, ih, List.reverse_append]
      rfl
  have hcapped := Change.capped_eq cap (some [])
    ((packets.reverse.takeWhile rowBuilds).map Change.add)
  rw [hall, Option.map_some, List.take_nil, ← addPacketRows_capped] at hcapped
  exact Option.some.inj hcapped

theorem backfillStationTab_follows (station : String) (packets : List (RTPPacket F)) (v : View F) :
    v.Follows (backfillStationTab station packets v).view
      (backfillStationTab station packets v).events := by
  rw [backfillStationTab]
  cases hget : v.stationTabs[station]? with
  | none => exact View.Follows.refl v
  | some rows =>
    refine ⟨rfl, fun s => ?_, View.Follows.sat_kept rfl fun e he => ?_, fun h => h.insert station _⟩
    · show (v.stationTabs.insert station _)[s]? =
        Change.capped STATION_MAX_ROWS v.stationTabs[s]?
          [Event.tab s (.filled station (packets.rtakeWhile rowBuilds))]
      rw [Table.getElem?_insert_ite, addPacketRows_all, Event.tab]
      split <;> rfl
    · rw [List.mem_singleton.mp he]
      rfl

omit [F64 F] [JsonNumber F] in
theorem closeStationTab_follows (station : String) (v : View F) :
    v.Follows (closeStationTab station v).view (closeStationTab station v).events := by
  rw [closeStationTab]
  cases hget : v.stationTabs[station]? with
  | none => exact View.Follows.refl v
  | some rows =>
    have htabs : ∀ s, (v.stationTabs.erase station)[s]? =
        Change.capped STATION_MAX_ROWS v.stationTabs[s]? [Event.tab s (.closed station)] := by
      intro s
      rw [Table.getElem?_erase_ite, Event.tab]
      split <;> rfl
    have hkeep : ∀ e ∈ [Event.closed (F := F) station], e.sat = Change.keep := by
      intro e he
      rw [List.mem_singleton.mp he]
      rfl
    by_cases hactive : v.active = some station
    · simp only [if_pos hactive]
      exact ⟨rfl, htabs, View.Follows.sat_kept rfl hkeep, fun _ _ hs => nomatch hs⟩
    · simp only [if_neg hactive]
      refine ⟨rfl, htabs, View.Follows.sat_kept rfl hkeep, fun h s hs => ?_⟩
      have hne : station ≠ s := fun he => hactive (he ▸ hs)
      show ((v.stationTabs.erase station)[s]?).isSome = true
      rw [Table.getElem?_erase_ite, if_neg hne]
      exact h s hs

omit [F64 F] [JsonNumber F] in
theorem watchStation_follows (station : String) (v : View F) :
    v.Follows (watchStation station v).view (watchStation station v).events := by
  rw [watchStation]
  by_cases hempty : station = ""
  · rw [if_pos hempty]
    exact View.Follows.refl v
  rw [if_neg hempty]
  cases hget : v.stationTabs[station]? with
  | some rows =>
    refine ⟨rfl, fun _ => rfl, View.Follows.sat_kept rfl (fun _ he => nomatch he),
        fun _ s hs => ?_⟩
    cases hs
    show (v.stationTabs[station]?).isSome = true
    rw [hget]
    rfl
  | none =>
    simp only
    split
    · refine ⟨rfl, fun _ => rfl, View.Follows.sat_kept rfl fun e he => ?_, id⟩
      rw [List.mem_singleton.mp he]
      rfl
    · exact View.Follows.refl v

/-- A packet comes into the tab of its station, if that is open. -/
theorem routeToStationTab_tabs (now : Int) {data : RTPPacket F} (hbuilds : rowBuilds data = true)
    (v : View F) (station : String) : (routeToStationTab data v).stationTabs[station]? =
      Change.capped STATION_MAX_ROWS v.stationTabs[station]?
        [Event.tab station (.packet now data)] := by
  rw [routeToStationTab, Event.tab]
  by_cases hempty : data.source = ""
  · rw [if_pos hempty, if_neg fun h => h.1 hempty]
    rfl
  rw [if_neg hempty]
  by_cases hsource : data.source = station
  · subst hsource
    rw [if_pos ⟨hempty, rfl⟩]
    cases hget : v.stationTabs[data.source]? with
    | none => exact hget
    | some rows =>
      simp only [addPacketRow, if_pos hbuilds]
      rw [Table.getElem?_insert_ite, if_pos rfl]
      rfl
  · rw [if_neg fun h => hsource h.2]
    cases hget : v.stationTabs[data.source]? with
    | none => rfl
    | some rows =>
      simp only [addPacketRow, if_pos hbuilds]
      rw [Table.getElem?_insert_ite, if_neg hsource]
      rfl

theorem routeToStationTab_other (data : RTPPacket F) (v : View F) :
    (routeToStationTab data v).packetBody = v.packetBody ∧
      (routeToStationTab data v).satPackets = v.satPackets ∧
      (v.ActiveOpen → (routeToStationTab data v).ActiveOpen) := by
  rw [routeToStationTab]
  split
  · exact ⟨rfl, rfl, id⟩
  · split
    · exact ⟨rfl, rfl, id⟩
    · split
      · exact ⟨rfl, rfl, id⟩
      · exact ⟨rfl, rfl, fun h => h.insert data.source _⟩

omit [F64 F] [JsonNumber F] in
theorem pruneSatPackets_gone (now : Int) (rows : List (RTPPacket F)) :
    ∃ gone, rows = pruneSatPackets now rows ++ gone ∧ ∀ p ∈ gone, satOld now p = true :=
  ⟨rows.rtakeWhile (satOld now), (List.rdropWhile_append_rtakeWhile ..).symm,
    fun _ hp => List.mem_rtakeWhile_imp hp⟩

theorem onRfpacket_follows (now : Int) (data : RTPPacket F) (v : View F) :
    v.Follows (onRfpacket now data v).view (onRfpacket now data v).events := by
  rw [onRfpacket]
  rcases addPacketRow_cases MAX_PACKETS data v.packetBody with ⟨hbuilds, hrow⟩ | ⟨-, hrow⟩
  · obtain ⟨hbody, hsat, hactive⟩ := routeToStationTab_other data
      { v with packetBody := (data :: v.packetBody).take MAX_PACKETS }
    have htabs := routeToStationTab_tabs now hbuilds
      { v with packetBody := (data :: v.packetBody).take MAX_PACKETS }
    by_cases hsatellite : data.isSatellite = true
    · obtain ⟨gone, hgone, hold⟩ := pruneSatPackets_gone now (data :: v.satPackets)
      simp only [hrow, if_pos hsatellite, hsat]
      refine ⟨congrArg some hbody, htabs, ⟨gone, ?_, fun p hp => ⟨now, ?_, hold p hp⟩⟩, hactive⟩
      · show Change.applyAll (some v.satPackets) [Event.sat (.packet now data)] = _
        rw [Event.sat, if_pos hsatellite, ← hgone]
        rfl
      · exact List.mem_singleton.mpr rfl
    · simp only [hrow, if_neg hsatellite]
      refine ⟨congrArg some hbody, htabs, View.Follows.sat_kept hsat fun e he => ?_, hactive⟩
      rw [List.mem_singleton.mp he, Event.sat, if_neg hsatellite]
  · simp only [hrow]
    exact View.Follows.refl v

omit [F64 F] [JsonNumber F] in
theorem restoreWatchedTabs_follows (list : List String) (v : View F) :
    v.Follows (restoreWatchedTabs list v).view (restoreWatchedTabs list v).events := by
  have hall : ∀ (list : List String) (e : Effect F), v.Follows e.view e.events →
      v.Follows (list.foldl (fun e station => e.then (openStationTab station false)) e).view
        (list.foldl (fun e station => e.then (openStationTab station false)) e).events := by
    intro list
    induction list with
    | nil => exact fun _ h => h
    | cons station list ih =>
      intro e h
      exact ih _ (h.trans (openStationTab_follows station false e.view))
  exact hall list { view := v } (View.Follows.refl v)

theorem onload_follows (now : Int) (request : Request) (answer : Answer F) (v : View F) :
    v.Follows (onload now request answer v).view (onload now request answer v).events := by
  unfold onload
  split
  · next ps =>
    obtain ⟨gone, hgone, hold⟩ := pruneSatPackets_gone now ps
    refine ⟨rfl, fun _ => rfl, ⟨gone, congrArg some hgone, fun p hp => ⟨now, ?_, hold p hp⟩⟩, id⟩
    exact List.mem_singleton.mpr rfl
  · exact restoreWatchedTabs_follows _ v
  · exact openStationTab_follows _ true v
  · refine ⟨rfl, fun _ => rfl, View.Follows.sat_kept rfl fun e he => ?_, id⟩
    rw [List.mem_singleton.mp he]
    rfl
  · exact backfillStationTab_follows _ _ v
  · exact View.Follows.refl v

omit [F64 F] [JsonNumber F] in
theorem chooseTab_follows (station : Option String) (v : View F) :
    v.Follows (chooseTab station v) [] := by
  rw [chooseTab]
  split
  · next hall =>
    refine ⟨rfl, fun _ => rfl, View.Follows.sat_kept rfl (fun _ he => nomatch he),
        fun _ s hs => ?_⟩
    cases hs
    exact hall
  · exact View.Follows.refl v

end Functions

/-! ## Where the rows come from -/

/-- No rows come with the event. -/
def Event.isPlain : Event F → Bool
  | .packet _ _ | .filled _ _ | .satFilled _ _ => false
  | .loaded | .opened _ | .closed _ | .notice _ => true

theorem openStationTab_plain (station : String) (activate : Bool) (v : View F) :
    ∀ e ∈ (openStationTab station activate v).events, e.isPlain = true := by
  rw [openStationTab]
  split
  · exact fun _ he => nomatch he
  · intro e he
    rw [List.mem_singleton.mp he]
    rfl

theorem restoreWatchedTabs_plain (list : List String) (v : View F) :
    ∀ e ∈ (restoreWatchedTabs list v).events, e.isPlain = true := by
  have hall : ∀ (list : List String) (effect : Effect F),
      (∀ e ∈ effect.events, e.isPlain = true) →
      ∀ e ∈ (list.foldl (fun e station => e.then (openStationTab station false)) effect).events,
        e.isPlain = true := by
    intro list
    induction list with
    | nil => exact fun _ h => h
    | cons station list ih =>
      refine fun effect h => ih _ fun e he => ?_
      rcases List.mem_append.mp he with he | he
      · exact h e he
      · exact openStationTab_plain station false effect.view e he
  exact hall list { view := v } fun _ he => nomatch he

theorem watchStation_plain (station : String) (v : View F) :
    ∀ e ∈ (watchStation station v).events, e.isPlain = true := by
  intro e he
  rw [watchStation] at he
  split at he
  · cases he
  · split at he
    · cases he
    · split at he
      · rw [List.mem_singleton.mp he]
        rfl
      · cases he

theorem closeStationTab_plain (station : String) (v : View F) :
    ∀ e ∈ (closeStationTab station v).events, e.isPlain = true := by
  intro e he
  rw [closeStationTab] at he
  split at he
  · cases he
  · rw [List.mem_singleton.mp he]
    rfl

def Event.shown : Event F → Option (RTPPacket F)
  | .packet _ p => some p
  | .loaded | .opened _ | .closed _ | .filled _ _ | .satFilled _ _ | .notice _ => none

def Input.heard : Input F → Option (RTPPacket F)
  | .rfpacket _ data => some data
  | .listener _ | .watched _ | .load | .watch _ | .close _ | .choose _ | .serve _ _ _
  | .answer _ _ | .lose _ => none

theorem shown_of_plain {events : List (Event F)} (h : ∀ e ∈ events, e.isPlain = true) :
    events.filterMap Event.shown = [] := by
  refine List.filterMap_eq_nil_iff.mpr fun e he => ?_
  have hplain := h e he
  cases e with
  | packet now p | filled station ps | satFilled now ps => cases hplain
  | loaded | opened station | closed station | notice msg => rfl

/-- The histories of stations and the logs of satellites that there have been. -/
structure Sources (F : Type) where
  history : String → List (RTPPacket F) → Prop
  log : List (RTPPacket F) → Prop

def Sources.Gave (src : Sources F) : Request → Answer F → Prop
  | .stationPackets station, .packets ps => src.history station ps
  | .satellitePackets, .packets ps => src.log ps
  | _, _ => True

/-- A history is shown from its end, as far as its rows can be built. -/
def Sources.Filled [F64 F] [JsonNumber F] (src : Sources F) : Event F → Prop
  | .filled station ps => ∃ history, src.history station history ∧
      ps = history.rtakeWhile rowBuilds
  | .satFilled _ ps => src.log ps
  | .loaded | .packet _ _ | .opened _ | .closed _ | .notice _ => True

theorem Sources.filled_of_plain [F64 F] [JsonNumber F] (src : Sources F) {e : Event F}
    (h : e.isPlain = true) : src.Filled e := by
  cases e with
  | packet now p | filled station ps | satFilled now ps => cases h
  | loaded | opened station | closed station | notice msg => trivial

theorem onload_filled [F64 F] [JsonNumber F] {src : Sources F} {request : Request}
    {answer : Answer F} (h : src.Gave request answer) (now : Int) (v : View F) :
    ∀ e ∈ (onload now request answer v).events, src.Filled e := by
  unfold onload
  split
  · intro e he
    rw [List.mem_singleton.mp he]
    exact h
  · exact fun e he => src.filled_of_plain (restoreWatchedTabs_plain _ v e he)
  · exact fun e he => src.filled_of_plain (openStationTab_plain _ true v e he)
  · intro e he
    rw [List.mem_singleton.mp he]
    trivial
  · intro e he
    rw [backfillStationTab] at he
    split at he
    · cases he
    · rw [List.mem_singleton.mp he]
      exact ⟨_, h, rfl⟩
  · exact fun _ he => nomatch he

theorem onload_shown [F64 F] [JsonNumber F] (now : Int) (request : Request) (answer : Answer F)
    (v : View F) : (onload now request answer v).events.filterMap Event.shown = [] := by
  unfold onload
  split
  · rfl
  · exact shown_of_plain (restoreWatchedTabs_plain _ v)
  · exact shown_of_plain (openStationTab_plain _ true v)
  · rfl
  · rw [backfillStationTab]
    split <;> rfl
  · rfl

/-- The state of the listener is among the sources. -/
structure Sources.Has (src : Sources F) (listener : Listener.Task F × Listener.Disk F) : Prop where
  history : ∀ instant station, src.history station (listener.2.loadPacketsBySource instant station)
  log : src.log listener.1.satPacketLog.reverse

/-- All answers under way come from the sources. -/
def Sources.Answered (src : Sources F) (calls : List (Xhr F)) : Prop :=
  ∀ x ∈ calls, ∀ a ∈ x.answer, src.Gave x.request a

theorem Sources.Answered.act {src : Sources F} {w : World F} (h : src.Answered w.calls)
    (e : Effect F) : src.Answered (w.act e).1.calls := by
  intro x hx a ha
  rcases List.mem_append.mp hx with hx | hx
  · exact h x hx a ha
  · obtain ⟨r, -, rfl⟩ := List.mem_map.mp hx
    cases ha

theorem World.handle_gave {src : Sources F} {w : World F} (hhas : src.Has w.listener)
    (hempty : ∀ station, src.history station []) (instant : Nat) (readable : Bool)
    (request : Request) : src.Gave request (w.handle instant readable request).2 := by
  cases request with
  | satellitePackets => exact hhas.log
  | stationPackets station =>
    cases readable with
    | true => exact hhas.history instant station
    | false => exact hempty station
  | getWatched | postWatched station | deleteWatched station => trivial

variable [F64 F] [Display3 F] [JsonNumber F] {satFreqs : List F} {historyHours : Nat}

theorem World.step_sourced (satFreqs : List F) (historyHours : Nat) {src : Sources F}
    {w : World F} (hhas : src.Has w.listener)
    (hempty : ∀ station, src.history station []) (h : src.Answered w.calls) (i : Input F) :
    src.Answered (w.step satFreqs historyHours i).1.calls ∧
      ∀ e ∈ (w.step satFreqs historyHours i).2, src.Filled e := by
  cases i with
  | listener a => exact ⟨h, fun _ he => nomatch he⟩
  | watched i => exact ⟨h, fun _ he => nomatch he⟩
  | choose station => exact ⟨h, fun _ he => nomatch he⟩
  | lose k => exact ⟨fun x hx => h x (List.mem_of_mem_eraseIdx hx), fun _ he => nomatch he⟩
  | load =>
    refine ⟨Sources.Answered.act (fun x hx a ha => ?_) _, fun e he => ?_⟩
    · obtain ⟨y, hy, rfl⟩ := List.mem_map.mp hx
      exact h y hy a ha
    · rw [List.mem_singleton.mp he]
      trivial
  | rfpacket now data =>
    refine ⟨h.act _, fun e he => ?_⟩
    change e ∈ (onRfpacket now data w.view).events at he
    rw [onRfpacket] at he
    split at he
    · cases he
    · rw [List.mem_singleton.mp he]
      trivial
  | watch station =>
    exact ⟨h.act _, fun e he => src.filled_of_plain (watchStation_plain station w.view e he)⟩
  | close station =>
    exact ⟨h.act _, fun e he => src.filled_of_plain (closeStationTab_plain station w.view e he)⟩
  | serve k instant readable =>
    refine ⟨?_, fun _ he => nomatch he⟩
    rw [World.step, World.serve]
    split
    · next request awaited hget =>
      intro x hx a ha
      rcases List.mem_or_eq_of_mem_set hx with hx | rfl
      · exact h x hx a ha
      · cases ha
        exact World.handle_gave hhas hempty instant readable request
    · exact h
  | answer k now =>
    rw [World.step, World.answer]
    split
    · next request answer awaited hget =>
      have hrest : src.Answered (w.calls.eraseIdx k) :=
        fun x hx => h x (List.mem_of_mem_eraseIdx hx)
      cases awaited with
      | true =>
        have hgave := h _ (List.mem_of_getElem? hget) answer rfl
        exact ⟨hrest.act _, onload_filled hgave now w.view⟩
      | false => exact ⟨hrest, fun _ he => nomatch he⟩
    · exact ⟨h, fun _ he => nomatch he⟩

/-- The packets shown are those that come and whose rows can be built. -/
theorem World.step_shown (w : World F) (i : Input F) :
    (w.step satFreqs historyHours i).2.filterMap Event.shown =
      (i.heard.filter rowBuilds).toList := by
  cases i with
  | listener a | watched i | choose station | lose k | load | serve k instant readable => rfl
  | watch station => exact shown_of_plain (watchStation_plain station w.view)
  | close station => exact shown_of_plain (closeStationTab_plain station w.view)
  | rfpacket now data =>
    show (onRfpacket now data w.view).events.filterMap Event.shown = _
    rw [onRfpacket, Input.heard]
    rcases addPacketRow_cases MAX_PACKETS data w.view.packetBody with
      ⟨hbuilds, hrow⟩ | ⟨hbuilds, hrow⟩
    · rw [hrow, Option.filter_some, if_pos hbuilds]
      rfl
    · rw [hrow, Option.filter_some, if_neg hbuilds]
      rfl
  | answer k now =>
    show (w.answer k now).2.filterMap Event.shown = []
    rw [World.answer]
    split
    · split
      · exact onload_shown ..
      · rfl
    · rfl

/-! ## Runs -/

theorem World.run_shown (w : World F) (is : List (Input F)) :
    (run (World.step satFreqs historyHours) w is).2.filterMap Event.shown =
      (is.filterMap Input.heard).filter rowBuilds :=
  run_invariant (P := fun is (_ : World F) events =>
      events.filterMap Event.shown = (is.filterMap Input.heard).filter rowBuilds) rfl
    (fun is i w' _ h => by
      rw [List.filterMap_append, h, w'.step_shown i, List.filterMap_append, List.filter_append]
      cases hheard : i.heard with
      | none => simp [hheard]
      | some p => cases hbuilds : rowBuilds p <;> simp [hheard, hbuilds]) is

theorem World.step_follows (w : World F) (i : Input F) :
    w.view.Follows (w.step satFreqs historyHours i).1.view (w.step satFreqs historyHours i).2 := by
  cases i with
  | listener a => exact View.Follows.refl _
  | watched i => exact View.Follows.refl _
  | lose k => exact View.Follows.refl _
  | load =>
    exact ⟨rfl, fun _ => rfl, ⟨[], rfl, fun _ hp => nomatch hp⟩, fun _ _ hs => nomatch hs⟩
  | rfpacket now data => exact onRfpacket_follows now data w.view
  | watch station => exact watchStation_follows station w.view
  | close station => exact closeStationTab_follows station w.view
  | choose station => exact chooseTab_follows station w.view
  | serve k instant readable =>
    rw [World.step, World.serve]
    split
    · next request awaited _ =>
      cases request <;> exact View.Follows.refl _
    · exact View.Follows.refl _
  | answer k now =>
    rw [World.step, World.answer]
    split
    · next request answer awaited _ =>
      cases awaited with
      | true => exact onload_follows now request answer w.view
      | false => exact View.Follows.refl _
    · exact View.Follows.refl _

theorem World.run_follows (w : World F) (is : List (Input F)) :
    w.view.Follows (run (World.step satFreqs historyHours) w is).1.view
      (run (World.step satFreqs historyHours) w is).2 :=
  run_invariant (P := fun _ (w' : World F) events => w.view.Follows w'.view events)
    (View.Follows.refl w.view) (fun _ i w' _ h => h.trans (w'.step_follows i)) is

/-- What the listener has had in the states of a run. -/
def World.sources (satFreqs : List F) (historyHours : Nat) (w : World F) (is : List (Input F)) :
    Sources F where
  history station ps := ps = [] ∨ ∃ js instant, js <+: is ∧
    ps = (run (World.step satFreqs historyHours) w js).1.listener.2.loadPacketsBySource
      instant station
  log ps := ∃ js, js <+: is ∧
    ps = (run (World.step satFreqs historyHours) w js).1.listener.1.satPacketLog.reverse

theorem World.run_sourced (satFreqs : List F) (historyHours : Nat) (w : World F)
    (hcalls : w.calls = []) (is : List (Input F)) :
    ∀ e ∈ (run (World.step satFreqs historyHours) w is).2,
      (w.sources satFreqs historyHours is).Filled e := by
  have hstart : (w.sources satFreqs historyHours is).Answered w.calls := by
    rw [hcalls]
    exact fun _ hx => nomatch hx
  refine (@run_rule _ _ _ (World.step satFreqs historyHours) w (fun js => js <+: is)
    (fun js w' events => w' = (run (World.step satFreqs historyHours) w js).1 ∧
      (w.sources satFreqs historyHours is).Answered w'.calls ∧
      ∀ e ∈ events, (w.sources satFreqs historyHours is).Filled e)
    (fun js i hpre => (List.prefix_append js [i]).trans hpre)
    ⟨rfl, hstart, fun _ he => nomatch he⟩ ?_ is List.prefix_rfl).2.2
  rintro js i w' events hpre ⟨rfl, hanswered, hfilled⟩
  have hjs : js <+: is := (List.prefix_append js [i]).trans hpre
  have hhas : (w.sources satFreqs historyHours is).Has
      (run (World.step satFreqs historyHours) w js).1.listener :=
    ⟨fun instant _ => Or.inr ⟨js, instant, hjs, rfl⟩, js, hjs, rfl⟩
  obtain ⟨hcalls', hevents⟩ :=
    step_sourced satFreqs historyHours hhas (fun _ => Or.inl rfl) hanswered i
  refine ⟨by rw [run_concat], hcalls', fun e he => ?_⟩
  exact (List.mem_append.mp he).elim (hfilled e) (hevents e)

omit [F64 F] [Display3 F] [JsonNumber F] in
theorem loadPacketsBySource_source {d : Listener.Disk F} {instant : Nat} {station : String}
    {p : RTPPacket F} (h : p ∈ d.loadPacketsBySource instant station) : p.source = station := by
  obtain ⟨r, hr, rfl⟩ := List.mem_map.mp h
  have hrow := (List.mem_filter.mp ((List.mem_insertionSort _).mp hr)).2
  exact of_decide_eq_true hrow

omit [F64 F] [Display3 F] [JsonNumber F] in
theorem base_recent {events : List (Event F)} {table : Option (List (RTPPacket F))}
    (h : Change.base (events.map Event.recent) = some table) : table = some [] := by
  obtain ⟨e, -, he⟩ := List.mem_map.mp (Change.mem_of_base h)
  cases e <;> cases he
  rfl

omit [F64 F] [Display3 F] [JsonNumber F] in
theorem mem_added_tab {station : String} {events : List (Event F)} {p : RTPPacket F}
    (h : p ∈ Change.added (events.map (Event.tab station))) : p.source = station := by
  obtain ⟨e, -, he⟩ := List.mem_map.mp (Change.mem_of_added h)
  cases e with
  | packet now q =>
    rw [Event.tab] at he
    split at he
    · next hsource =>
      cases he
      exact hsource.2
    · cases he
  | opened s | closed s | filled s packets =>
    rw [Event.tab] at he
    split at he <;> cases he
  | loaded | satFilled now packets | notice msg => cases he

omit [F64 F] [Display3 F] [JsonNumber F] in
theorem base_tab {station : String} {events : List (Event F)} {rows : List (RTPPacket F)}
    (h : Change.base (events.map (Event.tab station)) = some (some rows)) :
    rows = [] ∨ .filled station rows ∈ events := by
  obtain ⟨e, hmem, he⟩ := List.mem_map.mp (Change.mem_of_base h)
  cases e with
  | opened s =>
    rw [Event.tab] at he
    split at he
    · cases he
      exact Or.inl rfl
    · cases he
  | filled s packets =>
    rw [Event.tab] at he
    split at he
    · next hs =>
      cases he
      exact Or.inr (hs ▸ hmem)
    · cases he
  | packet now q | closed s =>
    rw [Event.tab] at he
    split at he <;> cases he
  | loaded | satFilled now packets | notice msg => cases he

/-- However requests, answers, packets and clicks come in between each other, a table shows
the rows since it was last filled on top of those it was filled with, as many as it keeps.
The packets shown are those that have come and whose rows can be built.  A tab has only
packets of its station, and was filled with a history the store has had. -/
theorem packet_tables (satFreqs : List F) (historyHours : Nat)
    (listener : Listener.Task F × Listener.Disk F) (watched : Watched.Server) (is : List (Input F)) :
    let w : World F := { listener := listener, watched := watched }
    let r := run (World.step satFreqs historyHours) w is
    r.2.filterMap Event.shown = (is.filterMap Input.heard).filter rowBuilds ∧
      r.1.view.packetBody = (Change.added (r.2.map Event.recent)).take MAX_PACKETS ∧
      (∀ station, r.1.view.stationTabs[station]? =
        ((Change.base (r.2.map (Event.tab station))).getD none).map fun filled =>
          (Change.added (r.2.map (Event.tab station)) ++ filled).take STATION_MAX_ROWS) ∧
      (∀ station (rows : List (RTPPacket F)), r.1.view.stationTabs[station]? = some rows →
        ∀ p ∈ rows, p.source = station) ∧
      (∃ gone, ((Change.base (r.2.map Event.sat)).getD (some [])).map
            (Change.added (r.2.map Event.sat) ++ ·) = some (r.1.view.satPackets ++ gone) ∧
          ∀ p ∈ gone, ∃ now ∈ r.2.filterMap Event.clock, satOld now p = true) ∧
      (∀ e ∈ r.2, (w.sources satFreqs historyHours is).Filled e) ∧
      r.1.view.ActiveOpen := by
  intro w r
  have hfollows : w.view.Follows r.1.view r.2 := World.run_follows w is
  have hfilled := World.run_sourced satFreqs historyHours w rfl is
  have htabs : ∀ station, r.1.view.stationTabs[station]? =
      ((Change.base (r.2.map (Event.tab station))).getD none).map fun filled =>
        (Change.added (r.2.map (Event.tab station)) ++ filled).take STATION_MAX_ROWS := by
    intro station
    have hnone : w.view.stationTabs[station]? = none := Std.ExtTreeMap.getElem?_empty
    have hcapped := Change.capped_eq STATION_MAX_ROWS none (r.2.map (Event.tab station))
    rw [Change.applyAll_eq, Option.map_map] at hcapped
    rw [hfollows.tabs station, hnone]
    exact hcapped
  refine ⟨World.run_shown w is, ?_, htabs, fun station rows hrows p hp => ?_, ?_, hfilled,
    hfollows.active ?_⟩
  · have hcapped := Change.capped_eq MAX_PACKETS (some []) (r.2.map Event.recent)
    rw [Change.applyAll_eq] at hcapped
    have hbase : (Change.base (r.2.map Event.recent)).getD (some []) = some [] := by
      cases hb : Change.base (r.2.map Event.recent) with
      | none => rfl
      | some table => exact base_recent hb
    rw [hbase] at hcapped
    have hbody : r.1.view.packetBody =
        (Change.added (r.2.map Event.recent) ++ []).take MAX_PACKETS :=
      Option.some.inj (hfollows.recent.trans hcapped)
    rwa [List.append_nil] at hbody
  · rw [htabs station] at hrows
    obtain ⟨filled, hbase, rfl⟩ := Option.map_eq_some_iff.mp hrows
    rcases List.mem_append.mp (List.mem_of_mem_take hp) with hp | hp
    · exact mem_added_tab hp
    · cases hb : Change.base (r.2.map (Event.tab station)) with
      | none =>
        rw [hb] at hbase
        cases hbase
      | some table =>
        rw [hb] at hbase
        rcases base_tab (hb.trans (congrArg some hbase)) with rfl | hmem
        · cases hp
        · obtain ⟨history, hhistory, rfl⟩ := hfilled _ hmem
          rcases hhistory with rfl | ⟨js, instant, -, rfl⟩
          · cases hp
          · exact loadPacketsBySource_source ((List.rtakeWhile_suffix _ _).subset hp)
  · obtain ⟨gone, hsat, hgone⟩ := hfollows.sat
    rw [Change.applyAll_eq] at hsat
    exact ⟨gone, hsat, hgone⟩
  · exact fun _ hs => nomatch hs

end Tabs
end Page
end Rtpigate
