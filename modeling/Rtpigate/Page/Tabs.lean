/-
The packet tables of the page.

The page shows the packets it hears in a short table, and those of each watched station in
a tab of its own.  A tab is filled from the history of the station, which the page asks
for when the tab is opened, and goes on with the packets that come.  Requests are served,
and answered, in any order, and an answer may be for a tab that was closed, or closed and
opened again.  A packet whose row cannot be built is shown nowhere, and those behind it in a
history are not either.
-/
import Rtpigate.Listener.Retry
import Rtpigate.Page.TwistBar
import Rtpigate.Watched

namespace Rtpigate
namespace Page
namespace Tabs

open Lib

def MAX_PACKETS : Nat := 20

def STATION_MAX_ROWS : Nat := 3000

def SAT_LOG_MS : Int := 24 * 60 * 60 * 1000

/-- The rows of the tables, from the top, and the tab that is shown, `none` for the table of
all packets. -/
structure View (F : Type) where
  packetBody : List (RTPPacket F) := []
  stationTabs : Table String (List (RTPPacket F)) := ∅
  active : Option String := none
  satPackets : List (RTPPacket F) := []

inductive Request
  | satellitePackets
  | getWatched
  | postWatched (station : String)
  | deleteWatched (station : String)
  | stationPackets (station : String)
  deriving DecidableEq, Repr

inductive Answer (F : Type)
  | watched (r : List Watched.Answer)
  | packets (ps : List (RTPPacket F))

/-- A request under way, with its answer once it is served.  Nobody waits for the answers to
the requests of an earlier load of the page. -/
structure Xhr (F : Type) where
  request : Request
  answer : Option (Answer F) := none
  awaited : Bool := true

/-- What happens to the tables. -/
inductive Event (F : Type)
  | loaded
  | packet (now : Int) (p : RTPPacket F)
  | opened (station : String)
  | closed (station : String)
  | filled (station : String) (packets : List (RTPPacket F))
  | satFilled (now : Int) (packets : List (RTPPacket F))
  | notice (msg : String)

/-- What a function of the page leaves, with the requests it sends. -/
structure Effect (F : Type) where
  view : View F
  sent : List Request := []
  events : List (Event F) := []

variable {F : Type}

/-! ## The page -/

section Rows

variable [F64 F] [JsonNumber F]

/-- The frequency and the mean of the twist bar are there for `toFixed`. -/
def rowBuilds (data : RTPPacket F) : Bool :=
  data.serialize.frequency.isSome &&
    data.serialize.twist.all fun twist => twist.cols == 0 || (buildTwistBar twist).isSome

/-- A new row is the first, and the last ones go.  `none` if it throws. -/
def addPacketRow (trim : Nat) (data : RTPPacket F) (body : List (RTPPacket F)) :
    Option (List (RTPPacket F)) :=
  if rowBuilds data then some ((data :: body).take trim) else none

/-- A loop over packets, up to the first that throws. -/
def addPacketRows (trim : Nat) : List (RTPPacket F) → List (RTPPacket F) → List (RTPPacket F)
  | [], body => body
  | p :: packets, body =>
    match addPacketRow trim p body with
    | none => body
    | some body => addPacketRows trim packets body

end Rows

/-- The receive time is before the cutoff at the millisecond `now`. -/
def satOld (now : Int) (p : RTPPacket F) : Bool :=
  decide (p.receivetime / 1000000 < now - SAT_LOG_MS)

def pruneSatPackets (now : Int) (satPackets : List (RTPPacket F)) : List (RTPPacket F) :=
  satPackets.rdropWhile (satOld now)

def activatePacketTab (station : Option String) (v : View F) : View F :=
  { v with active := station }

def openStationTab (station : String) (activate : Bool) (v : View F) : Effect F :=
  match v.stationTabs[station]? with
  | some _ => { view := if activate then activatePacketTab (some station) v else v }
  | none =>
    let opened := { v with stationTabs := v.stationTabs.insert station [] }
    { view := if activate then activatePacketTab (some station) opened else opened
      sent := [.stationPackets station]
      events := [.opened station] }

section Rows

variable [F64 F] [JsonNumber F]

/-- The answer is fed from its end. -/
def backfillStationTab (station : String) (packets : List (RTPPacket F)) (v : View F) : Effect F :=
  match v.stationTabs[station]? with
  | none => { view := v }
  | some _ =>
    let body := addPacketRows STATION_MAX_ROWS packets.reverse []
    { view := { v with stationTabs := v.stationTabs.insert station body }
      events := [.filled station (packets.rtakeWhile rowBuilds)] }

def routeToStationTab (data : RTPPacket F) (v : View F) : View F :=
  if data.source = "" then v
  else
    match v.stationTabs[data.source]? with
    | none => v
    | some body =>
      match addPacketRow STATION_MAX_ROWS data body with
      | none => v
      | some body => { v with stationTabs := v.stationTabs.insert data.source body }

/-- The listener for `rfpacket`. -/
def onRfpacket (now : Int) (data : RTPPacket F) (v : View F) : Effect F :=
  match addPacketRow MAX_PACKETS data v.packetBody with
  | none => { view := v }
  | some body =>
    let v := routeToStationTab data { v with packetBody := body }
    { view :=
        if data.isSatellite then
          { v with satPackets := pruneSatPackets now (data :: v.satPackets) }
        else v
      events := [.packet now data] }

end Rows

def maxWatchedNotice : String := "Max 20 watched stations"

def watchStation (station : String) (v : View F) : Effect F :=
  if station = "" then { view := v }
  else
    match v.stationTabs[station]? with
    | some _ => { view := activatePacketTab (some station) v }
    | none =>
      if Watched.MAX_WATCHED ≤ v.stationTabs.size then
        { view := v, events := [.notice maxWatchedNotice] }
      else { view := v, sent := [.postWatched station] }

def closeStationTab (station : String) (v : View F) : Effect F :=
  match v.stationTabs[station]? with
  | none => { view := v }
  | some _ =>
    let closed := { v with stationTabs := v.stationTabs.erase station }
    { view := if v.active = some station then activatePacketTab none closed else closed
      sent := [.deleteWatched station]
      events := [.closed station] }

def Effect.then (e : Effect F) (f : View F → Effect F) : Effect F where
  view := (f e.view).view
  sent := e.sent ++ (f e.view).sent
  events := e.events ++ (f e.view).events

/-- The answer to `restoreWatchedTabs`. -/
def restoreWatchedTabs (list : List String) (v : View F) : Effect F :=
  list.foldl (fun e station => e.then (openStationTab station false)) { view := v }

/-- The button of a tab. -/
def chooseTab (station : Option String) (v : View F) : View F :=
  if station.all fun station => (v.stationTabs[station]?).isSome then activatePacketTab station v
  else v

/-- The `onload` functions of the requests. -/
def onload [F64 F] [JsonNumber F] (now : Int) (request : Request) (answer : Answer F)
    (v : View F) : Effect F :=
  match request, answer with
  | .satellitePackets, .packets ps =>
    { view := { v with satPackets := pruneSatPackets now ps }, events := [.satFilled now ps] }
  | .getWatched, .watched [.ok list] => restoreWatchedTabs list v
  | .postWatched station, .watched [.ok _] => openStationTab station true v
  | .postWatched _, .watched [.error .conflict] =>
    { view := v, events := [.notice maxWatchedNotice] }
  | .stationPackets station, .packets ps => backfillStationTab station ps v
  | _, _ => { view := v }

/-! ## The page and the server -/

structure World (F : Type) where
  listener : Listener.Task F × Listener.Disk F
  watched : Watched.Server
  view : View F := {}
  calls : List (Xhr F) := []

/-- A step of the listener; one of the watched list, for another browser or for the store;
the page is loaded, or gets a packet; the user asks for a station, closes a tab or chooses
one; the server serves the request in place `k`; its answer comes; or it is lost. -/
inductive Input (F : Type)
  | listener (a : Listener.Attempt F)
  | watched (i : Watched.Input)
  | load
  | rfpacket (now : Int) (data : RTPPacket F)
  | watch (station : String)
  | close (station : String)
  | choose (station : Option String)
  | serve (k : Nat) (instant : Nat) (readable : Bool)
  | answer (k : Nat) (now : Int)
  | lose (k : Nat)

namespace World

/-- The handlers of the server.  A history that cannot be read is empty. -/
def handle (instant : Nat) (readable : Bool) (w : World F) : Request → World F × Answer F
  | .satellitePackets => (w, .packets w.listener.1.satPacketLog.reverse)
  | .getWatched => (w, .watched [.ok w.watched.list])
  | .postWatched station =>
    let posted := Watched.post station w.watched
    ({ w with watched := posted.1 }, .watched posted.2)
  | .deleteWatched station =>
    let deleted := Watched.delete station w.watched
    ({ w with watched := deleted.1 }, .watched deleted.2)
  | .stationPackets station =>
    (w, .packets (if readable then w.listener.2.loadPacketsBySource instant station else []))

def act (w : World F) (e : Effect F) : World F × List (Event F) :=
  ({ w with view := e.view, calls := w.calls ++ e.sent.map fun r => { request := r } }, e.events)

def serve (k : Nat) (instant : Nat) (readable : Bool) (w : World F) : World F :=
  match w.calls[k]? with
  | some ⟨request, none, awaited⟩ =>
    let handled := w.handle instant readable request
    { handled.1 with calls := w.calls.set k ⟨request, some handled.2, awaited⟩ }
  | _ => w

def answer [F64 F] [JsonNumber F] (k : Nat) (now : Int) (w : World F) : World F × List (Event F) :=
  match w.calls[k]? with
  | some ⟨request, some answer, awaited⟩ =>
    let rest := { w with calls := w.calls.eraseIdx k }
    if awaited then rest.act (onload now request answer w.view) else (rest, [])
  | _ => (w, [])

/-- `fetchSatellitePackets` and `restoreWatchedTabs` of a new load. -/
def load (w : World F) : World F × List (Event F) :=
  act { w with calls := w.calls.map fun x => { x with awaited := false } }
    { view := {}, sent := [.satellitePackets, .getWatched], events := [.loaded] }

variable [F64 F] [Display3 F] [JsonNumber F] (satFreqs : List F) (historyHours : Nat)

def step (w : World F) : Input F → World F × List (Event F)
  | .listener a => ({ w with listener := a.next satFreqs historyHours w.listener }, [])
  | .watched i => ({ w with watched := (Watched.step w.watched i).1 }, [])
  | .load => w.load
  | .rfpacket now data => w.act (onRfpacket now data w.view)
  | .watch station => w.act (watchStation station w.view)
  | .close station => w.act (closeStationTab station w.view)
  | .choose station => ({ w with view := chooseTab station w.view }, [])
  | .serve k instant readable => (w.serve k instant readable, [])
  | .answer k now => w.answer k now
  | .lose k => ({ w with calls := w.calls.eraseIdx k }, [])

end World

end Tabs
end Page
end Rtpigate
