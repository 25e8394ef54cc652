/-
Events for the browsers.

The SSE task takes the items of the data channel and sends each on to the SSE channel
as an event, and a reload of the configuration sends one of its own.  A browser
subscribes to the SSE channel when it connects.  Both channels hold 128 messages, the
task goes on when it has missed some, and the stream of a browser skips what that browser
has missed without a word.  What it is sent of configurations are those of the reloads
accepted since it came.
-/
import Rtpigate.Feed
import Rtpigate.Gpsd
import Rtpigate.Lib.Relay
import Rtpigate.Listener.Panel
import Rtpigate.Listener.Slicer
import Rtpigate.Reload
import Rtpigate.System

namespace Rtpigate

open Lib

/-- The value an event shows as JSON. -/
inductive SSEData (F : Type)
  | item (d : DataItem F)
  | config (c : PublicConfig F)

structure SSEEvent (F : Type) where
  event : String
  data : SSEData F

def sseChannelCapacity : Nat := 128

variable {F : Type}

/-- The event for an item. -/
def sseEvent (d : DataItem F) : SSEEvent F :=
  match d with
  | .pkt _ => ⟨"rfpacket", .item d⟩
  | .tlm (.packetStatus t) => ⟨t.name, .item d⟩
  | .tlm (.aprsisStatus t) => ⟨t.name, .item d⟩
  | .tlm (.slicerStatus name) => ⟨name, .item d⟩
  | .tlm (.stationStatus name) => ⟨name, .item d⟩
  | .tlm (.gpsStatus name) => ⟨name, .item d⟩

def configEvent (c : PublicConfig F) : SSEEvent F := ⟨"config", .config c⟩

def SSEEvent.shownConfig (e : SSEEvent F) : Option (PublicConfig F) :=
  match e.data with
  | .config c => some c
  | .item _ => none

def SSEEvent.isConfig (e : SSEEvent F) : Bool := e.shownConfig.isSome

theorem sseEvent_isConfig (d : DataItem F) : (sseEvent d).isConfig = false := by
  cases d with
  | pkt p => rfl
  | tlm t => cases t <;> rfl

/-! ## The listeners of the page -/

/-- The functions the page has for events. -/
inductive Handler
  | config
  | rfpacket
  | packetStatistics
  | aprsisStatistics
  | slicerStatistics
  | stationStatistics
  | gpsStatus
  deriving DecidableEq, Repr

/-- The `addEventListener` calls. -/
def pageHandler (event : String) : Option Handler :=
  if event = "config" then some .config
  else if event = "rfpacket" then some .rfpacket
  else if event = "packet_statistics" then some .packetStatistics
  else if event = "aprsis_statistics" then some .aprsisStatistics
  else if event = "slicer_statistics" then some .slicerStatistics
  else if event = "station_statistics" then some .stationStatistics
  else if event = "gps_status" then some .gpsStatus
  else none

/-- The function that reads values of this kind. -/
def SSEData.handler : SSEData F → Handler
  | .config _ => .config
  | .item (.pkt _) => .rfpacket
  | .item (.tlm (.packetStatus _)) => .packetStatistics
  | .item (.tlm (.aprsisStatus _)) => .aprsisStatistics
  | .item (.tlm (.slicerStatus _)) => .slicerStatistics
  | .item (.tlm (.stationStatus _)) => .stationStatistics
  | .item (.tlm (.gpsStatus _)) => .gpsStatus

/-- Telemetry has the name the page listens for. -/
def DataItem.Named : DataItem F → Prop
  | .tlm (.packetStatus t) => t.name = "packet_statistics"
  | .tlm (.aprsisStatus t) => t.name = "aprsis_statistics"
  | .tlm (.slicerStatus name) => name = "slicer_statistics"
  | .tlm (.stationStatus name) => name = "station_statistics"
  | .tlm (.gpsStatus name) => name = "gps_status"
  | .pkt _ => True

section Producers

variable [F64 F]

/-- What the tasks send: packets, and the messages of the five producers. -/
inductive Produced : DataItem F → Prop
  | packet (p : RTPPacket F) : Produced (.pkt p)
  | listener (now utc : Int) (s : Listener.State) :
      Produced (.tlm (.packetStatus (Listener.tick now utc s).2))
  | slicers (theTime utc : Int) (s : Listener.Slicers F) :
      Produced (.tlm (.slicerStatus (s.statistics theTime utc).name))
  | stations (orders : Listener.PanelOrders F) (s : Listener.Task F) :
      Produced (.tlm (.stationStatus (Listener.stationStatistics orders s).name))
  | aprsis (now utc : Int) (s : Aprsis.State F) (d : DataItem F)
      (h : d ∈ published (Aprsis.telemetryTick now utc s).2) : Produced d
  | gpsd (now : Nat) (theTime : Int) (fix : Gpsd.Fix F) :
      Produced (.tlm (.gpsStatus (Gpsd.telemetry now theTime fix).name))

theorem Produced.named {d : DataItem F} (h : Produced d) : d.Named := by
  cases h with
  | packet => trivial
  | listener | slicers | stations | gpsd => rfl
  | aprsis now utc s _ hd =>
    rw [List.mem_singleton.mp hd]
    rfl

end Producers

/-- The page has the right function for the event. -/
def SSEEvent.Handled (e : SSEEvent F) : Prop := pageHandler e.event = some e.data.handler

theorem sseEvent_handled {d : DataItem F} (h : d.Named) : (sseEvent d).Handled := by
  cases d with
  | pkt p => rfl
  | tlm t =>
    cases t with
    | packetStatus t =>
      show pageHandler t.name = _
      rw [show t.name = "packet_statistics" from h]
      rfl
    | aprsisStatus t =>
      show pageHandler t.name = _
      rw [show t.name = "aprsis_statistics" from h]
      rfl
    | slicerStatus name | stationStatus name | gpsStatus name =>
      show pageHandler name = _
      rw [show name = _ from h]
      rfl

/-! ## The task and the browsers -/

/-- The configuration, the SSE task between its two channels, and the browsers. -/
structure Sse (F : Type) where
  settled : Settled F
  relay : Relay (DataItem F) (SSEEvent F) := {}

/-- Some task sends an item, the SSE task receives, a SIGHUP comes, a browser connects, or
one of them reads. -/
inductive SseInput (F : Type)
  | item (d : DataItem F)
  | forward
  | reload (r : Reload F)
  | connect
  | read (k : Nat)

def SseInput.sent : SseInput F → List (DataItem F)
  | .item d => [d]
  | .forward | .reload _ | .connect | .read _ => []

def SseInput.isConnect : SseInput F → Bool
  | .connect => true
  | .item _ | .forward | .reload _ | .read _ => false

/-- The configuration of a reload that is accepted. -/
def SseInput.reloaded [F64 F] (startedAt : Int) : SseInput F → Option (PublicConfig F)
  | .reload r => r.accepted.map fun c => { c.toPublic with startedAt := some startedAt }
  | .item _ | .forward | .connect | .read _ => none

namespace Sse

def forward (i : RelayInput (DataItem F) (SSEEvent F)) (s : Sse F) : Sse F :=
  { s with relay := s.relay.next channelCapacity sseChannelCapacity sseEvent i }

def next [F64 F] (startedAt : Int) (s : Sse F) : SseInput F → Sse F
  | .item d => s.forward (.send d)
  | .forward => s.forward .relay
  | .reload r =>
    let reloaded := s.settled.reload startedAt r
    reloaded.2.foldl (fun s c => s.forward (.own (configEvent c))) { s with settled := reloaded.1 }
  | .connect => s.forward .connect
  | .read k => s.forward (.read k)

/-- The browsers are sent what they can handle, and the latest configuration they are sent
is the one that is shown. -/
structure Sound (s : Sse F) : Prop where
  relay : s.relay.Sound sseEvent SSEEvent.isConfig
  handled : (∀ d ∈ s.relay.up.log, d.Named) →
    ∀ r ∈ s.relay.readers, ∀ e ∈ r.channel.log, e.Handled
  shown : ∀ r ∈ s.relay.readers, ∀ c ∈ (r.channel.log.filterMap SSEEvent.shownConfig).getLast?,
    c = s.settled.publicConfig

variable {s : Sse F}

theorem start_sound (settled : Settled F) : Sound { settled := settled } where
  relay := ⟨Receiver.subscribe_valid, fun _ hr => by cases hr⟩
  handled := fun _ _ hr => by cases hr
  shown := fun _ hr => by cases hr

theorem sseEvent_shownConfig (d : DataItem F) : (sseEvent d).shownConfig = none :=
  Option.not_isSome_iff_eq_none.mp (ne_true_of_eq_false (sseEvent_isConfig d))

theorem Sound.forward (h : s.Sound) {i : RelayInput (DataItem F) (SSEEvent F)}
    (hown : ∀ e, i ≠ .own e) : (s.forward i).Sound := by
  have hapart : i.Apart SSEEvent.isConfig := by
    cases i with
    | own e => exact absurd rfl (hown e)
    | send d | relay | connect | read k => trivial
  refine ⟨h.relay.next sseEvent_isConfig _ _ hapart, fun hall r hr => ?_, fun r hr => ?_⟩
  · have hnamed : ∀ d ∈ s.relay.up.log, d.Named := by
      intro d hd
      refine hall d ?_
      show d ∈ (s.relay.next channelCapacity sseChannelCapacity sseEvent i).up.log
      rw [Relay.next_up]
      exact List.mem_append_left _ hd
    rcases Relay.next_log _ _ hown hr with hlog | ⟨r₀, hr₀, hlog | ⟨d, hd, hlog⟩⟩
    · rw [hlog]
      exact fun _ he => by cases he
    · rw [hlog]
      exact h.handled hnamed r₀ hr₀
    · rw [hlog]
      intro e he
      rcases List.mem_append.mp he with he | he
      · exact h.handled hnamed r₀ hr₀ e he
      · rw [List.mem_singleton.mp he]
        exact sseEvent_handled (hnamed d hd)
  · show ∀ c ∈ (r.channel.log.filterMap SSEEvent.shownConfig).getLast?, c = s.settled.publicConfig
    rcases Relay.next_log _ _ hown hr with hlog | ⟨r₀, hr₀, hlog | ⟨d, _, hlog⟩⟩
    · rw [hlog]
      exact fun _ hc => by cases hc
    · rw [hlog]
      exact h.shown r₀ hr₀
    · rw [hlog, List.filterMap_append, List.filterMap_cons_none (sseEvent_shownConfig d),
        List.filterMap_nil, List.append_nil]
      exact h.shown r₀ hr₀

/-- A new configuration is shown, and pushed. -/
theorem Sound.push (h : s.Sound) {settled : Settled F} {c : PublicConfig F}
    (hc : settled.publicConfig = c) :
    (Sse.forward (.own (configEvent c)) { s with settled := settled }).Sound := by
  refine ⟨h.relay.next (i := .own (configEvent c)) sseEvent_isConfig channelCapacity
    sseChannelCapacity rfl, fun hnamed r hr => ?_, fun r hr => ?_⟩
  · obtain ⟨r₀, hr₀, rfl⟩ := List.mem_map.mp hr
    intro e he
    rcases List.mem_append.mp he with he | he
    · exact h.handled hnamed r₀ hr₀ e he
    · rw [List.mem_singleton.mp he]
      rfl
  · obtain ⟨r₀, hr₀, rfl⟩ := List.mem_map.mp hr
    intro c' hc'
    have hlast : ((r₀.channel.log ++ [configEvent c]).filterMap SSEEvent.shownConfig).getLast? =
        some c := by
      rw [List.filterMap_append]
      exact List.getLast?_concat
    have heq : some c = some c' := hlast.symm.trans hc'
    rw [Option.some.inj heq] at hc
    exact hc.symm

variable [F64 F]

theorem Sound.next (h : s.Sound) (startedAt : Int) (i : SseInput F) :
    (s.next startedAt i).Sound := by
  cases i with
  | item d | forward | connect | read k => exact h.forward fun _ he => by cases he
  | reload r =>
    rw [Sse.next, Settled.reload]
    cases r.accepted with
    | none => exact h
    | some c => exact h.push rfl

theorem next_sent (s : Sse F) (startedAt : Int) (i : SseInput F) :
    (s.next startedAt i).relay.up.log = s.relay.up.log ++ i.sent := by
  cases i with
  | item d => exact s.relay.next_up channelCapacity sseChannelCapacity sseEvent (.send d)
  | forward => exact s.relay.next_up channelCapacity sseChannelCapacity sseEvent .relay
  | connect => exact s.relay.next_up channelCapacity sseChannelCapacity sseEvent .connect
  | read k => exact s.relay.next_up channelCapacity sseChannelCapacity sseEvent (.read k)
  | reload r =>
    rw [Sse.next, Settled.reload, SseInput.sent, List.append_nil]
    cases r.accepted with
    | none => rfl
    | some c => rfl

/-- What the tasks have sent since the SSE task subscribed. -/
def sent (is : List (SseInput F)) : List (DataItem F) := is.flatMap SseInput.sent

theorem foldl_sound (startedAt : Int) (is : List (SseInput F)) (h : s.Sound) :
    (is.foldl (Sse.next startedAt) s).Sound ∧
      (is.foldl (Sse.next startedAt) s).relay.up.log = s.relay.up.log ++ sent is := by
  induction is generalizing s with
  | nil => exact ⟨h, (List.append_nil _).symm⟩
  | cons i is ih =>
    obtain ⟨hsound, hlog⟩ := ih (h.next startedAt i)
    refine ⟨hsound, ?_⟩
    rw [List.foldl_cons, hlog, next_sent, List.append_assoc]
    rfl

omit [F64 F] in
/-- What browsers have read they can handle. -/
theorem Sound.got_handled (h : s.Sound) (hnamed : ∀ d ∈ s.relay.up.log, d.Named)
    {r : Reader (SSEEvent F)} (hr : r ∈ s.relay.readers) : ∀ e ∈ r.got, e.Handled := by
  intro e he
  exact h.handled hnamed r hr e (List.mem_of_mem_take ((h.relay.readers r hr).got.subset he))

/-! ## The configurations a browser is sent -/

/-- The configurations that reloads push, in order. -/
def reloaded (startedAt : Int) (is : List (SseInput F)) : List (PublicConfig F) :=
  is.filterMap (SseInput.reloaded startedAt)

/-- The configurations that were sent to a browser. -/
def configs (r : Reader (SSEEvent F)) : List (PublicConfig F) :=
  r.channel.log.filterMap SSEEvent.shownConfig

omit [F64 F] in
theorem forward_reader {i : RelayInput (DataItem F) (SSEEvent F)} (hi : ∀ e, i ≠ .own e) {k : Nat}
    {r : Reader (SSEEvent F)} (hr : (s.forward i).relay.readers[k]? = some r) :
    (i = .connect ∧ k = s.relay.readers.length ∧ configs r = []) ∨
      ∃ r₀, s.relay.readers[k]? = some r₀ ∧ configs r = configs r₀ := by
  rcases Relay.next_log_at _ _ hi hr with ⟨hconnect, hk, hlog⟩ | ⟨r₀, hr₀, hlog | ⟨d, -, hlog⟩⟩
  · refine Or.inl ⟨hconnect, hk, ?_⟩
    rw [configs, hlog]
    rfl
  · refine Or.inr ⟨r₀, hr₀, ?_⟩
    rw [configs, hlog]
    rfl
  · refine Or.inr ⟨r₀, hr₀, ?_⟩
    rw [configs, hlog, List.filterMap_append, List.filterMap_cons_none (sseEvent_shownConfig d),
      List.filterMap_nil, List.append_nil]
    rfl

/-- A browser that comes is the last one, and the others are sent the configuration of a
reload that is accepted. -/
theorem next_reader {startedAt : Int} {i : SseInput F} {k : Nat} {r : Reader (SSEEvent F)}
    (hr : (s.next startedAt i).relay.readers[k]? = some r) :
    (i = .connect ∧ k = s.relay.readers.length ∧ configs r = []) ∨
      ∃ r₀, s.relay.readers[k]? = some r₀ ∧
        configs r = configs r₀ ++ (i.reloaded startedAt).toList := by
  have hother : ∀ {i' : RelayInput (DataItem F) (SSEEvent F)}, i.reloaded startedAt = none →
      (∀ e, i' ≠ .own e) → (i' = .connect → i = .connect) →
      (s.forward i').relay.readers[k]? = some r →
      (i = .connect ∧ k = s.relay.readers.length ∧ configs r = []) ∨
        ∃ r₀, s.relay.readers[k]? = some r₀ ∧
          configs r = configs r₀ ++ (i.reloaded startedAt).toList := by
    intro i' hnone hown hconnect hr
    rw [hnone]
    rcases forward_reader hown hr with ⟨hi, hk, hlog⟩ | ⟨r₀, hr₀, hlog⟩
    · exact Or.inl ⟨hconnect hi, hk, hlog⟩
    · exact Or.inr ⟨r₀, hr₀, hlog.trans (List.append_nil _).symm⟩
  cases i with
  | item d => exact hother rfl (fun _ h => by cases h) (fun h => by cases h) hr
  | forward => exact hother rfl (fun _ h => by cases h) (fun h => by cases h) hr
  | connect => exact hother rfl (fun _ h => by cases h) (fun _ => rfl) hr
  | read j => exact hother rfl (fun _ h => by cases h) (fun h => by cases h) hr
  | reload i =>
    refine Or.inr ?_
    rw [Sse.next, Settled.reload] at hr
    rw [SseInput.reloaded]
    cases haccepted : i.accepted with
    | none =>
      rw [haccepted] at hr
      exact ⟨r, hr, (List.append_nil _).symm⟩
    | some c =>
      rw [haccepted] at hr
      change (s.relay.readers.map (Reader.send _))[k]? = some r at hr
      rw [List.getElem?_map] at hr
      obtain ⟨r₀, hr₀, rfl⟩ := Option.map_eq_some_iff.mp hr
      exact ⟨r₀, hr₀, List.filterMap_append⟩

theorem next_length (startedAt : Int) (s : Sse F) (i : SseInput F) :
    (s.next startedAt i).relay.readers.length =
      s.relay.readers.length + if i.isConnect then 1 else 0 := by
  have hother : ∀ i' : RelayInput (DataItem F) (SSEEvent F), i' ≠ .connect →
      (s.forward i').relay.readers.length = s.relay.readers.length := fun _ hi =>
    Relay.next_length channelCapacity sseChannelCapacity sseEvent hi
  cases i with
  | item d => exact hother (.send d) fun h => by cases h
  | forward => exact hother .relay fun h => by cases h
  | connect => exact List.length_append
  | read k => exact hother (.read k) fun h => by cases h
  | reload r =>
    rw [Sse.next, Settled.reload]
    cases r.accepted with
    | none => rfl
    | some c => exact List.length_map _

/-- The inputs since browser `k` came. -/
def Since (is : List (SseInput F)) (k : Nat) (after : List (SseInput F)) : Prop :=
  ∃ before, is = before ++ .connect :: after ∧ before.countP SseInput.isConnect = k

/-- Every connection is a browser, and it is sent the configurations of the reloads accepted
since. -/
theorem foldl_readers (startedAt : Int) (settled : Settled F) (is : List (SseInput F)) :
    (is.foldl (Sse.next startedAt) { settled := settled }).relay.readers.length =
        is.countP SseInput.isConnect ∧
      ∀ k r, (is.foldl (Sse.next startedAt) { settled := settled }).relay.readers[k]? = some r →
        ∃ after, Since is k after ∧ configs r = reloaded startedAt after := by
  induction is using List.reverseRecOn with
  | nil => exact ⟨rfl, fun k r hr => by cases hr⟩
  | append_singleton is i ih =>
    obtain ⟨hlength, hreaders⟩ := ih
    rw [List.foldl_append]
    refine ⟨?_, fun k r hr => ?_⟩
    · rw [List.countP_append, List.countP_singleton, ← hlength]
      exact next_length startedAt _ i
    · rcases next_reader hr with ⟨rfl, rfl, hlog⟩ | ⟨r₀, hr₀, hlog⟩
      · exact ⟨[], ⟨is, rfl, hlength.symm⟩, hlog⟩
      · obtain ⟨after, ⟨before, rfl, hk⟩, hconfigs⟩ := hreaders k r₀ hr₀
        refine ⟨after ++ [i], ⟨before, ?_, hk⟩, ?_⟩
        · rw [List.append_assoc]
          rfl
        · rw [hlog, hconfigs, reloaded, reloaded, List.filterMap_append,
            List.filterMap_cons]
          cases i.reloaded startedAt <;> rfl

/-! ## What a browser reads -/

/-- What a browser has read when `items` were sent, and `after` came since it did: events of
the items that the task still had to take, and configurations, in order, each once and each
with a function of the page for it.  What it has not read is missed or still to come.  When
it has read all that was sent to it, it has every configuration, the one that is shown last,
and when nothing was missed on the way, every event. -/
structure Streamed (startedAt : Int) (s : Sse F) (items : List (DataItem F))
    (after : List (SseInput F)) (r : Reader (SSEEvent F)) : Prop where
  relayed : (r.got.filter fun e => !e.isConfig).Sublist ((items.drop r.origin).map sseEvent)
  pushed : (r.got.filterMap SSEEvent.shownConfig).Sublist (reloaded startedAt after)
  handled : ∀ e ∈ r.got, e.Handled
  account : r.got.length + r.lagged + r.channel.pending.length + (s.relay.lagged - r.behind) +
      s.relay.up.pending.length = (items.length - r.origin) + (reloaded startedAt after).length
  latest : r.lagged = 0 → r.channel.pending = [] →
    r.got.filterMap SSEEvent.shownConfig = reloaded startedAt after ∧
      ∀ c ∈ (reloaded startedAt after).getLast?, c = s.settled.publicConfig
  all : r.lagged = 0 → r.channel.pending = [] → s.relay.lagged = r.behind →
    s.relay.up.pending = [] →
      (r.got.filter fun e => !e.isConfig) = (items.drop r.origin).map sseEvent

theorem Sound.streamed (h : s.Sound) (hnamed : ∀ d ∈ s.relay.up.log, d.Named) {startedAt : Int}
    {r : Reader (SSEEvent F)} (hr : r ∈ s.relay.readers) {after : List (SseInput F)}
    (hafter : Sse.configs r = reloaded startedAt after) :
    Streamed startedAt s s.relay.up.log after r := by
  have hr' := h.relay.readers r hr
  have hcount : r.channel.log.countP SSEEvent.isConfig = (reloaded startedAt after).length := by
    rw [← hafter, Sse.configs, List.length_filterMap_eq_countP]
    rfl
  refine ⟨hr'.got_sublist, ?_, h.got_handled hnamed hr, ?_, fun hlagged hpending => ⟨?_, ?_⟩,
    fun hlagged hpending hmissed hup => hr'.got_all h.relay.valid hmissed hlagged hup hpending⟩
  · rw [← hafter]
    exact (hr'.got.trans (List.take_sublist _ _)).filterMap _
  · rw [← hcount]
    exact hr'.account h.relay.valid
  · rw [hr'.got_log hlagged hpending]
    exact hafter
  · rw [← hafter]
    exact h.shown r hr

/-- However the tasks, the reloads and the browsers come in between each other, every browser
reads what is there for it. -/
theorem browser_stream (startedAt : Int) (settled : Settled F) (is : List (SseInput F))
    (his : ∀ d ∈ sent is, Produced d) :
    let s := is.foldl (Sse.next startedAt) { settled := settled }
    s.relay.readers.length = is.countP SseInput.isConnect ∧
      ∀ k r, s.relay.readers[k]? = some r →
        ∃ after, Since is k after ∧ Streamed startedAt s (sent is) after r := by
  intro s
  obtain ⟨h, hlog⟩ := foldl_sound startedAt is (start_sound settled)
  have hlog : s.relay.up.log = sent is := hlog
  obtain ⟨hlength, hreaders⟩ := foldl_readers startedAt settled is
  refine ⟨hlength, fun k r hr => ?_⟩
  obtain ⟨after, hsince, hafter⟩ := hreaders k r hr
  have hnamed : ∀ d ∈ s.relay.up.log, d.Named := fun d hd => (his d (hlog ▸ hd)).named
  have hstreamed := h.streamed hnamed (List.mem_of_getElem? hr) hafter
  rw [hlog] at hstreamed
  exact ⟨after, hsince, hstreamed⟩

/-- A browser reads a packet, the configuration that a reload pushes, and statistics, and
another one comes. -/
def sampleInputs : List (SseInput ℚ) :=
  [.connect, .item (.pkt (Listener.samplePacket "W1AW" [62, 65])), .forward, .read 0,
    .reload Settled.quietReload, .item (.tlm (.packetStatus (Listener.tick 600 600 {}).2)),
    .forward, .read 0, .read 0, .connect]

theorem sent_sampleInputs : ∀ d ∈ sent sampleInputs, Produced d := by
  have hsent : sent sampleInputs = [.pkt (Listener.samplePacket "W1AW" [62, 65]),
    .tlm (.packetStatus (Listener.tick 600 600 {}).2)] := rfl
  rw [hsent]
  intro d hd
  fin_cases hd
  · exact .packet _
  · exact .listener 600 600 {}

theorem browser_stream_sample :
    let s := sampleInputs.foldl (Sse.next 0) { settled := Settled.start asciiUpper 0 sampleFile }
    s.relay.readers.length = 2 ∧
      ∀ k r, s.relay.readers[k]? = some r →
        ∃ after, Since sampleInputs k after ∧ Streamed 0 s (sent sampleInputs) after r :=
  browser_stream 0 (Settled.start asciiUpper 0 sampleFile) sampleInputs sent_sampleInputs

end Sse

end Rtpigate
