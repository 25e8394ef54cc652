/-
From the air to the Recent table.

The listener sends a packet for every frame it maps, the SSE task sends it on, and a browser
puts it on top of its table of twenty.  Both channels hold 128 messages and lose the oldest
ones, without a word to the page.  The table never shows a packet twice or out of order, and
however much was lost, it is right again as soon as task and browser have caught up.  Only
packets whose row can be built come into it.
-/
import Rtpigate.Lib.CatchUp
import Rtpigate.Page.TabRows
import Rtpigate.Sse

namespace Rtpigate
namespace Page

open Lib Tabs

/-- The listener reads a frame, some task sends telemetry, the SSE task receives, a SIGHUP
comes, a browser connects, or one of them reads. -/
inductive AirInput (F : Type)
  | frame (world : Listener.FrameWorld F) (fr : AprsFrame F)
  | telemetry (x : AppTelemetry F)
  | forward
  | reload (r : Reload F)
  | connect
  | read (k : Nat)

variable {F : Type}

def shownPacket (e : SSEEvent F) : Option (RTPPacket F) :=
  match e.data with
  | .item d => packetOf d
  | .config _ => none

/-- The packets among the events of the SSE channel. -/
def shownPackets (events : List (SSEEvent F)) : List (RTPPacket F) := events.filterMap shownPacket

section Float

variable [F64 F] (satFreqs : List F)

/-- The listeners of the page, as far as the packet tables go. -/
def onEvent [JsonNumber F] (now : Int) (e : SSEEvent F) (v : View F) : View F :=
  match pageHandler e.event, shownPacket e with
  | some .rfpacket, some p => (onRfpacket now p v).view
  | _, _ => v

/-- The tables after the events of a stream.  Event `k` comes at the time `now k`. -/
def viewAfter [JsonNumber F] (now : Nat → Int) (events : List (SSEEvent F)) (v : View F) :
    View F :=
  events.zipIdx.foldl (fun v x => onEvent (now x.2) x.1 v) v

def AirInput.heard : AirInput F → Option (RTPPacket F)
  | .frame world fr => Listener.packet satFreqs world fr
  | .telemetry _ | .forward | .reload _ | .connect | .read _ => none

def AirInput.sse : AirInput F → Option (SseInput F)
  | .frame world fr => (Listener.packet satFreqs world fr).map fun p => .item (.pkt p)
  | .telemetry x => some (.item (.tlm x))
  | .forward => some .forward
  | .reload r => some (.reload r)
  | .connect => some .connect
  | .read k => some (.read k)

/-- The packets of a run, in the order of their frames. -/
def heard (is : List (AirInput F)) : List (RTPPacket F) := is.filterMap (AirInput.heard satFreqs)

/-- The SSE task and the browsers at the end of a run. -/
def onAir (startedAt : Int) (settled : Settled F) (is : List (AirInput F)) : Sse F :=
  (is.filterMap (AirInput.sse satFreqs)).foldl (Sse.next startedAt) { settled := settled }

end Float

/-! ## Packets on the way -/

theorem shownPacket_sseEvent (d : DataItem F) : shownPacket (sseEvent d) = packetOf d := by
  cases d with
  | pkt p => rfl
  | tlm t => cases t <;> rfl

theorem shownPackets_map (items : List (DataItem F)) :
    shownPackets (items.map sseEvent) = packetsOf items := by
  rw [shownPackets, List.filterMap_map]
  exact List.filterMap_congr fun d _ => shownPacket_sseEvent d

theorem shownPackets_concat (events : List (SSEEvent F)) (e : SSEEvent F) :
    shownPackets (events ++ [e]) = shownPackets events ++ (shownPacket e).toList := by
  rw [shownPackets, List.filterMap_append, shownPackets]
  cases h : shownPacket e <;> simp [h]

theorem shownPackets_suffix {a b : List (SSEEvent F)} (h : a <:+ b) :
    shownPackets a <:+ shownPackets b := h.filterMap shownPacket

/-- The configuration shows no packet. -/
theorem shownPackets_filter (events : List (SSEEvent F)) :
    shownPackets (events.filter fun e => !e.isConfig) = shownPackets events := by
  rw [shownPackets, shownPackets, List.filterMap_filter]
  refine List.filterMap_congr fun e _ => ?_
  cases hdata : e.data with
  | item d => simp [SSEEvent.isConfig, SSEEvent.shownConfig, hdata]
  | config c => simp [SSEEvent.isConfig, SSEEvent.shownConfig, shownPacket, hdata]

theorem sent_onAir [F64 F] (satFreqs : List F) (is : List (AirInput F)) :
    packetsOf (Sse.sent (is.filterMap (AirInput.sse satFreqs))) = heard satFreqs is := by
  induction is with
  | nil => rfl
  | cons i is ih =>
    rw [heard, List.filterMap_cons, List.filterMap_cons]
    cases i with
    | frame world fr =>
      rw [AirInput.sse, AirInput.heard]
      cases Listener.packet satFreqs world fr with
      | none => exact ih
      | some p => exact congrArg (p :: ·) ih
    | telemetry x | forward | reload r | connect | read k => exact ih

/-! ## The table -/

theorem onRfpacket_packetBody [F64 F] [JsonNumber F] (now : Int) (data : RTPPacket F)
    (v : View F) : (onRfpacket now data v).view.packetBody =
      if rowBuilds data then (data :: v.packetBody).take MAX_PACKETS else v.packetBody := by
  rw [onRfpacket]
  rcases addPacketRow_cases MAX_PACKETS data v.packetBody with ⟨hbuilds, hrow⟩ | ⟨hbuilds, hrow⟩
  · have hbody := (routeToStationTab_other data
      { v with packetBody := (data :: v.packetBody).take MAX_PACKETS }).1
    rw [if_pos hbuilds]
    by_cases hsatellite : data.isSatellite = true
    · simp only [hrow, if_pos hsatellite]
      exact hbody
    · simp only [hrow, if_neg hsatellite]
      exact hbody
  · rw [if_neg hbuilds]
    simp only [hrow]

/-- A page that can handle the events of its stream puts the packets among them on top. -/
theorem viewAfter_packetBody [F64 F] [JsonNumber F] (now : Nat → Int) {events : List (SSEEvent F)}
    (h : ∀ e ∈ events, e.Handled) {v : View F} (hv : v.packetBody.length ≤ MAX_PACKETS) :
    (viewAfter now events v).packetBody =
      (((shownPackets events).filter rowBuilds).reverse ++ v.packetBody).take MAX_PACKETS := by
  induction events using List.reverseRecOn with
  | nil => exact (List.take_of_length_le hv).symm
  | append_singleton events e ih =>
    have hbefore := ih fun e he => h e (List.mem_append_left _ he)
    have hlast : viewAfter now (events ++ [e]) v =
        onEvent (now events.length) e (viewAfter now events v) := by
      rw [viewAfter, List.zipIdx_append, List.foldl_append, Nat.zero_add]
      rfl
    have hhandled : pageHandler e.event = some e.data.handler :=
      h e (List.mem_append_right _ List.mem_cons_self)
    rw [hlast, shownPackets_concat, onEvent, hhandled, List.filter_append, List.reverse_append,
      List.append_assoc]
    cases hpacket : shownPacket e with
    | none =>
      cases e.data.handler <;> exact hbefore
    | some p =>
      have hdata : e.data = .item (.pkt p) := by
        rw [shownPacket] at hpacket
        cases hdata : e.data with
        | config c => simp [hdata] at hpacket
        | item d =>
          cases d with
          | tlm t => simp [hdata, packetOf] at hpacket
          | pkt q => simpa [hdata, packetOf] using hpacket
      rw [hdata]
      show (onRfpacket _ p _).view.packetBody = (([p].filter rowBuilds).reverse ++
        (((shownPackets events).filter rowBuilds).reverse ++ v.packetBody)).take 20
      rw [onRfpacket_packetBody, hbefore]
      by_cases hbuilds : rowBuilds p = true
      · rw [if_pos hbuilds, List.filter_cons_of_pos hbuilds]
        show (p :: (_ : List (RTPPacket F)).take 20).take 20 =
          (p :: (((shownPackets events).filter rowBuilds).reverse ++ v.packetBody)).take 20
        rw [List.take_succ_cons, List.take_succ_cons, List.take_take]
        rfl
      · rw [if_neg hbuilds, List.filter_cons_of_neg hbuilds]
        rfl

/-! ## Runs -/

/-- The newest of a list are those of its end. -/
theorem newest_of_suffix {α : Type*} {a b : List α} (h : a <:+ b) {n : Nat} (hn : n ≤ a.length) :
    b.reverse.take n = a.reverse.take n := by
  obtain ⟨before, rfl⟩ := h
  rw [List.reverse_append, List.take_append_of_le_length (by rwa [List.length_reverse])]

variable [F64 F]

/-- No browser has a gap among what is still kept. -/
theorem foldl_unbroken (startedAt : Int) {s : Sse F} (hsound : s.Sound)
    (h : ∀ r ∈ s.relay.readers,
      r.Unbroken channelCapacity sseChannelCapacity sseEvent SSEEvent.isConfig s.relay)
    (is : List (SseInput F)) :
    ∀ r ∈ (is.foldl (Sse.next startedAt) s).relay.readers,
      r.Unbroken channelCapacity sseChannelCapacity sseEvent SSEEvent.isConfig
        (is.foldl (Sse.next startedAt) s).relay := by
  induction is generalizing s with
  | nil => exact h
  | cons i is ih =>
    refine ih (hsound.next startedAt i) ?_
    cases i with
    | item d => exact Relay.next_unbroken hsound.relay h sseEvent_isConfig (i := .send d) trivial
    | forward => exact Relay.next_unbroken hsound.relay h sseEvent_isConfig (i := .relay) trivial
    | connect => exact Relay.next_unbroken hsound.relay h sseEvent_isConfig (i := .connect) trivial
    | read k => exact Relay.next_unbroken hsound.relay h sseEvent_isConfig (i := .read k) trivial
    | reload r =>
      rw [Sse.next, Settled.reload]
      cases r.accepted with
      | none => exact h
      | some c =>
        exact Relay.next_unbroken hsound.relay h sseEvent_isConfig (i := .own (configEvent _)) rfl

/-- Whatever a page has shown before, the packets of its stream come on top: packets heard
since it came, in order and each once.  When the task and the browser have caught up, and
whatever they have missed before, the newest rows are the packets heard last, as long as
these are among the last 128 items and the last 128 events. -/
theorem recent_heals [JsonNumber F] (satFreqs : List F) (startedAt : Int) (settled : Settled F)
    (is : List (AirInput F)) (hnamed : ∀ x, .telemetry x ∈ is → (DataItem.tlm x).Named)
    (now : Nat → Int) {v : View F} (hv : v.packetBody.length ≤ MAX_PACKETS) :
    let items := Sse.sent (is.filterMap (AirInput.sse satFreqs))
    packetsOf items = heard satFreqs is ∧
    ∀ r ∈ (onAir satFreqs startedAt settled is).relay.readers,
      let rows := (viewAfter now r.got v).packetBody
      (∃ fresh, rows = (fresh ++ v.packetBody).take MAX_PACKETS ∧
        fresh.reverse.Sublist ((packetsOf (items.drop r.origin)).filter rowBuilds)) ∧
      ((onAir satFreqs startedAt settled is).relay.up.pending = [] → r.channel.pending = [] →
        ∀ n ≤ MAX_PACKETS,
          n ≤ ((packetsOf (items.drop
            (max r.origin (items.length - channelCapacity)))).filter rowBuilds).length →
          n ≤ ((shownPackets (r.channel.log.drop
            (r.channel.log.length - sseChannelCapacity))).filter rowBuilds).length →
          rows.take n = ((heard satFreqs is).filter rowBuilds).reverse.take n) := by
  intro items
  have hheard : packetsOf items = heard satFreqs is := sent_onAir satFreqs is
  refine ⟨hheard, fun r hr => ?_⟩
  have hsent : ∀ d ∈ items, d.Named := by
    intro d hd
    obtain ⟨i, hi, hd⟩ := List.mem_flatMap.mp hd
    obtain ⟨a, ha, hai⟩ := List.mem_filterMap.mp hi
    cases a with
    | frame world fr =>
      obtain ⟨p, -, rfl⟩ := Option.map_eq_some_iff.mp hai
      rw [List.mem_singleton.mp hd]
      trivial
    | telemetry x =>
      cases hai
      rw [List.mem_singleton.mp hd]
      exact hnamed x ha
    | forward | reload r | connect | read k =>
      cases hai
      cases hd
  have hstart : Sse.Sound { settled := settled } := Sse.start_sound settled
  obtain ⟨hsound, hlog⟩ := Sse.foldl_sound startedAt (is.filterMap (AirInput.sse satFreqs)) hstart
  have hlog : (onAir satFreqs startedAt settled is).relay.up.log = items := hlog
  have hr' : r.Sound sseEvent SSEEvent.isConfig (onAir satFreqs startedAt settled is).relay :=
    hsound.relay.readers r hr
  have hhandled : ∀ e ∈ r.got, e.Handled :=
    hsound.got_handled (hlog ▸ hsent) hr
  have hrows := viewAfter_packetBody now hhandled hv
  refine ⟨⟨((shownPackets r.got).filter rowBuilds).reverse, hrows, ?_⟩,
    fun hup hdown n hn hitems hevents => ?_⟩
  · rw [List.reverse_reverse, ← shownPackets_filter, ← shownPackets_map, ← hlog]
    exact (hr'.got_sublist.filterMap shownPacket).filter rowBuilds
  · have hunbroken : ∀ r ∈ (onAir satFreqs startedAt settled is).relay.readers,
        r.Unbroken channelCapacity sseChannelCapacity sseEvent SSEEvent.isConfig
          (onAir satFreqs startedAt settled is).relay :=
      foldl_unbroken startedAt hstart (fun _ hr => by cases hr) _
    obtain ⟨hrelayed, hgot⟩ := (hunbroken r hr).caught_up hup hdown
    have hevents' := (shownPackets_suffix hgot).filter rowBuilds
    have hlast := (shownPackets_suffix
      (List.drop_suffix (r.channel.log.length - sseChannelCapacity) r.channel.log)).filter rowBuilds
    have hitems' := shownPackets_suffix hrelayed
    rw [shownPackets_filter, shownPackets_map, hlog] at hitems'
    replace hitems' := hitems'.filter rowBuilds
    have hall : (packetsOf (items.drop (max r.origin (items.length - channelCapacity)))).filter
        rowBuilds <:+ (heard satFreqs is).filter rowBuilds := by
      rw [← hheard]
      exact ((List.drop_suffix _ _).filterMap packetOf).filter rowBuilds
    have hgotlen : n ≤ ((shownPackets r.got).filter rowBuilds).reverse.length := by
      rw [List.length_reverse]
      exact hevents.trans hevents'.length_le
    calc (viewAfter now r.got v).packetBody.take n
        = ((shownPackets r.got).filter rowBuilds).reverse.take n := by
          rw [hrows, List.take_take, Nat.min_eq_left hn, List.take_append_of_le_length hgotlen]
      _ = ((shownPackets r.channel.log).filter rowBuilds).reverse.take n := by
          rw [newest_of_suffix hevents' hevents, newest_of_suffix hlast hevents]
      _ = ((heard satFreqs is).filter rowBuilds).reverse.take n := by
          rw [newest_of_suffix hitems' hitems, newest_of_suffix hall hitems]

/-- A browser comes, a frame is heard behind more telemetry than the channel holds, and the
task and the browser get on. -/
def lateFrame : List (AirInput ℚ) :=
  .connect :: List.replicate 129 (.telemetry (.gpsStatus "gps_status")) ++
    .frame Listener.sampleWorld (Listener.sampleFrame "W1AW" [62, 65]) ::
    (List.replicate 129 .forward ++ List.replicate 129 (.read 0))

theorem recent_heals_lateFrame :
    (onAir [] 0 (Settled.start asciiUpper 0 sampleFile) lateFrame).relay.readers.length = 1 ∧
      ∀ r ∈ (onAir [] 0 (Settled.start asciiUpper 0 sampleFile) lateFrame).relay.readers,
        (viewAfter (fun _ => 0) r.got {}).packetBody.take 1 =
          ((heard [] lateFrame).filter rowBuilds).reverse.take 1 := by
  have hnamed : ∀ x, .telemetry x ∈ lateFrame → (DataItem.tlm x).Named := by
    intro x hx
    simp only [lateFrame, List.cons_append, List.mem_cons, List.mem_append, List.mem_replicate,
      reduceCtorEq, and_false, or_false, false_or, AirInput.telemetry.injEq] at hx
    rw [hx.2]
    rfl
  have hsettled : ((onAir [] 0 (Settled.start asciiUpper 0 sampleFile)
      lateFrame).relay.readers.all fun r => r.channel.pending.isEmpty &&
        decide (1 ≤ ((packetsOf ((Sse.sent (lateFrame.filterMap (AirInput.sse []))).drop
          (max r.origin ((Sse.sent (lateFrame.filterMap (AirInput.sse []))).length -
            channelCapacity)))).filter rowBuilds).length) &&
        decide (1 ≤ ((shownPackets (r.channel.log.drop
          (r.channel.log.length - sseChannelCapacity))).filter rowBuilds).length)) = true := by
    decide +kernel
  refine ⟨by decide +kernel, fun r hr => ?_⟩
  have hr' := List.all_eq_true.mp hsettled r hr
  rw [Bool.and_eq_true, Bool.and_eq_true, List.isEmpty_iff, decide_eq_true_eq,
    decide_eq_true_eq] at hr'
  obtain ⟨⟨hpending, hitems⟩, hevents⟩ := hr'
  have hbody : (({} : View ℚ).packetBody).length ≤ MAX_PACKETS := by decide
  have h := (recent_heals [] 0 (Settled.start asciiUpper 0 sampleFile) lateFrame hnamed
    (fun _ => 0) hbody).2 r hr
  exact h.2 (List.isEmpty_iff.mp (by decide +kernel)) hpending 1 (by decide) hitems hevents

end Page
end Rtpigate
