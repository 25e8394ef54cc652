/-
The buckets of the history add up.

The listener and the APRS-IS task count, take their counters at a tick, and publish
the ticks so far.  The messages reach the history in any order, some of them never,
and a restart begins with buckets from the disk.  A bucket that comes from one tick
of each task has the consistency of the counters.
-/
import Rtpigate.Aprsis.Stats
import Rtpigate.Heal

namespace Rtpigate

open Lib HistoryStore

/-- Packets are direct or digipeated, and those gated or dropped were received. -/
structure StatBucket.Sound (b : StatBucket) : Prop where
  aligned : b.ts % 15 = 0
  heard : b.total = b.direct + b.digipeated
  gated : b.igated + b.dropped ≤ b.rfReceived

/-- Every bucket is sound and under its own key. -/
def HistoryStore.Sound (h : HistoryStore) : Prop :=
  ∀ (k : Int) (b : StatBucket), h.buckets[k]? = some b → b.ts = k ∧ b.Sound

theorem bucketKey_aligned (epochSecs : Int) : bucketKey epochSecs % 15 = 0 := by
  unfold bucketKey bucketSecs
  omega

/-! ## The listener -/

namespace Listener

def Counts.Consistent (c : Counts) : Prop := c.totalPackets = c.heardDirect + c.digipeated

/-- The counters are consistent, and so are those of the ticks in the series. -/
structure State.Counted (s : State) : Prop where
  interval : s.interval.Consistent
  series : ∃ ticks : List Tick, s.series.Shows (ticks.rtake DataSeries.window) ∧
    ∀ x ∈ ticks, x.counts.Consistent

/-- The message shows consistent ticks. -/
def Telling {F : Type} (m : PacketTelemetry F) : Prop :=
  ∃ ticks : List Tick, m.series.Shows ticks ∧ ∀ x ∈ ticks, x.counts.Consistent

theorem Counts.Consistent.frame {c : Counts} (h : c.Consistent) (heardDirect : Bool) :
    (c.frame heardDirect).Consistent := by
  have heq : c.totalPackets = c.heardDirect + c.digipeated := h
  cases heardDirect
  · show c.totalPackets + 1 = c.heardDirect + 0 + (c.digipeated + 1)
    omega
  · show c.totalPackets + 1 = c.heardDirect + 1 + (c.digipeated + 0)
    omega

variable {F : Type} [F64 F]

theorem frame_counted {s : State} (h : s.Counted) (satFreqs : List F) (world : FrameWorld F)
    (fr : AprsFrame F) : (frame satFreqs world fr s).1.Counted := by
  rw [frame]
  split
  · exact h
  · exact ⟨h.interval.frame _, h.series⟩

theorem tick_counted {s : State} (h : s.Counted) (now utc : Int) :
    (tick (F := F) now utc s).1.Counted ∧ Telling (tick (F := F) now utc s).2 := by
  obtain ⟨ticks, hshows, hticks⟩ := h.series
  have hsample := State.sample_shows hshows now utc
  have hall : ∀ x ∈ ticks ++ [s.taken now utc], x.counts.Consistent := by
    intro x hx
    rcases List.mem_append.mp hx with hx | hx
    · exact hticks x hx
    · rw [List.mem_singleton.mp hx]
      exact h.interval
  exact ⟨⟨rfl, _, hsample, hall⟩, _, hsample, fun x hx => hall x (List.mem_of_mem_drop hx)⟩

theorem start_counted (lifetime : Counts) : State.Counted { lifetime := lifetime } :=
  ⟨rfl, [], ⟨rfl, rfl, rfl, rfl⟩, fun _ hx => absurd hx List.not_mem_nil⟩

end Listener

/-! ## Merging -/

namespace HistoryStore

variable {F : Type}

/-- A merge that stamps sound counters leaves the buckets sound. -/
theorem Sound.stamped {τ : Type} {slot : τ → Int} {ticks : List τ}
    {stamp : τ → StatBucket → StatBucket} {h h' : HistoryStore} (hs : h.Sound)
    (hmerged : ∀ k, h'.buckets[k]? = ((latest slot k ticks).map fun x =>
      stamp x ((h.buckets[k]?).getD { ts := k })).or h.buckets[k]?)
    (haligned : ∀ x ∈ ticks, slot x % 15 = 0)
    (hstamp : ∀ x ∈ ticks, ∀ b : StatBucket, b.Sound →
      (stamp x b).ts = b.ts ∧ (stamp x b).Sound) : h'.Sound := by
  intro k b hb
  rw [hmerged] at hb
  cases hlast : latest slot k ticks with
  | none =>
    rw [hlast] at hb
    exact hs k b hb
  | some x =>
    rw [hlast] at hb
    obtain ⟨hx, hkey⟩ := latest_mem hlast
    have hbefore : ((h.buckets[k]?).getD { ts := k }).ts = k ∧
        ((h.buckets[k]?).getD { ts := k }).Sound := by
      cases hold : h.buckets[k]? with
      | none =>
        refine ⟨rfl, ?_, rfl, Nat.zero_le _⟩
        rw [← hkey]
        exact haligned x hx
      | some old => exact hs k old hold
    obtain ⟨hts, hsound⟩ := hstamp x hx _ hbefore.2
    cases hb
    exact ⟨hts.trans hbefore.1, hsound⟩

theorem Sound.packet {h : HistoryStore} (hs : h.Sound) {m : PacketTelemetry F}
    (hm : Listener.Telling m) : (h.updateFromPacket m).1.Sound := by
  obtain ⟨ticks, hshows, hticks⟩ := hm
  exact hs.stamped (getElem?_updateFromPacket hshows h) (fun _ _ => bucketKey_aligned _)
    fun x hx b hb => ⟨rfl, hb.aligned, hticks x hx, hb.gated⟩

theorem Sound.aprsis {h : HistoryStore} (hs : h.Sound) {m : AprsisTelemetry F}
    (hm : Aprsis.Telling m) : (h.updateFromAprsis m).1.Sound := by
  obtain ⟨ticks, hshows, hticks⟩ := hm
  exact hs.stamped (getElem?_updateFromAprsis hshows h) (fun _ _ => bucketKey_aligned _)
    fun x hx b hb => ⟨rfl, hb.aligned, hb.heard, hticks x hx⟩

theorem Sound.prune {h : HistoryStore} (hs : h.Sound) (seen : Int) : (h.prune seen).1.Sound := by
  intro k b hb
  rw [getElem?_prune] at hb
  split at hb
  · exact hs k b hb
  · cases hb

theorem fromBuckets_sound {rows : List StatBucket} (h : ∀ b ∈ rows, b.Sound) :
    (fromBuckets rows).Sound := by
  induction rows using List.reverseRecOn with
  | nil =>
    intro k b hb
    rw [show (fromBuckets []).buckets = ∅ from rfl, Std.ExtTreeMap.getElem?_empty] at hb
    cases hb
  | append_singleton rows r ih =>
    intro k b hb
    rw [fromBuckets, Table.upsertAll, List.foldl_concat, Table.getElem?_insert_ite] at hb
    split at hb
    · next hr =>
      cases hb
      exact ⟨hr, h _ (List.mem_append_right _ List.mem_cons_self)⟩
    · exact ih (fun b hb => h b (List.mem_append_left _ hb)) k b hb

end HistoryStore

/-! ## The feed -/

/-- The two counting tasks, the messages they have sent since the start, and the
history. -/
structure Feed (F : Type) where
  satFreqs : List F
  captured : Captured F
  listener : Listener.State
  task : Aprsis.State F
  sent : List (AppTelemetry F)
  history : HistoryStore

/-- What a start finds: its configuration, and what the loads return.  `seen` is the
second the clock shows to `prune`. -/
structure FeedStart (F : Type) where
  satFreqs : List F
  captured : Captured F
  lifetime : Listener.Counts
  row : Option AprsisLifetime
  seq : SeqLoad
  rows : List { b : StatBucket // b.Sound }
  seen : Int

/-- `hear` is the arrival of one of the messages sent, whichever. -/
inductive FeedInput (F : Type)
  | frame (world : Listener.FrameWorld F) (fr : AprsFrame F)
  | tick (now utc : Int)
  | own (i : Aprsis.Input F)
  | hear (n : Nat) (seen : Int)
  | restart (start : FeedStart F)

namespace Feed

variable {F : Type}

def boot (start : FeedStart F) : Feed F where
  satFreqs := start.satFreqs
  captured := start.captured
  listener := { lifetime := start.lifetime }
  task := (Aprsis.start start.row start.seq).1
  sent := []
  history := ((fromBuckets (start.rows.map Subtype.val)).prune start.seen).1

/-- The SSE task on a message. -/
def heard (seen : Int) (h : HistoryStore) : AppTelemetry F → HistoryStore
  | .packetStatus t => ((h.updateFromPacket t).1.prune seen).1
  | .aprsisStatus t => ((h.updateFromAprsis t).1.prune seen).1
  | _ => h

def Telling : AppTelemetry F → Prop
  | .packetStatus t => Listener.Telling t
  | .aprsisStatus t => Aprsis.Telling t
  | _ => True

/-- The counters are consistent, as are the messages under way and the buckets. -/
structure Sound (s : Feed F) : Prop where
  listener : s.listener.Counted
  task : s.task.Counted
  sent : ∀ m ∈ s.sent, Telling m
  history : s.history.Sound

theorem boot_sound (start : FeedStart F) : (boot start).Sound where
  listener := Listener.start_counted start.lifetime
  task := Aprsis.start_counted start.row start.seq
  sent _ hm := absurd hm List.not_mem_nil
  history := by
    refine Sound.prune (fromBuckets_sound ?_) start.seen
    intro b hb
    obtain ⟨r, -, rfl⟩ := List.mem_map.mp hb
    exact r.property

theorem heard_sound {h : HistoryStore} (hs : h.Sound) (seen : Int) {m : AppTelemetry F}
    (hm : Telling m) : (heard seen h m).Sound := by
  cases m with
  | packetStatus t => exact (hs.packet hm).prune seen
  | aprsisStatus t => exact (hs.aprsis hm).prune seen
  | slicerStatus | stationStatus | gpsStatus => exact hs

variable [F64 F]

/-- One step, with the messages it sends. -/
def next (s : Feed F) : FeedInput F → Feed F × List (AppTelemetry F)
  | .frame world fr =>
    ({ s with listener := (Listener.frame s.satFreqs world fr s.listener).1 }, [])
  | .tick now utc =>
    let ticked := Listener.tick (F := F) now utc s.listener
    ({ s with listener := ticked.1, sent := s.sent ++ [.packetStatus ticked.2] },
      [.packetStatus ticked.2])
  | .own i =>
    let stepped := Aprsis.step s.captured s.task i
    let sent := (Aprsis.publications stepped.2).map AppTelemetry.aprsisStatus
    ({ s with task := stepped.1, sent := s.sent ++ sent }, sent)
  | .hear n seen =>
    match s.sent[n]? with
    | some m => ({ s with history := heard seen s.history m }, [])
    | none => (s, [])
  | .restart start => (boot start, [])

theorem next_sound {s : Feed F} (hs : s.Sound) (i : FeedInput F) : (s.next i).1.Sound := by
  cases i with
  | frame world fr =>
    exact ⟨Listener.frame_counted hs.listener s.satFreqs world fr, hs.task, hs.sent, hs.history⟩
  | tick now utc =>
    obtain ⟨hcounted, htelling⟩ := Listener.tick_counted (F := F) hs.listener now utc
    refine ⟨hcounted, hs.task, ?_, hs.history⟩
    intro m hm
    rcases List.mem_append.mp hm with hm | hm
    · exact hs.sent m hm
    · rw [List.mem_singleton.mp hm]
      exact htelling
  | own i =>
    obtain ⟨hcounted, htelling⟩ := Aprsis.step_told hs.task s.captured i
    refine ⟨hs.listener, hcounted, ?_, hs.history⟩
    intro m hm
    rcases List.mem_append.mp hm with hm | hm
    · exact hs.sent m hm
    · obtain ⟨t, ht, rfl⟩ := List.mem_map.mp hm
      exact htelling t ht
  | hear n seen =>
    rw [next]
    split
    · next m hget =>
      have hm : m ∈ s.sent := List.mem_of_getElem? hget
      exact ⟨hs.listener, hs.task, hs.sent, heard_sound hs.history seen (hs.sent m hm)⟩
    · exact hs
  | restart start => exact boot_sound start

/-- Whatever is counted, sent, lost and restarted, the buckets add up. -/
theorem buckets_sound (start : FeedStart F) (is : List (FeedInput F)) :
    (run next (boot start) is).1.history.Sound :=
  (run_invariant (P := fun _ (s : Feed F) _ => s.Sound) (boot_sound start)
    (fun _ i _ _ hs => next_sound hs i) is).history

end Feed

end Rtpigate
