/-
What the history makes of lost messages.

Both tasks publish at every tick the window of their last points.  The channel may
lose messages, and it mixes the two streams.  A bucket ends up with the last tick of
its own of each task, as long as no gap in a stream is wider than the window.
-/
import Rtpigate.Feed
import Rtpigate.Lib.Machine

namespace Rtpigate

open Lib HistoryStore

/-! ## Publishing -/

/-- Message `i` shows the window of the ticks up to tick `i`. -/
structure Windowed {α ω : Type*} (shows : ω → List α → Prop) (ticks : List α) (sent : List ω) :
    Prop where
  length : sent.length = ticks.length
  window : ∀ i t, sent[i]? = some t → shows t ((ticks.take (i + 1)).rtake DataSeries.window)

theorem windowed_nil {α ω : Type*} (shows : ω → List α → Prop) : Windowed shows [] [] :=
  ⟨rfl, fun _ _ h => by cases h⟩

theorem Windowed.sent {α ω : Type*} {shows : ω → List α → Prop} {ticks : List α} {sent : List ω}
    (h : Windowed shows ticks sent) {i : Nat} (hi : i < ticks.length) : ∃ t, sent[i]? = some t :=
  ⟨_, List.getElem?_eq_getElem (h.length ▸ hi)⟩

theorem Windowed.concat {α ω : Type*} {shows : ω → List α → Prop} {ticks : List α} {sent : List ω}
    (h : Windowed shows ticks sent) {x : α} {t : ω}
    (ht : shows t ((ticks ++ [x]).rtake DataSeries.window)) :
    Windowed shows (ticks ++ [x]) (sent ++ [t]) where
  length := by
    rw [List.length_append, List.length_append, h.length]
    rfl
  window i u hi := by
    rw [List.getElem?_append] at hi
    split at hi
    · next hlt =>
      have hle : i + 1 ≤ ticks.length := by
        rw [← h.length]
        omega
      rw [List.take_append_of_le_length hle]
      exact h.window i u hi
    · next hge =>
      rw [List.getElem?_singleton] at hi
      split at hi
      · cases hi
        have hlen : (ticks ++ [x]).length ≤ i + 1 := by
          rw [List.length_append, List.length_singleton, ← h.length]
          omega
        rw [List.take_of_length_le hlen]
        exact ht
      · cases hi

variable {F : Type}

abbrev PacketTelemetry.Shows (t : PacketTelemetry F) (ticks : List Listener.Tick) : Prop :=
  t.series.Shows ticks

abbrev AprsisTelemetry.Shows (t : AprsisTelemetry F) (ticks : List Aprsis.Tick) : Prop :=
  t.series.Shows ticks

variable [F64 F]

namespace Listener

/-- The next tick, when the counters have come to its counts. -/
def publishNext (s : State) (x : Tick) : State × List (PacketTelemetry F) :=
  let ticked := tick x.now x.utc { s with interval := x.counts }
  (ticked.1, [ticked.2])

/-- The messages of a sequence of ticks. -/
def published (ticks : List Tick) : List (PacketTelemetry F) := (run publishNext {} ticks).2

theorem published_windowed (ticks : List Tick) :
    Windowed PacketTelemetry.Shows ticks (published (F := F) ticks) :=
  (run_invariant (P := fun ticks (s : State) sent =>
      s.series.Shows (ticks.rtake DataSeries.window) ∧
        Windowed (PacketTelemetry.Shows (F := F)) ticks sent)
    ⟨⟨rfl, rfl, rfl, rfl⟩, windowed_nil _⟩
    (fun ticks x s sent h => by
      have hshows := State.sample_shows (s := { s with interval := x.counts }) h.1 x.now x.utc
      exact ⟨hshows, h.2.concat hshows⟩)
    ticks).2

end Listener

namespace Aprsis

def publishNext (s : State F) (x : Tick) : State F × List (AprsisTelemetry F) :=
  let s := { s with stats := x.stats }
  ((telemetryTick x.now x.utc s).1, [s.statistics x.now x.utc])

def published (ticks : List Tick) : List (AprsisTelemetry F) := (run publishNext {} ticks).2

theorem published_windowed (ticks : List Tick) :
    Windowed AprsisTelemetry.Shows ticks (published (F := F) ticks) :=
  (run_invariant (P := fun ticks (s : State F) sent =>
      s.series.Shows (ticks.rtake DataSeries.window) ∧
        Windowed (AprsisTelemetry.Shows (F := F)) ticks sent)
    ⟨⟨rfl, rfl, rfl, rfl⟩, windowed_nil _⟩
    (fun ticks x s sent h => by
      have hshows := State.sample_shows (s := { s with stats := x.stats }) h.1 x.now x.utc
      exact ⟨hshows, h.2.concat hshows⟩)
    ticks).2

end Aprsis

/-! ## Deliveries -/

/-- A message that comes through, and the second the clock shows to `prune`. -/
inductive Delivery
  | packet (i : Nat) (seen : Int)
  | aprsis (j : Nat) (seen : Int)
  deriving DecidableEq

namespace Delivery

def seen : Delivery → Int
  | .packet _ seen => seen
  | .aprsis _ seen => seen

def packetIndex : Delivery → Option Nat
  | .packet i _ => some i
  | .aprsis _ _ => none

def aprsisIndex : Delivery → Option Nat
  | .packet _ _ => none
  | .aprsis j _ => some j

end Delivery

/-- From message `next` on, the messages heard skip at most 99 in a row and end with
the last of `n`. -/
def Heard (n next : Nat) : List Nat → Prop
  | [] => next = n
  | i :: is => next ≤ i ∧ i < next + DataSeries.window ∧ Heard n (i + 1) is

instance Heard.decidable (n : Nat) : (next : Nat) → (is : List Nat) → Decidable (Heard n next is)
  | next, [] => inferInstanceAs (Decidable (next = n))
  | next, i :: is =>
    have := Heard.decidable n (i + 1) is
    inferInstanceAs (Decidable (next ≤ i ∧ i < next + DataSeries.window ∧ Heard n (i + 1) is))

theorem Heard.le {n next : Nat} {is : List Nat} (h : Heard n next is) : next ≤ n := by
  induction is generalizing next with
  | nil => exact le_of_eq h
  | cons i is ih =>
    have hle := ih h.2.2
    have hi := h.1
    omega

theorem Heard.lt {n next i : Nat} {is : List Nat} (h : Heard n next is) (hi : i ∈ is) : i < n := by
  induction is generalizing next with
  | nil => cases hi
  | cons j is ih =>
    rcases List.mem_cons.mp hi with rfl | hi
    · exact h.2.2.le
    · exact ih h.2.2 hi

theorem Heard.last_mem {n next : Nat} {is : List Nat} (h : Heard (n + 1) next is)
    (hnext : next ≤ n) : n ∈ is := by
  induction is generalizing next with
  | nil =>
    have hend : next = n + 1 := h
    omega
  | cons i is ih =>
    by_cases hi : i + 1 ≤ n
    · exact List.mem_cons_of_mem _ (ih h.2.2 hi)
    · have hle := h.2.2.le
      rw [show i = n by omega]
      exact List.mem_cons_self

/-- Messages that stop before the last one do not cover them. -/
theorem Heard.not_short {n i : Nat} {all is : List Nat} (h : Heard n 0 is)
    (hall : all ++ [i] = List.range n) (hsub : is.Sublist all) : False := by
  cases n with
  | zero => exact List.concat_ne_nil i all hall
  | succ n =>
    rw [List.range_succ] at hall
    have hinit : all = List.range n := (List.append_inj' hall rfl).1
    have hmem := hsub.subset (h.last_mem (Nat.zero_le n))
    rw [hinit, List.mem_range] at hmem
    exact Nat.lt_irrefl n hmem

theorem heard_range' (next len : Nat) : Heard (next + len) next (List.range' next len) := by
  induction len generalizing next with
  | zero => rfl
  | succ len ih =>
    refine ⟨le_rfl, Nat.lt_add_of_pos_right (by decide), ?_⟩
    rw [Nat.add_succ, ← Nat.succ_add]
    exact ih (next + 1)

namespace Delivery

/-- Enough of `n` and `m` messages come through. -/
structure Covers (n m : Nat) (ds : List Delivery) : Prop where
  packets : Heard n 0 (ds.filterMap packetIndex)
  aprsis : Heard m 0 (ds.filterMap aprsisIndex)

/-- All of them come through. -/
structure Complete (n m : Nat) (ds : List Delivery) : Prop where
  packets : ds.filterMap packetIndex = List.range n
  aprsis : ds.filterMap aprsisIndex = List.range m

def InOrder (ds : List Delivery) : Prop := (ds.map seen).Pairwise (· ≤ ·)

instance (ds : List Delivery) : Decidable (InOrder ds) :=
  inferInstanceAs (Decidable ((ds.map seen).Pairwise (· ≤ ·)))

theorem Complete.covers {n m : Nat} {ds : List Delivery} (h : Complete n m ds) : Covers n m ds := by
  refine ⟨?_, ?_⟩
  · rw [h.packets, List.range_eq_range']
    have hheard := heard_range' 0 n
    rwa [Nat.zero_add] at hheard
  · rw [h.aprsis, List.range_eq_range']
    have hheard := heard_range' 0 m
    rwa [Nat.zero_add] at hheard

end Delivery

namespace HistoryStore

/-- The SSE task on a message: merge, then prune. -/
def hear (packets : List (PacketTelemetry F)) (aprsis : List (AprsisTelemetry F))
    (h : HistoryStore) : Delivery → HistoryStore
  | .packet i seen =>
    match packets[i]? with
    | some t => ((h.updateFromPacket t).1.prune seen).1
    | none => h
  | .aprsis j seen =>
    match aprsis[j]? with
    | some t => ((h.updateFromAprsis t).1.prune seen).1
    | none => h

/-- A bucket with the counters of these ticks in it. -/
def stamped (k : Int) (old : Option StatBucket) (packet : Option Listener.Tick)
    (aprsis : Option Aprsis.Tick) : Option StatBucket :=
  let counted := (packet.map fun x => x.counts.stamp (old.getD { ts := k })).or old
  (aprsis.map fun x => x.stats.stamp (counted.getD { ts := k })).or counted

theorem stamped_packet (k : Int) (old : Option StatBucket) (earlier : Option Listener.Tick)
    (aprsis : Option Aprsis.Tick) (new : Option Listener.Tick) :
    (new.map fun x => x.counts.stamp ((stamped k old earlier aprsis).getD { ts := k })).or
      (stamped k old earlier aprsis) = stamped k old (new.or earlier) aprsis := by
  cases new <;> cases earlier <;> cases aprsis <;> cases old <;> rfl

theorem stamped_aprsis (k : Int) (old : Option StatBucket) (packet : Option Listener.Tick)
    (earlier new : Option Aprsis.Tick) :
    (new.map fun x => x.stats.stamp ((stamped k old packet earlier).getD { ts := k })).or
      (stamped k old packet earlier) = stamped k old packet (new.or earlier) := by
  cases new <;> cases earlier <;> cases packet <;> cases old <;> rfl

/-- The window of message `i` reaches back to what was heard before. -/
theorem latest_heard {α : Type*} {slot : α → Int} {k : Int} {ticks : List α} {i next : Nat}
    (hnext : next ≤ i) (hi : i < next + DataSeries.window) :
    (latest slot k ((ticks.take (i + 1)).rtake DataSeries.window)).or
      (latest slot k (ticks.take next)) = latest slot k (ticks.take (i + 1)) := by
  have hlen : (ticks.take (i + 1)).length ≤ next + DataSeries.window := by
    rw [List.length_take]
    omega
  rw [← latest_window hlen, List.take_take, Nat.min_eq_left (by omega)]

section Delivered

variable {ticks : List Listener.Tick} {statTicks : List Aprsis.Tick} {k : Int}
  {old : Option StatBucket}

theorem hear_packet {h : HistoryStore} {earlier : Option Aprsis.Tick} {i next : Nat} {seen : Int}
    (hlt : i < ticks.length) (hnext : next ≤ i) (hi : i < next + DataSeries.window)
    (hk : cutoff seen ≤ k)
    (hold : h.buckets[k]? = stamped k old (latest Listener.Tick.key k (ticks.take next)) earlier) :
    (h.hear (Listener.published (F := F) ticks) (Aprsis.published statTicks)
        (.packet i seen)).buckets[k]? =
      stamped k old (latest Listener.Tick.key k (ticks.take (i + 1))) earlier := by
  have hsent := Listener.published_windowed (F := F) ticks
  obtain ⟨t, ht⟩ := hsent.sent hlt
  rw [hear, ht]
  show (((h.updateFromPacket t).1.prune seen).1.buckets)[k]? = _
  rw [getElem?_prune, if_pos hk, getElem?_updateFromPacket (hsent.window i t ht), hold,
    stamped_packet, latest_heard hnext hi]

theorem hear_aprsis {h : HistoryStore} {earlier : Option Listener.Tick} {j next : Nat} {seen : Int}
    (hlt : j < statTicks.length) (hnext : next ≤ j) (hj : j < next + DataSeries.window)
    (hk : cutoff seen ≤ k)
    (hold : h.buckets[k]? =
      stamped k old earlier (latest Aprsis.Tick.key k (statTicks.take next))) :
    (h.hear (Listener.published (F := F) ticks) (Aprsis.published statTicks)
        (.aprsis j seen)).buckets[k]? =
      stamped k old earlier (latest Aprsis.Tick.key k (statTicks.take (j + 1))) := by
  have hsent := Aprsis.published_windowed (F := F) statTicks
  obtain ⟨t, ht⟩ := hsent.sent hlt
  rw [hear, ht]
  show (((h.updateFromAprsis t).1.prune seen).1.buckets)[k]? = _
  rw [getElem?_prune, if_pos hk, getElem?_updateFromAprsis (hsent.window j t ht), hold,
    stamped_aprsis, latest_heard hnext hj]

/-- Above every cutoff, a bucket is stamped with the latest ticks of all. -/
theorem deliver_stamped {ds : List Delivery} {h : HistoryStore} {i j : Nat}
    (hpackets : Heard ticks.length i (ds.filterMap Delivery.packetIndex))
    (haprsis : Heard statTicks.length j (ds.filterMap Delivery.aprsisIndex))
    (hk : ∀ d ∈ ds, cutoff d.seen ≤ k)
    (hold : h.buckets[k]? = stamped k old (latest Listener.Tick.key k (ticks.take i))
      (latest Aprsis.Tick.key k (statTicks.take j))) :
    (ds.foldl (hear (Listener.published (F := F) ticks) (Aprsis.published statTicks))
        h).buckets[k]? =
      stamped k old (latest Listener.Tick.key k ticks) (latest Aprsis.Tick.key k statTicks) := by
  induction ds generalizing h i j with
  | nil =>
    rw [show i = ticks.length from hpackets, show j = statTicks.length from haprsis,
      List.take_length, List.take_length] at hold
    exact hold
  | cons d ds ih =>
    have hkd := hk d List.mem_cons_self
    have hks : ∀ d ∈ ds, cutoff d.seen ≤ k := fun d hd => hk d (List.mem_cons_of_mem _ hd)
    cases d with
    | packet m seen =>
      obtain ⟨hnext, hm, hpackets⟩ := hpackets
      exact ih hpackets haprsis hks (hear_packet hpackets.le hnext hm hkd hold)
    | aprsis m seen =>
      obtain ⟨hnext, hm, haprsis⟩ := haprsis
      exact ih hpackets haprsis hks (hear_aprsis haprsis.le hnext hm hkd hold)

theorem hear_below {ds : List Delivery} {d : Delivery} (h : HistoryStore)
    (hds : Delivery.Covers ticks.length statTicks.length ds) (hd : d ∈ ds)
    (hk : ¬ cutoff d.seen ≤ k) :
    (h.hear (Listener.published (F := F) ticks) (Aprsis.published statTicks) d).buckets[k]? =
      none := by
  cases d with
  | packet i seen =>
    have hi : i < ticks.length := hds.packets.lt (List.mem_filterMap.mpr ⟨_, hd, rfl⟩)
    obtain ⟨t, ht⟩ := (Listener.published_windowed (F := F) ticks).sent hi
    rw [hear, ht]
    exact (getElem?_prune _ _ _).trans (if_neg hk)
  | aprsis j seen =>
    have hj : j < statTicks.length := hds.aprsis.lt (List.mem_filterMap.mpr ⟨_, hd, rfl⟩)
    obtain ⟨t, ht⟩ := (Aprsis.published_windowed (F := F) statTicks).sent hj
    rw [hear, ht]
    exact (getElem?_prune _ _ _).trans (if_neg hk)

/-- What is left of a covering delivery when its last message is in. -/
theorem getElem?_deliver {ds : List Delivery} {d : Delivery} (h : HistoryStore)
    (hds : Delivery.Covers ticks.length statTicks.length (ds ++ [d]))
    (hclock : Delivery.InOrder (ds ++ [d])) :
    ((ds ++ [d]).foldl (hear (Listener.published (F := F) ticks) (Aprsis.published statTicks))
        h).buckets[k]? =
      if cutoff d.seen ≤ k then
        stamped k h.buckets[k]? (latest Listener.Tick.key k ticks)
          (latest Aprsis.Tick.key k statTicks)
      else none := by
  by_cases hk : cutoff d.seen ≤ k
  · rw [Delivery.InOrder, List.map_append, List.pairwise_append] at hclock
    rw [if_pos hk]
    refine deliver_stamped hds.packets hds.aprsis ?_ rfl
    intro e he
    rcases List.mem_append.mp he with he | he
    · have hle := hclock.2.2 e.seen (List.mem_map_of_mem he) d.seen List.mem_cons_self
      exact (cutoff_mono hle).trans hk
    · rw [List.mem_singleton.mp he]
      exact hk
  · rw [if_neg hk, List.foldl_concat]
    exact hear_below _ hds (List.mem_append_right _ List.mem_cons_self) hk

end Delivered

/-- The store after some deliveries of the messages of these ticks. -/
def delivered (F : Type) [F64 F] (ticks : List Listener.Tick) (statTicks : List Aprsis.Tick)
    (ds : List Delivery) (h : HistoryStore) : HistoryStore :=
  ds.foldl (hear (Listener.published (F := F) ticks) (Aprsis.published statTicks)) h

/-- Two deliveries that cover the messages and end at one time end in one store. -/
theorem delivered_eq {ticks : List Listener.Tick} {statTicks : List Aprsis.Tick}
    {ds ds' : List Delivery} (h : HistoryStore)
    (hds : Delivery.Covers ticks.length statTicks.length ds) (hclock : Delivery.InOrder ds)
    (hds' : Delivery.Covers ticks.length statTicks.length ds') (hclock' : Delivery.InOrder ds')
    (hlast : (ds.map Delivery.seen).getLast? = (ds'.map Delivery.seen).getLast?) :
    delivered F ticks statTicks ds h = delivered F ticks statTicks ds' h := by
  rw [List.getLast?_map, List.getLast?_map] at hlast
  cases ds using List.reverseRecOn with
  | nil =>
    cases ds' using List.reverseRecOn with
    | nil => rfl
    | append_singleton ds' d' =>
      rw [List.getLast?_concat] at hlast
      cases hlast
  | append_singleton ds d =>
    cases ds' using List.reverseRecOn with
    | nil =>
      rw [List.getLast?_concat] at hlast
      cases hlast
    | append_singleton ds' d' =>
      rw [List.getLast?_concat, List.getLast?_concat, Option.map_some, Option.map_some,
        Option.some.injEq] at hlast
      have hbuckets : (delivered F ticks statTicks (ds ++ [d]) h).buckets =
          (delivered F ticks statTicks (ds' ++ [d']) h).buckets := by
        apply Std.ExtTreeMap.ext_getElem?
        intro k
        rw [delivered, delivered, getElem?_deliver h hds hclock, getElem?_deliver h hds' hclock',
          hlast]
      exact congrArg HistoryStore.mk hbuckets

/-- The last message of all is not lost. -/
theorem getLast?_lossy {n m : Nat} {all lossy : List Delivery} (hall : Delivery.Complete n m all)
    (hsub : lossy.Sublist all) (hlossy : Delivery.Covers n m lossy) :
    lossy.getLast? = all.getLast? := by
  cases all using List.reverseRecOn with
  | nil => rw [List.sublist_nil.mp hsub]
  | append_singleton all d =>
    obtain ⟨front, back, rfl, hfront, hback⟩ := List.sublist_append_iff.mp hsub
    rcases List.sublist_singleton.mp hback with rfl | rfl
    · rw [List.append_nil] at hlossy
      have hpackets := hall.packets
      have haprsis := hall.aprsis
      rw [List.filterMap_append] at hpackets haprsis
      cases d with
      | packet i seen => exact (hlossy.packets.not_short hpackets (hfront.filterMap _)).elim
      | aprsis j seen => exact (hlossy.aprsis.not_short haprsis (hfront.filterMap _)).elim
    · rw [List.getLast?_concat, List.getLast?_concat]

/-- A delivery that loses messages, though never more than 99 in a row and not the
last, leaves the store that the whole delivery leaves.  So does any other mix of the
two streams that ends at the same time. -/
theorem history_heals (ticks : List Listener.Tick) (statTicks : List Aprsis.Tick)
    (h : HistoryStore) {all lossy mixed : List Delivery}
    (hall : Delivery.Complete ticks.length statTicks.length all) (hclock : Delivery.InOrder all)
    (hsub : lossy.Sublist all) (hlossy : Delivery.Covers ticks.length statTicks.length lossy)
    (hmixed : Delivery.Covers ticks.length statTicks.length mixed)
    (hmixedClock : Delivery.InOrder mixed)
    (hlast : (mixed.map Delivery.seen).getLast? = (all.map Delivery.seen).getLast?) :
    delivered F ticks statTicks lossy h = delivered F ticks statTicks all h ∧
      delivered F ticks statTicks mixed h = delivered F ticks statTicks all h := by
  constructor
  · have hlossyClock : Delivery.InOrder lossy :=
      List.Pairwise.sublist (hsub.map Delivery.seen) hclock
    refine delivered_eq h hlossy hlossyClock hall.covers hclock ?_
    rw [List.getLast?_map, List.getLast?_map, getLast?_lossy hall hsub hlossy]
  · exact delivered_eq h hmixed hmixedClock hall.covers hclock hlast

/-- Three ticks of the listener, two of them in one bucket, and one of the other task. -/
def healTicks : List Listener.Tick :=
  [⟨10 ^ 9, 0, { totalPackets := 1, heardDirect := 1 }⟩, ⟨2 * 10 ^ 9, 0, {}⟩,
    ⟨16 * 10 ^ 9, 0, { totalPackets := 2, digipeated := 2 }⟩]

def healStatTicks : List Aprsis.Tick := [⟨2 * 10 ^ 9, 0, { rfReceived := 1 }⟩]

theorem history_heals_sample :
    delivered ℚ healTicks healStatTicks [.aprsis 0 3, .packet 2 17] {} =
        delivered ℚ healTicks healStatTicks
          [.packet 0 1, .packet 1 2, .aprsis 0 3, .packet 2 17] {} ∧
      delivered ℚ healTicks healStatTicks [.packet 1 2, .packet 2 16, .aprsis 0 17] {} =
        delivered ℚ healTicks healStatTicks
          [.packet 0 1, .packet 1 2, .aprsis 0 3, .packet 2 17] {} :=
  history_heals healTicks healStatTicks {} ⟨rfl, rfl⟩ (by decide) (by decide)
    ⟨by decide, by decide⟩ ⟨by decide, by decide⟩ (by decide) rfl

end HistoryStore

end Rtpigate
