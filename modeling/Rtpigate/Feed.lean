/-
The statistics as they reach the history.

A task takes its counters at every tick, and its four series hold the same last ticks
side by side.  So a message shows a window of ticks, and merging it stamps every
bucket with the last tick of the window that falls into it.
-/
import Rtpigate.Aprsis.Task
import Rtpigate.History
import Rtpigate.Lib.Latest
import Rtpigate.Listener

namespace Rtpigate

open Lib HistoryStore

/-! ## Windows -/

theorem map_rtake {α β : Type*} (f : α → β) (items : List α) (n : Nat) :
    (items.rtake n).map f = (items.map f).rtake n := by
  rw [List.rtake, List.rtake, List.map_drop, List.length_map]

theorem DataSeries.push_rtake {s : DataSeries} {points : List DataPoint}
    (h : s.data = points.rtake window) (p : DataPoint) :
    (s.push p).data = (points ++ [p]).rtake window := by
  show (if window < (s.data ++ [p]).length then (s.data ++ [p]).tail else s.data ++ [p]) = _
  have hlen : s.data.length = min points.length window := by
    rw [h, List.rtake, List.length_drop]
    omega
  by_cases hfull : points.length < window
  · have hall : s.data = points := by
      rw [h, List.rtake, Nat.sub_eq_zero_of_le hfull.le, List.drop_zero]
    have hle : (points ++ [p]).length ≤ window := by
      rw [List.length_append, List.length_singleton]
      omega
    rw [hall, if_neg (Nat.not_lt.mpr hle), List.rtake, Nat.sub_eq_zero_of_le hle, List.drop_zero]
  · have hgt : window < (s.data ++ [p]).length := by
      rw [List.length_append, List.length_singleton, hlen]
      omega
    have hdrop : (points ++ [p]).length - window = points.length - window + 1 := by
      rw [List.length_append, List.length_singleton]
      omega
    rw [if_pos hgt, List.rtake, hdrop, h, List.rtake, ← List.drop_one,
      ← List.drop_append_of_le_length (Nat.sub_le _ _), List.drop_drop]

/-! ## Ticks -/

/-- A tick of the listener, with the counters it takes. -/
structure Listener.Tick where
  now : Int
  utc : Int
  counts : Listener.Counts

def Listener.Tick.key (x : Listener.Tick) : Int := bucketKey (epochSecs x.now)

def Listener.Counts.stamp (c : Listener.Counts) (b : StatBucket) : StatBucket :=
  { b with
    total := c.totalPackets
    direct := c.heardDirect
    digipeated := c.digipeated
    errors := c.decodeErrors }

/-- A tick of the APRS-IS task, with the counters it takes. -/
structure Aprsis.Tick where
  now : Int
  utc : Int
  stats : Aprsis.Stats

def Aprsis.Tick.key (x : Aprsis.Tick) : Int := bucketKey (epochSecs x.now)

def Aprsis.Stats.stamp (c : Aprsis.Stats) (b : StatBucket) : StatBucket :=
  { b with
    igated := c.packetsIgated
    dropped := c.packetsDropped
    rfReceived := c.rfReceived
    reconnects := c.reconnects }

/-- The four series show the same ticks. -/
structure Listener.SeriesSet.Shows (set : Listener.SeriesSet) (ticks : List Listener.Tick) :
    Prop where
  packets : set.packets.data = ticks.map fun x => ⟨x.now, x.counts.totalPackets⟩
  heardDirect : set.heardDirect.data = ticks.map fun x => ⟨x.now, x.counts.heardDirect⟩
  digipeated : set.digipeated.data = ticks.map fun x => ⟨x.now, x.counts.digipeated⟩
  decodeErrors : set.decodeErrors.data = ticks.map fun x => ⟨x.now, x.counts.decodeErrors⟩

structure Aprsis.SeriesSet.Shows (set : Aprsis.SeriesSet) (ticks : List Aprsis.Tick) : Prop where
  rfReceived : set.rfReceived.data = ticks.map fun x => ⟨x.now, x.stats.rfReceived⟩
  dropped : set.dropped.data = ticks.map fun x => ⟨x.now, x.stats.packetsDropped⟩
  igated : set.igated.data = ticks.map fun x => ⟨x.now, x.stats.packetsIgated⟩
  reconnect : set.reconnect.data = ticks.map fun x => ⟨x.now, x.stats.reconnects⟩

abbrev PacketTelemetry.series {F : Type} (t : PacketTelemetry F) : Listener.SeriesSet :=
  ⟨t.totalPackets, t.heardDirect, t.digipeated, t.decodeErrors⟩

abbrev AprsisTelemetry.series {F : Type} (t : AprsisTelemetry F) : Aprsis.SeriesSet :=
  ⟨t.rfReceived, t.packetsDropped, t.packetsIgated, t.reconnects⟩

theorem push_window {α : Type*} {s : DataSeries} {ticks : List α} (x : α) {f : α → DataPoint}
    (h : s.data = (ticks.rtake DataSeries.window).map f) :
    (s.push (f x)).data = ((ticks ++ [x]).rtake DataSeries.window).map f := by
  rw [map_rtake] at h ⊢
  rw [DataSeries.push_rtake h, List.map_append, List.map_singleton]

/-- The tick taken in a state. -/
def Listener.State.taken (s : Listener.State) (now utc : Int) : Listener.Tick :=
  ⟨now, utc, s.interval⟩

def Aprsis.State.taken {F : Type} (s : Aprsis.State F) (now utc : Int) : Aprsis.Tick :=
  ⟨now, utc, s.stats⟩

theorem Listener.State.sample_shows {s : Listener.State} {ticks : List Listener.Tick}
    (h : s.series.Shows (ticks.rtake DataSeries.window)) (now utc : Int) :
    (s.sample now).Shows ((ticks ++ [s.taken now utc]).rtake DataSeries.window) where
  packets := push_window (s.taken now utc) h.packets
  heardDirect := push_window (s.taken now utc) h.heardDirect
  digipeated := push_window (s.taken now utc) h.digipeated
  decodeErrors := push_window (s.taken now utc) h.decodeErrors

theorem Aprsis.State.sample_shows {F : Type} {s : Aprsis.State F} {ticks : List Aprsis.Tick}
    (h : s.series.Shows (ticks.rtake DataSeries.window)) (now utc : Int) :
    (s.sample now).Shows ((ticks ++ [s.taken now utc]).rtake DataSeries.window) where
  rfReceived := push_window (s.taken now utc) h.rfReceived
  dropped := push_window (s.taken now utc) h.dropped
  igated := push_window (s.taken now utc) h.igated
  reconnect := push_window (s.taken now utc) h.reconnect

/-! ## Merging a window -/

namespace HistoryStore

/-- A series leaves its last point of a key there. -/
theorem getElem?_foldl_mergePoint {set : StatBucket → Nat → StatBucket}
    (hset : ∀ b v w, set (set b v) w = set b w) (data : List DataPoint) (h : HistoryStore) (k : Int) :
    (data.foldl (mergePoint set) h).buckets[k]? =
      ((latest pointKey k data).map fun p => set ((h.buckets[k]?).getD { ts := k }) p.value).or
        h.buckets[k]? := by
  induction data using List.reverseRecOn with
  | nil => rfl
  | append_singleton data p ih =>
    rw [List.foldl_concat, getElem?_mergePoint, ih, latest_concat]
    by_cases hp : pointKey p = k
    · rw [if_pos hp, if_pos hp]
      cases latest pointKey k data with
      | none => rfl
      | some q =>
        simp only [Option.map_some, Option.some_or, Option.getD_some]
        rw [hset]
    · rw [if_neg hp, if_neg hp]

theorem getElem?_mergeSeries {α : Type*} {set : StatBucket → Nat → StatBucket}
    (hset : ∀ b v w, set (set b v) w = set b w) {series : DataSeries} {ticks : List α}
    {now : α → Int} {value : α → Nat} (hdata : series.data = ticks.map fun x => ⟨now x, value x⟩)
    (r : HistoryStore × List Int) (k : Int) :
    (mergeSeries series set r).1.buckets[k]? =
      ((latest (fun x => bucketKey (epochSecs (now x))) k ticks).map fun x =>
        set ((r.1.buckets[k]?).getD { ts := k }) (value x)).or r.1.buckets[k]? := by
  show (series.data.foldl (mergePoint set) r.1).buckets[k]? = _
  rw [getElem?_foldl_mergePoint hset, hdata, latest_map, Option.map_map]
  rfl

variable {F : Type}

/-- Merging the packet statistics stamps a bucket with the last tick of its own. -/
theorem getElem?_updateFromPacket {t : PacketTelemetry F} {ticks : List Listener.Tick}
    (ht : t.series.Shows ticks) (h : HistoryStore) (k : Int) :
    (h.updateFromPacket t).1.buckets[k]? =
      ((latest Listener.Tick.key k ticks).map fun x =>
        x.counts.stamp ((h.buckets[k]?).getD { ts := k })).or h.buckets[k]? := by
  simp only [updateFromPacket]
  rw [getElem?_mergeSeries ?_ ht.decodeErrors, getElem?_mergeSeries ?_ ht.digipeated,
    getElem?_mergeSeries ?_ ht.heardDirect, getElem?_mergeSeries ?_ ht.packets]
  · have hkey : Listener.Tick.key = fun x => bucketKey (epochSecs x.now) := rfl
    rw [hkey]
    generalize latest (fun x : Listener.Tick => bucketKey (epochSecs x.now)) k ticks = last
    cases last <;> rfl
  all_goals intro _ _ _; rfl

theorem getElem?_updateFromAprsis {t : AprsisTelemetry F} {ticks : List Aprsis.Tick}
    (ht : t.series.Shows ticks) (h : HistoryStore) (k : Int) :
    (h.updateFromAprsis t).1.buckets[k]? =
      ((latest Aprsis.Tick.key k ticks).map fun x =>
        x.stats.stamp ((h.buckets[k]?).getD { ts := k })).or h.buckets[k]? := by
  simp only [updateFromAprsis]
  rw [getElem?_mergeSeries ?_ ht.reconnect, getElem?_mergeSeries ?_ ht.rfReceived,
    getElem?_mergeSeries ?_ ht.dropped, getElem?_mergeSeries ?_ ht.igated]
  · have hkey : Aprsis.Tick.key = fun x => bucketKey (epochSecs x.now) := rfl
    rw [hkey]
    generalize latest (fun x : Aprsis.Tick => bucketKey (epochSecs x.now)) k ticks = last
    cases last <;> rfl
  all_goals intro _ _ _; rfl

end HistoryStore

end Rtpigate
