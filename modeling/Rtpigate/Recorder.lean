/-
The recorder: the listener, the history its statistics go into, and the copy of the
history on disk.

A tick publishes the series of the listener.  The SSE task merges them, prunes the
history, and mirrors to disk the buckets touched and the keys dropped.  A restart
begins again with empty series and takes the history from disk.  A message is merged
in the step that publishes it.

The listener has a timer of its own, so that two points may land in one bucket, and
then the later value stands alone.  With at most one point in a bucket nothing is
lost.
-/
import Rtpigate.History
import Rtpigate.Lib.Machine
import Rtpigate.Lib.Slots
import Rtpigate.Listener

namespace Rtpigate

open Lib HistoryStore

/-- `prunedAt` is the second of the last pruning, which fixes the window retained. -/
structure Recorder where
  listener : Listener.State := {}
  history : HistoryStore := {}
  disk : Table Int StatBucket := ∅
  prunedAt : Int

/-- What the recorder lives through.  `seen` is the second the clock shows to `prune`. -/
inductive RecorderInput (F : Type)
  | frame (world : Listener.FrameWorld F) (fr : AprsFrame F)
  | tick (now utc seen : Int)
  | aprsis (t : AprsisTelemetry F) (seen : Int)
  | restart (flushed : Bool) (lifetime : Listener.Counts) (seen : Int)

namespace Recorder

def persistHistory (disk : Table Int StatBucket) (touched : List StatBucket) (pruned : List Int) :
    Table Int StatBucket :=
  Table.deleteAll (Table.upsertAll StatBucket.ts disk touched) pruned

/-- The SSE task after a merge: prune, and mirror to disk. -/
def record (seen : Int) (merged : HistoryStore × List Int) (s : Recorder) : Recorder :=
  let pruned := merged.1.prune seen
  { s with
    history := pruned.1
    disk := persistHistory s.disk (pruned.1.bucketsFor merged.2) pruned.2
    prunedAt := seen }

def boot (disk : Table Int StatBucket) (lifetime : Listener.Counts) (seen : Int) : Recorder :=
  let pruned := (fromBuckets (Table.rows disk)).prune seen
  { listener := { lifetime := lifetime }
    history := pruned.1
    disk := Table.deleteAll disk pruned.2
    prunedAt := seen }

variable {F : Type} [F64 F]

/-- One step, with the point of `total_packets` it emits. -/
def next (satFreqs : List F) (s : Recorder) : RecorderInput F → Recorder × List DataPoint
  | .frame world fr =>
    ({ s with listener := (Listener.frame satFreqs world fr s.listener).1 }, [])
  | .tick now utc seen =>
    let ticked := Listener.tick (F := F) now utc s.listener
    ({ s with listener := ticked.1 }.record seen (s.history.updateFromPacket ticked.2),
      [⟨now, s.listener.interval.totalPackets⟩])
  | .aprsis t seen => (s.record seen (s.history.updateFromAprsis t), [])
  | .restart flushed lifetime seen =>
    -- a planned stop writes the whole history once more, a crash does not
    let disk :=
      if flushed then Table.upsertAll StatBucket.ts s.disk s.history.snapshot else s.disk
    (boot disk lifetime seen, [])

end Recorder

namespace RecorderInput

variable {F : Type}

def slot : RecorderInput F → Option Int
  | .tick now _ _ => some (bucketKey (epochSecs now))
  | _ => none

def clock : RecorderInput F → Option Int
  | .frame _ _ => none
  | .tick _ _ seen => some seen
  | .aprsis _ seen => some seen
  | .restart _ _ seen => some seen

/-- The clock does not run back, and no two ticks fall in one slot. -/
def Spaced (first : Int) (is : List (RecorderInput F)) : Prop :=
  (first :: is.filterMap clock).Pairwise (· ≤ ·) ∧ (is.filterMap slot).Nodup

instance (first : Int) (is : List (RecorderInput F)) : Decidable (Spaced first is) :=
  inferInstanceAs (Decidable (_ ∧ _))

theorem Spaced.of_concat {first : Int} {is : List (RecorderInput F)} {i : RecorderInput F}
    (h : Spaced first (is ++ [i])) : Spaced first is := by
  rw [Spaced, List.filterMap_append, List.filterMap_append, ← List.cons_append] at h
  exact ⟨(List.pairwise_append.mp h.1).1, (List.nodup_append.mp h.2).1⟩

theorem Spaced.clock_le {first : Int} {is : List (RecorderInput F)} {i : RecorderInput F}
    (h : Spaced first (is ++ [i])) {seen : Int} (hi : i.clock = some seen) {earlier : Int}
    (hmem : earlier ∈ first :: is.filterMap clock) : earlier ≤ seen := by
  rw [Spaced, List.filterMap_append, ← List.cons_append] at h
  refine (List.pairwise_append.mp h.1).2.2 earlier hmem seen ?_
  rw [List.filterMap_cons_some hi]
  exact List.mem_cons_self

end RecorderInput

namespace Recorder

/-! ## What the history holds -/

/-- From the key `c` on, the history holds the points: each has its bucket, and the
total of a bucket sums them up. -/
structure Holds (h : HistoryStore) (c : Int) (points : List DataPoint) : Prop where
  keyed : Table.Keyed StatBucket.ts h.buckets
  totals : ∀ k, c ≤ k → h.total k = slotSum pointKey DataPoint.value points k
  present : ∀ p ∈ points, c ≤ pointKey p → (h.buckets[pointKey p]?).isSome = true

theorem Holds.prune {h : HistoryStore} {c seen : Int} {points : List DataPoint}
    (hold : Holds h c points) (hc : c ≤ cutoff seen) :
    Holds (h.prune seen).1 (cutoff seen) points where
  keyed := prune_keyed hold.keyed
  totals k hk := by
    rw [total_prune h hk]
    exact hold.totals k (hc.trans hk)
  present p hp hk := by
    rw [getElem?_prune, if_pos hk]
    exact hold.present p hp (hc.trans hk)

variable {F : Type}

theorem Holds.updateFromAprsis {h : HistoryStore} {c : Int} {points : List DataPoint}
    (hold : Holds h c points) (t : AprsisTelemetry F) :
    Holds (h.updateFromAprsis t).1 c points where
  keyed := (updateFromAprsis_merged t h).keyed hold.keyed
  totals k hk := (updateFromAprsis_total t h k).trans (hold.totals k hk)
  present p hp hk := (updateFromAprsis_merged t h).isSome (hold.present p hp hk)

/-- A window of points in slots of their own adds its newest point, and writes the
others again with the value they have. -/
theorem Holds.updateFromPacket {h : HistoryStore} {c : Int} {points : List DataPoint}
    {p : DataPoint} (hold : Holds h c points) {t : PacketTelemetry F}
    (hnd : ((points ++ [p]).map pointKey).Nodup)
    (hsub : t.totalPackets.data ⊆ points ++ [p]) (hlast : p ∈ t.totalPackets.data) :
    Holds (h.updateFromPacket t).1 c (points ++ [p]) where
  keyed := (updateFromPacket_merged t h).keyed hold.keyed
  totals k hk := by
    by_cases hmem : k ∈ t.totalPackets.data.map pointKey
    · obtain ⟨q, hq, rfl⟩ := List.mem_map.mp hmem
      have hval : ∀ q' ∈ t.totalPackets.data, pointKey q' = pointKey q → q'.value = q.value := by
        intro q' hq' hkey
        rw [List.inj_on_of_nodup_map hnd (hsub hq') (hsub hq) hkey]
      rw [updateFromPacket_total_of_mem h hval hmem, slotSum_of_nodup hnd (hsub hq)]
    · have hne : pointKey p ≠ k := fun hpk => hmem (hpk ▸ List.mem_map_of_mem hlast)
      rw [updateFromPacket_total_of_not_mem h hmem, hold.totals k hk, slotSum_append,
        slotSum_singleton, if_neg hne, add_zero]
  present q hq hk := by
    rcases List.mem_append.mp hq with hold' | hnew
    · exact (updateFromPacket_merged t h).isSome (hold.present q hold' hk)
    · rw [List.mem_singleton.mp hnew]
      exact (updateFromPacket_merged t h).present _ (updateFromPacket_touched hlast)

/-! ## The disk -/

theorem mem_bucketsFor {h : HistoryStore} (hkeyed : Table.Keyed StatBucket.ts h.buckets)
    {keys : List Int} {k : Int} :
    k ∈ (h.bucketsFor keys).map StatBucket.ts ↔ k ∈ keys ∧ (h.buckets[k]?).isSome = true := by
  rw [List.mem_map]
  constructor
  · intro ⟨b, hb, hts⟩
    obtain ⟨k', hk', hget⟩ := List.mem_filterMap.mp hb
    have hkk : k' = k := (hkeyed k' b hget).symm.trans hts
    exact ⟨hkk ▸ hk', hkk ▸ Option.isSome_of_mem hget⟩
  · intro ⟨hk, hsome⟩
    obtain ⟨b, hb⟩ := Option.isSome_iff_exists.mp hsome
    exact ⟨b, List.mem_filterMap.mpr ⟨k, hk, hb⟩, hkeyed k b hb⟩

theorem bucketsFor_current {h : HistoryStore} (hkeyed : Table.Keyed StatBucket.ts h.buckets)
    (keys : List Int) : ∀ b ∈ h.bucketsFor keys, h.buckets[b.ts]? = some b := by
  intro b hb
  obtain ⟨k, -, hget⟩ := List.mem_filterMap.mp hb
  rw [hkeyed k b hget]
  exact hget

/-- Mirroring the buckets touched and the keys dropped gives the history pruned. -/
theorem persistHistory_merged {h h' : HistoryStore} {touched : List Int} (seen : Int)
    (hkeyed : Table.Keyed StatBucket.ts h.buckets) (hm : Merged h h' touched) :
    persistHistory h.buckets ((h'.prune seen).1.bucketsFor touched) (h'.prune seen).2 =
      (h'.prune seen).1.buckets := by
  have hkept : Table.Keyed StatBucket.ts (h'.prune seen).1.buckets := prune_keyed (hm.keyed hkeyed)
  have hrows := bucketsFor_current hkept touched
  apply Std.ExtTreeMap.ext_getElem?
  intro k
  rw [persistHistory, Table.getElem?_deleteAll,
    Table.getElem?_upsertAll (g := fun k => (h'.prune seen).1.buckets[k]?) hrows]
  simp only [mem_bucketsFor hkept, mem_pruned, getElem?_prune]
  by_cases hk : cutoff seen ≤ k
  · rw [if_neg fun h => absurd h.1 (Int.not_lt.mpr hk), if_pos hk]
    split
    · rfl
    · next hnot =>
      refine (hm.other k fun ht => hnot ⟨ht, ?_⟩).symm
      exact hm.present k ht
  · rw [if_neg hk]
    split
    · rfl
    · next hnot =>
      have hnone : ¬ (h'.buckets[k]?).isSome = true := fun hs => hnot ⟨Int.not_le.mp hk, hs⟩
      have hold : k ∉ touched := fun ht => hnone (hm.present k ht)
      rw [if_neg fun h => hold h.1, ← hm.other k hold]
      exact Option.not_isSome_iff_eq_none.mp hnone

/-! ## Runs -/

section Runs

variable {first : Int} {is : List (RecorderInput F)} {i : RecorderInput F} {s : Recorder}
  {emitted : List DataPoint}

/-- After a run the history and the disk agree, hold the points emitted, and hold
nothing from before the window. -/
structure Tracked (first : Int) (is : List (RecorderInput F)) (s : Recorder)
    (emitted : List DataPoint) : Prop where
  slots : emitted.map pointKey = is.filterMap RecorderInput.slot
  window : s.listener.series.packets.data ⊆ emitted
  disk : s.disk = s.history.buckets
  clock : s.prunedAt ∈ first :: is.filterMap RecorderInput.clock
  holds : Holds s.history (cutoff s.prunedAt) emitted
  kept : ∀ k, (s.history.buckets[k]?).isSome = true → cutoff s.prunedAt ≤ k

theorem prune_kept (seen : Int) (h : HistoryStore) (k : Int)
    (hk : ((h.prune seen).1.buckets[k]?).isSome = true) : cutoff seen ≤ k := by
  rw [getElem?_prune] at hk
  by_contra hlt
  rw [if_neg hlt] at hk
  cases hk

theorem clock_concat {seen : Int} (hi : i.clock = some seen) :
    seen ∈ first :: (is ++ [i]).filterMap RecorderInput.clock := by
  rw [List.filterMap_append, List.filterMap_cons_some hi]
  exact List.mem_cons_of_mem _ (List.mem_append_right _ List.mem_cons_self)

theorem Tracked.record {seen : Int} {merged : HistoryStore × List Int} {points : List DataPoint}
    {listener : Listener.State} (ht : Tracked first is s emitted)
    (hspaced : RecorderInput.Spaced first (is ++ [i])) (hi : i.clock = some seen)
    (hslots : points.map pointKey = (is ++ [i]).filterMap RecorderInput.slot)
    (hwindow : listener.series.packets.data ⊆ points)
    (hm : Merged s.history merged.1 merged.2)
    (hold : Holds merged.1 (cutoff s.prunedAt) points) :
    Tracked first (is ++ [i]) ({ s with listener := listener }.record seen merged) points where
  slots := hslots
  window := hwindow
  disk := by
    show persistHistory s.disk _ _ = _
    rw [ht.disk]
    exact persistHistory_merged seen ht.holds.keyed hm
  clock := clock_concat hi
  holds := hold.prune (cutoff_mono (hspaced.clock_le hi ht.clock))
  kept := prune_kept seen merged.1

theorem Tracked.boot {seen : Int} (lifetime : Listener.Counts) (ht : Tracked first is s emitted)
    (hspaced : RecorderInput.Spaced first (is ++ [i])) (hi : i.clock = some seen)
    (hslot : i.slot = none) :
    Tracked first (is ++ [i]) (boot s.history.buckets lifetime seen) emitted := by
  have hback : fromBuckets (Table.rows s.history.buckets) = s.history := by
    rw [fromBuckets, Table.upsertAll_rows ht.holds.keyed]
  rw [Recorder.boot, hback]
  exact {
    slots := by
      rw [List.filterMap_append, List.filterMap_cons_none hslot]
      exact ht.slots.trans (List.append_nil _).symm
    window := List.nil_subset _
    disk := rfl
    clock := clock_concat hi
    holds := ht.holds.prune (cutoff_mono (hspaced.clock_le hi ht.clock))
    kept := prune_kept seen s.history }

def start (first : Int) : Recorder := boot ∅ {} first

theorem start_tracked (first : Int) : Tracked first ([] : List (RecorderInput F)) (start first) [] := by
  have hkeyed : Table.Keyed StatBucket.ts (∅ : Table Int StatBucket) := Table.keyed_empty
  have hempty : Holds {} (cutoff first) [] := by
    refine ⟨hkeyed, fun k _ => ?_, fun p hp => absurd hp List.not_mem_nil⟩
    rw [total, Std.ExtTreeMap.getElem?_empty]
    rfl
  rw [start, boot, fromBuckets, Table.upsertAll_rows hkeyed]
  exact ⟨rfl, List.nil_subset _, rfl, List.mem_cons_self, hempty.prune le_rfl, prune_kept first {}⟩

variable [F64 F] {satFreqs : List F}

theorem frame_series (world : Listener.FrameWorld F) (fr : AprsFrame F) (l : Listener.State) :
    (Listener.frame satFreqs world fr l).1.series = l.series := by
  unfold Listener.frame
  split <;> rfl

theorem Tracked.next (ht : Tracked first is s emitted)
    (hspaced : RecorderInput.Spaced first (is ++ [i])) :
    Tracked first (is ++ [i]) (next satFreqs s i).1 (emitted ++ (next satFreqs s i).2) := by
  have hquiet : i.slot = none → emitted.map pointKey =
      (is ++ [i]).filterMap RecorderInput.slot := by
    intro hslot
    rw [List.filterMap_append, List.filterMap_cons_none hslot, List.filterMap_nil,
      List.append_nil]
    exact ht.slots
  cases i with
  | frame world fr =>
    rw [Recorder.next, List.append_nil]
    refine ⟨hquiet rfl, ?_, ht.disk, ?_, ht.holds, ht.kept⟩
    · show (Listener.frame satFreqs world fr s.listener).1.series.packets.data ⊆ emitted
      rw [frame_series]
      exact ht.window
    · rw [List.filterMap_append, ← List.cons_append]
      exact List.mem_append_left _ ht.clock
  | tick now utc seen =>
    let point : DataPoint := ⟨now, s.listener.interval.totalPackets⟩
    have hslots : (emitted ++ [point]).map pointKey =
        (is ++ [RecorderInput.tick now utc seen]).filterMap (RecorderInput.slot (F := F)) := by
      rw [List.map_append, List.filterMap_append, ht.slots]
      rfl
    have hnd : ((emitted ++ [point]).map pointKey).Nodup := hslots ▸ hspaced.2
    have hsub : (s.listener.sample now).packets.data ⊆ emitted ++ [point] := by
      intro q hq
      rcases DataSeries.mem_push hq with hold | rfl
      · exact List.mem_append_left _ (ht.window hold)
      · exact List.mem_append_right _ List.mem_cons_self
    exact ht.record hspaced rfl hslots hsub (updateFromPacket_merged _ _)
      (ht.holds.updateFromPacket hnd hsub (DataSeries.push_last _ _))
  | aprsis t seen =>
    rw [Recorder.next, List.append_nil]
    exact ht.record hspaced rfl (hquiet rfl) ht.window (updateFromAprsis_merged t s.history)
      (ht.holds.updateFromAprsis t)
  | restart flushed lifetime seen =>
    have hdisk : (if flushed then Table.upsertAll StatBucket.ts s.disk s.history.snapshot
        else s.disk) = s.history.buckets := by
      rw [ht.disk, HistoryStore.snapshot, Table.upsertAll_self ht.holds.keyed, ite_self]
    show Tracked first _ (Recorder.boot _ lifetime seen) (emitted ++ [])
    rw [hdisk, List.append_nil]
    exact ht.boot lifetime hspaced rfl rfl

theorem run_tracked (satFreqs : List F) (first : Int) (is : List (RecorderInput F))
    (h : RecorderInput.Spaced first is) :
    Tracked first is (run (next satFreqs) (start first) is).1
      (run (next satFreqs) (start first) is).2 :=
  run_rule (P := Tracked first) (fun _ _ hspaced => hspaced.of_concat) (start_tracked first)
    (fun _ _ _ _ hspaced ht => ht.next hspaced) is h

end Runs

/-! ## Conservation -/

def recordedTotal (s : Recorder) : Nat := (s.history.snapshot.map StatBucket.total).sum

def retained (s : Recorder) (emitted : List DataPoint) : List DataPoint :=
  emitted.filter fun p => cutoff s.prunedAt ≤ pointKey p

theorem snapshot_totals (h : HistoryStore) :
    h.snapshot.map StatBucket.total = h.buckets.keys.map h.total := by
  rw [snapshot, Table.rows, ← Std.ExtTreeMap.map_fst_toList_eq_keys, List.map_map, List.map_map]
  apply List.map_congr_left
  rintro ⟨k, b⟩ hmem
  have hget : h.buckets[k]? = some b := Std.ExtTreeMap.mem_toList_iff_getElem?_eq_some.mp hmem
  show b.total = h.total k
  rw [total, hget]
  rfl

theorem Tracked.recordedTotal [F64 F] {first : Int} {is : List (RecorderInput F)} {s : Recorder}
    {emitted : List DataPoint} (ht : Tracked first is s emitted) :
    s.recordedTotal = ((s.retained emitted).map DataPoint.value).sum := by
  have hsums : ∀ k ∈ s.history.buckets.keys,
      s.history.total k = slotSum pointKey DataPoint.value emitted k := by
    intro k hk
    exact ht.holds.totals k (ht.kept k (Table.mem_keys_iff.mp hk))
  have hwindow : (emitted.filter fun p => pointKey p ∈ s.history.buckets.keys) =
      s.retained emitted := by
    apply List.filter_congr
    intro p hp
    rw [decide_eq_decide, Table.mem_keys_iff]
    exact ⟨ht.kept _, ht.holds.present p hp⟩
  calc s.recordedTotal
    _ = (s.history.buckets.keys.map s.history.total).sum := by
      rw [Recorder.recordedTotal, snapshot_totals]
    _ = (s.history.buckets.keys.map (slotSum pointKey DataPoint.value emitted)).sum := by
      rw [List.map_congr_left hsums]
    _ = ((s.retained emitted).map DataPoint.value).sum := by
      rw [sum_slotSum Std.ExtTreeMap.nodup_keys, hwindow]

/-- When no two ticks fall in one slot, the history adds up the points emitted inside
its window, and each of them stands in its bucket. -/
theorem history_conserved {F : Type} [F64 F] (satFreqs : List F) (first : Int)
    (is : List (RecorderInput F)) (h : RecorderInput.Spaced first is) :
    let ran := run (next satFreqs) (start first) is
    ran.1.recordedTotal = ((ran.1.retained ran.2).map DataPoint.value).sum ∧
      ∀ p ∈ ran.1.retained ran.2, ran.1.history.total (pointKey p) = p.value := by
  have ht := run_tracked satFreqs first is h
  refine ⟨ht.recordedTotal, ?_⟩
  intro p hp
  obtain ⟨hmem, hk⟩ := List.mem_filter.mp hp
  have hnd := ht.slots ▸ h.2
  rw [ht.holds.totals _ (of_decide_eq_true hk), slotSum_of_nodup hnd hmem]

def restarted (before after : Int) : List (RecorderInput ℚ) :=
  [.frame Listener.sampleWorld (Listener.sampleFrame "W1AW" [62, 65]),
    .tick before before (epochSecs before),
    .restart true { totalPackets := 1, heardDirect := 1 } (epochSecs after),
    .tick after after (epochSecs after)]

theorem history_conserved_sample :
    let ran := run (next ([] : List ℚ)) (start 0) (restarted (10 ^ 9) (16 * 10 ^ 9))
    ran.1.recordedTotal = ((ran.1.retained ran.2).map DataPoint.value).sum ∧
      ∀ p ∈ ran.1.retained ran.2, ran.1.history.total (pointKey p) = p.value :=
  history_conserved [] 0 (restarted (10 ^ 9) (16 * 10 ^ 9)) (by decide +kernel)

/-- The first tick after a restart falls in the slot of the tick before it, and its
count replaces the other one. -/
theorem restart_overwrites :
    let ran := run (next ([] : List ℚ)) (start 0) (restarted (10 ^ 9) (2 * 10 ^ 9))
    ran.2.map DataPoint.value = [1, 0] ∧ ran.1.retained ran.2 = ran.2 ∧
      ran.1.recordedTotal ≠ ((ran.1.retained ran.2).map DataPoint.value).sum := by
  decide +kernel

end Recorder

end Rtpigate
