/-
The rolling history.

The points of the series are merged into buckets of 15 seconds, each series into the
field it owns.  A whole series is merged every time, so that points of lost messages
come in later.  Buckets older than a day are dropped.
-/
import Rtpigate.Lib.Table
import Rtpigate.Statistics

namespace Rtpigate

open Lib

def bucketSecs : Int := 15

def retentionSecs : Int := 24 * 60 * 60

structure StatBucket where
  ts : Int
  total : Nat := 0
  direct : Nat := 0
  digipeated : Nat := 0
  errors : Nat := 0
  igated : Nat := 0
  dropped : Nat := 0
  rfReceived : Nat := 0
  reconnects : Nat := 0
  deriving DecidableEq, Repr

structure HistoryStore where
  buckets : Table Int StatBucket := ∅

namespace HistoryStore

def fromBuckets (rows : List StatBucket) : HistoryStore := ⟨Table.upsertAll StatBucket.ts ∅ rows⟩

def bucketKey (epochSecs : Int) : Int := epochSecs - epochSecs % bucketSecs

def pointKey (p : DataPoint) : Int := bucketKey (epochSecs p.timestamp)

def mergePoint (set : StatBucket → Nat → StatBucket) (h : HistoryStore) (p : DataPoint) :
    HistoryStore :=
  ⟨h.buckets.alter (pointKey p) fun b => some (set (b.getD { ts := pointKey p }) p.value)⟩

def mergeSeries (series : DataSeries) (set : StatBucket → Nat → StatBucket)
    (r : HistoryStore × List Int) : HistoryStore × List Int :=
  (series.data.foldl (mergePoint set) r.1, r.2 ++ series.data.map pointKey)

/-- `sort_unstable` and `dedup`. -/
def sortedKeys (touched : List Int) : List Int := (touched.insertionSort (· ≤ ·)).dedup

def updateFromPacket {F : Type} (t : PacketTelemetry F) (h : HistoryStore) :
    HistoryStore × List Int :=
  let r := mergeSeries t.totalPackets (fun b v => { b with total := v }) (h, [])
  let r := mergeSeries t.heardDirect (fun b v => { b with direct := v }) r
  let r := mergeSeries t.digipeated (fun b v => { b with digipeated := v }) r
  let r := mergeSeries t.decodeErrors (fun b v => { b with errors := v }) r
  (r.1, sortedKeys r.2)

def updateFromAprsis {F : Type} (t : AprsisTelemetry F) (h : HistoryStore) :
    HistoryStore × List Int :=
  let r := mergeSeries t.packetsIgated (fun b v => { b with igated := v }) (h, [])
  let r := mergeSeries t.packetsDropped (fun b v => { b with dropped := v }) r
  let r := mergeSeries t.rfReceived (fun b v => { b with rfReceived := v }) r
  let r := mergeSeries t.reconnects (fun b v => { b with reconnects := v }) r
  (r.1, sortedKeys r.2)

def bucketsFor (h : HistoryStore) (keys : List Int) : List StatBucket :=
  keys.filterMap fun k => h.buckets[k]?

/-- The first key inside the retention window at second `now`. -/
def cutoff (now : Int) : Int := bucketKey now - retentionSecs

/-- Drop the buckets before the window; the keys dropped come with it. -/
def prune (now : Int) (h : HistoryStore) : HistoryStore × List Int :=
  let removed := h.buckets.keys.filter fun k => k < cutoff now
  (⟨Table.deleteAll h.buckets removed⟩, removed)

def snapshot (h : HistoryStore) : List StatBucket := Table.rows h.buckets

theorem cutoff_mono {a b : Int} (h : a ≤ b) : cutoff a ≤ cutoff b := by
  unfold cutoff bucketKey bucketSecs
  omega

/-! ## Merging -/

def total (h : HistoryStore) (k : Int) : Nat := (h.buckets[k]?.map StatBucket.total).getD 0

/-- The store after a merge that touched these keys: they all have a bucket now, and
the others are as they were. -/
structure Merged (h h' : HistoryStore) (touched : List Int) : Prop where
  keyed : Table.Keyed StatBucket.ts h.buckets → Table.Keyed StatBucket.ts h'.buckets
  other : ∀ k, k ∉ touched → h'.buckets[k]? = h.buckets[k]?
  present : ∀ k ∈ touched, (h'.buckets[k]?).isSome = true

theorem merged_self (h : HistoryStore) : Merged h h [] :=
  ⟨id, fun _ _ => rfl, fun _ hk => absurd hk List.not_mem_nil⟩

theorem Merged.trans {h h' h'' : HistoryStore} {a b : List Int} (hm : Merged h h' a)
    (hm' : Merged h' h'' b) : Merged h h'' (a ++ b) where
  keyed hk := hm'.keyed (hm.keyed hk)
  other k hk := by
    rw [List.mem_append, not_or] at hk
    rw [hm'.other k hk.2, hm.other k hk.1]
  present k hk := by
    by_cases hb : k ∈ b
    · exact hm'.present k hb
    · rw [hm'.other k hb]
      exact hm.present k ((List.mem_append.mp hk).resolve_right hb)

theorem mem_sortedKeys {touched : List Int} {k : Int} : k ∈ sortedKeys touched ↔ k ∈ touched := by
  rw [sortedKeys, List.mem_dedup, List.mem_insertionSort]

theorem Merged.sorted {h h' : HistoryStore} {touched : List Int} (hm : Merged h h' touched) :
    Merged h h' (sortedKeys touched) :=
  ⟨hm.keyed, fun k hk => hm.other k (mt mem_sortedKeys.mpr hk),
    fun k hk => hm.present k (mem_sortedKeys.mp hk)⟩

theorem Merged.isSome {h h' : HistoryStore} {touched : List Int} (hm : Merged h h' touched)
    {k : Int} (hk : (h.buckets[k]?).isSome = true) : (h'.buckets[k]?).isSome = true := by
  by_cases ht : k ∈ touched
  · exact hm.present k ht
  · rw [hm.other k ht]
    exact hk

theorem getElem?_mergePoint (set : StatBucket → Nat → StatBucket) (h : HistoryStore)
    (p : DataPoint) (k : Int) :
    (mergePoint set h p).buckets[k]? =
      if pointKey p = k then some (set ((h.buckets[k]?).getD { ts := k }) p.value)
      else h.buckets[k]? := by
  show (h.buckets.alter (pointKey p) _)[k]? = _
  rw [Std.ExtTreeMap.getElem?_alter]
  simp only [Std.LawfulEqOrd.compare_eq_iff_eq]
  by_cases hk : pointKey p = k
  · rw [if_pos hk, if_pos hk, hk]
  · rw [if_neg hk, if_neg hk]

theorem mergePoint_merged {set : StatBucket → Nat → StatBucket} (hts : ∀ b v, (set b v).ts = b.ts)
    (h : HistoryStore) (p : DataPoint) : Merged h (mergePoint set h p) [pointKey p] where
  keyed hkeyed k b hb := by
    rw [getElem?_mergePoint] at hb
    split at hb
    · cases hb
      rw [hts]
      cases hold : h.buckets[k]? with
      | none => rfl
      | some old => exact hkeyed k old hold
    · exact hkeyed k b hb
  other k hk := by
    rw [getElem?_mergePoint, if_neg fun he => hk (List.mem_singleton.mpr he.symm)]
  present k hk := by
    rw [getElem?_mergePoint, if_pos (List.mem_singleton.mp hk).symm]
    rfl

theorem foldl_merged {set : StatBucket → Nat → StatBucket} (hts : ∀ b v, (set b v).ts = b.ts)
    (data : List DataPoint) (h : HistoryStore) :
    Merged h (data.foldl (mergePoint set) h) (data.map pointKey) := by
  induction data generalizing h with
  | nil => exact merged_self h
  | cons p data ih => exact (mergePoint_merged hts h p).trans (ih (mergePoint set h p))

theorem mergeSeries_merged {set : StatBucket → Nat → StatBucket} {h : HistoryStore}
    {series : DataSeries} {r : HistoryStore × List Int} (hts : ∀ b v, (set b v).ts = b.ts)
    (hm : Merged h r.1 r.2) :
    Merged h (mergeSeries series set r).1 (mergeSeries series set r).2 :=
  hm.trans (foldl_merged hts series.data r.1)

/-- A series that owns another field leaves the totals alone. -/
theorem mergeSeries_total {set : StatBucket → Nat → StatBucket}
    (hset : ∀ b v, (set b v).total = b.total) (series : DataSeries) (r : HistoryStore × List Int)
    (k : Int) : (mergeSeries series set r).1.total k = r.1.total k := by
  show (series.data.foldl (mergePoint set) r.1).total k = _
  generalize series.data = data, r.1 = h
  induction data generalizing h with
  | nil => rfl
  | cons p data ih =>
    show (data.foldl (mergePoint set) (mergePoint set h p)).total k = _
    rw [ih, total, getElem?_mergePoint]
    split
    · rw [Option.map_some, Option.getD_some, hset, total]
      cases h.buckets[k]? <;> rfl
    · rfl

theorem foldl_total_of_mem {set : StatBucket → Nat → StatBucket}
    (hset : ∀ b v, (set b v).total = v) {data : List DataPoint} (h : HistoryStore) {k : Int}
    {v : Nat} (hval : ∀ p ∈ data, pointKey p = k → p.value = v) (hk : k ∈ data.map pointKey) :
    (data.foldl (mergePoint set) h).total k = v := by
  induction data using List.reverseRecOn with
  | nil => cases hk
  | append_singleton data p ih =>
    rw [List.foldl_concat, total, getElem?_mergePoint]
    by_cases hp : pointKey p = k
    · rw [if_pos hp, Option.map_some, Option.getD_some, hset]
      exact hval p (List.mem_append_right _ List.mem_cons_self) hp
    · rw [if_neg hp]
      refine ih (fun q hq => hval q (List.mem_append_left _ hq)) ?_
      rw [List.map_append, List.mem_append] at hk
      exact hk.resolve_right fun hlast => hp (List.mem_singleton.mp hlast).symm

variable {F : Type}

theorem updateFromPacket_merged (t : PacketTelemetry F) (h : HistoryStore) :
    Merged h (h.updateFromPacket t).1 (h.updateFromPacket t).2 := by
  unfold updateFromPacket
  apply Merged.sorted
  apply mergeSeries_merged (by intro _ _; rfl)
  apply mergeSeries_merged (by intro _ _; rfl)
  apply mergeSeries_merged (by intro _ _; rfl)
  apply mergeSeries_merged (by intro _ _; rfl)
  exact merged_self h

theorem updateFromAprsis_merged (t : AprsisTelemetry F) (h : HistoryStore) :
    Merged h (h.updateFromAprsis t).1 (h.updateFromAprsis t).2 := by
  unfold updateFromAprsis
  apply Merged.sorted
  apply mergeSeries_merged (by intro _ _; rfl)
  apply mergeSeries_merged (by intro _ _; rfl)
  apply mergeSeries_merged (by intro _ _; rfl)
  apply mergeSeries_merged (by intro _ _; rfl)
  exact merged_self h

theorem updateFromAprsis_total (t : AprsisTelemetry F) (h : HistoryStore) (k : Int) :
    (h.updateFromAprsis t).1.total k = h.total k := by
  simp only [updateFromAprsis]
  rw [mergeSeries_total, mergeSeries_total, mergeSeries_total, mergeSeries_total]
  all_goals intro _ _; rfl

/-- Only the first series of the packet statistics moves the totals. -/
theorem updateFromPacket_total (t : PacketTelemetry F) (h : HistoryStore) (k : Int) :
    (h.updateFromPacket t).1.total k =
      (t.totalPackets.data.foldl (mergePoint fun b v => { b with total := v }) h).total k := by
  simp only [updateFromPacket]
  rw [mergeSeries_total, mergeSeries_total, mergeSeries_total]
  · rfl
  all_goals intro _ _; rfl

theorem updateFromPacket_total_of_mem {t : PacketTelemetry F} (h : HistoryStore) {k : Int} {v : Nat}
    (hval : ∀ p ∈ t.totalPackets.data, pointKey p = k → p.value = v)
    (hk : k ∈ t.totalPackets.data.map pointKey) : (h.updateFromPacket t).1.total k = v := by
  rw [updateFromPacket_total]
  exact foldl_total_of_mem (fun _ _ => rfl) h hval hk

theorem updateFromPacket_total_of_not_mem {t : PacketTelemetry F} (h : HistoryStore) {k : Int}
    (hk : k ∉ t.totalPackets.data.map pointKey) :
    (h.updateFromPacket t).1.total k = h.total k := by
  rw [updateFromPacket_total, total, (foldl_merged ?_ t.totalPackets.data h).other k hk]
  · rfl
  · intro _ _; rfl

theorem updateFromPacket_touched {t : PacketTelemetry F} {h : HistoryStore} {p : DataPoint}
    (hp : p ∈ t.totalPackets.data) : pointKey p ∈ (h.updateFromPacket t).2 := by
  show pointKey p ∈ sortedKeys _
  rw [mem_sortedKeys]
  simp only [mergeSeries, List.nil_append, List.append_assoc]
  exact List.mem_append_left _ (List.mem_map_of_mem hp)

/-! ## Pruning -/

theorem mem_pruned {now : Int} {h : HistoryStore} {k : Int} :
    k ∈ (h.prune now).2 ↔ k < cutoff now ∧ (h.buckets[k]?).isSome = true := by
  show k ∈ h.buckets.keys.filter _ ↔ _
  rw [List.mem_filter, Table.mem_keys_iff, decide_eq_true_eq, and_comm]

theorem getElem?_prune (now : Int) (h : HistoryStore) (k : Int) :
    (h.prune now).1.buckets[k]? = if cutoff now ≤ k then h.buckets[k]? else none := by
  show (Table.deleteAll h.buckets (h.prune now).2)[k]? = _
  rw [Table.getElem?_deleteAll]
  by_cases hk : cutoff now ≤ k
  · rw [if_pos hk, if_neg fun hmem => absurd (mem_pruned.mp hmem).1 (Int.not_lt.mpr hk)]
  · rw [if_neg hk]
    split
    · rfl
    · next hmem =>
      rw [mem_pruned, not_and, Bool.not_eq_true, Option.isSome_eq_false_iff,
        Option.isNone_iff_eq_none] at hmem
      exact hmem (Int.not_le.mp hk)

theorem total_prune {now : Int} (h : HistoryStore) {k : Int} (hk : cutoff now ≤ k) :
    (h.prune now).1.total k = h.total k := by
  rw [total, getElem?_prune, if_pos hk]
  rfl

theorem prune_keyed {now : Int} {h : HistoryStore} (hkeyed : Table.Keyed StatBucket.ts h.buckets) :
    Table.Keyed StatBucket.ts (h.prune now).1.buckets := by
  intro k b hb
  rw [getElem?_prune] at hb
  split at hb
  · exact hkeyed k b hb
  · cases hb

end HistoryStore

end Rtpigate
