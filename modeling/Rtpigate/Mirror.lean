/-
The history and its copy on disk, when store calls fail.

The SSE task merges a message, prunes, and then mirrors the buckets touched and the
keys dropped.  Each of the two calls may fail, and nothing is kept for later.  The
copy heals by the messages themselves: a later message holds the same points again,
and touches the same buckets.
-/
import Rtpigate.Recorder

namespace Rtpigate

open Lib HistoryStore

/-- A message at the SSE task, the second the clock shows to `prune`, and whether the
two store calls succeed. -/
structure HistoryEvent (F : Type) where
  telemetry : PacketTelemetry F ⊕ AprsisTelemetry F
  seen : Int
  upserted : Bool
  deleted : Bool

namespace HistoryEvent

variable {F : Type}

/-- The points of the four series. -/
def points (e : HistoryEvent F) : List DataPoint :=
  match e.telemetry with
  | .inl t =>
    t.totalPackets.data ++ t.heardDirect.data ++ t.digipeated.data ++ t.decodeErrors.data
  | .inr t => t.packetsIgated.data ++ t.packetsDropped.data ++ t.rfReceived.data ++ t.reconnects.data

def touches (e : HistoryEvent F) (k : Int) : Prop := k ∈ e.points.map pointKey

def merge (e : HistoryEvent F) (h : HistoryStore) : HistoryStore × List Int :=
  match e.telemetry with
  | .inl t => h.updateFromPacket t
  | .inr t => h.updateFromAprsis t

/-- Every point is in its event or in a later one whose upsert succeeds.  Of which of
the two streams that one is does not matter. -/
def Retried : List (HistoryEvent F) → Prop
  | [] => True
  | e :: es =>
    (∀ p ∈ e.points, ∃ e' ∈ e :: es, e'.upserted = true ∧ p ∈ e'.points) ∧ Retried es

instance Retried.decidable : (es : List (HistoryEvent F)) → Decidable (Retried es)
  | [] => inferInstanceAs (Decidable True)
  | e :: es =>
    have := Retried.decidable es
    inferInstanceAs (Decidable
      ((∀ p ∈ e.points, ∃ e' ∈ e :: es, e'.upserted = true ∧ p ∈ e'.points) ∧ Retried es))

theorem merge_merged (e : HistoryEvent F) (h : HistoryStore) :
    Merged h (e.merge h).1 (e.merge h).2 := by
  rw [merge]
  cases e.telemetry with
  | inl t => exact updateFromPacket_merged t h
  | inr t => exact updateFromAprsis_merged t h

theorem mem_merge {e : HistoryEvent F} {h : HistoryStore} {k : Int} :
    k ∈ (e.merge h).2 ↔ e.touches k := by
  rw [merge, touches, points]
  cases e.telemetry with
  | inl t =>
    show k ∈ sortedKeys _ ↔ _
    rw [mem_sortedKeys]
    simp only [mergeSeries, List.nil_append, List.map_append]
  | inr t =>
    show k ∈ sortedKeys _ ↔ _
    rw [mem_sortedKeys]
    simp only [mergeSeries, List.nil_append, List.map_append]

end HistoryEvent

/-- The history in memory and its copy on disk. -/
structure Mirror where
  history : HistoryStore
  disk : Table Int StatBucket

namespace Mirror

def persistHistory (upserted deleted : Bool) (disk : Table Int StatBucket)
    (touched : List StatBucket) (pruned : List Int) : Table Int StatBucket :=
  let disk := if upserted then Table.upsertAll StatBucket.ts disk touched else disk
  if deleted then Table.deleteAll disk pruned else disk

/-- What a start makes of the rows on disk, before it deletes the expired ones. -/
def restore (disk : Table Int StatBucket) (seen : Int) : HistoryStore × List Int :=
  (fromBuckets (Table.rows disk)).prune seen

def boot (disk : Table Int StatBucket) (seen : Int) (deleted : Bool) : Mirror where
  history := (restore disk seen).1
  disk := if deleted then Table.deleteAll disk (restore disk seen).2 else disk

variable {F : Type}

def next (m : Mirror) (e : HistoryEvent F) : Mirror :=
  let merged := e.merge m.history
  let pruned := merged.1.prune e.seen
  { history := pruned.1
    disk := persistHistory e.upserted e.deleted m.disk (pruned.1.bucketsFor merged.2) pruned.2 }

/-! ## Keys -/

structure Keyed (m : Mirror) : Prop where
  history : Table.Keyed StatBucket.ts m.history.buckets
  disk : Table.Keyed StatBucket.ts m.disk

theorem next_keyed {m : Mirror} (h : m.Keyed) (e : HistoryEvent F) : (m.next e).Keyed where
  history := prune_keyed ((e.merge_merged m.history).keyed h.history)
  disk := by
    show Table.Keyed StatBucket.ts (persistHistory _ _ _ _ _)
    unfold persistHistory
    cases e.upserted <;> cases e.deleted
    · exact h.disk
    · exact Table.deleteAll_keyed h.disk _
    · exact Table.upsertAll_keyed h.disk _
    · exact Table.deleteAll_keyed (Table.upsertAll_keyed h.disk _) _

/-! ## One event -/

section Event

variable {m : Mirror} {e : HistoryEvent F} {k : Int}

theorem next_history (e : HistoryEvent F) (hk : cutoff e.seen ≤ k) :
    (m.next e).history.buckets[k]? = (e.merge m.history).1.buckets[k]? := by
  show (((e.merge m.history).1.prune e.seen).1.buckets)[k]? = _
  rw [getElem?_prune, if_pos hk]

/-- The deletes stay below the cutoff. -/
theorem next_disk (hk : cutoff e.seen ≤ k) :
    (m.next e).disk[k]? =
      (if e.upserted then
        Table.upsertAll StatBucket.ts m.disk
          ((m.next e).history.bucketsFor (e.merge m.history).2) else m.disk)[k]? := by
  have hpruned : k ∉ ((e.merge m.history).1.prune e.seen).2 := by
    rw [mem_pruned]
    omega
  show (persistHistory _ _ _ _ _)[k]? = _
  unfold persistHistory
  cases e.deleted
  · rfl
  · show (Table.deleteAll _ _)[k]? = _
    rw [Table.getElem?_deleteAll, if_neg hpruned]
    rfl

/-- A bucket written is the one in memory. -/
theorem next_disk_touched (hm : m.Keyed) (hk : cutoff e.seen ≤ k) (ht : e.touches k)
    (hup : e.upserted = true) : (m.next e).disk[k]? = (m.next e).history.buckets[k]? := by
  have hkeyed := (next_keyed hm e).history
  have hrows := Recorder.bucketsFor_current hkeyed (e.merge m.history).2
  have hpresent : ((m.next e).history.buckets[k]?).isSome = true := by
    rw [next_history e hk]
    exact (e.merge_merged m.history).present k (HistoryEvent.mem_merge.mpr ht)
  rw [next_disk hk, if_pos hup,
    Table.getElem?_upsertAll (g := fun k => (m.next e).history.buckets[k]?) hrows,
    if_pos ((Recorder.mem_bucketsFor hkeyed).mpr ⟨HistoryEvent.mem_merge.mpr ht, hpresent⟩)]

theorem next_disk_other (hm : m.Keyed) (hk : cutoff e.seen ≤ k) (ht : ¬ e.touches k) :
    (m.next e).disk[k]? = m.disk[k]? := by
  have hkeyed := (next_keyed hm e).history
  rw [next_disk hk]
  split
  · have hrows := Recorder.bucketsFor_current hkeyed (e.merge m.history).2
    rw [Table.getElem?_upsertAll (g := fun k => (m.next e).history.buckets[k]?) hrows, if_neg]
    intro hmem
    exact ht (HistoryEvent.mem_merge.mp ((Recorder.mem_bucketsFor hkeyed).mp hmem).1)
  · rfl

theorem next_history_other (hk : cutoff e.seen ≤ k) (ht : ¬ e.touches k) :
    (m.next e).history.buckets[k]? = m.history.buckets[k]? := by
  rw [next_history e hk]
  exact (e.merge_merged m.history).other k (mt HistoryEvent.mem_merge.mp ht)

end Event

/-! ## Runs -/

/-- Above the cutoffs of a run the disk ends up with the buckets in memory, if it
starts with them or some event of the run writes them.  The last event that touches a
bucket has written it. -/
theorem foldl_agrees {es : List (HistoryEvent F)} {m : Mirror} {k : Int} (hm : m.Keyed)
    (hretried : HistoryEvent.Retried es) (hk : ∀ e ∈ es, cutoff e.seen ≤ k)
    (h : m.disk[k]? = m.history.buckets[k]? ∨
      ∃ e ∈ es, e.upserted = true ∧ e.touches k) :
    (es.foldl next m).disk[k]? = (es.foldl next m).history.buckets[k]? := by
  induction es generalizing m with
  | nil =>
    refine h.resolve_right ?_
    intro ⟨e, he, _⟩
    cases he
  | cons e es ih =>
    have hke := hk e List.mem_cons_self
    refine ih (next_keyed hm e) hretried.2 (fun e he => hk e (List.mem_cons_of_mem _ he)) ?_
    by_cases ht : e.touches k
    · by_cases hup : e.upserted = true
      · exact Or.inl (next_disk_touched hm hke ht hup)
      · -- the points of this event come again
        obtain ⟨p, hp, rfl⟩ := List.mem_map.mp ht
        obtain ⟨e', he', hup', hp'⟩ := hretried.1 p hp
        rcases List.mem_cons.mp he' with rfl | he'
        · exact absurd hup' hup
        · exact Or.inr ⟨e', he', hup', List.mem_map_of_mem hp'⟩
    · rcases h with h | ⟨e', he', hup', ht'⟩
      · left
        rw [next_disk_other hm hke ht, next_history_other hke ht]
        exact h
      · rcases List.mem_cons.mp he' with rfl | he'
        · exact absurd ht' ht
        · exact Or.inr ⟨e', he', hup', ht'⟩

theorem foldl_keyed {es : List (HistoryEvent F)} {m : Mirror} (hm : m.Keyed) :
    (es.foldl next m).Keyed := by
  induction es generalizing m with
  | nil => exact hm
  | cons e es ih => exact ih (next_keyed hm e)

theorem getElem?_restore {disk : Table Int StatBucket} (hdisk : Table.Keyed StatBucket.ts disk)
    (seen k : Int) :
    (restore disk seen).1.buckets[k]? = if cutoff seen ≤ k then disk[k]? else none := by
  rw [restore, getElem?_prune, fromBuckets, Table.upsertAll_rows hdisk]

theorem boot_keyed {disk : Table Int StatBucket} (hdisk : Table.Keyed StatBucket.ts disk)
    (seen : Int) (deleted : Bool) : (boot disk seen deleted).Keyed where
  history := by
    rw [boot, restore, fromBuckets, Table.upsertAll_rows hdisk]
    exact prune_keyed hdisk
  disk := by
    cases deleted
    · exact hdisk
    · exact Table.deleteAll_keyed hdisk _

theorem boot_agrees {disk : Table Int StatBucket} (hdisk : Table.Keyed StatBucket.ts disk)
    {seen k : Int} (deleted : Bool) (hk : cutoff seen ≤ k) :
    (boot disk seen deleted).disk[k]? = (boot disk seen deleted).history.buckets[k]? := by
  show (if deleted = true then _ else _ : Table Int StatBucket)[k]? = _
  have hpruned : k ∉ (restore disk seen).2 := by
    rw [restore, mem_pruned]
    omega
  rw [show (boot disk seen deleted).history = (restore disk seen).1 from rfl,
    getElem?_restore hdisk, if_pos hk]
  split
  · rw [Table.getElem?_deleteAll, if_neg hpruned]
  · rfl

/-- When every point is in an event whose upsert succeeds, itself or a later one, a
restart finds the history that is in memory. -/
theorem history_survives (rows : List StatBucket) (first now : Int) (deleted : Bool)
    (es : List (HistoryEvent F)) (hclock : (first :: es.map HistoryEvent.seen ++ [now]).Pairwise (· ≤ ·))
    (hretried : HistoryEvent.Retried es) :
    let m := es.foldl next (boot (Table.upsertAll StatBucket.ts ∅ rows) first deleted)
    (restore m.disk now).1 = (m.history.prune now).1 := by
  intro m
  have hdisk : Table.Keyed StatBucket.ts (Table.upsertAll StatBucket.ts ∅ rows) :=
    Table.upsertAll_keyed Table.keyed_empty rows
  have hboot := boot_keyed hdisk first deleted
  have hle : ∀ seen ∈ first :: es.map HistoryEvent.seen, seen ≤ now := fun seen hseen =>
    (List.pairwise_append.mp hclock).2.2 seen hseen now List.mem_cons_self
  have hbuckets : (restore m.disk now).1.buckets = (m.history.prune now).1.buckets := by
    apply Std.ExtTreeMap.ext_getElem?
    intro k
    rw [getElem?_restore (foldl_keyed hboot).disk, getElem?_prune]
    by_cases hk : cutoff now ≤ k
    · rw [if_pos hk, if_pos hk]
      refine foldl_agrees hboot hretried ?_ (Or.inl (boot_agrees hdisk deleted ?_))
      · intro e he
        have hseen := hle e.seen (List.mem_cons_of_mem _ (List.mem_map_of_mem he))
        exact (cutoff_mono hseen).trans hk
      · exact (cutoff_mono (hle first List.mem_cons_self)).trans hk
    · rw [if_neg hk, if_neg hk]
  exact congrArg HistoryStore.mk hbuckets

/-- Two ticks of the listener.  The upsert fails at the first, and the delete at the
second. -/
def healingEvents : List (HistoryEvent ℚ) :=
  let first := Listener.tick (10 ^ 9) 0 { interval := { totalPackets := 1, heardDirect := 1 } }
  let second := Listener.tick (16 * 10 ^ 9) 0 first.1
  [⟨.inl first.2, 1, false, true⟩, ⟨.inl second.2, 16, true, false⟩]

theorem history_survives_sample :
    let m := healingEvents.foldl next
      (boot (Table.upsertAll StatBucket.ts ∅ [{ ts := -86400, total := 3 }]) 1 false)
    (restore m.disk 20).1 = (m.history.prune 20).1 :=
  history_survives [{ ts := -86400, total := 3 }] 1 20 false healingEvents (by decide +kernel)
    (by decide +kernel)

end Mirror

end Rtpigate
