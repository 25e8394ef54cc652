/-
How large the history gets.

The history drops what is older than a day after every message, and a start drops it from
the rows on disk.  So there is one bucket at most for each 15 seconds of the day, in memory
always, and on disk as long as the calls that delete rows go through.  A row whose delete has
failed stays on disk until a start that can load and delete it.
-/
import Rtpigate.Lib.Totals
import Rtpigate.Mirror

namespace Rtpigate

open Lib HistoryStore

/-- The SSE task handles a message; the process starts, with the rows on disk if they can be
loaded; or it ends with the flush of the history. -/
inductive HistoryInput (F : Type)
  | message (e : HistoryEvent F)
  | start (seen : Int) (loaded deleted : Bool)
  | stop (upserted : Bool)

/-- The history and its copy, the second of the last look at the clock, and whether all
calls that delete rows have gone through since a start that could load them. -/
structure Archive where
  mirror : Mirror := ⟨{}, ∅⟩
  seen : Int
  swept : Bool := true

variable {F : Type}

def HistoryInput.clock : HistoryInput F → Option Int
  | .message e => some e.seen
  | .start seen _ _ => some seen
  | .stop _ => none

/-- The points of a message are not ahead of the clock. -/
def HistoryInput.Punctual : HistoryInput F → Prop
  | .message e => ∀ p ∈ e.points, epochSecs p.timestamp ≤ e.seen
  | .start _ _ _ | .stop _ => True

/-- A second of the window that starts a bucket. -/
def InWindow (seen k : Int) : Prop := 15 ∣ k ∧ cutoff seen ≤ k ∧ k ≤ seen

namespace Archive

def next (s : Archive) : HistoryInput F → Archive
  | .message e => { mirror := s.mirror.next e, seen := e.seen, swept := s.swept && e.deleted }
  | .start seen loaded deleted =>
    if loaded then
      { mirror := Mirror.boot s.mirror.disk seen deleted, seen := seen, swept := deleted }
    else { mirror := { s.mirror with history := {} }, seen := seen, swept := false }
  | .stop upserted =>
    if upserted then
      { s with mirror := { s.mirror with
          disk := Table.upsertAll StatBucket.ts s.mirror.disk s.mirror.history.snapshot } }
    else s

structure Bounded (s : Archive) : Prop where
  keyed : s.mirror.Keyed
  memory : ∀ k : Int, (s.mirror.history.buckets[k]?).isSome = true → InWindow s.seen k
  disk : ∀ k : Int, (s.mirror.disk[k]?).isSome = true → 15 ∣ k ∧ k ≤ s.seen
  swept : s.swept = true → ∀ k : Int, (s.mirror.disk[k]?).isSome = true →
    (s.mirror.history.buckets[k]?).isSome = true

/-! ## Keys of the disk -/

theorem isSome_upsertAll {m : Table Int StatBucket} (hm : Table.Keyed StatBucket.ts m)
    {rows : List StatBucket} {k : Int}
    (h : ((m.upsertAll StatBucket.ts rows)[k]?).isSome = true) :
    (∃ b ∈ rows, b.ts = k) ∨ (m[k]?).isSome = true := by
  obtain ⟨b, hb⟩ := Option.isSome_iff_exists.mp h
  rcases Table.mem_of_upsertAll hb with hmem | hold
  · exact Or.inl ⟨b, hmem, Table.upsertAll_keyed hm rows k b hb⟩
  · exact Or.inr (Option.isSome_of_mem hold)

theorem isSome_deleteAll {m : Table Int StatBucket} {ks : List Int} {k : Int}
    (h : ((m.deleteAll ks)[k]?).isSome = true) : k ∉ ks ∧ (m[k]?).isSome = true := by
  rw [Table.getElem?_deleteAll] at h
  by_cases hk : k ∈ ks
  · rw [if_pos hk] at h
    cases h
  · rw [if_neg hk] at h
    exact ⟨hk, h⟩

theorem isSome_persistHistory {upserted deleted : Bool} {disk : Table Int StatBucket}
    (hdisk : Table.Keyed StatBucket.ts disk) {touched : List StatBucket} {pruned : List Int}
    {k : Int}
    (h : ((Mirror.persistHistory upserted deleted disk touched pruned)[k]?).isSome = true) :
    ((∃ b ∈ touched, b.ts = k) ∨ (disk[k]?).isSome = true) ∧ (deleted = true → k ∉ pruned) := by
  have hupsert : ∀ m : Table Int StatBucket,
      m = (if upserted then Table.upsertAll StatBucket.ts disk touched else disk) →
        (m[k]?).isSome = true → (∃ b ∈ touched, b.ts = k) ∨ (disk[k]?).isSome = true := by
    rintro m rfl hm
    cases upserted with
    | true => exact isSome_upsertAll hdisk hm
    | false => exact Or.inr hm
  rw [Mirror.persistHistory] at h
  cases deleted with
  | true =>
    obtain ⟨hk, hm⟩ := isSome_deleteAll h
    exact ⟨hupsert _ rfl hm, fun _ => hk⟩
  | false => exact ⟨hupsert _ rfl h, fun hd => by cases hd⟩

/-! ## Steps -/

variable {s : Archive}

theorem pointKey_inWindow {seen : Int} {p : DataPoint} (h : epochSecs p.timestamp ≤ seen) :
    15 ∣ pointKey p ∧ pointKey p ≤ seen := by
  rw [pointKey, bucketKey, bucketSecs]
  omega

theorem Bounded.message (h : s.Bounded) {e : HistoryEvent F} (hclock : s.seen ≤ e.seen)
    (hpoints : ∀ p ∈ e.points, epochSecs p.timestamp ≤ e.seen) : (s.next (.message e)).Bounded := by
  have hmerged := e.merge_merged s.mirror.history
  -- a bucket is new with the message, or it was there
  have hkeys : ∀ k, ((e.merge s.mirror.history).1.buckets[k]?).isSome = true →
      15 ∣ k ∧ k ≤ e.seen := by
    intro k hk
    by_cases ht : k ∈ (e.merge s.mirror.history).2
    · obtain ⟨p, hp, rfl⟩ := List.mem_map.mp (HistoryEvent.mem_merge.mp ht)
      exact pointKey_inWindow (hpoints p hp)
    · rw [hmerged.other k ht] at hk
      obtain ⟨haligned, _, hle⟩ := h.memory k hk
      exact ⟨haligned, hle.trans hclock⟩
  have hmemory : ∀ k, ((s.mirror.next e).history.buckets[k]?).isSome = true ↔
      cutoff e.seen ≤ k ∧ ((e.merge s.mirror.history).1.buckets[k]?).isSome = true := by
    intro k
    show (((e.merge s.mirror.history).1.prune e.seen).1.buckets[k]?).isSome = true ↔ _
    rw [getElem?_prune]
    split
    · next hk => simp [hk]
    · next hk => simp [hk]
  have htouched : ∀ b ∈ ((e.merge s.mirror.history).1.prune e.seen).1.bucketsFor
      (e.merge s.mirror.history).2, ((s.mirror.next e).history.buckets[b.ts]?).isSome = true :=
    fun b hb => Option.isSome_of_mem
      (Recorder.bucketsFor_current (prune_keyed (hmerged.keyed h.keyed.history)) _ b hb)
  refine ⟨Mirror.next_keyed h.keyed e, fun k hk => ?_, fun k hk => ?_, fun hswept k hk => ?_⟩
  · obtain ⟨hcut, hk⟩ := (hmemory k).mp hk
    obtain ⟨haligned, hle⟩ := hkeys k hk
    exact ⟨haligned, hcut, hle⟩
  · rcases (isSome_persistHistory h.keyed.disk hk).1 with ⟨b, hb, rfl⟩ | hold
    · exact hkeys _ ((hmemory _).mp (htouched b hb)).2
    · obtain ⟨haligned, hle⟩ := h.disk k hold
      exact ⟨haligned, hle.trans hclock⟩
  · obtain ⟨hswept, hdeleted⟩ := Bool.and_eq_true_iff.mp hswept
    obtain ⟨hfrom, hpruned⟩ := isSome_persistHistory h.keyed.disk hk
    rcases hfrom with ⟨b, hb, rfl⟩ | hold
    · exact htouched b hb
    · have hsome := hmerged.isSome (h.swept hswept k hold)
      have hnot := hpruned hdeleted
      rw [mem_pruned, not_and] at hnot
      exact (hmemory k).mpr ⟨Int.not_lt.mp fun hlt => hnot hlt hsome, hsome⟩

theorem Bounded.start (h : s.Bounded) {seen : Int} (hclock : s.seen ≤ seen)
    (loaded deleted : Bool) : (s.next (.start (F := F) seen loaded deleted)).Bounded := by
  have hlate : ∀ k, (s.mirror.disk[k]?).isSome = true → 15 ∣ k ∧ k ≤ seen := by
    intro k hk
    obtain ⟨haligned, hle⟩ := h.disk k hk
    exact ⟨haligned, hle.trans hclock⟩
  rw [next]
  cases loaded with
  | false =>
    refine ⟨⟨Table.keyed_empty, h.keyed.disk⟩, fun k hk => ?_, hlate, fun hs => by cases hs⟩
    change ((∅ : Table Int StatBucket)[k]?).isSome = true at hk
    rw [Std.ExtTreeMap.getElem?_empty] at hk
    cases hk
  | true =>
    have hrestore := Mirror.getElem?_restore h.keyed.disk seen
    refine ⟨Mirror.boot_keyed h.keyed.disk seen deleted, fun k hk => ?_, fun k hk => ?_,
      fun hdeleted k hk => ?_⟩
    · change ((Mirror.restore s.mirror.disk seen).1.buckets[k]?).isSome = true at hk
      rw [hrestore] at hk
      by_cases hcut : cutoff seen ≤ k
      · rw [if_pos hcut] at hk
        exact ⟨(hlate k hk).1, hcut, (hlate k hk).2⟩
      · rw [if_neg hcut] at hk
        cases hk
    · cases deleted with
      | true => exact hlate k (isSome_deleteAll hk).2
      | false => exact hlate k hk
    · change deleted = true at hdeleted
      rw [hdeleted] at hk
      obtain ⟨hnot, hsome⟩ := isSome_deleteAll hk
      show ((Mirror.restore s.mirror.disk seen).1.buckets[k]?).isSome = true
      rw [Mirror.restore, mem_pruned, not_and, fromBuckets, Table.upsertAll_rows h.keyed.disk] at hnot
      rw [hrestore, if_pos (Int.not_lt.mp fun hlt => hnot hlt hsome)]
      exact hsome

theorem Bounded.stop (h : s.Bounded) (upserted : Bool) :
    (s.next (.stop (F := F) upserted)).Bounded := by
  rw [next]
  cases upserted with
  | false => exact h
  | true =>
    have hfrom : ∀ k : Int, ((Table.upsertAll StatBucket.ts s.mirror.disk
        s.mirror.history.snapshot)[k]?).isSome = true →
        (s.mirror.history.buckets[k]?).isSome = true ∨ (s.mirror.disk[k]?).isSome = true := by
      intro k hk
      rcases isSome_upsertAll h.keyed.disk hk with ⟨b, hb, rfl⟩ | hold
      · exact Or.inl (Option.isSome_of_mem ((Table.mem_rows h.keyed.history).mp hb))
      · exact Or.inr hold
    refine ⟨⟨h.keyed.history, Table.upsertAll_keyed h.keyed.disk _⟩, h.memory, fun k hk => ?_,
      fun hswept k hk => ?_⟩
    · rcases hfrom k hk with hmem | hdisk
      · exact ⟨(h.memory k hmem).1, (h.memory k hmem).2.2⟩
      · exact h.disk k hdisk
    · exact (hfrom k hk).elim id (h.swept hswept k)

/-! ## Runs -/

theorem foldl_bounded (is : List (HistoryInput F)) (h : s.Bounded)
    (hclock : (s.seen :: is.filterMap HistoryInput.clock).Pairwise (· ≤ ·))
    (hpoints : ∀ i ∈ is, i.Punctual) : (is.foldl next s).Bounded := by
  induction is generalizing s with
  | nil => exact h
  | cons i is ih =>
    have hrest : ∀ j ∈ is, j.Punctual := fun j hj => hpoints j (List.mem_cons_of_mem i hj)
    cases i with
    | message e =>
      have hle : s.seen ≤ e.seen := (List.pairwise_cons.mp hclock).1 _ List.mem_cons_self
      exact ih (h.message hle (hpoints _ List.mem_cons_self)) (List.pairwise_cons.mp hclock).2 hrest
    | start seen loaded deleted =>
      have hle : s.seen ≤ seen := (List.pairwise_cons.mp hclock).1 _ List.mem_cons_self
      refine ih (h.start hle loaded deleted) ?_ hrest
      have hseen : (s.next (.start (F := F) seen loaded deleted)).seen = seen := by
        rw [next]
        split <;> rfl
      rw [hseen]
      exact (List.pairwise_cons.mp hclock).2
    | stop upserted =>
      refine ih (h.stop upserted) ?_ hrest
      have hseen : (s.next (.stop (F := F) upserted)).seen = s.seen := by
        rw [next]
        split <;> rfl
      rw [hseen]
      exact hclock

/-- A window has 5761 places. -/
theorem exists_place {seen k : Int} (h : InWindow seen k) :
    ∃ i : Nat, i < 5761 ∧ k = cutoff seen + 15 * i := by
  obtain ⟨haligned, hcut, hle⟩ := h
  rw [cutoff, bucketKey, bucketSecs, retentionSecs] at *
  exact ⟨((k - (seen - seen % 15 - 24 * 60 * 60)) / 15).toNat, by omega, by omega⟩

/-- Over all restarts, with any store calls failing, the history holds a day of buckets and
no more: every bucket is on the grid of 15 seconds and inside the window, so that there are
at most 5761.  The disk holds no more either, unless a load or a delete has failed since the
rows were last swept. -/
theorem history_bounded (first : Int) (is : List (HistoryInput F))
    (hclock : (first :: is.filterMap HistoryInput.clock).Pairwise (· ≤ ·))
    (hpoints : ∀ i ∈ is, i.Punctual) :
    let s := is.foldl next { seen := first }
    (∀ b ∈ s.mirror.history.snapshot, InWindow s.seen b.ts) ∧
      s.mirror.history.snapshot.length ≤ 5761 ∧
      (s.swept = true → (Table.rows s.mirror.disk).length ≤ 5761) := by
  intro s
  have hempty : ∀ k : Int, ¬ ((∅ : Table Int StatBucket)[k]?).isSome = true := by
    intro k hk
    rw [Std.ExtTreeMap.getElem?_empty] at hk
    cases hk
  have hstart : Bounded { seen := first } :=
    ⟨⟨Table.keyed_empty, Table.keyed_empty⟩, fun k hk => absurd hk (hempty k),
      fun k hk => absurd hk (hempty k), fun _ k hk => absurd hk (hempty k)⟩
  have h : s.Bounded := foldl_bounded is hstart hclock hpoints
  refine ⟨fun b hb => ?_, Table.length_rows_le fun k hk => exists_place (h.memory k hk),
    fun hswept => Table.length_rows_le fun k hk => exists_place (h.memory k (h.swept hswept k hk))⟩
  exact h.memory b.ts (Option.isSome_of_mem ((Table.mem_rows h.keyed.history).mp hb))

/-- A tick is mirrored, the process stops and starts again more than a day later. -/
def nextDay : List (HistoryInput ℚ) :=
  [.start 1 true true,
    .message ⟨.inl (Listener.tick (10 ^ 9) 0 { interval := { totalPackets := 1 } }).2, 1, true, true⟩,
    .stop true, .start 90000 true true]

theorem history_bounded_nextDay :
    (nextDay.foldl next { seen := 0 }).mirror.history.snapshot.length ≤ 5761 ∧
      (Table.rows (nextDay.foldl next { seen := 0 }).mirror.disk).length ≤ 5761 := by
  have hpoints : ∀ i ∈ nextDay, i.Punctual := by
    intro i hi
    fin_cases hi
    · trivial
    · show ∀ p ∈ HistoryEvent.points _, _
      decide +kernel
    · trivial
    · trivial
  have h := history_bounded 0 nextDay (by decide +kernel) hpoints
  exact ⟨h.2.1, h.2.2 rfl⟩

end Archive

end Rtpigate
