/-
The packet history.

Every packet the listener accepts is written to one table under its receive time in
microseconds, and old packets are pruned.  Packets with the same time share a row, so
the history is complete exactly as long as the times are distinct.
-/
import Rtpigate.Lib.Rolling
import Rtpigate.Listener.Retry
import Rtpigate.Listener.Stop

namespace Rtpigate

open Lib

theorem PacketRec.intoPacket_keyMicros {F : Type} [F64 F] {p : RTPPacket F}
    (h : InDates p.receivetime) (instant : Nat) :
    ((PacketRec.fromPacket p).intoPacket instant).keyMicros = p.keyMicros :=
  toMicros_fromMicros h

namespace Listener

variable {F : Type}

/-- What a call does to the packet history. -/
def Call.packetOp : Call F → Option (Rolling (RTPPacket F) Int)
  | .insertPacket p => some (.insert p)
  | .prunePackets cutoffMicros => some (.remove (· < cutoffMicros))
  | _ => none

/-- The inserts and prunes among the calls of a run. -/
def packetOps (calls : List (Call F)) : List (Rolling (RTPPacket F) Int) :=
  calls.filterMap Call.packetOp

variable [F64 F]

theorem applyAll_packets (d : Disk F) (calls : List (Call F)) :
    (d.applyAll calls).packets =
      (packetOps calls).foldl (Rolling.store RTPPacket.keyMicros PacketRec.fromPacket) d.packets := by
  induction calls generalizing d with
  | nil => rfl
  | cons c calls ih =>
    show ((d.apply c).applyAll calls).packets = _
    rw [ih, packetOps, packetOps]
    cases c <;> rfl

variable [Display3 F] (satFreqs : List F) (historyHours : Nat)

/-- A step of a listener whose wall clock shows a date. -/
abbrev DatedAttempt (F : Type) : Type := { a : Attempt F // a.input.Dated }

/-- The calls of a run that succeed. -/
def callsOf : Task F → List (Attempt F) → List (Call F)
  | _, [] => []
  | s, a :: as =>
    performed a.ok (s.step satFreqs historyHours a.input).2 ++
      callsOf (s.step satFreqs historyHours a.input).1 as

variable {satFreqs historyHours}

theorem foldl_next (s : Task F) (d : Disk F) (as : List (Attempt F)) :
    (as.foldl (Attempt.next satFreqs historyHours) (s, d)).2 =
      d.applyAll (callsOf satFreqs historyHours s as) := by
  induction as generalizing s d with
  | nil => rfl
  | cons a as ih =>
    rw [List.foldl_cons, callsOf, Disk.applyAll, List.foldl_append]
    exact ih _ _

omit [Display3 F] in
theorem packetOps_tick (s : Task F) (world : TickWorld) :
    packetOps (s.tick historyHours world).2 =
      [.remove (· < toMicros (world.now - hours historyHours))] :=
  filterMap_tick (fun c h => by cases c <;> first | rfl | cases h) s historyHours world

theorem insertPacket_dated {s : Task F} {i : Input F} (hi : i.Dated) {p : RTPPacket F}
    (h : .insertPacket p ∈ (s.step satFreqs historyHours i).2) : InDates p.receivetime := by
  cases Task.step_cases satFreqs historyHours s i with
  | skip _ _ _ _ hstep =>
    rw [hstep] at h
    cases h
  | hear world fr mapped q hframe _ hmap hq hstep =>
    subst hframe
    rw [hstep] at h
    have hpq : p = q := by
      cases hsat : q.isSatellite <;> simpa [Task.packetCalls, hsat] using h
    rw [hpq]
    exact packet_dated hi hmap hq
  | tick world _ hstep =>
    rw [hstep] at h
    have hop : Rolling.insert p ∈ packetOps (s.tick historyHours world).2 :=
      List.mem_filterMap.mpr ⟨_, h, rfl⟩
    rw [packetOps_tick] at hop
    cases List.mem_singleton.mp hop

theorem callsOf_dated {s : Task F} {as : List (DatedAttempt F)} {p : RTPPacket F}
    (h : .insertPacket p ∈ callsOf satFreqs historyHours s (as.map Subtype.val)) :
    InDates p.receivetime := by
  induction as generalizing s with
  | nil => cases h
  | cons a as ih =>
    rcases List.mem_append.mp h with h | h
    · exact insertPacket_dated a.property (performed_subset _ _ h)
    · exact ih h

omit [F64 F] [Display3 F] in
theorem mem_inserted {calls : List (Call F)} {p : RTPPacket F}
    (h : p ∈ Rolling.inserted (packetOps calls)) : .insertPacket p ∈ calls := by
  obtain ⟨op, hop, hp⟩ := List.mem_filterMap.mp h
  obtain ⟨c, hc, hcop⟩ := List.mem_filterMap.mp hop
  cases c <;> cases hcop <;> cases hp
  exact hc

/-! ## What is loaded -/

/-- What is loaded of a source: an entry for each of its packets that was inserted and
is below no cutoff so far, the newest first. -/
structure Complete (instant : Nat) (source : String) (ops : List (Rolling (RTPPacket F) Int))
    (loaded : List (RTPPacket F)) : Prop where
  entries : loaded.Perm
    (((Rolling.kept RTPPacket.keyMicros ops).filter fun p => p.source = source).map fun p =>
      (PacketRec.fromPacket p).intoPacket instant)
  newestFirst : loaded.Pairwise fun a b => b.receivetime ≤ a.receivetime

omit [Display3 F] in
theorem packets_keyed (ops : List (Rolling (RTPPacket F) Int)) :
    Table.Keyed PacketRec.keyMicros
      (Rolling.replay RTPPacket.keyMicros PacketRec.fromPacket ops) :=
  Rolling.replay_keyed PacketRec.fromPacket (fun _ => rfl) ops

section Load

variable {d : Disk F} {ops : List (Rolling (RTPPacket F) Int)}
  (hd : d.packets = Rolling.replay RTPPacket.keyMicros PacketRec.fromPacket ops)
  (hdated : ∀ p ∈ Rolling.inserted ops, InDates p.receivetime) (instant : Nat)

include hd hdated

omit [Display3 F] in
theorem row_of_packet {r : PacketRec F} (hr : r ∈ d.packets.rows) :
    ∃ p, InDates p.receivetime ∧ r = PacketRec.fromPacket p := by
  have hkeyed := packets_keyed ops
  rw [hd, Table.mem_rows hkeyed, Rolling.getElem?_replay] at hr
  obtain ⟨p, hp, rfl⟩ := Option.map_eq_some_iff.mp hr
  obtain ⟨before, after, rfl, -⟩ := Rolling.mem_left.mp (latest_mem hp).1
  refine ⟨p, hdated p ?_, rfl⟩
  rw [Rolling.inserted_append]
  exact List.mem_append_right _ List.mem_cons_self

omit [Display3 F] in
theorem load_newestFirst (source : String) :
    (d.loadPacketsBySource instant source).Pairwise fun a b => b.receivetime ≤ a.receivetime := by
  rw [Disk.loadPacketsBySource, List.pairwise_map]
  have hsorted := List.pairwise_insertionSort (fun a b : PacketRec F => b.keyMicros ≤ a.keyMicros)
    (d.packets.rows.filter fun r => r.source = source)
  refine hsorted.imp_of_mem fun {a b} ha hb hab => ?_
  rw [List.mem_insertionSort, List.mem_filter] at ha hb
  obtain ⟨p, hp, rfl⟩ := row_of_packet hd hdated ha.1
  obtain ⟨q, hq, rfl⟩ := row_of_packet hd hdated hb.1
  show fromMicros (toMicros q.receivetime) ≤ fromMicros (toMicros p.receivetime)
  rw [fromMicros_toMicros hp, fromMicros_toMicros hq]
  exact Int.mul_le_mul_of_nonneg_right hab (by decide)

omit [Display3 F] in
/-- The sources and keys of what is loaded are those in the table. -/
theorem load_keys (source : String) :
    ((d.loadPacketsBySource instant source).map fun p => (p.source, p.keyMicros)).Perm
      ((d.packets.rows.map fun r => (r.source, r.keyMicros)).filter fun e => e.1 = source) := by
  rw [Disk.loadPacketsBySource, List.map_map, List.filter_map]
  refine ((List.perm_insertionSort _ _).map _).trans (List.Perm.of_eq ?_)
  refine List.map_congr_left fun r hr => ?_
  obtain ⟨p, hp, rfl⟩ := row_of_packet hd hdated (List.mem_of_mem_filter hr)
  exact congrArg (Prod.mk p.source) (PacketRec.intoPacket_keyMicros hp instant)

omit [Display3 F] in
theorem complete_iff : (∀ source, Complete instant source ops (d.loadPacketsBySource instant source)) ↔
    ((Rolling.kept RTPPacket.keyMicros ops).map RTPPacket.keyMicros).Nodup ∧
      Rolling.Settled RTPPacket.keyMicros ops := by
  constructor
  · intro h
    have hrow : ∀ p : RTPPacket F, (PacketRec.fromPacket p).keyMicros = p.keyMicros := fun _ => rfl
    rw [← Rolling.rows_kept_iff PacketRec.fromPacket hrow, ← hd]
    have hpairs : (d.packets.rows.map fun r => (r.source, r.keyMicros)).Perm
        ((Rolling.kept RTPPacket.keyMicros ops).map fun p => (p.source, p.keyMicros)) := by
      refine perm_of_fibers (f := Prod.fst) fun source => ?_
      refine (load_keys hd hdated instant source).symm.trans (((h source).entries.map _).trans ?_)
      rw [List.map_map, List.filter_map]
      refine List.Perm.of_eq (List.map_congr_left fun p hp => ?_)
      have hins := List.mem_of_mem_filter (List.mem_of_mem_filter hp)
      exact congrArg (Prod.mk p.source) (PacketRec.intoPacket_keyMicros (hdated p hins) instant)
    have hkeys := hpairs.map Prod.snd
    rwa [List.map_map, List.map_map] at hkeys
  · intro ⟨hdistinct, hsettled⟩ source
    refine ⟨?_, load_newestFirst hd hdated instant source⟩
    have hleft := Rolling.kept_eq_left_iff.mpr hsettled
    have hrows := Rolling.rows_replay (PacketRec.fromPacket (F := F)) (hleft ▸ hdistinct)
    rw [← hd, ← hleft] at hrows
    rw [Disk.loadPacketsBySource]
    refine (((List.perm_insertionSort _ _).trans (hrows.filter _)).map _).trans ?_
    rw [List.filter_map, List.map_map]
    exact List.Perm.refl _

end Load

/-- The history of every source is complete exactly as long as the accepted packets
below no cutoff have distinct times in microseconds, and every packet that came too
late has been pruned. -/
theorem history_complete_iff (satFreqs : List F) (historyHours : Nat) (s : Task F) (d : Disk F)
    (as : List (DatedAttempt F)) (instant : Nat) :
    let attempts := as.map Subtype.val
    let ops := packetOps (callsOf satFreqs historyHours s attempts)
    let stored := (attempts.foldl (Attempt.next satFreqs historyHours)
      (s, { d with packets := ∅ })).2
    (∀ source, Complete instant source ops (stored.loadPacketsBySource instant source)) ↔
      ((Rolling.kept RTPPacket.keyMicros ops).map RTPPacket.keyMicros).Nodup ∧
        Rolling.Settled RTPPacket.keyMicros ops := by
  intro attempts ops stored
  refine complete_iff ?_ (fun p hp => callsOf_dated (mem_inserted hp)) instant
  rw [show stored = _ from foldl_next s _ attempts, applyAll_packets]
  rfl

def heardNow (source : String) : DatedAttempt ℚ :=
  ⟨⟨.frame sampleWorld (sampleFrame source [62, 65]), fun _ => true⟩, by
    show InDates 0
    decide⟩

/-- Two stations heard in the same millisecond: the history of the first is lost. -/
theorem same_stamp_lost :
    ¬ (let attempts := [heardNow "W1AW", heardNow "W2AW"].map Subtype.val
      let ops := packetOps (callsOf [] 6 {} attempts)
      let stored := (attempts.foldl (Attempt.next [] 6) ({}, {})).2
      ∀ source, Complete 0 source ops (stored.loadPacketsBySource 0 source)) := by
  intro h
  have hlength := (h "W1AW").entries.length_eq
  revert hlength
  decide +kernel

end Listener
end Rtpigate
