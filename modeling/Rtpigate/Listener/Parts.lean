/-
The station table and the frequency table as one.

Both are kept in memory and on disk in the same way.  A part names one of them: where
it is in the task and on disk, which calls write it, and which key a packet touches.
What follows about the writes of a step is proved once, of every part.
-/
import Rtpigate.Listener.Task

namespace Rtpigate
namespace Listener

open Lib

/-- A key of one of the two tables. -/
inductive TableKey
  | station (callsign : String)
  | freq (frequency : String)
  deriving DecidableEq, Repr

namespace Call

variable {F : Type}

/-- The row a call is about. -/
def target : Call F → Option TableKey
  | .deleteStation callsign => some (.station callsign)
  | .upsertStation s => some (.station s.callsign)
  | .deleteFreq frequency => some (.freq frequency)
  | .upsertFreq frequency _ => some (.freq frequency)
  | _ => none

def stationWrite : Call F → Option (Write String (StationEntry F))
  | .deleteStation callsign => some (.delete callsign)
  | .upsertStation s => some (.upsert s.callsign s)
  | _ => none

def freqWrite : Call F → Option (Write String FreqEntry)
  | .deleteFreq frequency => some (.delete frequency)
  | .upsertFreq frequency e => some (.upsert frequency e)
  | _ => none

end Call

/-- The stations are filed under their callsigns, and only what is in memory is
marked. -/
structure Task.Sound {F : Type} (s : Task F) : Prop where
  keyed : Table.Keyed StationEntry.callsign s.stationMap
  stations : s.stations.Marked
  freqs : s.freqs.Marked

/-- The keys a packet is filed under. -/
def heardKeys {F : Type} [Display3 F] (p : RTPPacket F) : List TableKey :=
  [.station p.stationKey, .freq p.freqKey]

/-- The keys a tick evicts. -/
def evictedKeys {F : Type} (now : Int) (s : Task F) : List TableKey :=
  (WriteBack.expired (stationExpired now) s.stationMap).map TableKey.station ++
    (WriteBack.expired (freqExpired now) s.freqCounts).map TableKey.freq

/-- One of the two tables. -/
structure Part (F V R : Type) [F64 F] [Display3 F] where
  cache : Task F → WriteBack String V
  rows : Disk F → Table String R
  row : String → V → R
  write : Call F → Option (Write String V)
  expired : Int → V → Bool
  heard : RTPPacket F → String
  tableKey : String → TableKey
  marked : ∀ s, s.Sound → (cache s).Marked
  heard_iff : ∀ k p, tableKey k ∈ heardKeys p ↔ k = heard p
  evicted_iff : ∀ k now s,
    tableKey k ∈ evictedKeys now s ↔ k ∈ WriteBack.expired (expired now) (cache s).mem
  target : ∀ c w, write c = some w → c.target = some (tableKey w.key)
  apply : ∀ d c, rows (d.apply c) = (write c).elim (rows d) fun w => w.store row (rows d)
  hear : ∀ mapped p s, ∃ f, cache (s.hear mapped p) = (cache s).touch (heard p) f
  packetCalls : ∀ p, (Task.packetCalls p).filterMap write = []
  tick : ∀ historyHours world s, s.Sound →
    cache (s.tick historyHours world).1 = ⟨((cache s).evict (expired world.now)).mem, []⟩ ∧
      (cache s).Flushes (expired world.now) ((s.tick historyHours world).2.filterMap write)
  finalFlush : ∀ orders s, s.Sound →
    ∃ dirty, (Task.finalFlush orders s).filterMap write = WriteBack.upserts dirty (cache s)

variable {F : Type}

/-! ## The calls of the two tables -/

theorem filterMap_stationWrite {mem : Table String (StationEntry F)}
    (hkeyed : Table.Keyed StationEntry.callsign mem) {ws : List (Write String (StationEntry F))}
    (h : Write.Reflect mem ws) : (ws.map stationCall).filterMap Call.stationWrite = ws := by
  rw [List.filterMap_map]
  induction ws with
  | nil => rfl
  | cons w ws ih =>
    have hw : (Call.stationWrite ∘ stationCall) w = some w := by
      cases w with
      | delete k => rfl
      | upsert k e =>
        have hget : some e = mem[k]? := h (.upsert k e) List.mem_cons_self
        show some (Write.upsert e.callsign e) = some (Write.upsert k e)
        rw [hkeyed k e hget.symm]
    rw [List.filterMap_cons_some hw, ih fun w hw => h w (List.mem_cons_of_mem _ hw)]

theorem filterMap_freqWrite (ws : List (Write String FreqEntry)) :
    (ws.map (freqCall (F := F))).filterMap Call.freqWrite = ws := by
  rw [List.filterMap_map]
  have hw : Call.freqWrite ∘ freqCall (F := F) = some := by
    funext w
    cases w <;> rfl
  rw [hw, List.filterMap_some]

theorem filterMap_map_nil {α β γ : Type*} {f : β → Option γ} {g : α → β} (h : ∀ a, f (g a) = none)
    (l : List α) : (l.map g).filterMap f = [] := by
  rw [List.filterMap_eq_nil_iff]
  intro b hb
  obtain ⟨a, -, rfl⟩ := List.mem_map.mp hb
  exact h a

theorem filterMap_stationWrite_freq (ws : List (Write String FreqEntry)) :
    (ws.map (freqCall (F := F))).filterMap Call.stationWrite = [] :=
  filterMap_map_nil (fun w => by cases w <;> rfl) ws

theorem filterMap_freqWrite_station (ws : List (Write String (StationEntry F))) :
    (ws.map stationCall).filterMap Call.freqWrite = [] :=
  filterMap_map_nil (fun w => by cases w <;> rfl) ws

theorem evict_keyed {s : Task F} (h : Table.Keyed StationEntry.callsign s.stationMap)
    (old : StationEntry F → Bool) :
    Table.Keyed StationEntry.callsign (s.stations.evict old).mem :=
  Table.deleteAll_keyed h _

/-! ## The other calls -/

def Call.savedRow : Call F → Option PacketLifetime
  | .savePacketLifetime row => some row
  | _ => none

section Others

variable {α : Type*} {f : Call F → Option α} (hf : ∀ c : Call F, c.target.isSome = true → f c = none)

include hf

theorem filterMap_stationCall (ws : List (Write String (StationEntry F))) :
    (ws.map stationCall).filterMap f = [] :=
  filterMap_map_nil (fun w => hf _ (by cases w <;> rfl)) ws

theorem filterMap_freqCall (ws : List (Write String FreqEntry)) :
    (ws.map freqCall).filterMap f = [] :=
  filterMap_map_nil (fun w => hf _ (by cases w <;> rfl)) ws

/-- What is left of a tick beside the calls of the two tables. -/
theorem filterMap_tick [F64 F] (s : Task F) (historyHours : Nat) (world : TickWorld) :
    (s.tick historyHours world).2.filterMap f =
      [Call.savePacketLifetime s.counters.lifetime.packetLifetime,
        .deleteSatPackets ((s.satPacketLog.takeWhile (satExpired world.now)).map
          RTPPacket.keyMicros),
        .prunePackets (toMicros (world.now - hours historyHours))].filterMap f := by
  simp only [Task.tick, List.filterMap_append, filterMap_stationCall hf, filterMap_freqCall hf,
    List.append_nil]
  exact List.filterMap_append.symm

theorem filterMap_finalFlush (s : Task F) (orders : Orders) :
    (s.finalFlush orders).filterMap f =
      [Call.savePacketLifetime s.counters.lifetime.packetLifetime].filterMap f := by
  simp only [Task.finalFlush, List.filterMap_append, filterMap_stationCall hf,
    filterMap_freqCall hf, List.append_nil]

end Others

theorem savedRow_target (c : Call F) (h : c.target.isSome = true) : c.savedRow = none := by
  cases c <;> first | rfl | cases h

theorem finalFlush_saves (s : Task F) (orders : Orders) :
    (s.finalFlush orders).filterMap Call.savedRow = [s.counters.lifetime.packetLifetime] :=
  filterMap_finalFlush savedRow_target s orders

theorem packetCalls_saves (p : RTPPacket F) :
    (Task.packetCalls p).filterMap Call.savedRow = [] := by
  rw [Task.packetCalls]
  split <;> rfl

theorem Task.seed_sound (lifetime : Option PacketLifetime) (stations : Option (List (StationEntry F)))
    (freqs : Option (List (String × FreqEntry))) (satPackets : Option (List (RTPPacket F))) :
    (Task.seed lifetime stations freqs satPackets).Sound where
  keyed := Table.upsertAll_keyed Table.keyed_empty _
  stations _ hk := absurd hk List.not_mem_nil
  freqs _ hk := absurd hk List.not_mem_nil

variable [F64 F]

/-- The row of the last save. -/
theorem applyAll_packetLifetime (d : Disk F) (calls : List (Call F)) :
    (d.applyAll calls).packetLifetime =
      ((calls.filterMap Call.savedRow).getLast?).or d.packetLifetime := by
  induction calls using List.reverseRecOn with
  | nil => rfl
  | append_singleton calls c ih =>
    rw [Disk.applyAll, List.foldl_concat, List.filterMap_append]
    cases c with
    | savePacketLifetime row =>
      show some row = _
      rw [show [Call.savePacketLifetime (F := F) row].filterMap Call.savedRow = [row] from rfl,
        List.getLast?_concat]
      rfl
    | _ => exact ih.trans (by rw [List.filterMap_cons_none rfl, List.filterMap_nil,
        List.append_nil])

/-- A step that saves at most this row leaves the old row or this one. -/
theorem applyAll_saves {calls : List (Call F)} {row : PacketLifetime}
    (h : (calls.filterMap Call.savedRow).Sublist [row]) (d : Disk F) :
    (d.applyAll calls).packetLifetime = d.packetLifetime ∨
      (d.applyAll calls).packetLifetime = some row := by
  rw [applyAll_packetLifetime]
  rcases List.sublist_singleton.mp h with hnone | hrow
  · left
    rw [hnone]
    rfl
  · right
    rw [hrow]
    rfl

theorem tick_saves (s : Task F) (historyHours : Nat) (world : TickWorld) :
    (s.tick historyHours world).2.filterMap Call.savedRow =
      [s.counters.lifetime.packetLifetime] :=
  filterMap_tick savedRow_target s historyHours world

theorem Task.Sound.tick {s : Task F} (h : s.Sound) (historyHours : Nat) (world : TickWorld) :
    (s.tick historyHours world).1.Sound where
  keyed := evict_keyed h.keyed _
  stations _ hk := absurd hk List.not_mem_nil
  freqs _ hk := absurd hk List.not_mem_nil

theorem tick_stationWrites {s : Task F} (h : s.Sound) (historyHours : Nat) (world : TickWorld) :
    (s.tick historyHours world).2.filterMap Call.stationWrite =
      WriteBack.deletes (stationExpired world.now) world.orders.evictedStations s.stationMap ++
        WriteBack.upserts world.orders.dirtyStations
          (s.stations.evict (stationExpired world.now)) := by
  have hkeyed := evict_keyed h.keyed (stationExpired world.now)
  have hdeletes := filterMap_stationWrite hkeyed (WriteBack.reflect_deletes
    (stationExpired world.now) world.orders.evictedStations s.stations)
  have hupserts := filterMap_stationWrite hkeyed (WriteBack.reflect_upserts
    world.orders.dirtyStations _)
  simp only [Task.tick, List.filterMap_append, filterMap_stationWrite_freq, hupserts]
  rw [show s.stationMap = s.stations.mem from rfl, hdeletes]
  simp only [List.filterMap_cons, List.filterMap_nil, Call.stationWrite, List.append_nil,
    List.nil_append]

theorem tick_freqWrites (s : Task F) (historyHours : Nat) (world : TickWorld) :
    (s.tick historyHours world).2.filterMap Call.freqWrite =
      WriteBack.deletes (freqExpired world.now) world.orders.evictedFreqs s.freqCounts ++
        WriteBack.upserts world.orders.dirtyFreqs
          (s.freqs.evict (freqExpired world.now)) := by
  simp only [Task.tick, List.filterMap_append, filterMap_freqWrite, filterMap_freqWrite_station]
  simp only [List.filterMap_cons, List.filterMap_nil, Call.freqWrite, List.append_nil,
    List.nil_append]

variable [Display3 F]

/-- `station_map` and its table. -/
def stationPart : Part F (StationEntry F) (StationRec F) where
  cache := Task.stations
  rows := Disk.stations
  row _ e := .fromEntry e
  write := Call.stationWrite
  expired := stationExpired
  heard := RTPPacket.stationKey
  tableKey := .station
  marked _ h := h.stations
  heard_iff k p := by simp [heardKeys]
  evicted_iff k now s := by simp [evictedKeys, Task.stations]
  target c w h := by cases c <;> cases h <;> rfl
  apply d c := by cases c <;> rfl
  hear mapped p s := ⟨_, rfl⟩
  packetCalls p := by
    cases hsat : p.isSatellite <;> simp [Task.packetCalls, hsat, Call.stationWrite]
  tick historyHours world s h := ⟨rfl, _, _, tick_stationWrites h historyHours world⟩
  finalFlush orders s h := by
    refine ⟨orders.dirtyStations, ?_⟩
    have hupserts := filterMap_stationWrite h.keyed (WriteBack.reflect_upserts
      orders.dirtyStations s.stations)
    simp only [Task.finalFlush, List.filterMap_append, filterMap_stationWrite_freq, hupserts]
    simp only [List.filterMap_cons, List.filterMap_nil, Call.stationWrite, List.append_nil,
      List.nil_append]

/-- `freq_counts` and its table. -/
def freqPart : Part F FreqEntry FreqRec where
  cache := Task.freqs
  rows := Disk.freqs
  row := FreqRec.fromEntry
  write := Call.freqWrite
  expired := freqExpired
  heard := RTPPacket.freqKey
  tableKey := .freq
  marked _ h := h.freqs
  heard_iff k p := by simp [heardKeys]
  evicted_iff k now s := by simp [evictedKeys, Task.freqs]
  target c w h := by cases c <;> cases h <;> rfl
  apply d c := by cases c <;> rfl
  hear mapped p s := ⟨_, rfl⟩
  packetCalls p := by
    cases hsat : p.isSatellite <;> simp [Task.packetCalls, hsat, Call.freqWrite]
  tick historyHours world s _ := ⟨rfl, _, _, tick_freqWrites s historyHours world⟩
  finalFlush orders s _ := by
    refine ⟨orders.dirtyFreqs, ?_⟩
    simp only [Task.finalFlush, List.filterMap_append, filterMap_freqWrite,
      filterMap_freqWrite_station]
    simp only [List.filterMap_cons, List.filterMap_nil, Call.freqWrite, List.append_nil,
      List.nil_append]

/-! ## Soundness -/

namespace Task

theorem Sound.hear {s : Task F} (h : s.Sound) (mapped : MappedPacket F) (p : RTPPacket F) :
    (s.hear mapped p).Sound where
  keyed k e he := by
    have hget := WriteBack.getElem?_touch p.stationKey
      (StationEntry.hear p mapped.symbolTable mapped.symbolCode) s.stations k
    rw [show (s.hear mapped p).stationMap[k]? = _ from hget] at he
    split at he
    · next hk =>
      cases he
      subst hk
      rw [(StationEntry.hear_frame _ _ _ _).1]
      cases hold : s.stations.mem[p.stationKey]? with
      | none => rfl
      | some old => exact h.keyed p.stationKey old hold
    · exact h.keyed k e he
  stations := h.stations.touch _ _
  freqs := h.freqs.touch _ _

/-- A step hears a packet, or skips a frame, or is a tick. -/
inductive StepCase (satFreqs : List F) (historyHours : Nat) (s : Task F) (i : Input F) : Prop
  | skip (world : FrameWorld F) (fr : AprsFrame F) (hi : i = .frame world fr)
      (hnone : packet satFreqs world fr = none) (h : s.step satFreqs historyHours i = (s, []))
  | hear (world : FrameWorld F) (fr : AprsFrame F) (mapped : MappedPacket F) (p : RTPPacket F)
      (hi : i = .frame world fr) (hsome : packet satFreqs world fr = some p)
      (hmap : mapFrame world.decodeTextual world.clock fr = some mapped)
      (hp : p = flagged satFreqs world.now world.twist mapped.packet)
      (h : s.step satFreqs historyHours i = (s.hear mapped p, packetCalls p))
  | tick (world : TickWorld) (hi : i = .tick world)
      (h : s.step satFreqs historyHours i = s.tick historyHours world)

theorem step_cases (satFreqs : List F) (historyHours : Nat) (s : Task F) (i : Input F) :
    StepCase satFreqs historyHours s i := by
  cases i with
  | tick world => exact .tick world rfl rfl
  | frame world fr =>
    cases hmap : mapFrame world.decodeTextual world.clock fr with
    | none =>
      refine .skip world fr rfl ?_ ?_
      · rw [packet, hmap]
        rfl
      · simp only [step, frame, hmap]
    | some mapped =>
      refine .hear world fr mapped _ rfl ?_ hmap rfl ?_
      · rw [packet, hmap]
        rfl
      · simp only [step, frame, hmap]

/-- A step saves the counters it ends with, or nothing. -/
theorem step_saves (satFreqs : List F) (historyHours : Nat) (s : Task F) (i : Input F) :
    ((s.step satFreqs historyHours i).2.filterMap Call.savedRow).Sublist
      [(s.step satFreqs historyHours i).1.counters.lifetime.packetLifetime] := by
  cases step_cases satFreqs historyHours s i with
  | skip _ _ _ _ hstep =>
    rw [hstep]
    exact List.nil_sublist _
  | hear _ _ _ p _ _ _ _ hstep =>
    rw [hstep, packetCalls_saves]
    exact List.nil_sublist _
  | tick world _ hstep =>
    rw [hstep, tick_saves]
    exact List.Sublist.refl _

theorem Sound.step {s : Task F} (h : s.Sound) (satFreqs : List F) (historyHours : Nat)
    (i : Input F) : (s.step satFreqs historyHours i).1.Sound := by
  cases step_cases satFreqs historyHours s i with
  | skip _ _ _ _ hstep =>
    rw [hstep]
    exact h
  | hear _ _ mapped p _ _ _ _ hstep =>
    rw [hstep]
    exact h.hear mapped p
  | tick world _ hstep =>
    rw [hstep]
    exact h.tick historyHours world

end Task

/-! ## What the calls of a step leave -/

namespace Part

variable {V R : Type} (part : Part F V R)

theorem rows_applyAll (d : Disk F) (calls : List (Call F)) :
    part.rows (d.applyAll calls) =
      (calls.filterMap part.write).foldl (Write.store part.row) (part.rows d) := by
  induction calls generalizing d with
  | nil => rfl
  | cons c calls ih =>
    show part.rows ((d.apply c).applyAll calls) = _
    rw [ih, part.apply]
    cases hw : part.write c with
    | none => rw [List.filterMap_cons_none hw]; rfl
    | some w => rw [List.filterMap_cons_some hw]; rfl

/-- Some of the calls of a tick: the rows they write are those of the memory after
the tick, and the others stay. -/
theorem rows_tick {s : Task F} (h : s.Sound) (historyHours : Nat) (world : TickWorld)
    {calls : List (Call F)} (hsub : calls ⊆ (s.tick historyHours world).2) (d : Disk F)
    (k : String) :
    (part.rows (d.applyAll calls))[k]? =
      if k ∈ (calls.filterMap part.write).map Write.key then
        ((part.cache (s.tick historyHours world).1).mem[k]?).map (part.row k)
      else (part.rows d)[k]? := by
  obtain ⟨hcache, hflush⟩ := part.tick historyHours world s h
  have hreflect : Write.Reflect (part.cache (s.tick historyHours world).1).mem
      (calls.filterMap part.write) := by
    rw [hcache]
    intro w hw
    obtain ⟨c, hc, hcw⟩ := List.mem_filterMap.mp hw
    exact hflush.reflect w (List.mem_filterMap.mpr ⟨c, hsub hc, hcw⟩)
  rw [part.rows_applyAll, Write.getElem?_stores part.row hreflect]

/-- A packet writes neither table. -/
theorem rows_packet {p : RTPPacket F} {calls : List (Call F)} (hsub : calls ⊆ Task.packetCalls p)
    (d : Disk F) : part.rows (d.applyAll calls) = part.rows d := by
  have hnone : calls.filterMap part.write = [] := by
    rw [List.filterMap_eq_nil_iff]
    intro c hc
    exact List.filterMap_eq_nil_iff.mp (part.packetCalls p) c (hsub hc)
  rw [part.rows_applyAll, hnone]
  rfl

theorem mem_tick_keys {s : Task F} (h : s.Sound) (historyHours : Nat) (world : TickWorld)
    {k : String} :
    k ∈ ((s.tick historyHours world).2.filterMap part.write).map Write.key ↔
      k ∈ WriteBack.expired (part.expired world.now) (part.cache s).mem ∨
        k ∈ (part.cache s).dirty :=
  (part.tick historyHours world s h).2.mem_keys (part.marked s h)

/-- A key that is not expired keeps its entry through a tick. -/
theorem mem_tick_other {s : Task F} (h : s.Sound) (historyHours : Nat) (world : TickWorld)
    {k : String} (hk : k ∉ WriteBack.expired (part.expired world.now) (part.cache s).mem) :
    (part.cache (s.tick historyHours world).1).mem[k]? = (part.cache s).mem[k]? := by
  rw [(part.tick historyHours world s h).1, WriteBack.getElem?_evict, if_neg hk]

end Part

end Listener
end Rtpigate
