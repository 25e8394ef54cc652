/-
What a stop loses.

The listener may be killed between any two transactions, or be cancelled and flush
what is marked.  Every row on disk is as old as the last tick that has come to its
end, or newer.
-/
import Rtpigate.Listener.Parts

namespace Rtpigate

/-! ## Dates -/

theorem fromTimestampMillis_dated {ms ns : Int} (h : fromTimestampMillis ms = some ns) :
    InDates ns := by
  rw [fromTimestampMillis] at h
  split at h
  · cases h
    unfold InDates
    omega
  · cases h

theorem fromMicros_dated (micros : Int) : InDates (fromMicros micros) := by
  rw [fromMicros]
  split
  · assumption
  · decide

theorem mapFrame_dated {F : Type} [F64 F] {decodeTextual : List UInt8 → Option (DecodedPacket F)}
    {clock : MapClock} {fr : AprsFrame F} {mapped : MappedPacket F}
    (h : mapFrame decodeTextual clock fr = some mapped) (hclock : InDates clock.wall) :
    InDates mapped.packet.receivetime := by
  rw [mapFrame] at h
  split at h
  · cases h
  · cases h
    show InDates ((fromTimestampMillis (u64AsI64 fr.capture.receivedAtMs)).getD clock.wall)
    cases hms : fromTimestampMillis (u64AsI64 fr.capture.receivedAtMs) with
    | none => exact hclock
    | some ns => exact fromTimestampMillis_dated hms

namespace Listener

open Lib

variable {F : Type}

def Input.Dated : Input F → Prop
  | .frame world _ => InDates world.clock.wall
  | .tick _ => True

/-- An input whose wall clock shows a date. -/
abbrev DatedInput (F : Type) : Type := { i : Input F // i.Dated }

/-- The rows of a store, each table under its key. -/
structure StoredRows (F : Type) where
  packetLifetime : Option PacketLifetime
  stations : List (StationRec F)
  freqs : List FreqRec
  satPackets : List (SatPacketRec F)
  packets : List (PacketRec F)

def StoredRows.disk (rows : StoredRows F) : Disk F where
  packetLifetime := rows.packetLifetime
  stations := Table.upsertAll StationRec.callsign ∅ rows.stations
  freqs := Table.upsertAll FreqRec.frequency ∅ rows.freqs
  satPackets := Table.upsertAll SatPacketRec.keyMicros ∅ rows.satPackets
  packets := Table.upsertAll PacketRec.keyMicros ∅ rows.packets

/-- The total, direct and digipeated packets. -/
def Counts.heard (c : Counts) : Nat × Nat × Nat := (c.totalPackets, c.heardDirect, c.digipeated)

variable [F64 F]

theorem packet_dated {world : FrameWorld F} {fr : AprsFrame F} {mapped : MappedPacket F}
    {satFreqs : List F} {p : RTPPacket F} (hclock : InDates world.clock.wall)
    (hmap : mapFrame world.decodeTextual world.clock fr = some mapped)
    (hp : p = flagged satFreqs world.now world.twist mapped.packet) : InDates p.receivetime := by
  rw [hp]
  exact mapFrame_dated hmap hclock

/-- The totals a restart begins with. -/
def loadedTotals (d : Disk F) : Nat × Nat × Nat :=
  (Counts.ofPacketLifetime (loadPacketLifetime d.packetLifetime)).heard

theorem loadedTotals_finalFlush (s : Task F) (d : Disk F) (orders : Orders) :
    loadedTotals (d.applyAll (s.finalFlush orders)) = s.counters.lifetime.heard := by
  rw [loadedTotals, applyAll_packetLifetime, finalFlush_saves]
  rfl

variable [Display3 F]

/-- How a table comes back from its rows. -/
structure Loading {V R : Type} (part : Part F V R) where
  load : R → V
  key : R → String
  Dated : V → Prop
  row_load : ∀ k v, Dated v → part.row k (load (part.row k v)) = part.row k v
  load_dated : ∀ r, Dated (load r)
  hear_dated : ∀ mapped p (s : Task F), InDates p.receivetime → ∀ v,
    (part.cache (s.hear mapped p)).mem[part.heard p]? = some v → Dated v
  keyed_apply : ∀ d c, Table.Keyed key (part.rows d) → Table.Keyed key (part.rows (d.apply c))
  boot : ∀ instant d, Table.Keyed key (part.rows d) → ∀ k : String,
    (part.cache (Task.boot instant d)).mem[k]? = ((part.rows d)[k]?).map load

def stationLoading : Loading (stationPart (F := F)) where
  load := StationRec.intoEntry
  key := StationRec.callsign
  Dated e := InDates e.lastHeard
  row_load _ _ h := StationRec.fromEntry_intoEntry h
  load_dated r := fromMicros_dated r.lastHeardMicros
  hear_dated mapped p s h v hv := by
    have hget := WriteBack.getElem?_touch p.stationKey
      (StationEntry.hear p mapped.symbolTable mapped.symbolCode) s.stations p.stationKey
    rw [if_pos rfl] at hget
    cases hget.symm.trans hv
    rw [(StationEntry.hear_frame _ _ _ _).2]
    exact h
  keyed_apply d c h := by
    cases c with
    | deleteStation k => exact Table.deleteAll_keyed h [k]
    | upsertStation e => exact Table.upsertAll_keyed h [.fromEntry e]
    | savePacketLifetime | deleteFreq | upsertFreq | deleteSatPackets | prunePackets
    | insertSatPacket | insertPacket => exact h
  boot instant d h k := by
    show (Table.upsertAll StationEntry.callsign ∅ d.loadStations)[k]? = (d.stations[k]?).map _
    rw [Table.upsertAll, Disk.loadStations, List.foldl_map]
    exact Table.getElem?_loadAll h StationRec.intoEntry k

def freqLoading : Loading (freqPart (F := F)) where
  load := FreqRec.intoEntry
  key := FreqRec.frequency
  Dated e := InDates e.lastHeard
  row_load k _ h := FreqRec.fromEntry_intoEntry k h
  load_dated r := fromMicros_dated r.lastHeardMicros
  hear_dated mapped p s h v hv := by
    have hget := WriteBack.getElem?_touch p.freqKey (FreqEntry.hear p) s.freqs p.freqKey
    rw [if_pos rfl] at hget
    cases hget.symm.trans hv
    exact h
  keyed_apply d c h := by
    cases c with
    | deleteFreq k => exact Table.deleteAll_keyed h [k]
    | upsertFreq k e => exact Table.upsertAll_keyed h [.fromEntry k e]
    | savePacketLifetime | deleteStation | upsertStation | deleteSatPackets | prunePackets
    | insertSatPacket | insertPacket => exact h
  boot instant d h k := by
    show (d.loadFreqs.foldl (fun (m : Table String FreqEntry) e => m.insert e.1 e.2) ∅)[k]? =
      (d.freqs[k]?).map _
    rw [Disk.loadFreqs, List.foldl_map]
    exact Table.getElem?_loadAll h FreqRec.intoEntry k

/-! ## Runs without store errors -/

section Runs

variable (satFreqs : List F) (historyHours : Nat)

def live (r : Task F × Disk F) (i : Input F) : Task F × Disk F :=
  let stepped := r.1.step satFreqs historyHours i
  (stepped.1, r.2.applyAll stepped.2)

def Task.after (s : Task F) (is : List (Input F)) : Task F :=
  is.foldl (fun s i => (s.step satFreqs historyHours i).1) s

/-- A state of the task since its last completed tick, or since its start. -/
def Recent (s₀ : Task F) (is : List (Input F)) (s : Task F) : Prop :=
  ∃ before since, is = before ++ since ∧ (∀ i ∈ since, i.isTick = false) ∧
    s = s₀.after satFreqs historyHours before

/-- The task stops inside a step, or it is cancelled. -/
inductive Stop (F : Type)
  | crash (i : DatedInput F)
  | cancel (orders : Orders)

def Stop.reached (s : Task F) : Stop F → Task F
  | .crash i => (s.step satFreqs historyHours i).1
  | .cancel _ => s

/-- The calls it is about to make. -/
def Stop.calls (s : Task F) : Stop F → List (Call F)
  | .crash i => (s.step satFreqs historyHours i).2
  | .cancel orders => s.finalFlush orders

variable {satFreqs historyHours} {V R : Type} {part : Part F V R} {s₀ s : Task F} {d : Disk F}
  {is : List (Input F)} {i : Input F} {k : String}

theorem recent_frame {s' : Task F} (h : Recent satFreqs historyHours s₀ is s')
    (hi : i.isTick = false) : Recent satFreqs historyHours s₀ (is ++ [i]) s' := by
  obtain ⟨before, since, rfl, hsince, rfl⟩ := h
  refine ⟨before, since ++ [i], List.append_assoc before since [i], ?_, rfl⟩
  intro j hj
  rcases List.mem_append.mp hj with hj | hj
  · exact hsince j hj
  · rw [List.mem_singleton.mp hj]
    exact hi

theorem recent_after (s₀ : Task F) (is : List (Input F)) :
    Recent satFreqs historyHours s₀ is (s₀.after satFreqs historyHours is) :=
  ⟨is, [], (List.append_nil is).symm, (fun _ hi => absurd hi List.not_mem_nil), rfl⟩

/-- What comes back from the row is the entry in memory, to the microsecond. -/
def Saved (loading : Loading part) (s : Task F) (d : Disk F) (k : String) : Prop :=
  ((part.rows d)[k]?).map (fun r => part.row k (loading.load r)) =
    ((part.cache s).mem[k]?).map (part.row k)

theorem saved_of_row {loading : Loading part}
    (hdated : ∀ v, (part.cache s).mem[k]? = some v → loading.Dated v)
    (h : (part.rows d)[k]? = ((part.cache s).mem[k]?).map (part.row k)) :
    Saved loading s d k := by
  rw [Saved, h]
  cases hv : (part.cache s).mem[k]? with
  | none => rfl
  | some v => exact congrArg some (loading.row_load k v (hdated v hv))

/-- After a run each row is that of a recent state, and that of the last state if its
key is not marked. -/
structure Kept (satFreqs : List F) (historyHours : Nat) (loading : Loading part) (s₀ : Task F)
    (is : List (Input F)) (s : Task F) (d : Disk F) : Prop where
  sound : s.Sound
  state : s = s₀.after satFreqs historyHours is
  keyed : Table.Keyed loading.key (part.rows d)
  dated : ∀ (k : String) (v : V), (part.cache s).mem[k]? = some v → loading.Dated v
  recent : ∃ s', Recent satFreqs historyHours s₀ is s' ∧ ∀ k, Saved loading s' d k
  clean : ∀ k ∉ (part.cache s).dirty, Saved loading s d k

theorem keyed_applyAll (loading : Loading part) (hd : Table.Keyed loading.key (part.rows d))
    (calls : List (Call F)) : Table.Keyed loading.key (part.rows (d.applyAll calls)) := by
  induction calls generalizing d with
  | nil => exact hd
  | cons c calls ih => exact ih (loading.keyed_apply d c hd)

theorem boot_kept (loading : Loading part) (instant : Nat)
    (hd : Table.Keyed loading.key (part.rows d)) :
    Kept satFreqs historyHours loading (Task.boot instant d) [] (Task.boot instant d) d := by
  have hsaved : ∀ k, Saved loading (Task.boot instant d) d k := by
    intro k
    rw [Saved, loading.boot instant d hd, Option.map_map]
    rfl
  refine ⟨Task.seed_sound _ _ _ _, rfl, hd, ?_, ⟨_, recent_after _ [], hsaved⟩,
    fun k _ => hsaved k⟩
  intro k v hv
  rw [loading.boot instant d hd] at hv
  obtain ⟨r, -, rfl⟩ := Option.map_eq_some_iff.mp hv
  exact loading.load_dated r

theorem after_concat (s₀ : Task F) (is : List (Input F)) (i : Input F) :
    s₀.after satFreqs historyHours (is ++ [i]) =
      ((s₀.after satFreqs historyHours is).step satFreqs historyHours i).1 :=
  List.foldl_concat ..

theorem Kept.hear {loading : Loading part} (h : Kept satFreqs historyHours loading s₀ is s d)
    {mapped : MappedPacket F} {p : RTPPacket F} (hp : InDates p.receivetime)
    (hi : i.isTick = false)
    (hstep : s.step satFreqs historyHours i = (s.hear mapped p, Task.packetCalls p)) :
    Kept satFreqs historyHours loading s₀ (is ++ [i]) (s.hear mapped p)
      (d.applyAll (Task.packetCalls p)) := by
  have hrows : part.rows (d.applyAll (Task.packetCalls p)) = part.rows d :=
    part.rows_packet (List.Subset.refl _) d
  obtain ⟨f, hf⟩ := part.hear mapped p s
  obtain ⟨s', hrecent, hsaved⟩ := h.recent
  refine ⟨h.sound.hear mapped p, ?_, keyed_applyAll loading h.keyed _, ?_,
    ⟨s', recent_frame hrecent hi, ?_⟩, ?_⟩
  · rw [after_concat, ← h.state, hstep]
  · intro k v hv
    by_cases hk : part.heard p = k
    · exact loading.hear_dated mapped p s hp v (hk ▸ hv)
    · rw [hf, WriteBack.getElem?_touch, if_neg hk] at hv
      exact h.dated k v hv
  · intro k
    rw [Saved, hrows]
    exact hsaved k
  · intro k hk
    rw [hf, WriteBack.mem_dirty_touch, not_or] at hk
    rw [Saved, hrows, hf, WriteBack.getElem?_touch, if_neg fun he => hk.1 he.symm]
    exact h.clean k hk.2

theorem tick_dated {loading : Loading part} (h : Kept satFreqs historyHours loading s₀ is s d)
    (world : TickWorld) (k : String) (v : V)
    (hv : (part.cache (s.tick historyHours world).1).mem[k]? = some v) : loading.Dated v := by
  rw [(part.tick historyHours world s h.sound).1, WriteBack.getElem?_evict] at hv
  split at hv
  · cases hv
  · exact h.dated k v hv

theorem Kept.tick {loading : Loading part} (h : Kept satFreqs historyHours loading s₀ is s d)
    {world : TickWorld} (hi : i = .tick world) :
    Kept satFreqs historyHours loading s₀ (is ++ [i]) (s.tick historyHours world).1
      (d.applyAll (s.tick historyHours world).2) := by
  have hstate : (s.tick historyHours world).1 = s₀.after satFreqs historyHours (is ++ [i]) := by
    rw [after_concat, ← h.state, hi]
    rfl
  have hsaved : ∀ k, Saved loading (s.tick historyHours world).1
      (d.applyAll (s.tick historyHours world).2) k := by
    intro k
    by_cases hwrite : k ∈ ((s.tick historyHours world).2.filterMap part.write).map Write.key
    · refine saved_of_row (tick_dated h world k) ?_
      rw [part.rows_tick h.sound historyHours world (List.Subset.refl _), if_pos hwrite]
    · rw [Saved, part.rows_tick h.sound historyHours world (List.Subset.refl _), if_neg hwrite]
      rw [part.mem_tick_keys h.sound, not_or] at hwrite
      rw [part.mem_tick_other h.sound historyHours world hwrite.1]
      exact h.clean k hwrite.2
  exact ⟨h.sound.tick historyHours world, hstate, keyed_applyAll loading h.keyed _,
    tick_dated h world, ⟨_, hstate ▸ recent_after s₀ _, hsaved⟩, fun k _ => hsaved k⟩

theorem Kept.step {loading : Loading part} (h : Kept satFreqs historyHours loading s₀ is s d)
    (hi : i.Dated) :
    Kept satFreqs historyHours loading s₀ (is ++ [i]) (s.step satFreqs historyHours i).1
      (d.applyAll (s.step satFreqs historyHours i).2) := by
  cases Task.step_cases satFreqs historyHours s i with
  | skip world fr hframe hp hstep =>
    have hframe' : i.isTick = false := hframe ▸ rfl
    obtain ⟨s', hrecent, hsaved⟩ := h.recent
    have hstate : s = s₀.after satFreqs historyHours (is ++ [i]) := by
      rw [after_concat, ← h.state, hstep]
    rw [hstep]
    exact ⟨h.sound, hstate, h.keyed, h.dated, ⟨s', recent_frame hrecent hframe', hsaved⟩, h.clean⟩
  | hear world fr mapped p hframe _ hmap hp hstep =>
    have hframe' : i.isTick = false := hframe ▸ rfl
    subst hframe
    rw [hstep]
    exact h.hear (packet_dated hi hmap hp) hframe' hstep
  | tick world htick hstep =>
    rw [hstep]
    exact h.tick htick

theorem run_kept (loading : Loading part) (instant : Nat)
    (hd : Table.Keyed loading.key (part.rows d)) (is : List (DatedInput F)) :
    let ran := (is.map Subtype.val).foldl (live satFreqs historyHours) (Task.boot instant d, d)
    Kept satFreqs historyHours loading (Task.boot instant d) (is.map Subtype.val) ran.1 ran.2 := by
  induction is using List.reverseRecOn with
  | nil => exact boot_kept loading instant hd
  | append_singleton is i ih =>
    rw [List.map_append, List.map_singleton, List.foldl_concat]
    exact ih.step i.property

/-! ## Stops -/

theorem rows_finalFlush (part : Part F V R) (h : s.Sound) (orders : Orders)
    {calls : List (Call F)} (hsub : calls ⊆ s.finalFlush orders) (d : Disk F) (k : String) :
    (part.rows (d.applyAll calls))[k]? =
      if k ∈ (calls.filterMap part.write).map Write.key then
        ((part.cache s).mem[k]?).map (part.row k)
      else (part.rows d)[k]? := by
  obtain ⟨dirty, hflush⟩ := part.finalFlush orders s h
  have hreflect : Write.Reflect (part.cache s).mem (calls.filterMap part.write) := by
    intro w hw
    obtain ⟨c, hc, hcw⟩ := List.mem_filterMap.mp hw
    have hmem : w ∈ (s.finalFlush orders).filterMap part.write :=
      List.mem_filterMap.mpr ⟨c, hsub hc, hcw⟩
    exact WriteBack.reflect_upserts dirty (part.cache s) w (hflush ▸ hmem)
  rw [part.rows_applyAll, Write.getElem?_stores part.row hreflect]

/-- Whatever calls of a stop are made, a row is that of a recent state or of the last
one. -/
theorem Kept.stop {loading : Loading part} (h : Kept satFreqs historyHours loading s₀ is s d)
    (stop : Stop F) {calls : List (Call F)}
    (hsub : calls ⊆ stop.calls satFreqs historyHours s) (k : String) :
    ∃ s', (Recent satFreqs historyHours s₀ is s' ∨ s' = stop.reached satFreqs historyHours s) ∧
      Saved loading s' (d.applyAll calls) k := by
  obtain ⟨s', hrecent, hsaved⟩ := h.recent
  have hold : (part.rows (d.applyAll calls))[k]? = (part.rows d)[k]? →
      ∃ s', (Recent satFreqs historyHours s₀ is s' ∨ s' = stop.reached satFreqs historyHours s) ∧
        Saved loading s' (d.applyAll calls) k := by
    intro hsame
    refine ⟨s', Or.inl hrecent, ?_⟩
    rw [Saved, hsame]
    exact hsaved k
  cases stop with
  | cancel orders =>
    have hrows := rows_finalFlush part h.sound orders hsub d k
    split at hrows
    · exact ⟨s, Or.inr rfl, saved_of_row (h.dated k) hrows⟩
    · exact hold hrows
  | crash i =>
    replace hsub : calls ⊆ (s.step satFreqs historyHours i).2 := hsub
    cases Task.step_cases satFreqs historyHours s i with
    | skip _ _ _ _ hstep =>
      rw [hstep] at hsub
      rw [List.subset_nil.mp hsub] at hold ⊢
      exact hold rfl
    | hear _ _ _ _ _ _ _ _ hstep =>
      rw [hstep] at hsub
      exact hold (by rw [part.rows_packet hsub])
    | tick world _ hstep =>
      rw [hstep] at hsub
      have hrows := part.rows_tick h.sound historyHours world hsub d k
      split at hrows
      · refine ⟨_, Or.inr rfl, ?_⟩
        rw [Stop.reached, hstep]
        exact saved_of_row (tick_dated h world k) hrows
      · exact hold hrows

/-- The final flush writes what is marked, and the rest is there already. -/
theorem Kept.cancel {loading : Loading part} (h : Kept satFreqs historyHours loading s₀ is s d)
    (orders : Orders) (k : String) : Saved loading s (d.applyAll (s.finalFlush orders)) k := by
  have hrows := rows_finalFlush part h.sound orders (List.Subset.refl _) d k
  obtain ⟨dirty, hflush⟩ := part.finalFlush orders s h.sound
  split at hrows
  · exact saved_of_row (h.dated k) hrows
  · next hwrite =>
    rw [hflush, WriteBack.mem_keys_upserts (part.marked s h.sound)] at hwrite
    rw [Saved, hrows]
    exact h.clean k hwrite

/-- What a restart finds. -/
theorem restart_saved {loading : Loading part} (hd : Table.Keyed loading.key (part.rows d))
    (instant : Nat) (h : Saved loading s d k) :
    ((part.cache (Task.boot instant d)).mem[k]?).map (part.row k) =
      ((part.cache s).mem[k]?).map (part.row k) := by
  rw [loading.boot instant d hd, Option.map_map]
  exact h

/-! ## The lifetime counters -/

/-- The totals on disk are those of a recent state. -/
def Totalled (satFreqs : List F) (historyHours : Nat) (s₀ : Task F) (is : List (Input F))
    (d : Disk F) : Prop :=
  ∃ s', Recent satFreqs historyHours s₀ is s' ∧ loadedTotals d = s'.counters.lifetime.heard

theorem Totalled.step (h : Totalled satFreqs historyHours s₀ is d)
    (hs : s = s₀.after satFreqs historyHours is) (i : Input F) :
    Totalled satFreqs historyHours s₀ (is ++ [i])
      (d.applyAll (s.step satFreqs historyHours i).2) := by
  obtain ⟨s', hrecent, htotals⟩ := h
  cases Task.step_cases satFreqs historyHours s i with
  | skip _ _ hi _ hstep =>
    rw [hstep]
    exact ⟨s', recent_frame hrecent (hi ▸ rfl), htotals⟩
  | hear _ _ _ p hi _ _ _ hstep =>
    refine ⟨s', recent_frame hrecent (hi ▸ rfl), ?_⟩
    rw [hstep, loadedTotals, applyAll_packetLifetime, packetCalls_saves]
    exact htotals
  | tick world hi hstep =>
    refine ⟨(s.tick historyHours world).1, ?_, ?_⟩
    · have hafter := @recent_after F _ _ satFreqs historyHours s₀ (is ++ [i])
      rwa [after_concat, ← hs, hstep] at hafter
    · rw [hstep, loadedTotals, applyAll_packetLifetime, tick_saves]
      rfl

theorem run_totalled (instant : Nat) (d : Disk F) (is : List (Input F)) :
    let ran := is.foldl (live satFreqs historyHours) (Task.boot instant d, d)
    ran.1 = (Task.boot instant d).after satFreqs historyHours is ∧
      Totalled satFreqs historyHours (Task.boot instant d) is ran.2 := by
  induction is using List.reverseRecOn with
  | nil => exact ⟨rfl, _, recent_after _ [], rfl⟩
  | append_singleton is i ih =>
    rw [List.foldl_concat]
    refine ⟨?_, ih.2.step ih.1 i⟩
    rw [after_concat, ← ih.1]
    rfl

theorem Totalled.stop (h : Totalled satFreqs historyHours s₀ is d) (stop : Stop F) (n : Nat) :
    ∃ s', (Recent satFreqs historyHours s₀ is s' ∨ s' = stop.reached satFreqs historyHours s) ∧
      loadedTotals (d.applyAll ((stop.calls satFreqs historyHours s).take n)) =
        s'.counters.lifetime.heard := by
  obtain ⟨s', hrecent, htotals⟩ := h
  have hsaves : (((stop.calls satFreqs historyHours s).take n).filterMap Call.savedRow).Sublist
      [(stop.reached satFreqs historyHours s).counters.lifetime.packetLifetime] := by
    refine ((List.take_sublist n _).filterMap Call.savedRow).trans ?_
    cases stop with
    | cancel orders => exact (finalFlush_saves s orders).symm ▸ List.Sublist.refl _
    | crash i => exact Task.step_saves satFreqs historyHours s i
  rcases applyAll_saves hsaves d with hsame | hnew
  · refine ⟨s', Or.inl hrecent, ?_⟩
    rw [loadedTotals, hsame]
    exact htotals
  · refine ⟨_, Or.inr rfl, ?_⟩
    rw [loadedTotals, hnew]
    rfl

/-! ## What a restart finds -/

def SameStation (k : String) (a b : Task F) : Prop :=
  (a.stationMap[k]?).map StationRec.fromEntry = (b.stationMap[k]?).map StationRec.fromEntry

def SameFreq (k : String) (a b : Task F) : Prop :=
  (a.freqCounts[k]?).map (FreqRec.fromEntry k) = (b.freqCounts[k]?).map (FreqRec.fromEntry k)

def SameTotals (a b : Task F) : Prop := a.counters.lifetime.heard = b.counters.lifetime.heard

/-- A restart after a stop finds each station, each frequency and the totals as they
were at the end of the last completed tick or later.  After a cancellation it finds
them as they were then. -/
theorem stop_loses_one_tick (satFreqs : List F) (historyHours : Nat) (rows : StoredRows F)
    (started instant : Nat) (is : List (DatedInput F)) :
    let s₀ := Task.boot started rows.disk
    let inputs := is.map Subtype.val
    let ran := inputs.foldl (live satFreqs historyHours) (s₀, rows.disk)
    (∀ (stop : Stop F) (n : Nat),
      let restarted := Task.boot instant
        (ran.2.applyAll ((stop.calls satFreqs historyHours ran.1).take n))
      let Reached := fun s => Recent satFreqs historyHours s₀ inputs s ∨
        s = stop.reached satFreqs historyHours ran.1
      (∀ k, ∃ s, Reached s ∧ SameStation k restarted s) ∧
        (∀ k, ∃ s, Reached s ∧ SameFreq k restarted s) ∧
          ∃ s, Reached s ∧ SameTotals restarted s) ∧
    ∀ orders,
      let restarted := Task.boot instant (ran.2.applyAll (ran.1.finalFlush orders))
      (∀ k, SameStation k restarted ran.1) ∧ (∀ k, SameFreq k restarted ran.1) ∧
        SameTotals restarted ran.1 := by
  intro s₀ inputs ran
  have hstations : Kept satFreqs historyHours stationLoading s₀ inputs ran.1 ran.2 :=
    run_kept stationLoading started (Table.upsertAll_keyed Table.keyed_empty _) is
  have hfreqs : Kept satFreqs historyHours freqLoading s₀ inputs ran.1 ran.2 :=
    run_kept freqLoading started (Table.upsertAll_keyed Table.keyed_empty _) is
  have htotals := (@run_totalled F _ _ satFreqs historyHours started rows.disk inputs).2
  constructor
  · intro stop n restarted Reached
    refine ⟨fun k => ?_, fun k => ?_, htotals.stop stop n⟩
    · obtain ⟨s, hs, hsaved⟩ := hstations.stop stop (List.take_subset n _) k
      exact ⟨s, hs, restart_saved (keyed_applyAll stationLoading hstations.keyed _) instant hsaved⟩
    · obtain ⟨s, hs, hsaved⟩ := hfreqs.stop stop (List.take_subset n _) k
      exact ⟨s, hs, restart_saved (keyed_applyAll freqLoading hfreqs.keyed _) instant hsaved⟩
  · intro orders restarted
    refine ⟨fun k => ?_, fun k => ?_, loadedTotals_finalFlush ran.1 ran.2 orders⟩
    · exact restart_saved (keyed_applyAll stationLoading hstations.keyed _) instant
        (hstations.cancel orders k)
    · exact restart_saved (keyed_applyAll freqLoading hfreqs.keyed _) instant
        (hfreqs.cancel orders k)

end Runs

end Listener
end Rtpigate
