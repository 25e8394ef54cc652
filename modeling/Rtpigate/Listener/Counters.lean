/-
The counters of the listener agree.

A packet is counted as direct or digipeated in the interval, in the lifetime and in the
entry of its station, and a tick moves the interval into the series.  Every call writes
what the memory holds, so that a restart takes up counters that agree, whichever calls
have failed.
-/
import Rtpigate.Buckets
import Rtpigate.Listener.Loop

namespace Rtpigate

open Lib

variable {F : Type}

/-! ## What agrees -/

def StationEntry.Consistent (e : StationEntry F) : Prop :=
  e.count = e.countDirect + e.countDigipeated

def StationRec.Consistent (r : StationRec F) : Prop := r.count = r.countDirect + r.countDigipeated

def PacketLifetime.Consistent (row : PacketLifetime) : Prop :=
  row.total = row.heardDirect + row.digipeated

namespace Listener

/-- Every point of the packets has its share in the other two series. -/
def SeriesSet.Agree (set : SeriesSet) : Prop :=
  ∀ (n : Nat) (p : DataPoint), set.packets.data[n]? = some p →
    ∃ direct digipeated, set.heardDirect.data[n]? = some direct ∧
      set.digipeated.data[n]? = some digipeated ∧ p.value = direct.value + digipeated.value

structure Disk.Counted (d : Disk F) : Prop where
  lifetime : ∀ row, d.packetLifetime = some row → row.Consistent
  stations : ∀ (k : String) (r : StationRec F), d.stations[k]? = some r → r.Consistent

structure Task.Counted (s : Task F) : Prop where
  lifetime : s.counters.lifetime.Consistent
  counters : s.counters.Counted
  stations : ∀ (k : String) (e : StationEntry F), s.stationMap[k]? = some e → e.Consistent

/-- What a call writes agrees. -/
def Call.Counted : Call F → Prop
  | .savePacketLifetime row => row.Consistent
  | .upsertStation e => e.Consistent
  | _ => True

theorem SeriesSet.Shows.agree {set : SeriesSet} {ticks : List Tick} (h : set.Shows ticks)
    (hticks : ∀ x ∈ ticks, x.counts.Consistent) : set.Agree := by
  intro n p hp
  rw [h.packets, List.getElem?_map] at hp
  obtain ⟨x, hx, rfl⟩ := Option.map_eq_some_iff.mp hp
  refine ⟨⟨x.now, x.counts.heardDirect⟩, ⟨x.now, x.counts.digipeated⟩, ?_, ?_,
    hticks x (List.mem_of_getElem? hx)⟩
  · rw [h.heardDirect, List.getElem?_map, hx]
    rfl
  · rw [h.digipeated, List.getElem?_map, hx]
    rfl

/-! ## The store -/

section Store

variable [F64 F]

theorem Disk.Counted.apply {d : Disk F} (h : d.Counted) {c : Call F} (hc : c.Counted) :
    (d.apply c).Counted := by
  cases c with
  | savePacketLifetime row => exact ⟨fun _ hrow => by cases hrow; exact hc, h.stations⟩
  | deleteStation callsign =>
    refine ⟨h.lifetime, fun k r hr => ?_⟩
    rw [Disk.apply, Table.getElem?_erase_ite] at hr
    split at hr
    · cases hr
    · exact h.stations k r hr
  | upsertStation e =>
    refine ⟨h.lifetime, fun k r hr => ?_⟩
    rw [Disk.apply, Table.getElem?_insert_ite] at hr
    split at hr
    · cases hr
      exact hc
    · exact h.stations k r hr
  | deleteFreq | upsertFreq | deleteSatPackets | prunePackets | insertSatPacket | insertPacket =>
    exact ⟨h.lifetime, h.stations⟩

theorem Disk.Counted.applyAll {d : Disk F} (h : d.Counted) {calls : List (Call F)}
    (hcalls : ∀ c ∈ calls, c.Counted) : (d.applyAll calls).Counted := by
  induction calls generalizing d with
  | nil => exact h
  | cons c calls ih =>
    exact ih (h.apply (hcalls c List.mem_cons_self)) fun c hc =>
      hcalls c (List.mem_cons_of_mem _ hc)

end Store

theorem Disk.Counted.loadStations {d : Disk F} (h : d.Counted) :
    ∀ e ∈ d.loadStations, e.Consistent := by
  intro e he
  obtain ⟨r, hr, rfl⟩ := List.mem_map.mp he
  obtain ⟨⟨k, r'⟩, hmem, rfl⟩ := List.mem_map.mp hr
  exact h.stations k r' (Std.ExtTreeMap.mem_toList_iff_getElem?_eq_some.mp hmem)

theorem Disk.Counted.seed {d : Disk F} (h : d.Counted) (loads : Loads) :
    (loads.seed d).Counted := by
  have hlifetime : (loads.seed d).counters.lifetime.Consistent := by
    show ((if loads.lifetime = true then some (loadPacketLifetime d.packetLifetime)
      else none).elim {} Counts.ofPacketLifetime).Consistent
    split
    · cases hrow : d.packetLifetime with
      | none => rfl
      | some row => exact h.lifetime row hrow
    · rfl
  refine ⟨hlifetime, start_counted _, fun k e he => ?_⟩
  rcases Table.mem_of_upsertAll he with hmem | hempty
  · split at hmem
    · exact h.loadStations e hmem
    · cases hmem
  · rw [Std.ExtTreeMap.getElem?_empty] at hempty
    cases hempty

/-! ## The task -/

section Task

variable [F64 F]

theorem StationEntry.hear_count (p : RTPPacket F) (symTable symCode : Option Char)
    (e : Option (StationEntry F)) :
    (StationEntry.hear p symTable symCode e).count = (e.getD (.ofPacket p)).count + 1 ∧
      (StationEntry.hear p symTable symCode e).countDirect =
        (e.getD (.ofPacket p)).countDirect + p.heardDirect.toNat ∧
      (StationEntry.hear p symTable symCode e).countDigipeated =
        (e.getD (.ofPacket p)).countDigipeated + (!p.heardDirect).toNat := by
  have hposition : ∀ e : StationEntry F, (e.position p).count = e.count ∧
      (e.position p).countDirect = e.countDirect ∧
      (e.position p).countDigipeated = e.countDigipeated := by
    intro e
    rw [StationEntry.position]
    split <;> exact ⟨rfl, rfl, rfl⟩
  have haltitude : ∀ e : StationEntry F, (e.altitude p).count = e.count ∧
      (e.altitude p).countDirect = e.countDirect ∧
      (e.altitude p).countDigipeated = e.countDigipeated := by
    intro e
    rw [StationEntry.altitude]
    cases p.altitudeFt with
    | none => exact ⟨rfl, rfl, rfl⟩
    | some alt =>
      show (if _ then _ else _ : StationEntry F).count = _ ∧
        (if _ then _ else _ : StationEntry F).countDirect = _ ∧
        (if _ then _ else _ : StationEntry F).countDigipeated = _
      split <;> exact ⟨rfl, rfl, rfl⟩
  obtain ⟨hc, hdirect, hdigi⟩ := haltitude (((e.getD (.ofPacket p)).countPacket p).position p)
  obtain ⟨hc', hdirect', hdigi'⟩ := hposition ((e.getD (.ofPacket p)).countPacket p)
  exact ⟨hc.trans hc', hdirect.trans hdirect', hdigi.trans hdigi'⟩

theorem StationEntry.Consistent.hear {e : Option (StationEntry F)}
    (h : ∀ old, e = some old → old.Consistent) (p : RTPPacket F) (symTable symCode : Option Char) :
    (StationEntry.hear p symTable symCode e).Consistent := by
  obtain ⟨hcount, hdirect, hdigi⟩ := hear_count p symTable symCode e
  have hold : (e.getD (.ofPacket p)).Consistent := by
    cases e with
    | none => rfl
    | some old => exact h old rfl
  rw [StationEntry.Consistent] at hold ⊢
  rw [hcount, hdirect, hdigi, hold]
  cases p.heardDirect <;> simp only [Bool.toNat_true, Bool.toNat_false, Bool.not_true,
    Bool.not_false] <;> omega

variable [Display3 F] {s : Task F}

theorem Task.Counted.hear (h : s.Counted) (mapped : MappedPacket F) (p : RTPPacket F) :
    (s.hear mapped p).Counted where
  lifetime := h.lifetime.frame p.heardDirect
  counters := ⟨h.counters.interval.frame p.heardDirect, h.counters.series⟩
  stations k e he := by
    have hget := WriteBack.getElem?_touch p.stationKey
      (StationEntry.hear p mapped.symbolTable mapped.symbolCode) s.stations k
    rw [show (s.hear mapped p).stationMap[k]? = _ from hget] at he
    split at he
    · next hk =>
      cases he
      subst hk
      exact StationEntry.Consistent.hear (h.stations p.stationKey) p _ _
    · exact h.stations k e he

omit [F64 F] [Display3 F] in
/-- The entries that are left are entries of the table. -/
theorem Task.Counted.evict (h : s.Counted) (old : StationEntry F → Bool) {k : String}
    {e : StationEntry F} (he : (s.stations.evict old).mem[k]? = some e) : e.Consistent := by
  rw [WriteBack.getElem?_evict] at he
  split at he
  · cases he
  · exact h.stations k e he

omit [Display3 F] in
theorem Task.Counted.tick (h : s.Counted) (historyHours : Nat) (world : TickWorld) :
    (s.tick historyHours world).1.Counted where
  lifetime := h.lifetime
  counters := (tick_counted (F := F) h.counters world.theTime world.utc).1
  stations _ _ he := h.evict (stationExpired world.now) he

omit [F64 F] [Display3 F] in
/-- The upserts carry what the table holds. -/
theorem upserts_counted {mem : WriteBack String (StationEntry F)}
    (h : ∀ (k : String) (e : StationEntry F), mem.mem[k]? = some e → e.Consistent)
    (sh : Shuffle String) :
    ∀ c ∈ (WriteBack.upserts sh mem).map (stationCall (F := F)), c.Counted := by
  intro c hc
  obtain ⟨w, hw, rfl⟩ := List.mem_map.mp hc
  have hvalue := WriteBack.reflect_upserts sh mem w hw
  cases w with
  | delete k => trivial
  | upsert k e => exact h k e hvalue.symm

omit [F64 F] [Display3 F] in
theorem freqCall_counted (ws : List (Write String FreqEntry)) :
    ∀ c ∈ ws.map (freqCall (F := F)), c.Counted := by
  intro c hc
  obtain ⟨w, -, rfl⟩ := List.mem_map.mp hc
  cases w <;> trivial

omit [Display3 F] in
theorem Task.Counted.tick_calls (h : s.Counted) (historyHours : Nat) (world : TickWorld) :
    ∀ c ∈ (s.tick historyHours world).2, c.Counted := by
  intro c hc
  simp only [Task.tick, List.mem_append] at hc
  rcases hc with ((((hc | hc) | hc) | hc) | hc) | hc
  · rw [List.mem_singleton.mp hc]
    exact h.lifetime
  · obtain ⟨w, hw, rfl⟩ := List.mem_map.mp hc
    obtain ⟨k, -, rfl⟩ := List.mem_map.mp hw
    trivial
  · exact freqCall_counted _ c hc
  · exact upserts_counted (fun _ _ he => h.evict (stationExpired world.now) he) _ c hc
  · exact freqCall_counted _ c hc
  · rcases List.mem_pair.mp hc with rfl | rfl <;> trivial

omit [F64 F] [Display3 F] in
theorem Task.Counted.flush_calls (h : s.Counted) (orders : Orders) :
    ∀ c ∈ s.finalFlush orders, c.Counted := by
  intro c hc
  simp only [Task.finalFlush, List.mem_append] at hc
  rcases hc with (hc | hc) | hc
  · rw [List.mem_singleton.mp hc]
    exact h.lifetime
  · exact upserts_counted h.stations _ c hc
  · exact freqCall_counted _ c hc

omit [F64 F] [Display3 F] in
theorem packetCalls_counted (p : RTPPacket F) : ∀ c ∈ Task.packetCalls p, c.Counted := by
  intro c hc
  rw [Task.packetCalls, List.mem_append, List.mem_singleton] at hc
  rcases hc with hc | rfl
  · split at hc
    · rw [List.mem_singleton.mp hc]
      trivial
    · cases hc
  · trivial

theorem Task.Counted.frame (h : s.Counted) (satFreqs : List F) (world : FrameWorld F)
    (fr : AprsFrame F) : (s.frame satFreqs world fr).1.Counted ∧
      ∀ c ∈ (s.frame satFreqs world fr).2, c.Counted := by
  rw [Task.frame]
  split
  · exact ⟨h, fun _ hc => by cases hc⟩
  · next mapped _ => exact ⟨h.hear mapped _, packetCalls_counted _⟩

end Task

/-! ## The process -/

/-- A listener since its start, with the lifetime total it began with and the points of
`total_packets` it has published. -/
structure Running (F : Type) where
  settings : Settings F
  loop : Loop F
  startTotal : Nat
  emitted : List DataPoint := []

structure LoopProcess (F : Type) where
  disk : Disk F
  running : Option (Running F) := none

/-- `ok` says which transactions of a step succeed. -/
inductive LoopProcessInput (F : Type)
  | start (settings : Settings F) (loads : Loads)
  | step (i : LoopInput F) (ok : Nat → Bool)
  | kill

def LoopEvent.transaction : LoopEvent F → Option (Call F)
  | .call c => some c
  | .send _ | .sleep _ => none

/-- The point a message adds to those published before. -/
def LoopEvent.point : LoopEvent F → Option DataPoint
  | .send (.tlm (.packetStatus t)) => t.totalPackets.data.getLast?
  | _ => none

def Running.begin (settings : Settings F) (task : Task F) : Running F where
  settings := settings
  loop := { task }
  startTotal := task.counters.lifetime.totalPackets

variable [F64 F] [Display3 F]

def LoopProcess.next (pr : LoopProcess F) (i : LoopProcessInput F) :
    LoopProcess F × List (LoopEvent F) :=
  match i, pr.running with
  | .start settings loads, _ =>
    ({ pr with running := some (.begin settings (loads.seed pr.disk)) }, [])
  | .step i ok, some r =>
    let stepped := r.loop.step r.settings i
    ({ disk := pr.disk.applyAll (performed ok (stepped.2.filterMap LoopEvent.transaction))
       running := some { r with
        loop := stepped.1
        emitted := r.emitted ++ stepped.2.filterMap LoopEvent.point } }, stepped.2)
  | .step _ _, none => (pr, [])
  | .kill, _ => ({ pr with running := none }, [])

/-- What is said of the counters of a listener. -/
structure Running.Agrees (r : Running F) : Prop where
  lifetime : r.loop.task.counters.lifetime.Consistent
  interval : r.loop.task.counters.interval.Consistent
  series : r.loop.task.counters.series.Agree
  stations : ∀ (k : String) (e : StationEntry F), r.loop.task.stationMap[k]? = some e →
    e.Consistent
  total : r.loop.task.counters.lifetime.totalPackets =
    r.startTotal + (r.emitted.map DataPoint.value).sum + r.loop.task.counters.interval.totalPackets

/-- The counters agree, and what has been counted since the start is in the points
published or in the interval. -/
structure Running.Counted (r : Running F) : Prop where
  task : r.loop.task.Counted
  total : r.loop.task.counters.lifetime.totalPackets =
    r.startTotal + (r.emitted.map DataPoint.value).sum + r.loop.task.counters.interval.totalPackets

omit [F64 F] [Display3 F] in
theorem Running.Counted.agrees {r : Running F} (h : r.Counted) : r.Agrees where
  lifetime := h.task.lifetime
  interval := h.task.counters.interval
  series := by
    obtain ⟨ticks, hshows, hticks⟩ := h.task.counters.series
    exact hshows.agree fun x hx => hticks x (List.mem_of_mem_drop hx)
  stations := h.task.stations
  total := h.total

omit [F64 F] in
theorem push_getLast (s : DataSeries) (p : DataPoint) : (s.push p).data.getLast? = some p := by
  show (if DataSeries.window < (s.data ++ [p]).length then (s.data ++ [p]).tail
    else s.data ++ [p]).getLast? = _
  split
  · next h =>
    have hne : (s.data ++ [p]).tail ≠ [] := by
      intro hnil
      have hlen := congrArg List.length hnil
      rw [List.length_tail, List.length_nil] at hlen
      rw [DataSeries.window] at h
      omega
    rw [List.getLast?_eq_some_getLast hne, List.getLast_tail, List.getLast_append_singleton]
  · exact List.getLast?_concat

/-! ## Steps -/

omit [F64 F] [Display3 F] in
theorem transaction_calls (calls : List (Call F)) :
    (calls.map LoopEvent.call).filterMap LoopEvent.transaction = calls := by
  rw [List.filterMap_map]
  exact List.filterMap_some

omit [F64 F] [Display3 F] in
theorem point_calls (calls : List (Call F)) :
    (calls.map LoopEvent.call).filterMap LoopEvent.point = [] :=
  filterMap_map_nil (fun _ => rfl) calls

/-- The listener after a step, with the points the step publishes. -/
def Running.after (r : Running F) (stepped : Loop F × List (LoopEvent F)) : Running F :=
  { r with
    loop := stepped.1
    emitted := r.emitted ++ stepped.2.filterMap LoopEvent.point }

/-- The counters still agree, and the calls write what agrees. -/
structure Running.Steps (r : Running F) (stepped : Loop F × List (LoopEvent F)) : Prop where
  counted : (r.after stepped).Counted
  calls : ∀ c ∈ stepped.2.filterMap LoopEvent.transaction, c.Counted

omit [F64 F] [Display3 F] in
/-- A step that counts nothing and publishes nothing. -/
theorem Running.Counted.idle {r : Running F} (h : r.Counted) {loop : Loop F}
    {events : List (LoopEvent F)} (htask : loop.task = r.loop.task)
    (hpoint : events.filterMap LoopEvent.point = [])
    (hcalls : ∀ c ∈ events.filterMap LoopEvent.transaction, c.Counted) :
    r.Steps (loop, events) where
  counted := by
    refine ⟨htask ▸ h.task, ?_⟩
    show loop.task.counters.lifetime.totalPackets = r.startTotal +
      ((r.emitted ++ events.filterMap LoopEvent.point).map DataPoint.value).sum +
        loop.task.counters.interval.totalPackets
    rw [htask, hpoint, List.append_nil]
    exact h.total
  calls := hcalls

theorem Running.Counted.frame {r : Running F} (h : r.Counted) (world : FrameWorld F)
    (fr : AprsFrame F) : r.Steps (r.loop.frame r.settings world fr) := by
  obtain ⟨htask, hcalls⟩ := h.task.frame r.settings.satFreqs world fr
  have hpacket : ∀ o : Option (RTPPacket F),
      (o.map fun p => LoopEvent.send (.pkt p)).toList.filterMap LoopEvent.point = [] ∧
        (o.map fun p => LoopEvent.send (.pkt p)).toList.filterMap LoopEvent.transaction = [] := by
    intro o
    cases o <;> exact ⟨rfl, rfl⟩
  obtain ⟨hpoint, htransaction⟩ := hpacket (packet r.settings.satFreqs world fr)
  refine ⟨⟨htask, ?_⟩, ?_⟩
  · show (r.loop.task.frame r.settings.satFreqs world fr).1.counters.lifetime.totalPackets =
      r.startTotal + ((r.emitted ++ List.filterMap _ (_ ++ _)).map DataPoint.value).sum +
        (r.loop.task.frame r.settings.satFreqs world fr).1.counters.interval.totalPackets
    rw [List.filterMap_append, point_calls, hpoint, List.append_nil, List.append_nil, Task.frame]
    split
    · exact h.total
    · show _ + 1 = _ + (_ + 1)
      rw [h.total, Nat.add_assoc]
  · intro c hc
    rw [Loop.frame, List.filterMap_append, transaction_calls, htransaction, List.append_nil] at hc
    exact hcalls c hc

omit [Display3 F] in
theorem Running.Counted.tick {r : Running F} (h : r.Counted) (world : TickWorld) :
    r.Steps (r.loop.tick r.settings world) := by
  refine ⟨⟨h.task.tick r.settings.historyHours world, ?_⟩, ?_⟩
  · have hpoint : (r.loop.tick r.settings world).2.filterMap LoopEvent.point =
        [⟨world.theTime, r.loop.task.counters.interval.totalPackets⟩] := by
      have hlast : LoopEvent.point (.send (.tlm (.packetStatus (Listener.tick (F := F)
          world.theTime world.utc r.loop.task.counters).2))) =
            some ⟨world.theTime, r.loop.task.counters.interval.totalPackets⟩ :=
        push_getLast _ _
      rw [Loop.tick, List.filterMap_append, point_calls, List.append_nil,
        List.filterMap_cons_some hlast]
      rfl
    show r.loop.task.counters.lifetime.totalPackets = r.startTotal +
      ((r.emitted ++ (r.loop.tick r.settings world).2.filterMap LoopEvent.point).map
        DataPoint.value).sum + 0
    rw [hpoint, List.map_append, List.sum_append, h.total]
    simp only [List.map_cons, List.map_nil, List.sum_cons, List.sum_nil]
    omega
  · intro c hc
    rw [Loop.tick, List.filterMap_append, transaction_calls] at hc
    exact h.task.tick_calls r.settings.historyHours world c hc

omit [F64 F] [Display3 F] in
theorem Running.Counted.shutdown {r : Running F} (h : r.Counted) (orders : Orders) :
    r.Steps (r.loop.shutdown orders) := by
  refine h.idle rfl (point_calls _) fun c hc => ?_
  rw [transaction_calls] at hc
  exact h.task.flush_calls orders c hc

theorem Running.Counted.step {r : Running F} (h : r.Counted) (i : LoopInput F) :
    r.Steps (r.loop.step r.settings i) := by
  have hidle : ∀ loop : Loop F, loop.task = r.loop.task → r.Steps (loop, []) :=
    fun loop htask => h.idle htask rfl fun _ hc => by cases hc
  cases hphase : r.loop.phase with
  | ended =>
    rw [show r.loop.step r.settings i = (r.loop, []) by cases i <;> simp only [Loop.step, hphase]]
    exact hidle r.loop rfl
  | outer =>
    cases i with
    | subscribe ok =>
      cases ok with
      | true => simp only [Loop.step, hphase]; exact hidle _ rfl
      | false =>
        simp only [Loop.step, hphase]
        exact h.idle rfl rfl fun _ hc => by cases hc
    | cancel orders => simp only [Loop.step, hphase]; exact h.shutdown orders
    | frame | codecError | ioError | tick => simp only [Loop.step, hphase]; exact hidle _ rfl
  | inner =>
    cases i with
    | subscribe ok => simp only [Loop.step, hphase]; exact hidle _ rfl
    | frame world fr => simp only [Loop.step, hphase]; exact h.frame world fr
    | tick world => simp only [Loop.step, hphase]; exact h.tick world
    | cancel orders => simp only [Loop.step, hphase]; exact h.shutdown orders
    | codecError | ioError => simp only [Loop.step, hphase]; exact hidle _ rfl

/-! ## Runs -/

structure LoopProcess.Counted (pr : LoopProcess F) : Prop where
  disk : pr.disk.Counted
  running : ∀ r, pr.running = some r → r.Counted

theorem LoopProcess.Counted.next {pr : LoopProcess F} (h : pr.Counted) (i : LoopProcessInput F) :
    (pr.next i).1.Counted := by
  cases i with
  | kill => exact ⟨h.disk, fun _ hr => by cases hr⟩
  | start settings loads =>
    refine ⟨h.disk, fun r hr => ?_⟩
    cases hr
    exact ⟨h.disk.seed loads, rfl⟩
  | step i ok =>
    cases hrunning : pr.running with
    | none =>
      rw [show pr.next (.step i ok) = (pr, []) by simp only [LoopProcess.next, hrunning]]
      exact h
    | some r =>
      obtain ⟨hcounted, hcalls⟩ := (h.running r hrunning).step i
      have hnext : (pr.next (.step i ok)).1 =
          { disk := pr.disk.applyAll (performed ok ((r.loop.step r.settings i).2.filterMap
              LoopEvent.transaction))
            running := some (r.after (r.loop.step r.settings i)) } := by
        simp only [LoopProcess.next, hrunning]
        rfl
      rw [hnext]
      refine ⟨h.disk.applyAll fun c hc => hcalls c (performed_subset ok _ hc), fun _ hr => ?_⟩
      cases hr
      exact hcounted

/-- Whatever is heard, skipped, evicted, lost and restarted, the counters of the listener
agree with each other and with the points published since its start, if those of the
first store do. -/
theorem counters_agree (d : Disk F) (hd : d.Counted) (is : List (LoopProcessInput F))
    (r : Running F) (hr : (run LoopProcess.next ⟨d, none⟩ is).1.running = some r) : r.Agrees :=
  ((run_invariant (P := fun _ (pr : LoopProcess F) _ => pr.Counted)
    ⟨hd, fun _ hr => by cases hr⟩ (fun _ i _ _ h => h.next i) is).running r hr).agrees

/-! ## A sample run -/

/-- A store with three packets of one station. -/
def sampleDisk : Disk ℚ := Disk.applyAll {} [
  .savePacketLifetime { total := 3, heardDirect := 1, digipeated := 2 },
  .upsertStation (StationEntry.hear (samplePacket "W1AW" []) none none none)]

theorem sampleDisk_counted : sampleDisk.Counted := by
  have hempty : Disk.Counted ({} : Disk ℚ) := by
    refine ⟨(fun _ hrow => by cases hrow), fun k r hr => ?_⟩
    rw [Std.ExtTreeMap.getElem?_empty] at hr
    cases hr
  refine hempty.applyAll fun c hc => ?_
  rcases List.mem_pair.mp hc with rfl | rfl
  · exact rfl
  · exact StationEntry.Consistent.hear (fun _ h => by cases h) _ none none

def sampleOrders : Orders := ⟨.same _, .same _, .same _, .same _⟩

def sampleRun : List (LoopProcessInput ℚ) :=
  [.start ⟨[], 6⟩ ⟨true, true, true, true, 0⟩, .step (.subscribe true) fun _ => true,
    .step (.frame sampleWorld (sampleFrame "W1AW" [])) fun _ => true,
    .step (.tick ⟨0, 0, 0, sampleOrders⟩) fun _ => true, .step .ioError fun _ => true]

theorem counters_agree_sample :
    ((run LoopProcess.next ⟨sampleDisk, none⟩ sampleRun).1.running.get rfl).Agrees :=
  counters_agree sampleDisk sampleDisk_counted sampleRun _ (Option.some_get _).symm

end Listener
end Rtpigate
