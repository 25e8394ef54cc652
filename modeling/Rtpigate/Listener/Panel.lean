/-
The station list of a tick.

Every tick drops what was not heard for long and publishes what is left of the station and
the frequency table, the most heard first.  A map gives its entries in an order of its own.
No packet is lost from the counts: what the list adds up to, with what was evicted, is what
was heard.
-/
import Rtpigate.Lib.Ranking
import Rtpigate.Lib.Totals
import Rtpigate.Lib.Machine
import Rtpigate.Listener.Counters
import Rtpigate.Listener.LastHeard

namespace Rtpigate
namespace Listener

open Lib

structure FrequencyCount where
  frequency : String
  count : Nat
  deriving DecidableEq, Repr

structure StationTelemetry (F : Type) where
  name : String
  stations : List (StationEntry F)
  frequencies : List FrequencyCount

/-- The orders in which the two maps give their entries. -/
structure PanelOrders (F : Type) where
  stations : Shuffle (StationEntry F)
  freqs : Shuffle FrequencyCount

variable {F : Type}

def frequencyCounts (freqCounts : Table String FreqEntry) : List FrequencyCount :=
  freqCounts.toList.map fun e => ⟨e.1, e.2.count⟩

/-- The message of a tick, of the tables it leaves. -/
def stationStatistics (orders : PanelOrders F) (s : Task F) : StationTelemetry F where
  name := "station_statistics"
  stations := descending StationEntry.count (orders.stations.order (Table.rows s.stationMap))
  frequencies := descending FrequencyCount.count (orders.freqs.order (frequencyCounts s.freqCounts))

/-- What a tick publishes, and what it has evicted. -/
structure PanelTick (F : Type) where
  now : Int
  message : StationTelemetry F
  evictedStations : List (StationEntry F)
  evictedFreqs : List FreqEntry

/-- What a tick evicts is too old to be listed. -/
structure PanelTick.Outdated (t : PanelTick F) : Prop where
  stations : ∀ e ∈ t.evictedStations, hours 36 ≤ t.now - e.lastHeard
  freqs : ∀ e ∈ t.evictedFreqs, hours 24 ≤ t.now - e.lastHeard

section Float

variable [F64 F]

variable [Display3 F] (satFreqs : List F) (historyHours : Nat)

/-- One step with its message, if it is a tick. -/
def panelStep (s : Task F) (i : Input F × PanelOrders F) : Task F × List (PanelTick F) :=
  ((s.step satFreqs historyHours i.1).1,
    match i.1 with
    | .frame _ _ => []
    | .tick world =>
      [{ now := world.now
         message := stationStatistics i.2 (s.step satFreqs historyHours i.1).1
         evictedStations := s.stationMap.rows.filter (stationExpired world.now)
         evictedFreqs := s.freqCounts.rows.filter (freqExpired world.now) }])

/-- What the tables count, and what was evicted from them. -/
structure Tallied (s₀ : Task F) (s : Task F) (ticks : List (PanelTick F)) : Prop where
  sound : s.Sound
  outdated : ∀ t ∈ ticks, t.Outdated
  stations : s.stationMap.total StationEntry.count +
      ((ticks.flatMap PanelTick.evictedStations).map StationEntry.count).sum +
      s₀.counters.lifetime.totalPackets =
    s₀.stationMap.total StationEntry.count + s.counters.lifetime.totalPackets
  freqs : s.freqCounts.total FreqEntry.count +
      ((ticks.flatMap PanelTick.evictedFreqs).map FreqEntry.count).sum +
      s₀.counters.lifetime.totalPackets =
    s₀.freqCounts.total FreqEntry.count + s.counters.lifetime.totalPackets

variable {satFreqs historyHours} {s₀ s : Task F} {ticks : List (PanelTick F)}

theorem Tallied.hear (h : Tallied s₀ s ticks) (mapped : MappedPacket F) (p : RTPPacket F) :
    Tallied s₀ (s.hear mapped p) ticks := by
  have hstations : (s.hear mapped p).stationMap.total StationEntry.count =
      s.stationMap.total StationEntry.count + 1 := by
    have htouch := WriteBack.total_touch StationEntry.count p.stationKey
      (StationEntry.hear p mapped.symbolTable mapped.symbolCode) s.stations
    have hcount := (StationEntry.hear_count p mapped.symbolTable mapped.symbolCode
      s.stations.mem[p.stationKey]?).1
    have hold : Table.weightAt StationEntry.count s.stations.mem p.stationKey =
        (s.stations.mem[p.stationKey]?.getD (.ofPacket p)).count := by
      rw [Table.weightAt]
      cases s.stations.mem[p.stationKey]? <;> rfl
    rw [hcount, hold] at htouch
    change (s.hear mapped p).stationMap.total StationEntry.count + _ =
      s.stationMap.total StationEntry.count + _ at htouch
    omega
  have hfreqs : (s.hear mapped p).freqCounts.total FreqEntry.count =
      s.freqCounts.total FreqEntry.count + 1 := by
    have htouch := WriteBack.total_touch FreqEntry.count p.freqKey (FreqEntry.hear p) s.freqs
    have hold : FreqEntry.count (FreqEntry.hear p s.freqs.mem[p.freqKey]?) =
        Table.weightAt FreqEntry.count s.freqs.mem p.freqKey + 1 := by
      rw [Table.weightAt]
      cases s.freqs.mem[p.freqKey]? <;> rfl
    rw [hold] at htouch
    change (s.hear mapped p).freqCounts.total FreqEntry.count + _ =
      s.freqCounts.total FreqEntry.count + _ at htouch
    omega
  have hlifetime : (s.hear mapped p).counters.lifetime.totalPackets =
      s.counters.lifetime.totalPackets + 1 := rfl
  have hbefore := h.stations
  have hbefore' := h.freqs
  exact ⟨h.sound.hear mapped p, h.outdated, by omega, by omega⟩

omit [F64 F] [Display3 F] in
theorem outdated_filter (now : Int) (message : StationTelemetry F)
    (stations : List (StationEntry F)) (freqs : List FreqEntry) :
    PanelTick.Outdated ⟨now, message, stations.filter (stationExpired now),
      freqs.filter (freqExpired now)⟩ where
  stations e he := by
    have hold := (List.mem_filter.mp he).2
    rw [stationExpired, Bool.not_eq_true', decide_eq_false_iff_not] at hold
    exact not_lt.mp hold
  freqs e he := by
    have hold := (List.mem_filter.mp he).2
    rw [freqExpired, Bool.not_eq_true', decide_eq_false_iff_not] at hold
    exact not_lt.mp hold

omit [Display3 F] in
theorem Tallied.tick (h : Tallied s₀ s ticks) (historyHours : Nat) (world : TickWorld)
    (message : StationTelemetry F) :
    Tallied s₀ (s.tick historyHours world).1
      (ticks ++ [{ now := world.now
                   message := message
                   evictedStations := s.stationMap.rows.filter (stationExpired world.now)
                   evictedFreqs := s.freqCounts.rows.filter (freqExpired world.now) }]) := by
  have hstations := WriteBack.total_evict StationEntry.count (stationExpired world.now) s.stations
  have hfreqs := WriteBack.total_evict FreqEntry.count (freqExpired world.now) s.freqs
  change (s.tick historyHours world).1.stationMap.total StationEntry.count +
    ((s.stationMap.rows.filter _).map _).sum = s.stationMap.total StationEntry.count at hstations
  change (s.tick historyHours world).1.freqCounts.total FreqEntry.count +
    ((s.freqCounts.rows.filter _).map _).sum = s.freqCounts.total FreqEntry.count at hfreqs
  have hlifetime : (s.tick historyHours world).1.counters.lifetime.totalPackets =
      s.counters.lifetime.totalPackets := rfl
  have hbefore := h.stations
  have hbefore' := h.freqs
  refine ⟨h.sound.tick historyHours world, fun t ht => ?_, ?_, ?_⟩
  · rcases List.mem_append.mp ht with ht | ht
    · exact h.outdated t ht
    · rw [List.mem_singleton.mp ht]
      exact outdated_filter world.now message _ _
  · rw [List.flatMap_append, List.flatMap_singleton, List.map_append, List.sum_append]
    dsimp only
    omega
  · rw [List.flatMap_append, List.flatMap_singleton, List.map_append, List.sum_append]
    dsimp only
    omega

theorem Tallied.step (h : Tallied s₀ s ticks) (i : Input F × PanelOrders F) :
    Tallied s₀ (panelStep satFreqs historyHours s i).1
      (ticks ++ (panelStep satFreqs historyHours s i).2) := by
  obtain ⟨i, orders⟩ := i
  cases i with
  | frame world fr =>
    show Tallied s₀ (s.step satFreqs historyHours (.frame world fr)).1 (ticks ++ [])
    rw [List.append_nil]
    cases Task.step_cases satFreqs historyHours s (.frame world fr) with
    | skip _ _ _ _ hstep =>
      rw [hstep]
      exact h
    | hear _ _ mapped p _ _ _ _ hstep =>
      rw [hstep]
      exact h.hear mapped p
    | tick world hi => cases hi
  | tick world => exact h.tick historyHours world _

end Float

end Listener
end Rtpigate
