/-
What the statistics of the task count.

A packet that is gated or dropped has been received before, and the tick takes all
counters at once, so that no tick shows more gated and dropped packets than it shows
received ones.
-/
import Rtpigate.Aprsis.Steps
import Rtpigate.Feed

namespace Rtpigate
namespace Aprsis

open Lib

variable {F : Type}

/-- Every packet gated or dropped is one received. -/
def Stats.Consistent (c : Stats) : Prop := c.packetsIgated + c.packetsDropped ≤ c.rfReceived

def Event.published : Event F → Option (AprsisTelemetry F)
  | .publish t => some t
  | _ => none

def publications (tr : List (Event F)) : List (AprsisTelemetry F) := tr.filterMap Event.published

@[simp] theorem publications_append (a b : List (Event F)) :
    publications (a ++ b) = publications a ++ publications b := List.filterMap_append

/-! ## Steps that count no packet -/

/-- The step counts no packet and takes no sample.  It may count a reconnect. -/
structure Steady (s : State F) (r : State F × List (Event F)) : Prop where
  rfReceived : r.1.stats.rfReceived = s.stats.rfReceived
  packetsDropped : r.1.stats.packetsDropped = s.stats.packetsDropped
  packetsIgated : r.1.stats.packetsIgated = s.stats.packetsIgated
  series : r.1.series = s.series
  totalReconnects : s.totalReconnects ≤ r.1.totalReconnects
  silent : publications r.2 = []

theorem steady_self (s : State F) : Steady s (s, []) := ⟨rfl, rfl, rfl, rfl, le_rfl, rfl⟩

theorem shutdown_steady (s : State F) : Steady s (shutdown s) :=
  ⟨rfl, rfl, rfl, rfl, le_rfl, rfl⟩

theorem retry_steady (s : State F) : Steady s (retry s) := ⟨rfl, rfl, rfl, rfl, le_rfl, rfl⟩

theorem Steady.trans {s : State F} {r r' : State F × List (Event F)} (h : Steady s r)
    (h' : Steady r.1 r') : Steady s (r'.1, r.2 ++ r'.2) where
  rfReceived := h'.rfReceived.trans h.rfReceived
  packetsDropped := h'.packetsDropped.trans h.packetsDropped
  packetsIgated := h'.packetsIgated.trans h.packetsIgated
  series := h'.series.trans h.series
  totalReconnects := h.totalReconnects.trans h'.totalReconnects
  silent := by
    rw [publications_append, h.silent, h'.silent]
    rfl

theorem connected_steady (s : State F) : Steady s (connected s, []) := by
  rw [connected]
  split
  · exact ⟨rfl, rfl, rfl, rfl, le_rfl, rfl⟩
  · exact ⟨rfl, rfl, rfl, rfl, Nat.le_succ _, rfl⟩

theorem attempt_steady (a : Attempt) (s : State F) : Steady s (attempt a s) := by
  have hconn := connected_steady s
  cases a with
  | resolveError | noAddress | connectError | connectTimeout => exact retry_steady s
  | loginRefused | loginError | loginTimeout => exact hconn.trans (retry_steady _)
  | loginCancelled => exact hconn.trans (shutdown_steady _)
  | loggedIn =>
    exact ⟨hconn.rfReceived, hconn.packetsDropped, hconn.packetsIgated, hconn.series,
      hconn.totalReconnects, rfl⟩

/-! ## Consistent samples -/

/-- The counters are consistent, and so are those of the ticks in the series. -/
structure State.Counted (s : State F) : Prop where
  stats : s.stats.Consistent
  series : ∃ ticks : List Tick, s.series.Shows (ticks.rtake DataSeries.window) ∧
    ∀ x ∈ ticks, x.stats.Consistent

/-- The message shows consistent ticks. -/
def Telling (m : AprsisTelemetry F) : Prop :=
  ∃ ticks : List Tick, m.series.Shows ticks ∧ ∀ x ∈ ticks, x.stats.Consistent

theorem Steady.counted {s : State F} {r : State F × List (Event F)} (h : Steady s r)
    (hs : s.Counted) : r.1.Counted where
  stats := by
    rw [Stats.Consistent, h.packetsIgated, h.packetsDropped, h.rfReceived]
    exact hs.stats
  series := h.series ▸ hs.series

theorem start_counted (row : Option AprsisLifetime) (seq : SeqLoad) :
    (start (F := F) row seq).1.Counted := by
  have hempty : SeriesSet.Shows {} (List.rtake [] DataSeries.window) := ⟨rfl, rfl, rfl, rfl⟩
  cases row <;> cases seq <;>
    exact ⟨Nat.zero_le _, [], hempty, fun x hx => absurd hx List.not_mem_nil⟩

section Float

variable [F64 F]

theorem beacon_steady (t : Captured F) (utc : Int) (outcome : WriteResult) (loc : Location F)
    (s : State F) : Steady s (beacon t utc outcome loc s) := by
  have hevents := sendPositionBeacon_events t utc loc outcome
  rw [beacon]
  generalize sendPositionBeacon t utc loc outcome = sent at hevents
  have hnone : publications sent.2 = [] := by
    rcases hevents with h | ⟨bytes, h⟩ <;> rw [h] <;> rfl
  show Steady s (if sent.1 = true then _ else _)
  split
  · split <;> exact ⟨rfl, rfl, rfl, rfl, le_rfl, hnone⟩
  · exact ⟨rfl, rfl, rfl, rfl, le_rfl, hnone⟩

theorem moveTick_steady (t : Captured F) (world : BeaconWorld F) (posit : WriteResult)
    (s : State F) : Steady s (moveTick t world posit s) := by
  have hexit := moveTick_exit t world posit s
  generalize moveTick t world posit s = r at hexit
  cases hexit with
  | idle => exact steady_self s
  | sent loc => exact beacon_steady t world.utc posit loc s

theorem sendReport_steady (t : Captured F) (outcomes : Nat → WriteResult) (s : State F) :
    Steady s (sendReport t outcomes s) := by
  have hnone : ∀ lines, publications (writeLines t (telemetryReport t s.interval s.sequence)
      outcomes 0 lines).1 = [] :=
    fun lines => filterMap_writeLines t _ outcomes 0 lines fun _ _ _ => rfl
  have hexit := sendReport_exit t outcomes s
  generalize sendReport t outcomes s = r at hexit
  cases hexit with
  | invalid => exact steady_self s
  | done lines =>
    refine ⟨rfl, rfl, rfl, rfl, le_rfl, ?_⟩
    rw [publications_append, hnone]
    rfl
  | failed lines => exact ⟨rfl, rfl, rfl, rfl, le_rfl, hnone lines⟩

theorem floorTick_steady (t : Captured F) (world : BeaconWorld F) (posit : WriteResult)
    (outcomes : Nat → WriteResult) (s : State F) :
    Steady s (floorTick t world posit outcomes s) := by
  have hexit := floorTick_exit t world posit outcomes s
  generalize floorTick t world posit outcomes s = r at hexit
  cases hexit with
  | idle => exact steady_self s
  | report => exact sendReport_steady t outcomes s
  | unsent loc => exact beacon_steady t world.utc posit loc s
  | both loc =>
    exact (beacon_steady t world.utc posit loc s).trans (sendReport_steady t outcomes _)

/-- A step takes a packet, takes a sample, or does neither. -/
inductive CountCase (t : Captured F) (s : State F) (i : Input F) : Prop
  | packet (p : RTPPacket F) (clock : GateClock) (outcome : WriteResult)
      (h : step t s i = handlePacket t clock outcome s p)
  | sample (now utc : Int) (h : step t s i = telemetryTick now utc s)
  | steady (h : Steady s (step t s i))

theorem count_cases (t : Captured F) (s : State F) (i : Input F) : CountCase t s i := by
  cases step_branch t s i with
  | attempt a _ _ h => exact .steady (h ▸ attempt_steady a s)
  | cancel _ h => exact .steady (h ▸ shutdown_steady s)
  | sample now utc _ _ h => exact .sample now utc h
  | lost _ _ h => exact .steady (h ▸ ⟨rfl, rfl, rfl, rfl, le_rfl, rfl⟩)
  | recv m clock outcome _ _ h =>
    cases m with
    | lagged n => exact .steady (h ▸ ⟨rfl, rfl, rfl, rfl, le_rfl, rfl⟩)
    | message d =>
      cases d with
      | pkt p => exact .packet p clock outcome h
      | tlm x => exact .steady (h ▸ steady_self s)
  | floor world posit outcomes _ _ h =>
    exact .steady (h ▸ floorTick_steady t world posit outcomes s)
  | move world posit _ _ h => exact .steady (h ▸ moveTick_steady t world posit s)
  | idle _ h => exact .steady (h ▸ steady_self s)

/-! ## Steps -/

theorem handlePacket_told {s : State F} (hs : s.Counted) (t : Captured F) (clock : GateClock)
    (outcome : WriteResult) (p : RTPPacket F) :
    (handlePacket t clock outcome s p).1.Counted ∧
      publications (handlePacket t clock outcome s p).2 = [] := by
  have hexit := handlePacket_exit t clock outcome s p
  have hle : s.stats.packetsIgated + s.stats.packetsDropped ≤ s.stats.rfReceived := hs.stats
  generalize handlePacket t clock outcome s p = r at hexit
  cases hexit with
  | ungated | failed => exact ⟨⟨Nat.le_succ_of_le hle, hs.series⟩, rfl⟩
  | filtered | duplicate | refused => exact ⟨⟨Nat.succ_le_succ hle, hs.series⟩, rfl⟩
  | gated =>
    refine ⟨⟨?_, hs.series⟩, rfl⟩
    show s.stats.packetsIgated + 1 + s.stats.packetsDropped ≤ s.stats.rfReceived + 1
    omega

theorem telemetryTick_told {s : State F} (hs : s.Counted) (now utc : Int) :
    (telemetryTick now utc s).1.Counted ∧ Telling (s.statistics now utc) := by
  obtain ⟨ticks, hshows, hticks⟩ := hs.series
  have hsample := State.sample_shows hshows now utc
  have hall : ∀ x ∈ ticks ++ [s.taken now utc], x.stats.Consistent := by
    intro x hx
    rcases List.mem_append.mp hx with hx | hx
    · exact hticks x hx
    · rw [List.mem_singleton.mp hx]
      exact hs.stats
  exact ⟨⟨Nat.zero_le _, _, hsample, hall⟩, _, hsample,
    fun x hx => hall x (List.mem_of_mem_drop hx)⟩

theorem step_told {s : State F} (hs : s.Counted) (t : Captured F) (i : Input F) :
    (step t s i).1.Counted ∧ ∀ m ∈ publications (step t s i).2, Telling m := by
  cases count_cases t s i with
  | packet p clock outcome h =>
    rw [h]
    obtain ⟨hcounted, hsilent⟩ := handlePacket_told hs t clock outcome p
    refine ⟨hcounted, fun m hm => ?_⟩
    rw [hsilent] at hm
    cases hm
  | sample now utc h =>
    rw [h]
    obtain ⟨hcounted, htelling⟩ := telemetryTick_told hs now utc
    exact ⟨hcounted, fun m hm => List.mem_singleton.mp hm ▸ htelling⟩
  | steady h =>
    refine ⟨h.counted hs, fun m hm => ?_⟩
    rw [h.silent] at hm
    cases hm

end Float

end Aprsis
end Rtpigate
