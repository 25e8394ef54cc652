/-
The order of the lines of a report.

The five lines of a report go out one after the other, from the first one on, up to the
first write that is not done.  So a line follows the lines before it of the same report,
all of them done, and after a line that is not done, or a fifth line, the next one is the
first line of a report.
-/
import Rtpigate.Aprsis.Steps

namespace Rtpigate
namespace Aprsis

open Lib

variable {F : Type}

/-- What `w` can be as the line written after `v`. -/
def ReportWrite.Next (v w : ReportWrite F) : Prop :=
  if v.result = .done ∧ v.index < 4 then w.report = v.report ∧ w.index = v.index + 1
  else w.index = 0

/-- The lines before `w` of the same report are the last ones written, and all done. -/
def FollowsLines (before : List (ReportWrite F)) (w : ReportWrite F) : Prop :=
  ∃ lines, lines <:+ before ∧ lines.map ReportWrite.index = List.range w.index ∧
    ∀ v ∈ lines, v.report = w.report ∧ v.result = .done

/-- The five lines of the report, all done. -/
def AllLines (report : Telemetry F) (lines : List (ReportWrite F)) : Prop :=
  lines.map ReportWrite.index = List.range 5 ∧
    ∀ v ∈ lines, v.report = report ∧ v.result = .done

/-- Lines in their order, from the first line of a report to a fifth or failed one. -/
structure InTurn (ws : List (ReportWrite F)) : Prop where
  first : ∀ w ∈ ws.head?, w.index = 0
  chain : ws.IsChain ReportWrite.Next
  last : ∀ w ∈ ws.getLast?, w.result = .done → w.index = 4

theorem inTurn_nil : InTurn ([] : List (ReportWrite F)) where
  first _ h := by cases h
  chain := List.isChain_nil
  last _ h := by cases h

theorem InTurn.append {a b : List (ReportWrite F)} (ha : InTurn a) (hb : InTurn b) :
    InTurn (a ++ b) where
  first w hw := by
    rw [List.head?_append, Option.mem_def, Option.or_eq_some_iff] at hw
    exact hw.elim (ha.first w) fun h => hb.first w h.2
  chain := by
    refine ha.chain.append hb.chain fun v hv w hw => ?_
    have hidx := hb.first w hw
    have hlast := ha.last v hv
    rw [ReportWrite.Next, if_neg]
    · exact hidx
    · intro h
      have := hlast h.1
      omega
  last w hw := by
    rw [List.getLast?_append, Option.mem_def, Option.or_eq_some_iff] at hw
    exact hw.elim (hb.last w) fun h => ha.last w h.2

/-- The lines before a line go out before it.  The induction is on the lines before, from
the last one back. -/
theorem followsLines_of_chain {before : List (ReportWrite F)} {w : ReportWrite F}
    (hchain : (before ++ [w]).IsChain ReportWrite.Next)
    (hfirst : ∀ v ∈ (before ++ [w]).head?, v.index = 0) : FollowsLines before w := by
  induction before using List.reverseRecOn generalizing w with
  | nil =>
    have hidx : w.index = 0 := hfirst w rfl
    refine ⟨[], List.nil_suffix, ?_, fun v hv => by cases hv⟩
    rw [hidx]
    rfl
  | append_singleton before v ih =>
    have hnext : v.Next w := by
      rw [List.append_assoc, List.singleton_append] at hchain
      exact (List.isChain_append_cons_cons.mp hchain).2.1
    rw [ReportWrite.Next] at hnext
    by_cases hgo : v.result = .done ∧ v.index < 4
    · -- the line goes on with the report of the one before
      rw [if_pos hgo] at hnext
      obtain ⟨hreport, hidx⟩ := hnext
      have hv : FollowsLines before v := by
        refine ih (List.isChain_append.mp hchain).1 fun u hu => hfirst u ?_
        rw [List.head?_append, hu]
        rfl
      obtain ⟨lines, hsuffix, hlines, hall⟩ := hv
      refine ⟨lines ++ [v], ?_, ?_, ?_⟩
      · obtain ⟨earlier, rfl⟩ := hsuffix
        exact ⟨earlier, (List.append_assoc earlier lines [v]).symm⟩
      · rw [List.map_append, hlines, hidx, List.range_succ]
        rfl
      · intro u hu
        rw [hreport]
        rcases List.mem_append.mp hu with hu | hu
        · exact hall u hu
        · rw [List.mem_singleton.mp hu]
          exact ⟨rfl, hgo.1⟩
    · rw [if_neg hgo] at hnext
      refine ⟨[], List.nil_suffix, ?_, fun u hu => by cases hu⟩
      rw [hnext]
      rfl

/-- A fifth line that is done completes the lines of its report. -/
theorem FollowsLines.allLines {before : List (ReportWrite F)} {w : ReportWrite F}
    (h : FollowsLines before w) (hidx : w.index = 4) (hdone : w.result = .done) :
    ∃ lines, lines <:+ before ++ [w] ∧ AllLines w.report lines := by
  obtain ⟨lines, ⟨earlier, rfl⟩, hlines, hall⟩ := h
  refine ⟨lines ++ [w], ⟨earlier, (List.append_assoc earlier lines [w]).symm⟩, ?_, ?_⟩
  · rw [List.map_append, hlines]
    show List.range w.index ++ [w.index] = List.range 5
    rw [hidx]
    rfl
  · intro u hu
    rcases List.mem_append.mp hu with hu | hu
    · exact hall u hu
    · rw [List.mem_singleton.mp hu]
      exact ⟨rfl, hdone⟩

theorem InTurn.followsLines {ws before after : List (ReportWrite F)} {w : ReportWrite F}
    (h : InTurn ws) (heq : ws = before ++ w :: after) : FollowsLines before w := by
  rw [List.append_cons] at heq
  subst heq
  refine followsLines_of_chain (List.isChain_append.mp h.chain).1 fun v hv => h.first v ?_
  rw [List.head?_append, hv]
  rfl

theorem InTurn.next {ws before after : List (ReportWrite F)} {w : ReportWrite F} (h : InTurn ws)
    (heq : ws = before ++ w :: after) : ∀ v ∈ before.getLast?, v.Next w := by
  intro v hv
  have hchain := h.chain
  rw [heq] at hchain
  exact (List.isChain_append.mp hchain).2.2 v hv w rfl

/-! ## Lines among events -/

theorem reportWrites_split {e : Event F} {w : ReportWrite F} (hw : e.reportWrite = some w)
    (before after : List (Event F)) :
    reportWrites (before ++ e :: after) = reportWrites before ++ w :: reportWrites after := by
  rw [reportWrites_append]
  exact congrArg (reportWrites before ++ ·) (List.filterMap_cons_some hw)

/-- Wherever a fifth line goes out, all lines of its report have. -/
theorem InTurn.allLines {events before after : List (Event F)} {e : Event F} {w : ReportWrite F}
    (h : InTurn (reportWrites events)) (heq : events = before ++ e :: after)
    (hw : e.reportWrite = some w) (hidx : w.index = 4) (hdone : w.result = .done) :
    ∃ lines, lines <:+ reportWrites (before ++ [e]) ∧ AllLines w.report lines := by
  rw [heq, reportWrites_split hw] at h
  rw [reportWrites_split hw, reportWrites_nil]
  exact (h.followsLines rfl).allLines hidx hdone

/-! ## Steps -/

/-- The lines of a report from index `i` on. -/
theorem writeLines_inTurn (t : Captured F) (report : Telemetry F) (outcomes : Nat → WriteResult) :
    ∀ (rest : List String) (i : Nat), i + rest.length = 5 → rest ≠ [] →
      ∃ w ws, reportWrites (writeLines t report outcomes i rest).1 = w :: ws ∧
        w.report = report ∧ w.index = i ∧ (w :: ws).IsChain ReportWrite.Next ∧
        ∀ v ∈ (w :: ws).getLast?, v.result = .done → v.index = 4 := by
  intro rest
  induction rest with
  | nil => exact fun _ _ h => absurd rfl h
  | cons info rest ih =>
    intro i hlen _
    rw [List.length_cons] at hlen
    have hone : ∀ result, (result = .done → i = 4) →
        ∃ w ws, reportWrites [(.write (.report report i) (reportBytes t info) result : Event F)] =
          w :: ws ∧ w.report = report ∧ w.index = i ∧ (w :: ws).IsChain ReportWrite.Next ∧
          ∀ v ∈ (w :: ws).getLast?, v.result = .done → v.index = 4 := by
      intro result hresult
      refine ⟨⟨report, i, reportBytes t info, result⟩, [], rfl, rfl, rfl,
        List.isChain_singleton _, fun v hv hdone => ?_⟩
      cases hv
      exact hresult hdone
    rw [writeLines]
    cases ho : outcomes i with
    | failed | timedOut => exact hone _ fun h => by cases h
    | done =>
      show ∃ w ws, reportWrites (.write (.report report i) (reportBytes t info) .done ::
        (writeLines t report outcomes (i + 1) rest).1) = w :: ws ∧ _
      by_cases hnil : rest = []
      · rw [hnil] at hlen ⊢
        exact hone _ fun _ => by
          rw [List.length_nil] at hlen
          omega
      · obtain ⟨w, ws, heq, hreport, hidx, hchain, hlast⟩ := ih (i + 1) (by omega) hnil
        have hi : i < 4 := by
          have := List.length_pos_of_ne_nil hnil
          omega
        refine ⟨⟨report, i, reportBytes t info, .done⟩, w :: ws, ?_, rfl, rfl, ?_, ?_⟩
        · rw [← heq]
          rfl
        · refine List.isChain_cons_cons.mpr ⟨?_, hchain⟩
          rw [ReportWrite.Next, if_pos ⟨rfl, hi⟩]
          exact ⟨hreport, hidx⟩
        · rw [List.getLast?_cons_cons]
          exact hlast

variable [F64 F]

theorem sendReport_inTurn (t : Captured F) (outcomes : Nat → WriteResult) (s : State F) :
    InTurn (reportWrites (sendReport t outcomes s).2) := by
  obtain ⟨lines, hlines, hlen⟩ :=
    toAprs_length (t := telemetryReport t s.interval s.sequence) rfl t.callsign
  have hne : lines ≠ [] := List.ne_nil_of_length_pos (by rw [hlen]; decide)
  obtain ⟨w, ws, heq, _, hidx, hchain, hlast⟩ := writeLines_inTurn t
    (telemetryReport t s.interval s.sequence) outcomes lines 0 (by rw [hlen]) hne
  have hturn : InTurn (reportWrites (writeLines t (telemetryReport t s.interval s.sequence)
      outcomes 0 lines).1) := by
    rw [heq]
    refine ⟨fun v hv => ?_, hchain, hlast⟩
    cases hv
    exact hidx
  rw [sendReport]
  simp only [hlines]
  split
  · rw [reportWrites_append]
    exact hturn.append inTurn_nil
  · exact hturn

theorem floorTick_inTurn (t : Captured F) (world : BeaconWorld F) (posit : WriteResult)
    (outcomes : Nat → WriteResult) (s : State F) :
    InTurn (reportWrites (floorTick t world posit outcomes s).2) := by
  have hbeacon := fun loc => (beacon_positions t world.utc posit loc s).noReport
  have hexit := floorTick_exit t world posit outcomes s
  generalize floorTick t world posit outcomes s = r at hexit
  cases hexit with
  | idle => exact inTurn_nil
  | report => exact sendReport_inTurn t outcomes s
  | unsent loc =>
    rw [hbeacon loc]
    exact inTurn_nil
  | both loc =>
    rw [reportWrites_append, hbeacon loc, List.nil_append]
    exact sendReport_inTurn t outcomes _

theorem step_inTurn (t : Captured F) (s : State F) (i : Input F) :
    InTurn (reportWrites (step t s i).2) := by
  cases step_cases t s i with
  | packet p clock outcome _ _ h =>
    have hexit := handlePacket_exit t clock outcome s p
    rw [h]
    generalize handlePacket t clock outcome s p = r at hexit
    cases hexit with
    | ungated | filtered | duplicate | refused | gated | failed => exact inTurn_nil
  | lagged n clock outcome _ _ h =>
    rw [h]
    exact inTurn_nil
  | sample now utc _ _ h =>
    rw [h]
    exact inTurn_nil
  | report world posit outcomes _ _ h =>
    rw [h]
    exact floorTick_inTurn t world posit outcomes s
  | other _ _ _ hnone =>
    rw [hnone]
    exact inTurn_nil

theorem run_inTurn (t : Captured F) (s : State F) (is : List (Input F)) :
    InTurn (reportWrites (run (step t) s is).2) := by
  refine run_invariant (P := fun _ _ tr => InTurn (reportWrites tr)) inTurn_nil ?_ is
  intro _ i s tr h
  rw [reportWrites_append]
  exact h.append (step_inTurn t s i)

end Aprsis
end Rtpigate
