/-
Telemetry reports over a run.

A report is complete when its fifth line has gone out, and the other four before it.
Only then the sequence number moves on and the counters start again, so a report that
stops earlier is sent again whole, with the same number and all packets counted so far.

The trace is cut into groups, the packets received up to each completed report and
those received since.  Every line of a report counts one group: the one that is
open when the line is written.
-/
import Rtpigate.Aprsis.Gate
import Rtpigate.Aprsis.ReportLines

namespace Rtpigate
namespace Aprsis

open Lib Listener

variable {F : Type}

/-! ## Groups -/

/-- The fifth line of a report goes out. -/
def Event.completes : Event F → Bool
  | .write (.report _ index) _ result => index == 4 && result == .done
  | _ => false

/-- The packets of each completed report, and those of none yet. -/
structure Groups (F : Type) where
  closed : List (List (RTPPacket F)) := []
  rest : List (RTPPacket F) := []

namespace Groups

def close (g : Groups F) : Groups F := ⟨g.closed ++ [g.rest], []⟩

def add (g : Groups F) (e : Event F) : Groups F :=
  if e.completes then g.close else { g with rest := g.rest ++ e.receivedPacket.toList }

end Groups

def groups (tr : List (Event F)) : Groups F := tr.foldl Groups.add {}

theorem groups_concat (tr : List (Event F)) (e : Event F) :
    groups (tr ++ [e]) = (groups tr).add e := by
  rw [groups, List.foldl_concat]
  rfl

theorem completes_reportWrite {e : Event F} (h : e.reportWrite = none) : e.completes = false := by
  cases e with
  | write line bytes result =>
    cases line with
    | report => cases h
    | packet | posit => rfl
  | received | publish | saveLifetime | saveSeq | sleep => rfl

theorem reportWrite_of_completes {e : Event F} (h : e.completes = true) :
    ∃ w, e.reportWrite = some w ∧ w.index = 4 ∧ w.result = .done := by
  cases e with
  | write line bytes result =>
    cases line with
    | report report index =>
      rw [Event.completes, Bool.and_eq_true, beq_iff_eq, beq_iff_eq] at h
      exact ⟨⟨report, index, bytes, result⟩, rfl, h.1, h.2⟩
    | packet | posit => cases h
  | received | publish | saveLifetime | saveSeq | sleep => cases h

theorem groups_append {evs : List (Event F)} (h : reportWrites evs = []) (tr : List (Event F)) :
    groups (tr ++ evs) = { groups tr with rest := (groups tr).rest ++ received evs } := by
  induction evs using List.reverseRecOn with
  | nil => rw [List.append_nil, received_nil, List.append_nil]
  | append_singleton evs e ih =>
    rw [reportWrites_append, List.append_eq_nil_iff] at h
    have he : e.completes = false := by
      apply completes_reportWrite
      by_contra hne
      obtain ⟨w, hw⟩ := Option.ne_none_iff_exists'.mp hne
      have hmem : w ∈ reportWrites [e] := List.mem_filterMap.mpr ⟨e, List.mem_cons_self, hw⟩
      rw [h.2] at hmem
      cases hmem
    rw [← List.append_assoc, groups_concat, ih h.1, Groups.add, he, received_append,
      if_neg Bool.false_ne_true, List.append_assoc]
    rfl

theorem groups_flatten (tr : List (Event F)) :
    (groups tr).closed.flatten ++ (groups tr).rest = received tr := by
  induction tr using List.reverseRecOn with
  | nil => rfl
  | append_singleton tr e ih =>
    rw [groups_concat, received_append, ← ih, Groups.add]
    cases hc : e.completes with
    | false =>
      rw [if_neg Bool.false_ne_true, List.append_assoc]
      cases e <;> rfl
    | true =>
      have hnone : e.receivedPacket = none := by
        cases e with
        | received p => cases hc
        | write | publish | saveLifetime | saveSeq | sleep => rfl
      have hrec : received [e] = [] := by
        show [e].filterMap Event.receivedPacket = []
        rw [List.filterMap_cons, hnone, List.filterMap_nil]
      rw [if_pos rfl, hrec, List.append_nil, Groups.close, List.append_nil, List.flatten_append]
      simp only [List.flatten_cons, List.flatten_nil, List.append_nil]

variable [F64 F]

/-! ## Lines -/

def rxItem (t : Captured F) (n : Nat) : AnalogItem F where
  label := "Rx_" ++ (Nat.repr (t.telemetryThreshold / 60) ++ "min")
  units := "Pkts"
  equation := .ofValue (n : F)

/-- A line of the report that is due with these groups, for a task that began at
sequence number `first`. -/
structure ReportLine (t : Captured F) (first : UInt32) (g : Groups F) (w : ReportWrite F) :
    Prop where
  sequence : w.report.sequence = first + UInt32.ofNat g.closed.length
  received : w.report.telemetry.head? = some (rxItem t g.rest.length)
  text : ∃ lines info, w.report.toAprs t.callsign = .ok lines ∧ lines[w.index]? = some info ∧
    w.bytes = reportBytes t info

def Lines (t : Captured F) (first : UInt32) (tr : List (Event F)) : Prop :=
  ∀ pre e post w, tr = pre ++ e :: post → e.reportWrite = some w →
    ReportLine t first (groups pre) w

variable {t : Captured F} {first : UInt32}

theorem Lines.concat {tr : List (Event F)} {e : Event F} (h : Lines t first tr)
    (he : ∀ w, e.reportWrite = some w → ReportLine t first (groups tr) w) :
    Lines t first (tr ++ [e]) := by
  intro pre e' post w heq hw
  induction post using List.reverseRecOn with
  | nil =>
    obtain ⟨rfl, hlast⟩ := List.append_inj' heq rfl
    rw [List.cons.injEq] at hlast
    exact he w (hlast.1 ▸ hw)
  | append_singleton post x =>
    rw [← List.cons_append, ← List.append_assoc] at heq
    obtain ⟨hinit, _⟩ := List.append_inj' heq rfl
    exact h pre e' post w hinit hw

theorem Lines.append {tr evs : List (Event F)} (h : Lines t first tr)
    (hnone : reportWrites evs = []) : Lines t first (tr ++ evs) := by
  induction evs using List.reverseRecOn with
  | nil => rwa [List.append_nil]
  | append_singleton evs e ih =>
    rw [reportWrites_append, List.append_eq_nil_iff] at hnone
    rw [← List.append_assoc]
    refine (ih hnone.1).concat fun w hw => ?_
    have hmem : w ∈ reportWrites [e] := List.mem_filterMap.mpr ⟨e, List.mem_cons_self, hw⟩
    rw [hnone.2] at hmem
    cases hmem

omit [F64 F] in
/-- The groups after a line of a report: the fifth one closes the group when it goes out. -/
theorem groups_line (tr : List (Event F)) (report : Telemetry F) (i : Nat) (bytes : List UInt8)
    (result : WriteResult) :
    groups (tr ++ [.write (.report report i) bytes result]) =
      if i = 4 ∧ result = .done then (groups tr).close else groups tr := by
  rw [groups_concat, Groups.add]
  show (if (i == 4 && result == .done) = true then (groups tr).close else
    { groups tr with rest := (groups tr).rest ++ [] }) = _
  rw [List.append_nil]
  simp only [Bool.and_eq_true, beq_iff_eq]

/-- The lines of a report from index `i` on, written one after the other: each is the
one due, and the group is closed when the last one has gone out. -/
theorem Lines.writeLines {report : Telemetry F} {full : List String} {g : Groups F}
    (outcomes : Nat → WriteResult) (hfull : report.toAprs t.callsign = .ok full)
    (hlen : full.length = 5)
    (hseq : report.sequence = first + UInt32.ofNat g.closed.length)
    (hrx : report.telemetry.head? = some (rxItem t g.rest.length)) :
    ∀ (rest : List String) (i : Nat) (tr : List (Event F)), full.drop i = rest → rest ≠ [] →
      Lines t first tr → groups tr = g →
        Lines t first (tr ++ (writeLines t report outcomes i rest).1) ∧
          groups (tr ++ (writeLines t report outcomes i rest).1) =
            if (writeLines t report outcomes i rest).2 then g.close else g := by
  intro rest
  induction rest with
  | nil => exact fun _ _ _ h => absurd rfl h
  | cons info rest ih =>
    intro i tr hdrop _ hlines hg
    have hinfo : full[i]? = some info := by
      have := congrArg List.head? hdrop
      rwa [List.head?_drop] at this
    have hrest : full.drop (i + 1) = rest := by
      rw [← List.drop_drop, hdrop]
      rfl
    have hi : i < 5 := hlen ▸ (List.getElem?_eq_some_iff.mp hinfo).1
    have hline : ∀ result, Lines t first (tr ++ [.write (.report report i) (reportBytes t info)
        result]) := by
      intro result
      refine hlines.concat fun w hw => ?_
      cases hw
      exact hg ▸ ⟨hseq, hrx, full, info, hfull, hinfo, rfl⟩
    have hgroups := groups_line tr report i (reportBytes t info)
    rw [hg] at hgroups
    rw [Aprsis.writeLines]
    cases ho : outcomes i with
    | failed | timedOut =>
      refine ⟨hline _, ?_⟩
      rw [hgroups, if_neg fun h => by cases h.2]
      rfl
    | done =>
      show Lines t first (tr ++ (.write (.report report i) (reportBytes t info) .done ::
          (Aprsis.writeLines t report outcomes (i + 1) rest).1)) ∧
        groups (tr ++ (.write (.report report i) (reportBytes t info) .done ::
          (Aprsis.writeLines t report outcomes (i + 1) rest).1)) =
          if (Aprsis.writeLines t report outcomes (i + 1) rest).2 then g.close else g
      rw [List.append_cons]
      have hlast : rest = [] ↔ i = 4 := by
        rw [← hrest, List.drop_eq_nil_iff]
        omega
      by_cases hnil : rest = []
      · -- the fifth line
        rw [hnil]
        simp only [Aprsis.writeLines, List.append_nil]
        refine ⟨hline _, ?_⟩
        rw [hgroups, if_pos ⟨hlast.mp hnil, rfl⟩]
        rfl
      · have hopen : groups (tr ++ [.write (.report report i) (reportBytes t info) .done]) = g := by
          rw [hgroups, if_neg fun h => hnil (hlast.mpr h.1)]
        exact ih (i + 1) _ hrest hnil (hline _) hopen

/-! ## Runs -/

structure Reported (t : Captured F) (first : UInt32) (s : State F) (tr : List (Event F)) :
    Prop where
  sequence : s.sequence = first + UInt32.ofNat (groups tr).closed.length
  interval : s.interval.rfReceived = (groups tr).rest.length
  lines : Lines t first tr

theorem Reported.plain {s s' : State F} {tr evs : List (Event F)} (h : Reported t first s tr)
    (hseq : s'.sequence = s.sequence)
    (hint : s'.interval.rfReceived = s.interval.rfReceived + (Aprsis.received evs).length)
    (hnone : reportWrites evs = []) : Reported t first s' (tr ++ evs) where
  sequence := by
    rw [groups_append hnone, hseq]
    exact h.sequence
  interval := by
    rw [groups_append hnone, List.length_append, hint, h.interval]
  lines := h.lines.append hnone

theorem sendReport_reported {s : State F} {tr : List (Event F)} (h : Reported t first s tr)
    (outcomes : Nat → WriteResult) :
    Reported t first (sendReport t outcomes s).1 (tr ++ (sendReport t outcomes s).2) := by
  have hfive : (telemetryReport t s.interval s.sequence).telemetry.isEmpty = false := rfl
  obtain ⟨full, hfull, hlen⟩ := toAprs_length hfive t.callsign
  have hrx : (telemetryReport t s.interval s.sequence).telemetry.head? =
      some (rxItem t (groups tr).rest.length) := by
    rw [← h.interval]
    rfl
  have hne : full ≠ [] := by
    intro hnil
    rw [hnil] at hlen
    cases hlen
  obtain ⟨hlines, hgroups⟩ := Lines.writeLines outcomes hfull hlen h.sequence hrx full 0 tr
    List.drop_zero hne h.lines rfl
  rw [sendReport]
  simp only [hfull]
  by_cases hdone : (writeLines t (telemetryReport t s.interval s.sequence) outcomes 0 full).2 = true
  · rw [if_pos hdone] at hgroups ⊢
    have hsave : reportWrites [(.saveSeq (s.sequence + 1) : Event F)] = [] := rfl
    rw [← List.append_assoc]
    refine ⟨?_, ?_, hlines.append hsave⟩
    · rw [groups_append hsave, hgroups]
      show s.sequence + 1 = first + UInt32.ofNat ((groups tr).closed ++ [(groups tr).rest]).length
      rw [List.length_append, List.length_singleton, UInt32.ofNat_add, h.sequence, UInt32.add_assoc]
      rfl
    · rw [groups_append hsave, hgroups]
      rfl
  · rw [if_neg hdone] at hgroups ⊢
    exact ⟨by rw [hgroups]; exact h.sequence, by rw [hgroups]; exact h.interval, hlines⟩

theorem floorTick_reported {s : State F} {tr : List (Event F)} (h : Reported t first s tr)
    (world : BeaconWorld F) (posit : WriteResult) (outcomes : Nat → WriteResult) :
    Reported t first (floorTick t world posit outcomes s).1
      (tr ++ (floorTick t world posit outcomes s).2) := by
  have hb := fun loc => beacon_positions t world.utc posit loc s
  have hsent := fun loc => h.plain (hb loc).sequence
    (by rw [(hb loc).interval, (hb loc).quiet.noPacket.2]; rfl) (hb loc).noReport
  have hexit := floorTick_exit t world posit outcomes s
  generalize floorTick t world posit outcomes s = r at hexit
  cases hexit with
  | idle => rwa [List.append_nil]
  | report => exact sendReport_reported h outcomes
  | unsent loc => exact hsent loc
  | both loc =>
    rw [← List.append_assoc]
    exact sendReport_reported (hsent loc) outcomes

theorem handlePacket_reported {s : State F} {tr : List (Event F)} (h : Reported t first s tr)
    (clock : GateClock) (outcome : WriteResult) (p : RTPPacket F) :
    Reported t first (handlePacket t clock outcome s p).1
      (tr ++ (handlePacket t clock outcome s p).2) := by
  have hexit := handlePacket_exit t clock outcome s p
  generalize handlePacket t clock outcome s p = r at hexit
  cases hexit with
  | ungated | filtered | duplicate | refused | gated | failed => exact h.plain rfl rfl rfl

theorem step_reported {s : State F} {tr : List (Event F)} (h : Reported t first s tr)
    (i : Input F) : Reported t first (step t s i).1 (tr ++ (step t s i).2) := by
  cases step_cases t s i with
  | packet p clock outcome _ _ hstep =>
    rw [hstep]
    exact handlePacket_reported h clock outcome p
  | lagged n clock outcome _ _ hstep =>
    rw [hstep]
    exact h.plain rfl rfl rfl
  | sample now utc _ _ hstep =>
    rw [hstep]
    exact h.plain rfl rfl rfl
  | report world posit outcomes _ _ hstep =>
    rw [hstep]
    exact floorTick_reported h world posit outcomes
  | other hq hint hseq hnone =>
    exact h.plain hseq (by rw [hint, hq.noPacket.2]; rfl) hnone

theorem start_reported (row : Option AprsisLifetime) (seq : SeqLoad) :
    Reported t (start row seq : State F × List (Event F)).1.sequence (start row seq).1 [] := by
  refine ⟨(UInt32.add_zero _).symm, ?_, ?_⟩
  · cases row <;> cases seq <;> rfl
  · intro pre e post w h
    exact absurd h.symm (List.append_ne_nil_of_right_ne_nil _ (List.cons_ne_nil _ _))

/-- Over any run, every report line written carries the number of the first report
plus that of the reports completed before it, counts the packets received since the
last of these, and follows the lines before it of the same report.  A completed report
has gone out whole.  So each packet is counted in exactly one completed report, or in
the interval that is still open. -/
theorem packets_reported_once (t : Captured F) (row : Option AprsisLifetime) (seq : SeqLoad)
    (is : List (Input F)) :
    (∀ pre e post w, (run (step t) (start row seq).1 is).2 = pre ++ e :: post →
        e.reportWrite = some w →
          ReportLine t (start row seq : State F × List (Event F)).1.sequence (groups pre) w ∧
            FollowsLines (reportWrites pre) w ∧ ∀ v ∈ (reportWrites pre).getLast?, v.Next w) ∧
      (∀ pre e post, (run (step t) (start row seq).1 is).2 = pre ++ e :: post →
        e.completes = true →
          ∃ report lines, lines <:+ reportWrites (pre ++ [e]) ∧ AllLines report lines ∧
            report.sequence = (start row seq : State F × List (Event F)).1.sequence +
              UInt32.ofNat (groups pre).closed.length) ∧
      (groups (run (step t) (start row seq).1 is).2).closed.flatten ++
          (groups (run (step t) (start row seq).1 is).2).rest =
        received (run (step t) (start row seq).1 is).2 ∧
      (run (step t) (start row seq).1 is).1.interval.rfReceived =
        (groups (run (step t) (start row seq).1 is).2).rest.length := by
  have h : Reported t (start row seq : State F × List (Event F)).1.sequence
      (run (step t) (start row seq).1 is).1 (run (step t) (start row seq).1 is).2 :=
    run_invariant (P := fun _ s tr => Reported t _ s tr) (start_reported row seq)
      (fun _ i _ _ h => step_reported h i) is
  have hturn := run_inTurn t (start row seq).1 is
  refine ⟨fun pre e post w heq hw => ⟨h.lines pre e post w heq hw, ?_, ?_⟩,
    fun pre e post heq he => ?_, groups_flatten _, h.interval⟩
  · rw [heq, reportWrites_split hw] at hturn
    exact hturn.followsLines rfl
  · rw [heq, reportWrites_split hw] at hturn
    exact hturn.next rfl
  · obtain ⟨w, hw, hidx, hdone⟩ := reportWrite_of_completes he
    obtain ⟨lines, hsuffix, hall⟩ := hturn.allLines heq hw hidx hdone
    exact ⟨w.report, lines, hsuffix, hall, (h.lines pre e post w heq hw).sequence⟩

/-- A packet, and two report ticks: the second line of the first report fails. -/
def interruptedReport : List (Input ℚ) :=
  [.attempt .loggedIn, .recv (.message (.pkt (samplePacket "W1AW" [62, 65]))) ⟨0, 0⟩ .done,
    .floorTick ⟨0, 0, none⟩ .done fun i => if i = 1 then .failed else .done,
    .attempt .loggedIn, .floorTick ⟨0, 0, none⟩ .done fun _ => .done]

def valueLines (tr : List (Event F)) : List (ReportWrite F) :=
  (reportWrites tr).filter fun w => w.index == 0 && w.result == .done

/-- Both first lines go out, with one sequence number and the same packet. -/
theorem report_repeated :
    ¬ ((valueLines (run (step sampleStation) (start none (.stored 7)).1
          interruptedReport).2).map fun w => w.report.sequence.toNat).Pairwise (· < ·) ∧
      (valueLines (run (step sampleStation) (start none (.stored 7)).1 interruptedReport).2).map
          (fun w => w.report.telemetry.head?.map fun item => item.equation.x) =
        [some 1, some 1] := by
  decide +kernel

end Aprsis
end Rtpigate
