/-
The sequence number of the reports over restarts.

The task takes its number from the row in the store, counts on by one for every
complete report, and stores the new number at once and when it ends.  A start goes
back to the row.  So a number comes again only when the process has died, or the
store has failed, between a report and the next start, and no number is left out.

The reports are counted by a `Tally` of the marks a run leaves.  It goes back to
what has been stored at each start, and the number of a report is that of the first
one plus the tally.
-/
import Rtpigate.Aprsis.Report

namespace Rtpigate
namespace Aprsis

open Lib

variable {F : Type}

/-! ## Marks -/

/-- A report is complete, a number is stored, or the process starts. -/
inductive Mark
  | reported (seq : UInt32)
  | stored (seq : UInt32)
  | started
  deriving DecidableEq, Repr

/-- The number of the report whose last line goes out. -/
def Event.reportedSeq : Event F → Option UInt32
  | .write (.report report index) _ result =>
    if index = 4 ∧ result = .done then some report.sequence else none
  | _ => none

theorem reportWrite_of_reportedSeq {e : Event F} {seq : UInt32} (h : e.reportedSeq = some seq) :
    ∃ w, e.reportWrite = some w ∧ w.report.sequence = seq ∧ w.index = 4 ∧ w.result = .done := by
  cases e with
  | write line bytes result =>
    cases line with
    | report report index =>
      rw [Event.reportedSeq, Option.ite_none_right_eq_some] at h
      obtain ⟨⟨hidx, hdone⟩, hseq⟩ := h
      exact ⟨⟨report, index, bytes, result⟩, rfl, Option.some.inj hseq, hidx, hdone⟩
    | packet | posit => cases h
  | received | publish | saveLifetime | saveSeq | sleep => cases h

def Event.mark (saved : Bool) : Event F → Option Mark
  | .saveSeq seq => if saved then some (.stored seq) else none
  | e => e.reportedSeq.map .reported

/-- How many reports there have been, and how many of them the row knows of.  Those
after the row are forgotten by a start. -/
structure Tally where
  due : Nat := 0
  stored : Nat := 0
  deriving DecidableEq, Repr

namespace Tally

def add (c : Tally) : Mark → Tally
  | .reported _ => { c with due := c.due + 1 }
  | .stored _ => { c with stored := c.due }
  | .started => { c with due := c.stored }

def of (marks : List Mark) : Tally := marks.foldl add {}

theorem of_concat (marks : List Mark) (m : Mark) : of (marks ++ [m]) = (of marks).add m := by
  rw [of, List.foldl_concat]
  rfl

end Tally

def reportedSeqs (marks : List Mark) : List UInt32 :=
  marks.filterMap fun
    | .reported seq => some seq
    | .stored _ | .started => none

/-! ## The process -/

/-- The row of the number, and the task while one runs. -/
structure Numbering (F : Type) where
  disk : Option UInt32
  task : Option (Captured F × State F)

/-- The process starts, its task takes a step, or the process dies in a step, after
some of the events of it.  `saved` says whether the number can be stored. -/
inductive NumberingInput (F : Type)
  | start (t : Captured F) (row : Option AprsisLifetime) (readable saved : Bool)
  | step (i : Input F) (saved : Bool)
  | crash (i : Input F) (kept : Nat) (saved : Bool)

def loadTelemetrySeq (legacy : Option UInt32) (readable : Bool) (disk : Option UInt32) : SeqLoad :=
  match readable, disk with
  | true, some seq => .stored seq
  | true, none => .missing legacy
  | false, _ => .failed

def storeMark (disk : Option UInt32) : Mark → Option UInt32
  | .stored seq => some seq
  | .reported _ | .started => disk

namespace Numbering

/-- The row after some events, and their marks. -/
def record (saved : Bool) (disk : Option UInt32) (events : List (Event F)) :
    Option UInt32 × List Mark :=
  let marks := events.filterMap (Event.mark saved)
  (marks.foldl storeMark disk, marks)

/-- `legacy` is the number in the file that held it before there was a store. -/
def next [F64 F] (legacy : Option UInt32) (pr : Numbering F) (i : NumberingInput F) :
    Numbering F × List Mark :=
  match i, pr.task with
  | .start t row readable saved, _ =>
    let begun := start row (loadTelemetrySeq legacy readable pr.disk)
    let recorded := record saved pr.disk begun.2
    (⟨recorded.1, some (t, begun.1)⟩, .started :: recorded.2)
  | .step i saved, some (t, s) =>
    let stepped := step t s i
    let recorded := record saved pr.disk stepped.2
    (⟨recorded.1, some (t, stepped.1)⟩, recorded.2)
  | .crash i kept saved, some (t, s) =>
    let recorded := record saved pr.disk ((step t s i).2.take kept)
    (⟨recorded.1, none⟩, recorded.2)
  | .step _ _, none | .crash _ _ _, none => (pr, [])

/-- What the task does outside in this input. -/
def carriedOut [F64 F] (pr : Numbering F) (i : NumberingInput F) : List (Event F) :=
  match i, pr.task with
  | .step i _, some (t, s) => (step t s i).2
  | .crash i kept _, some (t, s) => (step t s i).2.take kept
  | .start _ _ _ _, _ | .step _ _, none | .crash _ _ _, none => []

end Numbering

/-! ## Events of one step -/

/-- From the number `seq` on, every complete report has the number that is due, and
every store is of that number. -/
def Numbered (seq : UInt32) : List (Event F) → Prop
  | [] => True
  | e :: events =>
    match e.reportedSeq with
    | some n => n = seq ∧ Numbered (seq + 1) events
    | none => (∀ n, e = .saveSeq n → n = seq) ∧ Numbered seq events

def completed (events : List (Event F)) : Nat := events.countP fun e => e.reportedSeq.isSome

theorem completed_cons (e : Event F) (events : List (Event F)) :
    completed (e :: events) = completed events + if e.reportedSeq.isSome then 1 else 0 :=
  List.countP_cons

theorem completed_append (a b : List (Event F)) :
    completed (a ++ b) = completed a + completed b := List.countP_append

theorem numbered_append {seq : UInt32} {a b : List (Event F)} :
    Numbered seq (a ++ b) ↔ Numbered seq a ∧ Numbered (seq + UInt32.ofNat (completed a)) b := by
  induction a generalizing seq with
  | nil =>
    show Numbered seq b ↔ True ∧ Numbered (seq + 0) b
    rw [UInt32.add_zero, true_and]
  | cons e a ih =>
    rw [List.cons_append, Numbered, Numbered, completed_cons]
    cases he : e.reportedSeq with
    | none =>
      show _ ∧ Numbered seq (a ++ b) ↔ (_ ∧ Numbered seq a) ∧
        Numbered (seq + UInt32.ofNat (completed a + 0)) b
      rw [ih, Nat.add_zero, and_assoc]
    | some n =>
      show _ ∧ Numbered (seq + 1) (a ++ b) ↔ (_ ∧ Numbered (seq + 1) a) ∧
        Numbered (seq + UInt32.ofNat (completed a + 1)) b
      have hnext : seq + UInt32.ofNat (completed a + 1) = seq + 1 + UInt32.ofNat (completed a) := by
        rw [UInt32.ofNat_add, UInt32.add_comm (UInt32.ofNat (completed a)), ← UInt32.add_assoc]
        rfl
      rw [ih, hnext, and_assoc]

theorem Numbered.take {seq : UInt32} {events : List (Event F)} (h : Numbered seq events)
    (k : Nat) : Numbered seq (events.take k) := by
  rw [← List.take_append_drop k events, numbered_append] at h
  exact h.1

/-- Events that neither complete a report nor store a number. -/
theorem numbered_plain {events : List (Event F)}
    (h : ∀ e ∈ events, e.reportedSeq = none ∧ ∀ n, e ≠ .saveSeq n) (seq : UInt32) :
    Numbered seq events ∧ completed events = 0 := by
  refine ⟨?_, List.countP_eq_zero.mpr fun e he => by rw [(h e he).1]; exact Bool.false_ne_true⟩
  induction events with
  | nil => trivial
  | cons e events ih =>
    obtain ⟨hnone, hsave⟩ := h e List.mem_cons_self
    rw [Numbered, hnone]
    exact ⟨fun n hn => absurd hn (hsave n), ih fun e he => h e (List.mem_cons_of_mem _ he)⟩

/-- A step counts on from the number of its state to that of its result. -/
structure Counts (s : State F) (r : State F × List (Event F)) : Prop where
  numbered : Numbered s.sequence r.2
  sequence : r.1.sequence = s.sequence + UInt32.ofNat (completed r.2)

theorem counts_plain {s : State F} {r : State F × List (Event F)}
    (h : ∀ e ∈ r.2, e.reportedSeq = none ∧ ∀ n, e ≠ .saveSeq n)
    (hseq : r.1.sequence = s.sequence) : Counts s r where
  numbered := (numbered_plain h s.sequence).1
  sequence := by
    rw [(numbered_plain h s.sequence).2, hseq]
    exact (UInt32.add_zero _).symm

theorem Counts.trans {s : State F} {r r' : State F × List (Event F)} (h : Counts s r)
    (h' : Counts r.1 r') : Counts s (r'.1, r.2 ++ r'.2) where
  numbered := numbered_append.mpr ⟨h.numbered, h.sequence ▸ h'.numbered⟩
  sequence := by
    show r'.1.sequence = s.sequence + UInt32.ofNat (completed (r.2 ++ r'.2))
    rw [h'.sequence, h.sequence, completed_append, UInt32.ofNat_add, UInt32.add_assoc]

variable [F64 F]

omit [F64 F] in
/-- The lines of a report from index `i` on, which is complete when all of them go out. -/
theorem writeLines_numbered (t : Captured F) (report : Telemetry F)
    (outcomes : Nat → WriteResult) :
    ∀ (rest : List String) (i : Nat), i + rest.length = 5 → rest ≠ [] →
      Numbered report.sequence (writeLines t report outcomes i rest).1 ∧
        completed (writeLines t report outcomes i rest).1 =
          if (writeLines t report outcomes i rest).2 then 1 else 0 := by
  intro rest
  induction rest with
  | nil => exact fun _ _ h => absurd rfl h
  | cons info rest ih =>
    intro i hlen _
    rw [List.length_cons] at hlen
    have hcut : ∀ result, result ≠ .done →
        Numbered report.sequence
            [(.write (.report report i) (reportBytes t info) result : Event F)] ∧
          completed [(.write (.report report i) (reportBytes t info) result : Event F)] = 0 := by
      intro result hresult
      refine numbered_plain (fun e he => ?_) report.sequence
      rw [List.mem_singleton.mp he]
      exact ⟨if_neg fun h => hresult h.2, fun n hn => by cases hn⟩
    rw [writeLines]
    cases ho : outcomes i with
    | failed | timedOut => exact hcut _ (by decide)
    | done =>
      show Numbered report.sequence (.write (.report report i) (reportBytes t info) .done ::
          (writeLines t report outcomes (i + 1) rest).1) ∧
        completed (.write (.report report i) (reportBytes t info) .done ::
          (writeLines t report outcomes (i + 1) rest).1) =
            if (writeLines t report outcomes (i + 1) rest).2 then 1 else 0
      by_cases hnil : rest = []
      · -- the fifth line
        have hi : i = 4 := by
          rw [hnil] at hlen
          exact Nat.succ.inj hlen
        rw [hnil, hi]
        exact ⟨⟨rfl, trivial⟩, rfl⟩
      · have hi : i ≠ 4 := by
          have := List.length_pos_of_ne_nil hnil
          omega
        have hnone : (Event.write (.report report i) (reportBytes t info) .done).reportedSeq =
            none := if_neg fun h => hi h.1
        obtain ⟨hnumbered, hcompleted⟩ := ih (i + 1) (by omega) hnil
        refine ⟨?_, ?_⟩
        · rw [Numbered, hnone]
          exact ⟨fun n hn => (by cases hn), hnumbered⟩
        · rw [completed_cons, hnone]
          exact hcompleted

theorem sendReport_counts (t : Captured F) (outcomes : Nat → WriteResult) (s : State F) :
    Counts s (sendReport t outcomes s) := by
  obtain ⟨lines, hlines, hlen⟩ :=
    toAprs_length (t := telemetryReport t s.interval s.sequence) rfl t.callsign
  have hne : lines ≠ [] := List.ne_nil_of_length_pos (by rw [hlen]; decide)
  obtain ⟨hnumbered, hcompleted⟩ := writeLines_numbered t (telemetryReport t s.interval s.sequence)
    outcomes lines 0 (by rw [hlen]) hne
  rw [sendReport]
  simp only [hlines]
  by_cases hdone : (writeLines t (telemetryReport t s.interval s.sequence) outcomes 0 lines).2 = true
  · rw [if_pos hdone] at hcompleted ⊢
    refine ⟨numbered_append.mpr ⟨hnumbered, fun n hn => ?_, trivial⟩, ?_⟩
    · cases hn
      rw [hcompleted]
      rfl
    · rw [completed_append, hcompleted]
      rfl
  · rw [if_neg hdone] at hcompleted ⊢
    refine ⟨hnumbered, ?_⟩
    rw [hcompleted]
    exact (UInt32.add_zero _).symm

theorem beacon_counts (t : Captured F) (utc : Int) (outcome : WriteResult) (loc : Location F)
    (s : State F) : Counts s (beacon t utc outcome loc s) := by
  refine counts_plain (fun e he => ?_) (beacon_positions t utc outcome loc s).sequence
  have hevents : (beacon t utc outcome loc s).2 = (sendPositionBeacon t utc loc outcome).2 := by
    rw [beacon]
    show (if (sendPositionBeacon t utc loc outcome).1 = true then _ else _ :
      State F × List (Event F)).2 = _
    split
    · split <;> rfl
    · rfl
  rw [hevents] at he
  rcases sendPositionBeacon_events t utc loc outcome with h | ⟨bytes, h⟩
  · rw [h] at he
    cases he
  · rw [h, List.mem_singleton] at he
    rw [he]
    exact ⟨rfl, fun n hn => by cases hn⟩

theorem floorTick_counts (t : Captured F) (world : BeaconWorld F) (posit : WriteResult)
    (outcomes : Nat → WriteResult) (s : State F) :
    Counts s (floorTick t world posit outcomes s) := by
  have hexit := floorTick_exit t world posit outcomes s
  generalize floorTick t world posit outcomes s = r at hexit
  cases hexit with
  | idle => exact counts_plain (fun _ he => by cases he) rfl
  | report => exact sendReport_counts t outcomes s
  | unsent loc => exact beacon_counts t world.utc posit loc s
  | both loc => exact (beacon_counts t world.utc posit loc s).trans (sendReport_counts t outcomes _)

theorem moveTick_counts (t : Captured F) (world : BeaconWorld F) (posit : WriteResult)
    (s : State F) : Counts s (moveTick t world posit s) := by
  have hexit := moveTick_exit t world posit s
  generalize moveTick t world posit s = r at hexit
  cases hexit with
  | idle => exact counts_plain (fun _ he => by cases he) rfl
  | sent loc => exact beacon_counts t world.utc posit loc s

omit [F64 F] in
theorem shutdown_counts (s : State F) : Counts s (shutdown s) where
  numbered := ⟨(fun n hn => by cases hn), fun n hn => by cases hn; rfl, trivial⟩
  sequence := (UInt32.add_zero _).symm

omit [F64 F] in
theorem retry_counts (s : State F) : Counts s (retry s) :=
  counts_plain (fun e he => by
    rw [List.mem_singleton.mp he]
    exact ⟨rfl, fun n hn => by cases hn⟩) rfl

omit [F64 F] in
theorem attempt_counts (a : Attempt) (s : State F) : Counts s (attempt a s) := by
  have hconn : Counts s (connected s, []) := by
    refine counts_plain (fun _ he => by cases he) ?_
    rw [connected]
    split <;> rfl
  cases a with
  | resolveError | noAddress | connectError | connectTimeout => exact retry_counts s
  | loginRefused | loginError | loginTimeout => exact hconn.trans (retry_counts _)
  | loginCancelled => exact hconn.trans (shutdown_counts _)
  | loggedIn => exact ⟨trivial, hconn.sequence⟩

theorem handlePacket_counts (t : Captured F) (clock : GateClock) (outcome : WriteResult)
    (s : State F) (p : RTPPacket F) : Counts s (handlePacket t clock outcome s p) := by
  have hreceived : (Event.received p).reportedSeq = none ∧ ∀ n, Event.received p ≠ .saveSeq n :=
    ⟨rfl, fun n hn => by cases hn⟩
  have hwrite : ∀ bytes result, (Event.write (.packet p clock) bytes result).reportedSeq = none ∧
      ∀ n, Event.write (.packet p clock) bytes result ≠ .saveSeq n :=
    fun _ _ => ⟨rfl, fun n hn => by cases hn⟩
  have hexit := handlePacket_exit t clock outcome s p
  generalize handlePacket t clock outcome s p = r at hexit
  cases hexit with
  | ungated | filtered | duplicate | refused =>
    exact counts_plain (List.forall_mem_singleton.mpr hreceived) rfl
  | gated | failed =>
    exact counts_plain (List.forall_mem_cons.mpr
      ⟨hreceived, List.forall_mem_singleton.mpr (hwrite _ _)⟩) rfl

theorem step_counts (t : Captured F) (s : State F) (i : Input F) : Counts s (step t s i) := by
  have hplain : ∀ r : State F × List (Event F), r.2 = [] → r.1.sequence = s.sequence →
      Counts s r := fun r hr hseq => counts_plain (fun e he => by rw [hr] at he; cases he) hseq
  cases step_branch t s i with
  | attempt a _ _ h => exact h ▸ attempt_counts a s
  | cancel _ h => exact h ▸ shutdown_counts s
  | sample now utc _ _ h =>
    rw [h]
    refine counts_plain (List.forall_mem_cons.mpr
      ⟨⟨rfl, fun n hn => by cases hn⟩, List.forall_mem_singleton.mpr
        ⟨rfl, fun n hn => by cases hn⟩⟩) rfl
  | lost r _ h => exact hplain _ (by rw [h]) (by rw [h])
  | recv m clock outcome _ _ h =>
    rw [h]
    cases m with
    | lagged n => exact hplain _ rfl rfl
    | message d =>
      cases d with
      | tlm x => exact hplain _ rfl rfl
      | pkt p => exact handlePacket_counts t clock outcome s p
  | floor world posit outcomes _ _ h => exact h ▸ floorTick_counts t world posit outcomes s
  | move world posit _ _ h => exact h ▸ moveTick_counts t world posit s
  | idle _ h => exact hplain _ (by rw [h]) (by rw [h])

/-! ## Runs -/

/-- The row and the task have the numbers of the tally, and so has each report. -/
structure Recorded (first : UInt32) (base : UInt32) (disk : Option UInt32) (marks : List Mark) :
    Prop where
  row : disk.getD base = first + UInt32.ofNat (Tally.of marks).stored
  reports : ∀ pre seq post, marks = pre ++ .reported seq :: post →
    seq = first + UInt32.ofNat (Tally.of pre).due

variable {first base : UInt32}

omit [F64 F] in
theorem Recorded.concat {disk : Option UInt32} {marks : List Mark} {m : Mark}
    (h : Recorded first base disk marks)
    (hrow : (storeMark disk m).getD base =
      first + UInt32.ofNat ((Tally.of marks).add m).stored)
    (hreport : ∀ seq, m = .reported seq → seq = first + UInt32.ofNat (Tally.of marks).due) :
    Recorded first base (storeMark disk m) (marks ++ [m]) where
  row := by
    rw [Tally.of_concat]
    exact hrow
  reports := by
    intro pre seq post heq
    induction post using List.reverseRecOn with
    | nil =>
      obtain ⟨rfl, hlast⟩ := List.append_inj' heq rfl
      exact hreport seq (List.cons.inj hlast).1
    | append_singleton post x =>
      rw [← List.cons_append, ← List.append_assoc] at heq
      exact h.reports pre seq post (List.append_inj' heq rfl).1

omit [F64 F] in
/-- Events that count on from the tally, stored or not. -/
theorem Recorded.events (saved : Bool) :
    ∀ {events : List (Event F)} {disk : Option UInt32} {marks : List Mark},
      Recorded first base disk marks →
      Numbered (first + UInt32.ofNat (Tally.of marks).due) events →
        Recorded first base (Numbering.record saved disk events).1
            (marks ++ (Numbering.record saved disk events).2) ∧
          (Tally.of (marks ++ (Numbering.record saved disk events).2)).due =
            (Tally.of marks).due + completed events := by
  intro events
  induction events with
  | nil =>
    intro disk marks h _
    rw [show Numbering.record saved disk ([] : List (Event F)) = (disk, []) from rfl,
      List.append_nil]
    exact ⟨h, rfl⟩
  | cons e events ih =>
    intro disk marks h hnumbered
    rw [Numbered] at hnumbered
    -- with the mark of the first event in place, the rest follows from the hypothesis
    have hmarked : ∀ m, e.mark saved = some m →
        Recorded first base (storeMark disk m) (marks ++ [m]) →
        Numbered (first + UInt32.ofNat (Tally.of (marks ++ [m])).due) events →
        (Tally.of (marks ++ [m])).due + completed events =
          (Tally.of marks).due + completed (e :: events) →
        Recorded first base (Numbering.record saved disk (e :: events)).1
            (marks ++ (Numbering.record saved disk (e :: events)).2) ∧
          (Tally.of (marks ++ (Numbering.record saved disk (e :: events)).2)).due =
            (Tally.of marks).due + completed (e :: events) := by
      intro m hm hrec hrest hdue
      have hcons : Numbering.record saved disk (e :: events) =
          ((Numbering.record saved (storeMark disk m) events).1,
            m :: (Numbering.record saved (storeMark disk m) events).2) := by
        simp only [Numbering.record, List.filterMap_cons_some hm, List.foldl_cons]
      rw [hcons, List.append_cons, ← hdue]
      exact ih hrec hrest
    cases hseq : e.reportedSeq with
    | some n =>
      rw [hseq] at hnumbered
      obtain ⟨hn, hrest⟩ := hnumbered
      have hm : e.mark saved = some (.reported n) := by
        cases e with
        | saveSeq m => cases hseq
        | received | write | publish | saveLifetime | sleep =>
          exact congrArg (Option.map Mark.reported) hseq
      have hdue : (Tally.of (marks ++ [.reported n])).due = (Tally.of marks).due + 1 := by
        rw [Tally.of_concat]
        rfl
      refine hmarked _ hm (h.concat h.row fun seq hs => ?_) ?_ ?_
      · cases hs
        exact hn
      · rw [hdue, UInt32.ofNat_add, ← UInt32.add_assoc]
        exact hrest
      · rw [hdue, completed_cons, hseq, Nat.add_assoc, Nat.add_comm 1]
        rfl
    | none =>
      rw [hseq] at hnumbered
      obtain ⟨hsave, hrest⟩ := hnumbered
      have hcount : completed (e :: events) = completed events := by
        rw [completed_cons, hseq]
        rfl
      cases hm : e.mark saved with
      | none =>
        have hcons : Numbering.record saved disk (e :: events) =
            Numbering.record saved disk events := by
          simp only [Numbering.record, List.filterMap_cons_none hm]
        rw [hcons, hcount]
        exact ih h hrest
      | some m =>
        have hstored : ∃ n, e = .saveSeq n ∧ m = .stored n := by
          cases e with
          | saveSeq n =>
            cases saved with
            | true => exact ⟨n, rfl, (Option.some.inj hm).symm⟩
            | false => cases hm
          | received | write | publish | saveLifetime | sleep =>
            rw [Event.mark, hseq] at hm
            · cases hm
            · exact fun n hn => by cases hn
        obtain ⟨n, he, rfl⟩ := hstored
        have hdue : (Tally.of (marks ++ [.stored n])).due = (Tally.of marks).due := by
          rw [Tally.of_concat]
          rfl
        refine hmarked _ hm (h.concat (hsave n he) fun seq hs => by cases hs) ?_ ?_
        · rw [hdue]
          exact hrest
        · rw [hdue, hcount]

/-- The numbers of a run whose first report is due with number `first`. -/
structure Numbering.Sound (first : UInt32) (legacy : Option UInt32) (pr : Numbering F)
    (marks : List Mark) : Prop where
  recorded : Recorded first (legacy.getD 0) pr.disk marks
  task : ∀ t s, pr.task = some (t, s) → s.sequence = first + UInt32.ofNat (Tally.of marks).due

def NumberingInput.Readable : NumberingInput F → Prop
  | .start _ _ readable _ => readable = true
  | .step _ _ | .crash _ _ _ => True

omit [F64 F] in
/-- A start with a readable store has the number of the row, or that of the file. -/
theorem start_numbered (row : Option AprsisLifetime) (legacy disk : Option UInt32) :
    Numbered (disk.getD (legacy.getD 0)) (start (F := F) row (loadTelemetrySeq legacy true disk)).2 ∧
      completed (start (F := F) row (loadTelemetrySeq legacy true disk)).2 = 0 ∧
      (start (F := F) row (loadTelemetrySeq legacy true disk)).1.sequence =
        disk.getD (legacy.getD 0) := by
  cases disk with
  | some seq => exact ⟨trivial, rfl, rfl⟩
  | none => exact ⟨⟨fun n hn => by cases hn; rfl, trivial⟩, rfl, rfl⟩

theorem Numbering.next_sound {legacy : Option UInt32} {pr : Numbering F} {marks : List Mark}
    (h : pr.Sound first legacy marks) {i : NumberingInput F} (hi : i.Readable) :
    (pr.next legacy i).1.Sound first legacy (marks ++ (pr.next legacy i).2) := by
  cases i with
  | start t row readable saved =>
    cases hi
    obtain ⟨hnumbered, hnone, hseq⟩ := start_numbered (F := F) row legacy pr.disk
    have hback : (Tally.of (marks ++ [.started])).due = (Tally.of marks).stored ∧
        (Tally.of (marks ++ [.started])).stored = (Tally.of marks).stored := by
      rw [Tally.of_concat]
      exact ⟨rfl, rfl⟩
    have hstarted : Recorded first (legacy.getD 0) pr.disk (marks ++ [.started]) :=
      h.recorded.concat (m := .started) h.recorded.row fun seq hs => by cases hs
    have hq := h.recorded.row
    rw [hq, ← hback.1] at hnumbered
    obtain ⟨hrec, hdue⟩ := hstarted.events saved hnumbered
    rw [hnone, Nat.add_zero, hback.1] at hdue
    show Numbering.Sound first legacy ⟨_, _⟩ (marks ++ .started :: _)
    rw [List.append_cons]
    refine ⟨hrec, fun t' s' ht => ?_⟩
    cases ht
    rw [hdue, ← hq, ← hseq]
  | step i saved =>
    cases htask : pr.task with
    | none =>
      rw [show pr.next legacy (.step i saved) = (pr, []) by simp only [next, htask],
        List.append_nil]
      exact h
    | some ts =>
      obtain ⟨t, s⟩ := ts
      have hs := h.task t s htask
      have hstep := step_counts t s i
      obtain ⟨hrec, hdue⟩ := h.recorded.events saved (hs ▸ hstep.numbered)
      rw [show pr.next legacy (.step i saved) =
          (⟨(record saved pr.disk (step t s i).2).1, some (t, (step t s i).1)⟩,
            (record saved pr.disk (step t s i).2).2) by simp only [next, htask]]
      refine ⟨hrec, fun t' s' ht => ?_⟩
      cases ht
      rw [hdue, hstep.sequence, hs, UInt32.ofNat_add, UInt32.add_assoc]
  | crash i kept saved =>
    cases htask : pr.task with
    | none =>
      rw [show pr.next legacy (.crash i kept saved) = (pr, []) by simp only [next, htask],
        List.append_nil]
      exact h
    | some ts =>
      obtain ⟨t, s⟩ := ts
      have hs := h.task t s htask
      have hnumbered := (step_counts t s i).numbered.take kept
      rw [show pr.next legacy (.crash i kept saved) =
          (⟨(record saved pr.disk ((step t s i).2.take kept)).1, none⟩,
            (record saved pr.disk ((step t s i).2.take kept)).2) by simp only [next, htask]]
      exact ⟨(h.recorded.events saved (hs ▸ hnumbered)).1, fun _ _ ht => by cases ht⟩

omit [F64 F] in
theorem Numbering.mem_record {saved : Bool} {disk : Option UInt32} {events : List (Event F)}
    {seq : UInt32} (h : .reported seq ∈ (record saved disk events).2) :
    ∃ e ∈ events, e.reportedSeq = some seq := by
  obtain ⟨e, he, hmark⟩ := List.mem_filterMap.mp h
  refine ⟨e, he, ?_⟩
  have hmapped : e.reportedSeq.map Mark.reported = some (.reported seq) := by
    cases e with
    | saveSeq n => cases saved <;> cases hmark
    | received | write | publish | saveLifetime | sleep => exact hmark
  obtain ⟨n, hn, hseq⟩ := Option.map_eq_some_iff.mp hmapped
  cases hseq
  exact hn

/-- A report is marked when all its lines have gone out in that input, also when the
process dies in it. -/
theorem Numbering.reported_whole {legacy : Option UInt32} {pr : Numbering F}
    {i : NumberingInput F} {seq : UInt32} (h : .reported seq ∈ (pr.next legacy i).2) :
    ∃ report lines, report.sequence = seq ∧ AllLines report lines ∧
      lines <:+: reportWrites (pr.carriedOut i) := by
  have hwhole : ∀ events later : List (Event F), InTurn (reportWrites (events ++ later)) →
      (∃ e ∈ events, e.reportedSeq = some seq) →
        ∃ report lines, report.sequence = seq ∧ AllLines report lines ∧
          lines <:+: reportWrites events := by
    intro events later hturn he
    obtain ⟨e, he, hseq⟩ := he
    obtain ⟨w, hw, hreport, hidx, hdone⟩ := reportWrite_of_reportedSeq hseq
    obtain ⟨before, after, rfl⟩ := List.append_of_mem he
    obtain ⟨lines, hsuffix, hall⟩ := hturn.allLines
      (show _ = before ++ e :: (after ++ later) by rw [List.append_assoc]; rfl) hw hidx hdone
    refine ⟨w.report, lines, hreport, hall, hsuffix.isInfix.trans ?_⟩
    rw [List.append_cons before e after, reportWrites_append (before ++ [e]) after]
    exact (List.prefix_append _ _).isInfix
  cases i with
  | start t row readable saved =>
    rcases List.mem_cons.mp h with h | h
    · cases h
    · obtain ⟨e, he, hseq⟩ := mem_record h
      generalize loadTelemetrySeq legacy readable pr.disk = load at he
      cases load with
      | stored n => exact absurd (show e ∈ [] from he) List.not_mem_nil
      | failed => exact absurd (show e ∈ [] from he) List.not_mem_nil
      | missing file =>
        rw [List.mem_singleton.mp he] at hseq
        cases hseq
  | step i saved =>
    cases htask : pr.task with
    | none =>
      simp only [next, htask] at h
      cases h
    | some ts =>
      obtain ⟨t, s⟩ := ts
      simp only [next, htask] at h
      simp only [carriedOut, htask]
      refine hwhole _ [] ?_ (mem_record h)
      rw [List.append_nil]
      exact step_inTurn t s i
  | crash i kept saved =>
    cases htask : pr.task with
    | none =>
      simp only [next, htask] at h
      cases h
    | some ts =>
      obtain ⟨t, s⟩ := ts
      simp only [next, htask] at h
      simp only [carriedOut, htask]
      refine hwhole _ ((step t s i).2.drop kept) ?_ (mem_record h)
      rw [List.take_append_drop]
      exact step_inTurn t s i

/-- Whenever the process starts, all reports are stored. -/
def Settled (marks : List Mark) : Prop :=
  ∀ k : Fin marks.length, marks.get k = .started →
    (Tally.of (marks.take k)).due = (Tally.of (marks.take k)).stored

instance (marks : List Mark) : Decidable (Settled marks) := inferInstanceAs (Decidable (∀ _, _))

theorem Settled.split {marks pre post : List Mark} (h : Settled marks)
    (heq : marks = pre ++ .started :: post) : (Tally.of pre).due = (Tally.of pre).stored := by
  subst heq
  have hk : pre.length < (pre ++ .started :: post).length := by simp
  have := h ⟨pre.length, hk⟩ (by simp)
  rwa [List.take_left] at this

theorem Settled.of_concat {marks : List Mark} {m : Mark} (h : Settled (marks ++ [m])) :
    Settled marks := by
  intro k hk
  have hlt : (k : Nat) < (marks ++ [m]).length := by
    rw [List.length_append]
    exact Nat.lt_add_right _ k.isLt
  have := h ⟨k, hlt⟩ (by simpa using hk)
  rwa [List.take_append_of_le_length k.isLt.le] at this

/-- No report is forgotten, and the tally is their number. -/
theorem reportedSeqs_settled {marks : List Mark}
    (hreports : ∀ pre seq post, marks = pre ++ .reported seq :: post →
      seq = first + UInt32.ofNat (Tally.of pre).due) (hsettled : Settled marks) :
    reportedSeqs marks =
      (List.range (Tally.of marks).due).map fun k => first + UInt32.ofNat k := by
  induction marks using List.reverseRecOn with
  | nil => rfl
  | append_singleton marks m ih =>
    have hbefore := ih
      (fun pre seq post heq => hreports pre seq (post ++ [m]) (by rw [heq, List.append_assoc]; rfl))
      hsettled.of_concat
    rw [Tally.of_concat, reportedSeqs, List.filterMap_append]
    show reportedSeqs marks ++ _ = _
    rw [hbefore]
    cases m with
    | reported seq =>
      show _ ++ [seq] = (List.range ((Tally.of marks).due + 1)).map _
      rw [hreports marks seq [] rfl, List.range_succ, List.map_append]
      rfl
    | stored seq => exact List.append_nil _
    | started =>
      show _ ++ [] = (List.range (Tally.of marks).stored).map _
      rw [List.append_nil, hsettled.split rfl]

/-- Over any number of starts with a readable store, and wherever the process dies, a
complete report has the number of the first one plus the tally, and all its lines have
gone out.  If all reports were stored whenever the process started, their numbers are
consecutive. -/
theorem reports_numbered (legacy disk : Option UInt32) (is : List (NumberingInput F))
    (hread : ∀ i ∈ is, i.Readable) :
    (∀ pre seq post, (run (Numbering.next legacy) ⟨disk, none⟩ is).2 =
        pre ++ .reported seq :: post →
          seq = disk.getD (legacy.getD 0) + UInt32.ofNat (Tally.of pre).due) ∧
      (Settled (run (Numbering.next legacy) ⟨disk, none⟩ is).2 →
        reportedSeqs (run (Numbering.next legacy) ⟨disk, none⟩ is).2 =
          (List.range (Tally.of (run (Numbering.next legacy) ⟨disk, none⟩ is).2).due).map
            fun k => disk.getD (legacy.getD 0) + UInt32.ofNat k) ∧
      ∀ js i, js ++ [i] <+: is → ∀ seq,
        .reported seq ∈ ((run (Numbering.next legacy) ⟨disk, none⟩ js).1.next legacy i).2 →
          ∃ report lines, report.sequence = seq ∧ AllLines report lines ∧
            lines <:+: reportWrites
              ((run (Numbering.next legacy) ⟨disk, none⟩ js).1.carriedOut i) := by
  have hstart : Numbering.Sound (F := F) (disk.getD (legacy.getD 0)) legacy ⟨disk, none⟩ [] :=
    ⟨⟨(UInt32.add_zero _).symm, fun pre seq post heq =>
      absurd heq.symm (List.append_ne_nil_of_right_ne_nil _ (List.cons_ne_nil _ _))⟩,
      fun _ _ ht => by cases ht⟩
  have h : (run (Numbering.next legacy) ⟨disk, none⟩ is).1.Sound (disk.getD (legacy.getD 0)) legacy
      (run (Numbering.next legacy) ⟨disk, none⟩ is).2 := by
    refine @run_rule _ _ _ (Numbering.next legacy) ⟨disk, none⟩ (fun is => ∀ i ∈ is, i.Readable)
      (fun _ pr marks => pr.Sound (disk.getD (legacy.getD 0)) legacy marks)
      (fun _ _ hok j hj => hok j (List.mem_append_left _ hj)) hstart
      (fun is i pr _ hok hp => ?_) is hread
    exact Numbering.next_sound hp (hok i (List.mem_append_right is List.mem_cons_self))
  exact ⟨h.recorded.reports, reportedSeqs_settled h.recorded.reports,
    fun _ _ _ _ => Numbering.reported_whole⟩

/-- A report, whose number cannot be stored until the process is stopped, a second one,
a death in the midst of a third, and the third one again. -/
def restartedReports : List (NumberingInput ℚ) :=
  let report : Input ℚ := .floorTick ⟨0, 0, none⟩ .done fun _ => .done
  [.start sampleStation none true true, .step (.attempt .loggedIn) true, .step report false,
    .step .cancel true, .start sampleStation none true true, .step (.attempt .loggedIn) true,
    .step report true, .crash report 4 true, .start sampleStation none true true,
    .step (.attempt .loggedIn) true, .step report true]

theorem reports_numbered_sample :
    reportedSeqs (run (Numbering.next none) ⟨some 7, none⟩ restartedReports).2 =
      (List.range (Tally.of (run (Numbering.next none)
        ⟨some 7, none⟩ restartedReports).2).due).map fun k => 7 + UInt32.ofNat k :=
  (reports_numbered none (some 7) restartedReports
    (by intro i hi; fin_cases hi <;> first | rfl | trivial)).2.1 (by decide +kernel)

end Aprsis
end Rtpigate
