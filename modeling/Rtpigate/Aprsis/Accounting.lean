/-
Lifetime counters.

Every packet taken from the channel counts as received, and every exit of the
packet branch but one as gated or dropped: a write that does not go through counts
as neither.  The drop breakdown adds up at each of these exits, and a restart
reads back what was saved.
-/
import Rtpigate.Aprsis.Gate

namespace Rtpigate
namespace Aprsis

open Lib Listener

variable {F : Type}

/-! ## Received packets -/

def PacketWrite.isDone (w : PacketWrite F) : Bool := w.result == .done

/-- The counters of a run against its trace, for a task that gates. -/
structure Counted (s₀ s : State F) (tr : List (Event F)) : Prop where
  received : s.lifetime.rfReceived = s₀.lifetime.rfReceived + (received tr).length
  igated : s.lifetime.packetsIgated =
    s₀.lifetime.packetsIgated + (packetWrites tr).countP PacketWrite.isDone
  dropped : ∃ d, s.lifetime.packetsDropped = s₀.lifetime.packetsDropped + d ∧
    d + (packetWrites tr).length = (Aprsis.received tr).length

theorem counted_start (s : State F) : Counted s s [] := ⟨rfl, rfl, 0, rfl, rfl⟩

theorem Counted.same {s₀ s s' : State F} {tr evs : List (Event F)} (h : Counted s₀ s tr)
    (hreceived : s'.lifetime.rfReceived = s.lifetime.rfReceived)
    (higated : s'.lifetime.packetsIgated = s.lifetime.packetsIgated)
    (hdropped : s'.lifetime.packetsDropped = s.lifetime.packetsDropped)
    (hw : packetWrites evs = []) (hr : Aprsis.received evs = []) :
    Counted s₀ s' (tr ++ evs) where
  received := by rw [received_append, hr, List.append_nil, hreceived]; exact h.received
  igated := by rw [packetWrites_append, hw, List.append_nil, higated]; exact h.igated
  dropped := by
    rw [packetWrites_append, received_append, hw, hr, List.append_nil, List.append_nil, hdropped]
    exact h.dropped

theorem Counted.packet {s₀ s s' : State F} {tr evs : List (Event F)} (h : Counted s₀ s tr)
    (hreceived : s'.lifetime.rfReceived = s.lifetime.rfReceived + 1)
    (higated : s'.lifetime.packetsIgated =
      s.lifetime.packetsIgated + (packetWrites evs).countP PacketWrite.isDone)
    (k : Nat) (hdropped : s'.lifetime.packetsDropped = s.lifetime.packetsDropped + k)
    (hk : k + (packetWrites evs).length = 1) (hr : (Aprsis.received evs).length = 1) :
    Counted s₀ s' (tr ++ evs) where
  received := by
    rw [received_append, List.length_append, hr, hreceived, h.received, Nat.add_assoc]
  igated := by
    rw [packetWrites_append, List.countP_append, higated, h.igated, Nat.add_assoc]
  dropped := by
    obtain ⟨d, hd, hsum⟩ := h.dropped
    refine ⟨d + k, by omega, ?_⟩
    rw [packetWrites_append, received_append, List.length_append, List.length_append, hr]
    omega

theorem countReason_lifetime (reason : DropReason) (l : Lifetime) :
    (countReason reason l).rfReceived = l.rfReceived ∧
      (countReason reason l).packetsIgated = l.packetsIgated ∧
      (countReason reason l).packetsDropped = l.packetsDropped := by
  cases reason <;> exact ⟨rfl, rfl, rfl⟩

section Counting

variable [F64 F] {t : Captured F}

theorem handlePacket_counted (hgate : (t.igating && t.rw) = true) {s₀ s : State F}
    {tr : List (Event F)} (h : Counted s₀ s tr) (clock : GateClock) (outcome : WriteResult)
    (p : RTPPacket F) :
    Counted s₀ (handlePacket t clock outcome s p).1
      (tr ++ (handlePacket t clock outcome s p).2) := by
  have hexit := handlePacket_exit t clock outcome s p
  generalize handlePacket t clock outcome s p = r at hexit
  cases hexit with
  | ungated hun => exact absurd (hgate.symm.trans hun) (by decide)
  | filtered reason =>
    obtain ⟨hr, hi, hd⟩ := countReason_lifetime reason
      { (s.receive p).lifetime with packetsDropped := (s.receive p).lifetime.packetsDropped + 1 }
    exact h.packet hr hi 1 hd rfl rfl
  | duplicate => exact h.packet rfl rfl 1 rfl rfl rfl
  | refused => exact h.packet rfl rfl 1 rfl rfl rfl
  | gated => exact h.packet rfl rfl 0 rfl rfl rfl
  | failed _ _ _ _ hdone =>
    refine h.packet rfl ?_ 0 rfl rfl rfl
    show _ = _ + List.countP PacketWrite.isDone [⟨p, clock, _, outcome⟩]
    rw [List.countP_singleton, PacketWrite.isDone, beq_false_of_ne hdone]
    rfl

theorem step_counted (hgate : (t.igating && t.rw) = true) {s₀ s : State F}
    {tr : List (Event F)} (h : Counted s₀ s tr) (i : Input F) :
    Counted s₀ (step t s i).1 (tr ++ (step t s i).2) := by
  cases step_cases t s i with
  | packet p clock outcome _ _ hstep =>
    rw [hstep]
    exact handlePacket_counted hgate h clock outcome p
  | lagged n clock outcome _ _ hstep =>
    rw [hstep]
    exact h.same rfl rfl rfl rfl rfl
  | sample now utc _ _ hstep =>
    rw [hstep]
    exact h.same rfl rfl rfl rfl rfl
  | report world posit outcomes _ _ hstep =>
    rw [hstep]
    have hq := floorTick_quiet t world posit outcomes s
    exact h.same (by rw [hq.lifetime]) (by rw [hq.lifetime]) (by rw [hq.lifetime])
      hq.noPacket.1 hq.noPacket.2
  | other hq =>
    exact h.same (by rw [hq.lifetime]) (by rw [hq.lifetime]) (by rw [hq.lifetime])
      hq.noPacket.1 hq.noPacket.2

theorem run_counted (hgate : (t.igating && t.rw) = true) (s₀ : State F) (is : List (Input F)) :
    Counted s₀ (run (step t) s₀ is).1 (run (step t) s₀ is).2 :=
  run_invariant (P := fun _ s tr => Counted s₀ s tr) (counted_start s₀)
    (fun _ i _ _ h => step_counted hgate h i) is

def increase (count : Lifetime → Nat) (s₀ s : State F) : Nat := count s.lifetime - count s₀.lifetime

/-- The received packets of a run are the gated and the dropped ones exactly when
every packet line written went out. -/
theorem accounted_iff (higating : t.igating = true) (hrw : t.rw = true)
    (row : Option AprsisLifetime) (seq : SeqLoad) (is : List (Input F)) :
    increase Lifetime.rfReceived (start row seq).1 (run (step t) (start row seq).1 is).1 =
        increase Lifetime.packetsIgated (start row seq).1 (run (step t) (start row seq).1 is).1 +
          increase Lifetime.packetsDropped (start row seq).1
            (run (step t) (start row seq).1 is).1 ↔
      ∀ w ∈ packetWrites (run (step t) (start row seq).1 is).2, w.result = .done := by
  have hgate : (t.igating && t.rw) = true := by rw [higating, hrw]; rfl
  have hcount := run_counted hgate (start row seq).1 is
  generalize (start row seq : State F × List (Event F)).1 = s₀ at hcount ⊢
  obtain ⟨hr, hi, d, hd, hsum⟩ := hcount
  generalize run (step t) s₀ is = r at hr hi hd hsum ⊢
  have hle := List.countP_le_length (p := PacketWrite.isDone) (l := packetWrites r.2)
  have hall : (∀ w ∈ packetWrites r.2, w.result = .done) ↔
      (packetWrites r.2).countP PacketWrite.isDone = (packetWrites r.2).length := by
    rw [List.countP_eq_length]
    simp only [PacketWrite.isDone, beq_iff_eq]
  rw [hall, increase, increase, increase]
  omega

def oneWrite (outcome : WriteResult) : List (Input ℚ) :=
  [.attempt .loggedIn, .recv (.message (.pkt (samplePacket "W1AW" [62, 65]))) ⟨0, 0⟩ outcome]

theorem accounted_iff_sample :
    increase Lifetime.rfReceived (start none .failed).1
          (run (step sampleStation) (start none .failed).1 (oneWrite .done)).1 =
        increase Lifetime.packetsIgated (start none .failed).1
            (run (step sampleStation) (start none .failed).1 (oneWrite .done)).1 +
          increase Lifetime.packetsDropped (start none .failed).1
            (run (step sampleStation) (start none .failed).1 (oneWrite .done)).1 ↔
      ∀ w ∈ packetWrites (run (step sampleStation) (start none .failed).1 (oneWrite .done)).2,
        w.result = .done :=
  accounted_iff rfl rfl none .failed (oneWrite .done)

/-- A failed write leaves its packet counted as neither gated nor dropped. -/
theorem failed_write_unaccounted :
    increase Lifetime.rfReceived (start none .failed).1
        (run (step sampleStation) (start none .failed).1 (oneWrite .failed)).1 ≠
      increase Lifetime.packetsIgated (start none .failed).1
          (run (step sampleStation) (start none .failed).1 (oneWrite .failed)).1 +
        increase Lifetime.packetsDropped (start none .failed).1
          (run (step sampleStation) (start none .failed).1 (oneWrite .failed)).1 := by
  decide +kernel

end Counting

/-! ## The drop breakdown -/

/-- The drops of a record are those of its breakdown. -/
def Balanced (r : AprsisLifetime) : Prop := r.packetsDropped = r.drops

theorem balanced_zero : Balanced {} := rfl

theorem balanced_congr {s s' : State F} (h : s'.lifetime = s.lifetime)
    (hb : Balanced s.aprsisLifetime) : Balanced s'.aprsisLifetime := by
  show s'.lifetime.packetsDropped = s'.aprsisLifetime.drops
  rw [AprsisLifetime.drops, State.aprsisLifetime, h]
  exact hb

theorem drop_balanced {s : State F} (hb : Balanced s.aprsisLifetime) :
    (∀ reason, Balanced (s.drop (countReason reason)).aprsisLifetime) ∧
      Balanced (s.drop countDuplicate).aprsisLifetime ∧
      Balanced (s.drop countMalformed).aprsisLifetime := by
  simp only [Balanced, AprsisLifetime.drops, State.aprsisLifetime] at hb
  refine ⟨fun reason => ?_, ?_, ?_⟩
  · cases reason <;>
      simp only [Balanced, AprsisLifetime.drops, State.aprsisLifetime, State.drop, countReason,
        countMalformed] <;>
      omega
  · simp only [Balanced, AprsisLifetime.drops, State.aprsisLifetime, State.drop, countDuplicate]
    omega
  · simp only [Balanced, AprsisLifetime.drops, State.aprsisLifetime, State.drop, countMalformed]
    omega

theorem start_balanced {row : Option AprsisLifetime} (hrow : ∀ al, row = some al → Balanced al)
    (seq : SeqLoad) :
    Balanced (start row seq : State F × List (Event F)).1.aprsisLifetime ∧
      savedLifetimes (start row seq : State F × List (Event F)).2 = [] := by
  cases row with
  | none => cases seq <;> exact ⟨balanced_zero, rfl⟩
  | some al =>
    have hal : Balanced al := hrow al rfl
    cases seq <;> exact ⟨hal, rfl⟩

def diskAfter (disk : Option AprsisLifetime) (saved : Bool) (events : List (Event F)) :
    Option AprsisLifetime :=
  if saved then (savedLifetimes events).getLast?.or disk else disk

theorem diskAfter_balanced {disk : Option AprsisLifetime} {saved : Bool} {events : List (Event F)}
    (hdisk : ∀ row, disk = some row → Balanced row)
    (hevents : ∀ row ∈ savedLifetimes events, Balanced row) :
    ∀ row, diskAfter disk saved events = some row → Balanced row := by
  intro row hrow
  rw [diskAfter] at hrow
  split at hrow
  · rcases Option.or_eq_some_iff.mp hrow with hlast | ⟨_, hold⟩
    · exact hevents row (List.mem_of_getLast? hlast)
    · exact hdisk row hold
  · exact hdisk row hrow

variable [F64 F] {t : Captured F}

theorem handlePacket_balanced {s : State F} (hb : Balanced s.aprsisLifetime) (clock : GateClock)
    (outcome : WriteResult) (p : RTPPacket F) :
    Balanced (handlePacket t clock outcome s p).1.aprsisLifetime ∧
      savedLifetimes (handlePacket t clock outcome s p).2 = [] := by
  have hexit := handlePacket_exit t clock outcome s p
  have hrec : Balanced (s.receive p).aprsisLifetime := hb
  generalize handlePacket t clock outcome s p = r at hexit
  cases hexit with
  | ungated => exact ⟨hrec, rfl⟩
  | filtered reason => exact ⟨(drop_balanced hrec).1 reason, rfl⟩
  | duplicate => exact ⟨(drop_balanced hrec).2.1, rfl⟩
  | refused => exact ⟨(drop_balanced hrec).2.2, rfl⟩
  | gated => exact ⟨hrec, rfl⟩
  | failed => exact ⟨hrec, rfl⟩

theorem step_balanced {s : State F} (hb : Balanced s.aprsisLifetime) (i : Input F) :
    Balanced (step t s i).1.aprsisLifetime ∧
      ∀ row ∈ savedLifetimes (step t s i).2, Balanced row := by
  have hquiet : ∀ {r : State F × List (Event F)}, Quiet s r →
      Balanced r.1.aprsisLifetime ∧ ∀ row ∈ savedLifetimes r.2, Balanced row := by
    intro r hq
    have hb' := balanced_congr hq.lifetime hb
    exact ⟨hb', fun row hrow => hq.saves row hrow ▸ hb'⟩
  cases step_cases t s i with
  | packet p clock outcome _ _ hstep =>
    rw [hstep]
    obtain ⟨hb', hnone⟩ := handlePacket_balanced (t := t) hb clock outcome p
    refine ⟨hb', fun row hrow => ?_⟩
    rw [hnone] at hrow
    cases hrow
  | lagged n clock outcome _ _ hstep =>
    rw [hstep]
    exact ⟨hb, fun row hrow => by cases hrow⟩
  | sample now utc _ _ hstep =>
    rw [hstep]
    refine ⟨hb, fun row hrow => ?_⟩
    rw [List.mem_singleton.mp hrow]
    exact hb
  | report world posit outcomes _ _ hstep =>
    rw [hstep]
    exact hquiet (floorTick_quiet t world posit outcomes s)
  | other hq => exact hquiet hq

/-! ## Restarts -/

/-- The process around the task: the saved row, and the task while one runs. -/
structure Process (F : Type) where
  disk : Option AprsisLifetime
  task : Option (Captured F × State F)

/-- The process starts, its task takes a step, or it is killed.  `readable` says
whether the load succeeds, `saved` whether the saves of the step do. -/
inductive ProcessInput (F : Type)
  | start (t : Captured F) (readable : Bool) (seq : SeqLoad)
  | step (i : Input F) (saved : Bool)
  | kill

def Process.next (pr : Process F) (i : ProcessInput F) : Process F × List (Event F) :=
  match i, pr.task with
  | .start t readable seq, _ =>
    let begun := start (if readable then some (loadAprsisLifetime pr.disk) else none) seq
    ({ pr with task := some (t, begun.1) }, begun.2)
  | .step i saved, some (t, s) =>
    let stepped := step t s i
    ({ disk := diskAfter pr.disk saved stepped.2, task := some (t, stepped.1) }, stepped.2)
  | .step _ _, none => (pr, [])
  | .kill, _ => ({ pr with task := none }, [])

theorem Process.next_idle {pr : Process F} (htask : pr.task = none) (i : Input F)
    (saved : Bool) : pr.next (.step i saved) = (pr, []) := by
  simp only [Process.next, htask]

theorem Process.next_running {pr : Process F} {t : Captured F} {s : State F}
    (htask : pr.task = some (t, s)) (i : Input F) (saved : Bool) :
    pr.next (.step i saved) =
      (⟨diskAfter pr.disk saved (step t s i).2, some (t, (step t s i).1)⟩, (step t s i).2) := by
  simp only [Process.next, htask]

/-- The row, the task and everything saved so far add up. -/
structure Process.Sound (pr : Process F) (tr : List (Event F)) : Prop where
  disk : ∀ row, pr.disk = some row → Balanced row
  task : ∀ t s, pr.task = some (t, s) → Balanced s.aprsisLifetime
  saved : ∀ row ∈ savedLifetimes tr, Balanced row

theorem next_sound {pr : Process F} {tr : List (Event F)} (h : pr.Sound tr) (i : ProcessInput F) :
    (pr.next i).1.Sound (tr ++ (pr.next i).2) := by
  have hsaved : ∀ {events : List (Event F)}, (∀ row ∈ savedLifetimes events, Balanced row) →
      ∀ row ∈ savedLifetimes (tr ++ events), Balanced row := by
    intro events he row hrow
    rw [savedLifetimes_append] at hrow
    rcases List.mem_append.mp hrow with hold | hnew
    · exact h.saved row hold
    · exact he row hnew
  cases i with
  | kill =>
    exact ⟨h.disk, (fun _ _ ht => nomatch ht), hsaved fun _ hrow => nomatch hrow⟩
  | start t readable seq =>
    have hrow : ∀ al, (if readable then some (loadAprsisLifetime pr.disk) else none) = some al →
        Balanced al := by
      intro al hal
      split at hal
      · cases hal
        cases hd : pr.disk with
        | none => exact balanced_zero
        | some row => exact h.disk row hd
      · cases hal
    obtain ⟨hb, hnone⟩ := start_balanced (F := F) hrow seq
    refine ⟨h.disk, fun _ _ ht => ?_, hsaved fun row hmem => ?_⟩
    · cases ht
      exact hb
    · rw [show savedLifetimes (pr.next (.start t readable seq)).2 = [] from hnone] at hmem
      cases hmem
  | step i saved =>
    cases htask : pr.task with
    | none =>
      rw [pr.next_idle htask]
      exact ⟨h.disk, h.task, hsaved fun _ hrow => by cases hrow⟩
    | some ts =>
      obtain ⟨t, s⟩ := ts
      obtain ⟨hb, hevents⟩ := step_balanced (t := t) (h.task t s htask) i
      rw [pr.next_running htask]
      refine ⟨diskAfter_balanced h.disk hevents, fun _ _ ht => ?_, hsaved hevents⟩
      cases ht
      exact hb

/-- Over any number of restarts, the drops of the task, of its row and of every record
it saves are the sum of their breakdown, if they were in the first row. -/
theorem breakdown_balanced (disk : Option AprsisLifetime)
    (hdisk : ∀ row, disk = some row → Balanced row) (is : List (ProcessInput F)) :
    (run Process.next ⟨disk, none⟩ is).1.Sound (run Process.next ⟨disk, none⟩ is).2 :=
  run_invariant (P := fun _ (pr : Process F) tr => pr.Sound tr)
    ⟨hdisk, (fun _ _ h => by cases h), (fun _ h => by cases h)⟩ (fun _ i _ _ h => next_sound h i) is

theorem breakdown_balanced_sample :
    (run Process.next (⟨some { packetsDropped := 1, dropsSat := 1 }, none⟩ : Process ℚ)
        [.start sampleStation true (.stored 7), .step (.attempt .loggedIn) true,
          .step (.telemetryTick 0 0) true]).1.Sound
      (run Process.next (⟨some { packetsDropped := 1, dropsSat := 1 }, none⟩ : Process ℚ)
        [.start sampleStation true (.stored 7), .step (.attempt .loggedIn) true,
          .step (.telemetryTick 0 0) true]).2 :=
  breakdown_balanced (some { packetsDropped := 1, dropsSat := 1 })
    (fun row h => by cases h; rfl) _

end Aprsis
end Rtpigate
