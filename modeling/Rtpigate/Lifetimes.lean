/-
Lifetime counters over restarts.

Both tasks load their row when they start, count in memory, and save at every tick and
when they end.  A row shrinks only after a start that does not resume it: the load
fails and the counting begins at zero, or what is loaded is not what was stored.
-/
import Rtpigate.Aprsis.Accounting
import Rtpigate.Aprsis.Stats
import Rtpigate.Lib.Carried
import Rtpigate.Listener.Process

namespace Rtpigate

open Lib

/-! ## Orders -/

/-- No counter is larger. -/
structure PacketLifetime.Le (a b : PacketLifetime) : Prop where
  total : a.total ≤ b.total
  heardDirect : a.heardDirect ≤ b.heardDirect
  digipeated : a.digipeated ≤ b.digipeated
  decodeErrors : a.decodeErrors ≤ b.decodeErrors

instance : Preorder PacketLifetime where
  le := PacketLifetime.Le
  le_refl _ := ⟨le_rfl, le_rfl, le_rfl, le_rfl⟩
  le_trans _ _ _ h h' := ⟨h.total.trans h'.total, h.heardDirect.trans h'.heardDirect,
    h.digipeated.trans h'.digipeated, h.decodeErrors.trans h'.decodeErrors⟩

structure AprsisLifetime.Le (a b : AprsisLifetime) : Prop where
  rfReceived : a.rfReceived ≤ b.rfReceived
  packetsIgated : a.packetsIgated ≤ b.packetsIgated
  packetsDropped : a.packetsDropped ≤ b.packetsDropped
  reconnects : a.reconnects ≤ b.reconnects
  dropsStale : a.dropsStale ≤ b.dropsStale
  dropsRfonly : a.dropsRfonly ≤ b.dropsRfonly
  dropsQuery : a.dropsQuery ≤ b.dropsQuery
  dropsThirdparty : a.dropsThirdparty ≤ b.dropsThirdparty
  dropsSat : a.dropsSat ≤ b.dropsSat
  dropsDuplicate : a.dropsDuplicate ≤ b.dropsDuplicate
  dropsMalformed : a.dropsMalformed ≤ b.dropsMalformed
  laggedDrops : a.laggedDrops ≤ b.laggedDrops

instance : Preorder AprsisLifetime where
  le := AprsisLifetime.Le
  le_refl _ := ⟨le_rfl, le_rfl, le_rfl, le_rfl, le_rfl, le_rfl, le_rfl, le_rfl, le_rfl, le_rfl,
    le_rfl, le_rfl⟩
  le_trans _ _ _ h h' := ⟨h.rfReceived.trans h'.rfReceived,
    h.packetsIgated.trans h'.packetsIgated, h.packetsDropped.trans h'.packetsDropped,
    h.reconnects.trans h'.reconnects, h.dropsStale.trans h'.dropsStale,
    h.dropsRfonly.trans h'.dropsRfonly, h.dropsQuery.trans h'.dropsQuery,
    h.dropsThirdparty.trans h'.dropsThirdparty, h.dropsSat.trans h'.dropsSat,
    h.dropsDuplicate.trans h'.dropsDuplicate, h.dropsMalformed.trans h'.dropsMalformed,
    h.laggedDrops.trans h'.laggedDrops⟩

variable {F : Type}

/-! ## The listener -/

namespace Listener

/-- A start that resumes the row. -/
structure Loads.Resumes (loads : Loads) (row : PacketLifetime) : Prop where
  failed : loads.lifetime = false → row = {}
  decodeErrors : row.decodeErrors = 0

/-- The row, and the counters of the task. -/
def Process.carried (pr : Process F) : Carried PacketLifetime where
  disk := pr.disk.packetLifetime
  memory := pr.task.map fun ts => ts.2.counters.lifetime.packetLifetime

instance (loads : Loads) (row : PacketLifetime) : Decidable (loads.Resumes row) :=
  decidable_of_iff ((loads.lifetime = false → row = {}) ∧ row.decodeErrors = 0)
    ⟨fun h => ⟨h.1, h.2⟩, fun h => ⟨h.1, h.2⟩⟩

def Process.Resumes (pr : Process F) : ProcessInput F → Prop
  | .start _ loads => loads.Resumes (loadPacketLifetime pr.disk.packetLifetime)
  | .step _ _ | .shutdown _ _ | .kill => True

instance (pr : Process F) : (i : ProcessInput F) → Decidable (pr.Resumes i)
  | .start _ loads =>
    inferInstanceAs (Decidable (loads.Resumes (loadPacketLifetime pr.disk.packetLifetime)))
  | .step _ _ | .shutdown _ _ | .kill => inferInstanceAs (Decidable True)

theorem frame_le (c : Counts) (heardDirect : Bool) :
    c.packetLifetime ≤ (c.frame heardDirect).packetLifetime :=
  ⟨Nat.le_succ _, Nat.le_add_right _ _, Nat.le_add_right _ _, le_rfl⟩

theorem seed_le {loads : Loads} {d : Disk F}
    (h : loads.Resumes (loadPacketLifetime d.packetLifetime)) :
    loadPacketLifetime d.packetLifetime ≤ (loads.seed d).counters.lifetime.packetLifetime := by
  have hseed : (loads.seed d).counters.lifetime =
      (if loads.lifetime then some (loadPacketLifetime d.packetLifetime) else none).elim {}
        .ofPacketLifetime := rfl
  rw [hseed]
  cases hload : loads.lifetime with
  | false => exact ⟨by rw [h.failed hload]; exact le_rfl, by rw [h.failed hload]; exact le_rfl,
      by rw [h.failed hload]; exact le_rfl, by rw [h.failed hload]; exact le_rfl⟩
  | true => exact ⟨le_rfl, le_rfl, le_rfl, h.decodeErrors.le⟩

variable [F64 F] [Display3 F]

theorem step_le (satFreqs : List F) (historyHours : Nat) (s : Task F) (i : Input F) :
    s.counters.lifetime.packetLifetime ≤
      (s.step satFreqs historyHours i).1.counters.lifetime.packetLifetime := by
  cases Task.step_cases satFreqs historyHours s i with
  | skip _ _ _ _ hstep =>
    rw [hstep]
  | hear _ _ mapped p _ _ _ _ hstep =>
    rw [hstep]
    exact frame_le s.counters.lifetime p.heardDirect
  | tick world _ hstep =>
    rw [hstep]
    exact le_rfl

/-- Every step of the process carries the row on. -/
theorem next_carried {pr : Process F} {i : ProcessInput F} (h : pr.Resumes i) :
    Carried.Step pr.carried (pr.next i).carried := by
  cases i with
  | kill => exact .stop rfl rfl
  | start settings loads =>
    refine .start _ rfl rfl ?_
    intro r hr
    have hload : loadPacketLifetime pr.disk.packetLifetime = r := by
      rw [show pr.disk.packetLifetime = some r from hr]
      rfl
    exact hload ▸ seed_le h
  | step i ok =>
    cases htask : pr.task with
    | none => exact .idle (by simp only [Process.next, htask])
    | some cs =>
      obtain ⟨c, s⟩ := cs
      have hle := step_le c.satFreqs c.historyHours s i
      have hsaves := Task.step_saves c.satFreqs c.historyHours s i
      have hmemory : pr.carried.memory = some s.counters.lifetime.packetLifetime := by
        rw [Process.carried, htask]
        rfl
      have hnext : pr.next (.step i ok) =
          ⟨pr.disk.applyAll (performed ok (s.step c.satFreqs c.historyHours i).2),
            some (c, (s.step c.satFreqs c.historyHours i).1)⟩ := by
        simp only [Process.next, htask]
      rw [hnext]
      exact .work _ _ hmemory hle (packetLifetime_performed hsaves pr.disk ok) (Or.inl rfl)
  | shutdown orders ok =>
    cases htask : pr.task with
    | none => exact .idle (by simp only [Process.next, htask])
    | some cs =>
      obtain ⟨c, s⟩ := cs
      have hsaves : ((s.finalFlush orders).filterMap Call.savedRow).Sublist
          [s.counters.lifetime.packetLifetime] := by
        rw [finalFlush_saves]
      have hmemory : pr.carried.memory = some s.counters.lifetime.packetLifetime := by
        rw [Process.carried, htask]
        rfl
      have hnext : pr.next (.shutdown orders ok) =
          ⟨pr.disk.applyAll (performed ok (s.finalFlush orders)), none⟩ := by
        simp only [Process.next, htask]
      rw [hnext]
      exact .work _ _ hmemory le_rfl (packetLifetime_performed hsaves pr.disk ok) (Or.inr rfl)

end Listener

/-! ## The APRS-IS task -/

namespace Aprsis

/-- A start that resumes the row.  The reconnects are counted in 32 bits. -/
structure Resumes (row : AprsisLifetime) (readable : Bool) : Prop where
  failed : readable = false → row = {}
  reconnects : row.reconnects < 2 ^ 32

instance (row : AprsisLifetime) (readable : Bool) : Decidable (Resumes row readable) :=
  decidable_of_iff ((readable = false → row = {}) ∧ row.reconnects < 2 ^ 32)
    ⟨fun h => ⟨h.1, h.2⟩, fun h => ⟨h.1, h.2⟩⟩

def Process.carried (pr : Process F) : Carried AprsisLifetime where
  disk := pr.disk
  memory := pr.task.map fun ts => ts.2.aprsisLifetime

def Process.Resumes (pr : Process F) : ProcessInput F → Prop
  | .start _ readable _ => Aprsis.Resumes (loadAprsisLifetime pr.disk) readable
  | .step _ _ | .kill => True

instance (pr : Process F) : (i : ProcessInput F) → Decidable (pr.Resumes i)
  | .start _ readable _ =>
    inferInstanceAs (Decidable (Aprsis.Resumes (loadAprsisLifetime pr.disk) readable))
  | .step _ _ | .kill => inferInstanceAs (Decidable True)

/-- The lagged items are counted in 64 bits, and the counter saturates. -/
structure Process.InRange (pr : Process F) : Prop where
  disk : ∀ row, pr.disk = some row → row.laggedDrops ≤ u64Max
  task : ∀ t s, pr.task = some (t, s) → s.lifetime.laggedDrops ≤ u64Max

theorem start_resumes {row : AprsisLifetime} {readable : Bool} (h : Resumes row readable)
    (seq : SeqLoad) :
    (start (F := F) (if readable then some row else none) seq).1.aprsisLifetime = row := by
  cases readable with
  | false =>
    rw [h.failed rfl]
    cases seq <;> rfl
  | true =>
    have hreconnects : row.reconnects % 2 ^ 32 = row.reconnects := Nat.mod_eq_of_lt h.reconnects
    have hstart : (start (F := F) (some row) seq).1.aprsisLifetime =
        { row with reconnects := row.reconnects % 2 ^ 32 } := by
      cases seq <;> rfl
    rw [if_pos rfl, hstart, hreconnects]

theorem diskAfter_cases (disk : Option AprsisLifetime) {events : List (Event F)}
    {m : AprsisLifetime} (h : ∀ row ∈ savedLifetimes events, row = m) (saved : Bool) :
    diskAfter disk saved events = disk ∨ diskAfter disk saved events = some m := by
  rw [diskAfter]
  cases saved with
  | false => exact Or.inl rfl
  | true =>
    rw [if_pos rfl]
    cases hlast : (savedLifetimes events).getLast? with
    | none => exact Or.inl rfl
    | some row =>
      rw [h row (List.mem_of_getLast? hlast)]
      exact Or.inr rfl

/-- Equal counters, and reconnects that may have been counted. -/
theorem le_of_lifetime {s s' : State F} (hlifetime : s'.lifetime = s.lifetime)
    (hreconnects : s.totalReconnects ≤ s'.totalReconnects) :
    s.aprsisLifetime ≤ s'.aprsisLifetime := by
  constructor
  case reconnects => exact hreconnects
  all_goals
    simp only [State.aprsisLifetime, hlifetime]
    exact le_rfl

theorem drop_le (s : State F) :
    (∀ reason, s.aprsisLifetime ≤ (s.drop (countReason reason)).aprsisLifetime) ∧
      s.aprsisLifetime ≤ (s.drop countDuplicate).aprsisLifetime ∧
      s.aprsisLifetime ≤ (s.drop countMalformed).aprsisLifetime := by
  refine ⟨fun reason => ?_, ?_, ?_⟩
  · cases reason <;> constructor <;>
      simp only [State.aprsisLifetime, State.drop, countReason, countMalformed] <;> omega
  · constructor <;> simp only [State.aprsisLifetime, State.drop, countDuplicate] <;> omega
  · constructor <;> simp only [State.aprsisLifetime, State.drop, countMalformed] <;> omega

theorem gate_le (s : State F) (key : String) (now : Int) :
    s.aprsisLifetime ≤ (s.gate key now).aprsisLifetime := by
  constructor <;> simp only [State.aprsisLifetime, State.gate] <;> omega

theorem drop_lagged (s : State F) :
    (∀ reason, (s.drop (countReason reason)).lifetime.laggedDrops = s.lifetime.laggedDrops) ∧
      (s.drop countDuplicate).lifetime.laggedDrops = s.lifetime.laggedDrops ∧
      (s.drop countMalformed).lifetime.laggedDrops = s.lifetime.laggedDrops :=
  ⟨fun reason => by cases reason <;> rfl, rfl, rfl⟩

variable [F64 F]

theorem receive_le (s : State F) (p : RTPPacket F) :
    s.aprsisLifetime ≤ (s.receive p).aprsisLifetime := by
  constructor <;> simp only [State.aprsisLifetime, State.receive] <;> omega

theorem handlePacket_le (t : Captured F) (clock : GateClock) (outcome : WriteResult)
    (s : State F) (p : RTPPacket F) :
    s.aprsisLifetime ≤ (handlePacket t clock outcome s p).1.aprsisLifetime ∧
      (handlePacket t clock outcome s p).1.lifetime.laggedDrops = s.lifetime.laggedDrops ∧
      savedLifetimes (handlePacket t clock outcome s p).2 = [] := by
  have hexit := handlePacket_exit t clock outcome s p
  have hreceive := receive_le s p
  have hdrop := drop_le (s.receive p)
  have hlagged := drop_lagged (s.receive p)
  generalize handlePacket t clock outcome s p = r at hexit
  cases hexit with
  | ungated | failed => exact ⟨hreceive, rfl, rfl⟩
  | filtered reason => exact ⟨hreceive.trans (hdrop.1 reason), hlagged.1 reason, rfl⟩
  | duplicate => exact ⟨hreceive.trans hdrop.2.1, hlagged.2.1, rfl⟩
  | refused => exact ⟨hreceive.trans hdrop.2.2, hlagged.2.2, rfl⟩
  | gated => exact ⟨hreceive.trans (gate_le _ _ _), rfl, rfl⟩

theorem step_reconnects (t : Captured F) (s : State F) (i : Input F) :
    s.totalReconnects ≤ (step t s i).1.totalReconnects := by
  cases count_cases t s i with
  | packet p clock outcome h =>
    rw [h]
    exact (handlePacket_le t clock outcome s p).1.reconnects
  | sample now utc h =>
    rw [h]
    exact le_rfl
  | steady h => exact h.totalReconnects

/-- The counters of a step grow, and it saves what they are after it. -/
structure Grows (s : State F) (r : State F × List (Event F)) : Prop where
  le : s.aprsisLifetime ≤ r.1.aprsisLifetime
  laggedDrops : r.1.lifetime.laggedDrops ≤ u64Max
  saves : ∀ row ∈ savedLifetimes r.2, row = r.1.aprsisLifetime

theorem step_grows {s : State F} (hs : s.lifetime.laggedDrops ≤ u64Max) (t : Captured F)
    (i : Input F) : Grows s (step t s i) := by
  have hreconnects := step_reconnects t s i
  have hquiet : Quiet s (step t s i) → Grows s (step t s i) := fun hq =>
    ⟨le_of_lifetime hq.lifetime hreconnects, hq.lifetime ▸ hs, hq.saves⟩
  cases step_cases t s i with
  | packet p clock outcome _ _ hstep =>
    obtain ⟨hle, hlagged, hnone⟩ := handlePacket_le t clock outcome s p
    rw [hstep]
    exact ⟨hle, hlagged ▸ hs, fun row hrow => absurd (hnone ▸ hrow) List.not_mem_nil⟩
  | lagged n clock outcome _ _ hstep =>
    rw [hstep]
    refine ⟨?_, min_le_right _ _, fun row hrow => absurd hrow List.not_mem_nil⟩
    constructor
    case laggedDrops => exact le_min (Nat.le_add_right _ n) hs
    all_goals exact le_rfl
  | sample now utc _ _ hstep =>
    rw [hstep]
    exact ⟨le_rfl, hs, fun row hrow => List.mem_singleton.mp hrow⟩
  | report world posit outcomes _ _ hstep =>
    exact hquiet (hstep ▸ floorTick_quiet t world posit outcomes s)
  | other hq => exact hquiet hq

theorem next_carried {pr : Process F} {i : ProcessInput F} (h : pr.Resumes i) (hr : pr.InRange) :
    Carried.Step pr.carried (pr.next i).1.carried ∧ (pr.next i).1.InRange := by
  cases i with
  | kill => exact ⟨.stop rfl rfl, hr.disk, fun _ _ ht => nomatch ht⟩
  | start t readable seq =>
    have hseed := start_resumes (F := F) h seq
    have hle : ∀ row, pr.disk = some row → loadAprsisLifetime pr.disk = row := by
      intro row hrow
      rw [hrow]
      rfl
    refine ⟨.start _ rfl rfl fun r hd => ?_, hr.disk, fun t' s ht => ?_⟩
    · exact (hseed.trans (hle r hd)).ge
    · cases ht
      show (start (F := F) (if readable then some (loadAprsisLifetime pr.disk) else none)
        seq).1.aprsisLifetime.laggedDrops ≤ u64Max
      rw [hseed]
      cases hd : pr.disk with
      | none => exact Nat.zero_le _
      | some row => exact hr.disk row hd
  | step i saved =>
    cases htask : pr.task with
    | none =>
      rw [pr.next_idle htask]
      exact ⟨.idle rfl, hr⟩
    | some ts =>
      obtain ⟨t, s⟩ := ts
      have hgrows := step_grows (hr.task t s htask) t i
      have hdisk := diskAfter_cases pr.disk hgrows.saves saved
      have hmemory : pr.carried.memory = some s.aprsisLifetime := by
        rw [Process.carried, htask]
        rfl
      rw [pr.next_running htask]
      refine ⟨.work _ _ hmemory hgrows.le hdisk (Or.inl rfl), fun row hrow => ?_,
        fun _ _ ht => ?_⟩
      · rcases hdisk with hold | hnew
        · exact hr.disk row (hold ▸ hrow)
        · cases hnew.symm.trans hrow
          exact hgrows.laggedDrops
      · cases ht
        exact hgrows.laggedDrops

end Aprsis

/-! ## Both tasks -/

/-- The program with its two tasks, which share no row. -/
structure Program (F : Type) where
  listener : Listener.Process F
  aprsis : Aprsis.Process F

inductive ProgramInput (F : Type)
  | listener (i : Listener.ProcessInput F)
  | aprsis (i : Aprsis.ProcessInput F)

namespace Program

variable [F64 F] [Display3 F]

def next (p : Program F) : ProgramInput F → Program F × List (Aprsis.Event F)
  | .listener i => ({ p with listener := p.listener.next i }, [])
  | .aprsis i => ({ p with aprsis := (p.aprsis.next i).1 }, (p.aprsis.next i).2)

omit [F64 F] [Display3 F] in
/-- A start resumes the row of its task. -/
def Resumes (p : Program F) : ProgramInput F → Prop
  | .listener i => p.listener.Resumes i
  | .aprsis i => p.aprsis.Resumes i

instance (p : Program F) : (i : ProgramInput F) → Decidable (p.Resumes i)
  | .listener i => inferInstanceAs (Decidable (p.listener.Resumes i))
  | .aprsis i => inferInstanceAs (Decidable (p.aprsis.Resumes i))

/-- When every start resumes its row, no save replaces a stored counter by a smaller
one. -/
theorem lifetimes_never_shrink (d : Listener.Disk F) (row : Option AprsisLifetime)
    (hrange : ∀ r, row = some r → r.laggedDrops ≤ u64Max) (is : List (ProgramInput F))
    (hresumes : ∀ js i, js ++ [i] <+: is →
      (run next ⟨⟨d, none⟩, ⟨row, none⟩⟩ js).1.Resumes i) :
    ∀ js i, js ++ [i] <+: is →
      let before := (run next ⟨⟨d, none⟩, ⟨row, none⟩⟩ js).1
      let after := (run next ⟨⟨d, none⟩, ⟨row, none⟩⟩ (js ++ [i])).1
      RowLe before.listener.disk.packetLifetime after.listener.disk.packetLifetime ∧
        RowLe before.aprsis.disk after.aprsis.disk := by
  intro js i hpre before after
  constructor
  · refine Carried.run_rowLe (fun p : Program F => p.listener.carried) (fun _ => True)
      (fun _ _ hm => by cases hm) trivial ?_ hresumes js i hpre
    intro p i hi _
    cases i with
    | listener i => exact ⟨Listener.next_carried hi, trivial⟩
    | aprsis i => exact ⟨.idle rfl, trivial⟩
  · refine Carried.run_rowLe (fun p : Program F => p.aprsis.carried) (fun p => p.aprsis.InRange)
      (fun _ _ hm => by cases hm)
      ⟨hrange, fun _ _ ht => by cases ht⟩ ?_ hresumes js i hpre
    intro p i hi hr
    cases i with
    | listener i => exact ⟨.idle rfl, hr⟩
    | aprsis i => exact Aprsis.next_carried hi hr

def storedTotals : Listener.Disk ℚ := { packetLifetime := some { total := 5 } }

def startListener (readable : Bool) : ProgramInput ℚ :=
  .listener (.start ⟨[], 6⟩ ⟨readable, true, true, true, 0⟩)

def tickListener : ProgramInput ℚ := .listener (.step (.tick (Listener.sampleTick 0)) fun _ => true)

/-- Both tasks start, count and save, and start again. -/
def savedTwice : List (ProgramInput ℚ) :=
  [startListener true, .listener (.step Listener.heardOnce.input fun _ => true), tickListener,
    .aprsis (.start sampleStation false .failed), .aprsis (.step (.attempt .loggedIn) true),
    .aprsis (.step (.telemetryTick 0 0) true), .aprsis .kill, startListener true, tickListener]

theorem lifetimes_never_shrink_sample :
    let before := (run next ⟨⟨storedTotals, none⟩, ⟨none, none⟩⟩ (savedTwice.take 8)).1
    let after := (run next ⟨⟨storedTotals, none⟩, ⟨none, none⟩⟩
      (savedTwice.take 8 ++ [tickListener])).1
    RowLe before.listener.disk.packetLifetime after.listener.disk.packetLifetime ∧
      RowLe before.aprsis.disk after.aprsis.disk :=
  lifetimes_never_shrink storedTotals none (fun _ h => by cases h) savedTwice
    (forall_prefix_of_take (by decide +kernel)) (savedTwice.take 8) tickListener ⟨[], rfl⟩

/-- After a load that fails, the first tick saves a total of zero over one of five. -/
theorem failed_load_shrinks :
    ¬ ∀ js i, js ++ [i] <+: [startListener false, tickListener] →
      let before := (run next ⟨⟨storedTotals, none⟩, ⟨none, none⟩⟩ js).1
      let after := (run next ⟨⟨storedTotals, none⟩, ⟨none, none⟩⟩ (js ++ [i])).1
      RowLe before.listener.disk.packetLifetime after.listener.disk.packetLifetime ∧
        RowLe before.aprsis.disk after.aprsis.disk := by
  intro h
  obtain ⟨row, hrow, hle⟩ := (h [startListener false] tickListener List.prefix_rfl).1 { total := 5 }
    rfl
  have hzero : (run next ⟨⟨storedTotals, none⟩, ⟨none, none⟩⟩
      [startListener false, tickListener]).1.listener.disk.packetLifetime = some {} := by
    decide +kernel
  cases hzero.symm.trans hrow
  exact absurd hle.total (by decide)

end Program

end Rtpigate
