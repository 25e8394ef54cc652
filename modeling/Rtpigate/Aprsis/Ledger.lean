/-
The gate without its cache.

The task remembers when it last gated a text of a source, both joined into one key, trusts
that for half a minute and purges what is older on its statistics tick.  The gate it stands
for keeps a ledger of every line that went out, for good, and looks up the source and the
text of a packet there.  While the wall clock does not go back and the sources have no colon,
the two do the same in every run, so neither the purge nor the key is ever seen.
-/
import Rtpigate.Aprsis.Dedup

namespace Rtpigate
namespace Aprsis

open Lib

variable {F : Type}

/-! ## Decisions -/

/-- What becomes of a packet. -/
inductive Verdict
  | ungated
  | filtered (reason : DropReason)
  | duplicate
  | refused
  | line

/-- The task with an empty cache, and source, text and second of every line that went out. -/
structure Ledger (F : Type) where
  task : State F
  lines : List ((String × String) × Int) := []

/-- What the ledger keeps of a line. -/
def PacketWrite.entry (w : PacketWrite F) : (String × String) × Int :=
  ((w.p.source, w.p.info), w.clock.now)

/-- The wall clock does not go back, and the packets come from sources without a colon. -/
structure LedgerRun (is : List (Input F)) : Prop where
  timely : Timely is
  plain : ∀ p clock outcome, .recv (.message (.pkt p)) clock outcome ∈ is →
    ':' ∉ p.source.toList

def State.forget (s : State F) : State F := { s with dedupCache := Expiring.empty }

def Input.packet : Input F → Option (RTPPacket F × GateClock × WriteResult)
  | .recv (.message (.pkt p)) clock outcome => some (p, clock, outcome)
  | _ => none

theorem packet_some {i : Input F} {p : RTPPacket F} {clock : GateClock} {outcome : WriteResult}
    (h : i.packet = some (p, clock, outcome)) :
    i = .recv (.message (.pkt p)) clock outcome := by
  cases i with
  | recv m clock' outcome' =>
    cases m with
    | lagged n => cases h
    | message d =>
      cases d with
      | tlm x => cases h
      | pkt p' =>
        cases h
        rfl
  | attempt | cancel | telemetryTick | serverRead | floorTick | moveTick => cases h

namespace Ledger

variable [F64 F]

/-- A line went out for the same source and text less than 30 seconds ago, or else the packet
is judged by itself. -/
def verdict (t : Captured F) (lines : List ((String × String) × Int)) (clock : GateClock)
    (p : RTPPacket F) : Verdict :=
  if t.igating && t.rw then
    match droppacket clock.instant p with
    | some reason => .filtered reason
    | none =>
      if Expiring.recorded dedupTtlSecs lines clock.now (p.source, p.info) then .duplicate
      else if Aprsis.refused (p.forRxigateBytes t.callsign) then .refused
      else .line
  else .ungated

def packet (t : Captured F) (clock : GateClock) (outcome : WriteResult) (s : Ledger F)
    (p : RTPPacket F) : Ledger F × List (Event F) :=
  let task := s.task.receive p
  match verdict t s.lines clock p with
  | .ungated => ({ s with task := task }, [.received p])
  | .filtered reason => ({ s with task := task.drop (countReason reason) }, [.received p])
  | .duplicate => ({ s with task := task.drop countDuplicate }, [.received p])
  | .refused => ({ s with task := task.drop countMalformed }, [.received p])
  | .line =>
    let written :=
      [.received p, .write (.packet p clock) (p.forRxigateBytes t.callsign ++ crlf) outcome]
    if outcome = .done then
      ({ task := (task.gate (dedupKey p) clock.now).forget
         lines := s.lines ++ [((p.source, p.info), clock.now)] }, written)
    else ({ s with task := { task with phase := .outer } }, written)

def step (t : Captured F) (s : Ledger F) (i : Input F) : Ledger F × List (Event F) :=
  match i.packet with
  | some (p, clock, outcome) =>
    if s.task.phase = .inner then s.packet t clock outcome p else (s, [])
  | none => ({ s with task := (Aprsis.step t s.task i).1 }, (Aprsis.step t s.task i).2)

end Ledger

/-! ## What does not look at the cache -/

/-- The function does the same with and without a cache. -/
def Forgetful (f : State F → State F × List (Event F)) (s : State F) : Prop :=
  f s.forget = ((f s).1.forget, (f s).2)

theorem connected_forget (s : State F) : connected s.forget = (connected s).forget := by
  rw [connected, connected]
  show (if s.firstConnect = true then _ else _) = _
  split <;> rfl

theorem attempt_forget (a : Attempt) (s : State F) : Forgetful (attempt a) s := by
  have hconn := connected_forget s
  cases a with
  | resolveError | noAddress | connectError | connectTimeout => rfl
  | loginRefused | loginError | loginTimeout | loginCancelled | loggedIn =>
    rw [Forgetful, attempt, attempt, hconn]
    rfl

section Float

variable [F64 F] (t : Captured F)

theorem telemetryTick_forget (now utc : Int) (s : State F) :
    Forgetful (telemetryTick now utc) s := rfl

theorem beacon_forget (utc : Int) (outcome : WriteResult) (loc : Location F) (s : State F) :
    Forgetful (beacon t utc outcome loc) s := by
  rw [Forgetful, beacon, beacon]
  rcases sendPositionBeacon t utc loc outcome with ⟨healthy, events⟩
  cases healthy with
  | false => rfl
  | true => cases hlat : loc.lat <;> cases hlon : loc.lon <;> rfl

theorem sendReport_forget (outcomes : Nat → WriteResult) (s : State F) :
    Forgetful (sendReport t outcomes) s := by
  have hreport : telemetryReport t s.forget.interval s.forget.sequence =
      telemetryReport t s.interval s.sequence := rfl
  rw [Forgetful, sendReport, sendReport, hreport]
  generalize telemetryReport t s.interval s.sequence = report
  cases report.toAprs t.callsign with
  | error e => rfl
  | ok packets =>
    dsimp only
    rcases writeLines t report outcomes 0 packets with ⟨events, done⟩
    cases done <;> rfl

theorem floorTick_forget (world : BeaconWorld F) (posit : WriteResult)
    (outcomes : Nat → WriteResult) (s : State F) :
    Forgetful (floorTick t world posit outcomes) s := by
  rw [Forgetful, floorTick, floorTick]
  split
  · split
    · next loc _ =>
      dsimp only
      split
      · rw [beacon_forget t world.utc posit loc s, sendReport_forget t outcomes]
      · exact beacon_forget t world.utc posit loc s
    · exact sendReport_forget t outcomes s
  · rfl

theorem moveTick_forget (world : BeaconWorld F) (posit : WriteResult) (s : State F) :
    Forgetful (moveTick t world posit) s := by
  rw [Forgetful, moveTick, moveTick]
  split
  · split
    · next loc _ =>
      show (if moved t s.lastBeaconPos loc = true then _ else _) = _
      split
      · exact beacon_forget t world.utc posit loc s
      · rfl
    · rfl
  · rfl

/-- Only packets are looked up. -/
theorem step_forget {i : Input F} (hi : i.packet = none) (s : State F) :
    Forgetful (fun s => step t s i) s := by
  have hphase : s.forget.phase = s.phase := rfl
  show step t s.forget i = _
  cases hs : s.phase with
  | ended => cases i <;> simp only [step, hphase, hs]
  | outer =>
    cases i with
    | attempt a =>
      simp only [step, hphase, hs]
      exact attempt_forget a s
    | cancel =>
      simp only [step, hphase, hs]
      rfl
    | telemetryTick | serverRead | recv | floorTick | moveTick => simp only [step, hphase, hs]
  | inner =>
    cases i with
    | attempt => simp only [step, hphase, hs]
    | cancel =>
      simp only [step, hphase, hs]
      rfl
    | telemetryTick now utc =>
      simp only [step, hphase, hs]
      exact telemetryTick_forget now utc s
    | serverRead r =>
      cases r with
      | line => simp only [step, hphase, hs]
      | closed | error =>
        simp only [step, hphase, hs]
        rfl
    | recv m clock outcome =>
      cases m with
      | lagged n =>
        simp only [step, hphase, hs]
        rfl
      | message d =>
        cases d with
        | pkt p => cases hi
        | tlm x =>
          simp only [step, hphase, hs]
          rfl
    | floorTick world posit outcomes =>
      simp only [step, hphase, hs]
      exact floorTick_forget t world posit outcomes s
    | moveTick world posit =>
      simp only [step, hphase, hs]
      exact moveTick_forget t world posit s

/-! ## Packets -/

variable {t}

theorem gated_step_nil {i : Input F} (hi : i.packet = none) (s : State F) :
    gated (step t s i).2 = [] := by
  cases step_cases t s i with
  | packet p clock outcome hrecv _ _ =>
    rw [hrecv] at hi
    cases hi
  | lagged n clock outcome _ _ hstep => rw [hstep]; rfl
  | sample now utc _ _ hstep => rw [hstep]; rfl
  | report world posit outcomes _ _ hstep =>
    rw [hstep]
    exact gated_of_packetWrites_nil (floorTick_quiet t world posit outcomes s).noPacket.1
  | other hq => exact gated_of_packetWrites_nil hq.noPacket.1

/-- The ledger decides as a cache that answers as the ledger does. -/
theorem packet_forget (s : State F) (lines : List ((String × String) × Int)) (clock : GateClock)
    (outcome : WriteResult) (p : RTPPacket F)
    (hfresh : s.dedupCache.fresh dedupTtlSecs clock.now (dedupKey p) =
      Expiring.recorded dedupTtlSecs lines clock.now (p.source, p.info)) :
    Ledger.packet t clock outcome ⟨s.forget, lines⟩ p =
      (⟨(handlePacket t clock outcome s p).1.forget,
          lines ++ (gated (handlePacket t clock outcome s p).2).map PacketWrite.entry⟩,
        (handlePacket t clock outcome s p).2) := by
  have hexit := handlePacket_exit t clock outcome s p
  generalize handlePacket t clock outcome s p = r at hexit
  cases hexit with
  | ungated hgate =>
    have hverdict : Ledger.verdict t lines clock p = .ungated := by
      rw [Ledger.verdict, if_neg (by rw [hgate]; decide)]
    rw [Ledger.packet, hverdict]
    exact congrArg (fun l => ((⟨_, l⟩ : Ledger F), _)) (List.append_nil lines).symm
  | filtered reason hgate hdrop =>
    have hverdict : Ledger.verdict t lines clock p = .filtered reason := by
      rw [Ledger.verdict, if_pos hgate, hdrop]
    rw [Ledger.packet, hverdict]
    exact congrArg (fun l => ((⟨_, l⟩ : Ledger F), _)) (List.append_nil lines).symm
  | duplicate hgate hdrop hdup =>
    have hverdict : Ledger.verdict t lines clock p = .duplicate := by
      rw [Ledger.verdict, if_pos hgate, hdrop, ← hfresh, hdup]
      rfl
    rw [Ledger.packet, hverdict]
    exact congrArg (fun l => ((⟨_, l⟩ : Ledger F), _)) (List.append_nil lines).symm
  | refused hgate hdrop hnew hrefused =>
    have hverdict : Ledger.verdict t lines clock p = .refused := by
      rw [Ledger.verdict, if_pos hgate, hdrop, ← hfresh, hnew, hrefused]
      rfl
    rw [Ledger.packet, hverdict]
    exact congrArg (fun l => ((⟨_, l⟩ : Ledger F), _)) (List.append_nil lines).symm
  | gated hgate hdrop hnew hrefused hdone =>
    have hverdict : Ledger.verdict t lines clock p = .line := by
      rw [Ledger.verdict, if_pos hgate, hdrop, ← hfresh, hnew, hrefused]
      rfl
    rw [Ledger.packet, hverdict]
    subst hdone
    rfl
  | failed hgate hdrop hnew hrefused hdone =>
    have hverdict : Ledger.verdict t lines clock p = .line := by
      rw [Ledger.verdict, if_pos hgate, hdrop, ← hfresh, hnew, hrefused]
      rfl
    have hnone : gated [.received p,
        .write (.packet p clock) (p.forRxigateBytes t.callsign ++ crlf) outcome] = [] := by
      show List.filter _ [_] = []
      rw [List.filter_singleton, beq_false_of_ne hdone]
      rfl
    rw [Ledger.packet, hverdict, hnone]
    show (if outcome = .done then _ else _) = _
    rw [if_neg hdone]
    exact congrArg (fun l => ((⟨_, l⟩ : Ledger F), _)) (List.append_nil lines).symm

/-! ## Runs -/

omit [F64 F] in
/-- Without colons in the sources the cache answers as the ledger does. -/
theorem Deduped.fresh_eq_entries {is : List (Input F)} {i : Input F} {s : State F}
    {tr : List (Event F)} (h : Deduped is s tr) (htime : Timely (is ++ [i])) {p : RTPPacket F}
    {now : Int} (hi : i.seconds = some now) (hp : ':' ∉ p.source.toList)
    (hplain : ∀ w ∈ gated tr, ':' ∉ w.p.source.toList) :
    s.dedupCache.fresh dedupTtlSecs now (dedupKey p) =
      Expiring.recorded dedupTtlSecs ((gated tr).map PacketWrite.entry) now (p.source, p.info) := by
  have hkey : ∀ w ∈ gated tr, dedupKey w.p = dedupKey p ↔
      (w.p.source, w.p.info) = (p.source, p.info) := by
    intro w hw
    constructor
    · intro heq
      obtain ⟨hsource, hinfo⟩ := dedupKey_inj (hplain w hw) hp heq
      rw [hsource, hinfo]
    · intro heq
      obtain ⟨hsource, hinfo⟩ := Prod.mk.injEq _ _ _ _ ▸ heq
      rw [dedupKey, dedupKey, hsource, hinfo]
  rw [(h.tracks now (timely_last htime hi)).fresh_eq (dedupKey p)]
  exact Expiring.recorded_map_congr hkey dedupTtlSecs now fun w => w.clock.now

/-- The ledger is the task without its cache, and holds the lines that went out. -/
structure Keeps (tr : List (Event F)) (s : State F) (r : Ledger F) : Prop where
  task : r.task = s.forget
  lines : r.lines = (gated tr).map PacketWrite.entry

theorem Keeps.step {is : List (Input F)} {i : Input F} {s : State F} {r : Ledger F}
    {tr : List (Event F)} (h : Keeps tr s r) (hcache : Deduped is s tr)
    (hrun : LedgerRun (is ++ [i])) (hlines : ∀ w ∈ gated tr, ':' ∉ w.p.source.toList) :
    Keeps (tr ++ (step t s i).2) (step t s i).1 (r.step t i).1 ∧
      (step t s i).2 = (r.step t i).2 := by
  obtain ⟨task, lines⟩ := r
  obtain ⟨rfl, rfl⟩ : task = s.forget ∧ lines = (gated tr).map PacketWrite.entry := ⟨h.task, h.lines⟩
  cases hi : i.packet with
  | none =>
    have hforget : Aprsis.step t s.forget i = _ := step_forget t hi s
    rw [Ledger.step, hi]
    dsimp only
    rw [hforget]
    refine ⟨⟨rfl, ?_⟩, rfl⟩
    rw [gated_append, gated_step_nil hi, List.append_nil]
  | some x =>
    obtain ⟨p, clock, outcome⟩ := x
    obtain rfl := packet_some hi
    by_cases hphase : s.phase = .inner
    · have hstep : Aprsis.step t s (.recv (.message (.pkt p)) clock outcome) =
          handlePacket t clock outcome s p := by
        simp only [Aprsis.step, hphase, handleMessage]
      have hledger : Ledger.step t ⟨s.forget, (gated tr).map PacketWrite.entry⟩
          (.recv (.message (.pkt p)) clock outcome) =
          Ledger.packet t clock outcome ⟨s.forget, (gated tr).map PacketWrite.entry⟩ p :=
        if_pos hphase
      have hp : ':' ∉ p.source.toList :=
        hrun.plain p clock outcome (List.mem_append_right _ List.mem_cons_self)
      have hfresh := hcache.fresh_eq_entries hrun.timely (p := p) rfl hp hlines
      rw [hledger, hstep, packet_forget s _ clock outcome p hfresh]
      refine ⟨⟨rfl, ?_⟩, rfl⟩
      rw [gated_append, List.map_append]
    · have hstep : Aprsis.step t s (.recv (.message (.pkt p)) clock outcome) = (s, []) := by
        cases hs : s.phase with
        | inner => exact absurd hs hphase
        | outer | ended => simp only [Aprsis.step, hs]
      have hledger : Ledger.step t ⟨s.forget, (gated tr).map PacketWrite.entry⟩
          (.recv (.message (.pkt p)) clock outcome) =
          (⟨s.forget, (gated tr).map PacketWrite.entry⟩, []) := if_neg hphase
      rw [hledger, hstep, List.append_nil]
      exact ⟨⟨rfl, rfl⟩, rfl⟩

omit [F64 F] in
theorem LedgerRun.initial (is : List (Input F)) (i : Input F) (h : LedgerRun (is ++ [i])) :
    LedgerRun is where
  timely := timely_of_concat is i h.timely
  plain p clock outcome hmem := h.plain p clock outcome (List.mem_append_left _ hmem)

theorem LedgerRun.gated {s₀ : State F} {is : List (Input F)} (h : LedgerRun is) :
    ∀ w ∈ gated (run (step t) s₀ is).2, ':' ∉ w.p.source.toList := fun w hw =>
  h.plain w.p w.clock w.result (packetWrites_run (List.mem_filter.mp hw).1)

/-- As long as the wall clock does not go back and the sources have no colon, the task writes,
counts, publishes and saves in every run what the gate with the ledger does. -/
theorem gates_by_ledger (t : Captured F) (row : Option AprsisLifetime) (seq : SeqLoad)
    (is : List (Input F)) (h : LedgerRun is) :
    let real := run (step t) (start row seq).1 is
    let ideal := run (Ledger.step t) ⟨(start row seq).1, []⟩ is
    real.2 = ideal.2 ∧ ideal.1.task = real.1.forget ∧
      ideal.1.lines = (gated ideal.2).map PacketWrite.entry := by
  intro real ideal
  have hempty : (start row seq : State F × List (Event F)).1.forget = (start row seq).1 := by
    cases row <;> cases seq <;> rfl
  have hrun : (real.1 = real.1 ∧ Keeps real.2 real.1 ideal.1) ∧ real.2 = ideal.2 := by
    refine run_simulates (R := fun is s r => s = (run (step t) (start row seq).1 is).1 ∧
      Keeps (run (step t) (start row seq).1 is).2 s r)
      LedgerRun.initial ⟨rfl, hempty.symm, rfl⟩ ?_ is h
    rintro is i s r h ⟨rfl, hkeeps⟩
    have hbefore := h.initial is i
    have hcache := run_deduped (t := t) row seq is hbefore.timely
    have hnext := hkeeps.step (t := t) hcache h hbefore.gated
    refine ⟨⟨?_, ?_⟩, hnext.2⟩
    · rw [run_concat]
    · rw [run_concat]
      exact hnext.1
  exact ⟨hrun.2, hrun.1.2.task, hrun.2 ▸ hrun.1.2.lines⟩

/-- A line, the same again, a purge, and the same once more. -/
def ledgerSample : List (Input ℚ) :=
  [.attempt .loggedIn,
    .recv (.message (.pkt (Listener.samplePacket "W1AW" [62, 65]))) ⟨0, 0⟩ .done,
    .recv (.message (.pkt (Listener.samplePacket "W1AW" [62, 65]))) ⟨0, 20⟩ .done,
    .telemetryTick (30 * 10 ^ 9) 0,
    .recv (.message (.pkt (Listener.samplePacket "W1AW" [62, 65]))) ⟨0, 40⟩ .done]

theorem gates_by_ledger_sample :
    (gated (run (Ledger.step sampleStation) ⟨(start none .failed).1, []⟩ ledgerSample).2).length = 2 ∧
      (run (step sampleStation) (start none .failed).1 ledgerSample).2 =
        (run (Ledger.step sampleStation) ⟨(start none .failed).1, []⟩ ledgerSample).2 :=
  ⟨by decide +kernel, (gates_by_ledger sampleStation none .failed ledgerSample
    ⟨by decide, fun p clock outcome h => by
      simp only [ledgerSample, List.mem_cons, reduceCtorEq, Input.recv.injEq,
        Received.message.injEq, DataItem.pkt.injEq, List.not_mem_nil, or_false, false_or] at h
      rcases h with ⟨rfl, _⟩ | ⟨rfl, _⟩ | ⟨rfl, _⟩ <;> decide⟩).1⟩

end Float

end Aprsis
end Rtpigate
