/-
What a receiver reads from the reports of the task.

No count of an interval exceeds the packets received in it, so the percentages lie
between 0 and 100.  Every channel reads back from the two lines as the form it was
given, which is exact for a count and rounded for a percentage.
-/
import Rtpigate.Aprsis.Steps
import Rtpigate.ReportText

namespace Rtpigate
namespace Aprsis

open Lib

/-! ## Counters of an interval -/

section Counters

variable {F : Type} [F64 F]

structure Interval.Bounded (c : Interval) : Prop where
  dropped : c.dropped ≤ c.rfReceived
  heardDirect : c.heardDirect ≤ c.rfReceived

theorem handlePacket_bounded {s : State F} (h : s.interval.Bounded) (t : Captured F)
    (clock : GateClock) (outcome : WriteResult) (p : RTPPacket F) :
    (handlePacket t clock outcome s p).1.interval.Bounded := by
  have hdirect : p.heardDirect.toNat ≤ 1 := Bool.toNat_le _
  have hreceived : (s.receive p).interval.Bounded :=
    ⟨Nat.le_succ_of_le h.dropped, Nat.add_le_add h.heardDirect hdirect⟩
  have hdrop : ∀ count, ((s.receive p).drop count).interval.Bounded := fun _ =>
    ⟨Nat.succ_le_succ h.dropped, hreceived.heardDirect⟩
  have hexit := handlePacket_exit t clock outcome s p
  generalize handlePacket t clock outcome s p = r at hexit
  cases hexit with
  | ungated | gated | failed => exact hreceived
  | filtered | duplicate | refused => exact hdrop _

/-- The counters are as they were, or start again. -/
def KeptOrCleared (s s' : State F) : Prop := s'.interval = s.interval ∨ s'.interval = {}

omit [F64 F] in
theorem KeptOrCleared.bounded {s s' : State F} (h : KeptOrCleared s s')
    (hs : s.interval.Bounded) : s'.interval.Bounded := by
  rcases h with h | h
  · exact h ▸ hs
  · exact h ▸ ⟨Nat.le_refl _, Nat.le_refl _⟩

theorem sendReport_interval (t : Captured F) (outcomes : Nat → WriteResult) (s : State F) :
    KeptOrCleared s (sendReport t outcomes s).1 := by
  have hexit := sendReport_exit t outcomes s
  generalize sendReport t outcomes s = r at hexit
  cases hexit with
  | invalid | failed => exact Or.inl rfl
  | done => exact Or.inr rfl

theorem floorTick_interval (t : Captured F) (world : BeaconWorld F) (posit : WriteResult)
    (outcomes : Nat → WriteResult) (s : State F) :
    KeptOrCleared s (floorTick t world posit outcomes s).1 := by
  have hexit := floorTick_exit t world posit outcomes s
  generalize floorTick t world posit outcomes s = r at hexit
  cases hexit with
  | idle => exact Or.inl rfl
  | report => exact sendReport_interval t outcomes s
  | unsent loc => exact Or.inl (beacon_positions t world.utc posit loc s).interval
  | both loc =>
    have hsent := sendReport_interval t outcomes (beacon t world.utc posit loc s).1
    rw [KeptOrCleared, (beacon_positions t world.utc posit loc s).interval] at hsent
    exact hsent

theorem step_bounded {s : State F} (h : s.interval.Bounded) (t : Captured F) (i : Input F) :
    (step t s i).1.interval.Bounded := by
  cases step_cases t s i with
  | packet p clock outcome _ _ hstep =>
    rw [hstep]
    exact handlePacket_bounded h t clock outcome p
  | lagged n clock outcome _ _ hstep =>
    rw [hstep]
    exact h
  | sample now utc _ _ hstep =>
    rw [hstep]
    exact h
  | report world posit outcomes _ _ hstep =>
    rw [hstep]
    exact (floorTick_interval t world posit outcomes s).bounded h
  | other _ hint _ _ =>
    rw [hint]
    exact h

/-- Over any run no packet is dropped or heard directly that was not received. -/
theorem run_bounded (t : Captured F) (row : Option AprsisLifetime) (seq : SeqLoad)
    (is : List (Input F)) : (run (step t) (start row seq).1 is).1.interval.Bounded := by
  have hstart : (start row seq : State F × List (Event F)).1.interval.Bounded := by
    cases row <;> cases seq <;> exact ⟨Nat.le_refl _, Nat.le_refl _⟩
  exact run_invariant (P := fun _ (s : State F) _ => s.interval.Bounded) hstart
    (fun _ i _ _ h => step_bounded h t i) is

end Counters

/-! ## Lines of a floor tick -/

section Lines

variable {F : Type} [F64 F]

theorem reportWrites_sendReport {t : Captured F} {outcomes : Nat → WriteResult} {s : State F}
    {lines : List String}
    (hlines : (telemetryReport t s.interval s.sequence).toAprs t.callsign = .ok lines) :
    ∀ w ∈ reportWrites (sendReport t outcomes s).2,
      ∃ info, lines[w.index]? = some info ∧ w.bytes = reportBytes t info := by
  have hwritten : ∀ w ∈ reportWrites (writeLines t (telemetryReport t s.interval s.sequence)
      outcomes 0 lines).1, ∃ info, lines[w.index]? = some info ∧ w.bytes = reportBytes t info := by
    intro w hw
    obtain ⟨e, he, hwe⟩ := List.mem_filterMap.mp hw
    obtain ⟨j, info, hj, rfl⟩ := mem_writeLines he
    cases hwe
    exact ⟨info, by rw [Nat.zero_add]; exact hj, rfl⟩
  intro w hw
  simp only [sendReport, hlines] at hw
  split at hw
  · rw [reportWrites_append, List.mem_append] at hw
    rcases hw with hw | hw
    · exact hwritten w hw
    · cases hw
  · exact hwritten w hw

theorem reportWrites_floorTick {t : Captured F} {world : BeaconWorld F} {posit : WriteResult}
    {outcomes : Nat → WriteResult} {s : State F} {lines : List String}
    (hlines : (telemetryReport t s.interval s.sequence).toAprs t.callsign = .ok lines) :
    ∀ w ∈ reportWrites (floorTick t world posit outcomes s).2,
      ∃ info, lines[w.index]? = some info ∧ w.bytes = reportBytes t info := by
  have hexit := floorTick_exit t world posit outcomes s
  generalize floorTick t world posit outcomes s = r at hexit
  intro w hw
  cases hexit with
  | idle => cases hw
  | report => exact reportWrites_sendReport hlines w hw
  | unsent loc =>
    rw [(beacon_positions t world.utc posit loc s).noReport] at hw
    cases hw
  | both loc =>
    have hb := beacon_positions t world.utc posit loc s
    rw [reportWrites_append, hb.noReport, List.nil_append] at hw
    rw [← hb.interval, ← hb.sequence] at hlines
    exact reportWrites_sendReport hlines w hw

end Lines

/-! ## Readings -/

/-- What a receiver computes for a channel. -/
def reading (t : Captured ℚ) (values equations : String) (k : Nat) : Option ℚ :=
  (readChannel t.callsign values equations k).map APRSQuadratic.value

/-- A division by zero gives zero here, as the code does. -/
theorem percent_eq (part whole : Nat) : (percent part whole : ℚ) = 100 * part / whole := by
  have hhundred : (100.0 : ℚ) = 100 := by norm_num
  have hzero : (0.0 : ℚ) = 0 := by norm_num
  have hnonneg : (0 : ℚ) ≤ 100 * part / whole := by positivity
  rw [percent]
  by_cases hwhole : 0 < whole
  · rw [if_pos hwhole]
    simp only [Exact.lt_eq, hhundred, hzero, not_lt.mpr hnonneg, decide_false, Bool.false_eq_true,
      if_false]
  · rw [if_neg hwhole, hzero, show whole = 0 by omega, Nat.cast_zero, div_zero]

theorem percent_range {part whole : Nat} (h : part ≤ whole) :
    (0 : ℚ) ≤ 100 * part / whole ∧ (100 * part / whole : ℚ) ≤ 100 := by
  have hcast : (part : ℚ) ≤ whole := Nat.cast_le.mpr h
  refine ⟨by positivity, ?_⟩
  by_cases hwhole : whole = 0
  · rw [hwhole, Nat.cast_zero, div_zero]
    norm_num
  · have hpos : (0 : ℚ) < whole := Nat.cast_pos.mpr (by omega)
    rw [div_le_iff₀ hpos]
    linarith

theorem value_ofValue_near {v : ℚ} (h : 0 ≤ v) :
    |(APRSQuadratic.ofValue v).value - v| ≤ 0.0000005 := by
  obtain ⟨-, lost, hnear, hlost⟩ := value_ofValue v
  rw [hlost.mpr (Or.inr (by linarith)), Int.cast_zero, sub_zero] at hnear
  exact hnear.trans (by norm_num [halfMicro])

/-- The readings of the two lines are the counters of the interval: the counts exactly, and
the percentages, which lie between 0 and 100, to within half a millionth. -/
structure Readings (t : Captured ℚ) (c : Interval) (values equations : String) : Prop where
  octets : ∀ k < 5, ∃ q, readChannel t.callsign values equations k = some q ∧ q.x ≤ 255
  received : reading t values equations 0 = some (c.rfReceived : ℚ)
  satellite : reading t values equations 1 = some (c.receivedSat : ℚ)
  drop : ∃ v, reading t values equations 2 = some v ∧
    |v - 100 * c.dropped / c.rfReceived| ≤ 0.0000005
  direct : ∃ v, reading t values equations 3 = some v ∧
    |v - 100 * c.heardDirect / c.rfReceived| ≤ 0.0000005
  other : reading t values equations 4 = some (c.receivedOther : ℚ)
  dropRange : (0 : ℚ) ≤ 100 * c.dropped / c.rfReceived ∧
    (100 * c.dropped / c.rfReceived : ℚ) ≤ 100
  directRange : (0 : ℚ) ≤ 100 * c.heardDirect / c.rfReceived ∧
    (100 * c.heardDirect / c.rfReceived : ℚ) ≤ 100

/-- The items of a report are forms of values. -/
theorem telemetryReport_items (t : Captured ℚ) (c : Interval) (sequence : UInt32) :
    ∀ item ∈ (telemetryReport t c sequence).telemetry, item.equation.x ≤ 255 ∧
      item.equation.a.den ∣ 10 ^ 24 ∧ item.equation.b.den ∣ 10 ^ 24 ∧
        item.equation.c.den ∣ 10 ^ 24 := by
  intro item hitem
  have hform : ∃ v, item.equation = APRSQuadratic.ofValue v := by
    simp only [telemetryReport, List.mem_cons, List.not_mem_nil, or_false] at hitem
    rcases hitem with rfl | rfl | rfl | rfl | rfl <;> exact ⟨_, rfl⟩
  obtain ⟨v, hv⟩ := hform
  rw [hv]
  exact ⟨(value_ofValue v).1, ofValue_den v⟩

theorem value_percent_near (part whole : Nat) :
    |(APRSQuadratic.ofValue (percent part whole)).value - (100 * part / whole : ℚ)| ≤
      0.0000005 := by
  rw [percent_eq]
  exact value_ofValue_near (by positivity)

theorem Interval.Bounded.readings {c : Interval} (h : c.Bounded) (t : Captured ℚ)
    (sequence : UInt32) :
    ∃ values equations rest,
      (telemetryReport t c sequence).toAprs t.callsign = .ok (values :: equations :: rest) ∧
        Readings t c values equations := by
  have hitems := telemetryReport_items t c sequence
  obtain ⟨values, equations, rest, hlines, -, hvalues, hequations⟩ :=
    read_toAprs (List.cons_ne_nil _ _) (fun item hitem => (hitems item hitem).1.trans (by omega))
      t.callsign
  have hread : ∀ k, k < 5 → ∀ item,
      (telemetryReport t c sequence).telemetry[k]? = some item →
      readChannel t.callsign values equations k = some item.equation :=
    fun k hk item hitem => readChannel_toAprs (fun item' hitem' => (hitems item' hitem').2)
      hvalues hequations hk hitem
  have hreading : ∀ k, k < 5 → ∀ item v,
      (telemetryReport t c sequence).telemetry[k]? = some item →
      item.equation = APRSQuadratic.ofValue v →
      reading t values equations k = some (APRSQuadratic.ofValue v).value := by
    intro k hk item v hitem hv
    rw [reading, hread k hk item hitem, hv]
    rfl
  refine ⟨values, equations, rest, hlines, ?_⟩
  constructor
  · intro k hk
    obtain ⟨item, hitem⟩ : ∃ item, (telemetryReport t c sequence).telemetry[k]? = some item :=
      ⟨_, List.getElem?_eq_getElem hk⟩
    exact ⟨item.equation, hread k hk item hitem, (hitems item (List.mem_of_getElem? hitem)).1⟩
  · rw [hreading 0 (by omega) _ _ rfl rfl, value_ofValue_natCast]
  · rw [hreading 1 (by omega) _ _ rfl rfl, value_ofValue_natCast]
  · exact ⟨_, hreading 2 (by omega) _ _ rfl rfl, value_percent_near _ _⟩
  · exact ⟨_, hreading 3 (by omega) _ _ rfl rfl, value_percent_near _ _⟩
  · rw [hreading 4 (by omega) _ _ rfl rfl, value_ofValue_natCast]
  · exact percent_range h.dropped
  · exact percent_range h.heardDirect

/-- The state after a run. -/
def reached (t : Captured ℚ) (row : Option AprsisLifetime) (seq : SeqLoad)
    (is : List (Input ℚ)) : State ℚ := (run (step t) (start row seq).1 is).1

/-- In every state of every run, the report lines that a floor tick writes are those of the
counters of the interval, and they read back as these counters. -/
theorem report_readings (t : Captured ℚ) (row : Option AprsisLifetime) (seq : SeqLoad)
    (is : List (Input ℚ)) (world : BeaconWorld ℚ) (posit : WriteResult)
    (outcomes : Nat → WriteResult) :
    ∃ values equations rest,
      (telemetryReport t (reached t row seq is).interval (reached t row seq is).sequence).toAprs
          t.callsign = .ok (values :: equations :: rest) ∧
      (∀ w ∈ reportWrites (step t (reached t row seq is) (.floorTick world posit outcomes)).2,
        ∃ info, (values :: equations :: rest)[w.index]? = some info ∧
          w.bytes = reportBytes t info) ∧
      Readings t (reached t row seq is).interval values equations := by
  have hbounded : (reached t row seq is).interval.Bounded := run_bounded t row seq is
  generalize reached t row seq is = s at hbounded ⊢
  obtain ⟨values, equations, rest, hlines, hreadings⟩ := hbounded.readings t s.sequence
  refine ⟨values, equations, rest, hlines, ?_, hreadings⟩
  intro w hw
  cases hphase : s.phase with
  | inner =>
    simp only [step, hphase] at hw
    exact reportWrites_floorTick hlines w hw
  | outer | ended =>
    simp only [step, hphase] at hw
    cases hw

end Aprsis
end Rtpigate
