/-
Packets that come back from the store.

A row keeps the serialized fields of a packet.  Its time is in microseconds, and a twist
without columns stands for none.  The listener builds a twist with a column for each slicer
of its bank, which has at least one, and no more than the gains that fit into a datagram.
-/
import Rtpigate.Listener.Stop
import Rtpigate.Listener.Tally
import Rtpigate.PacketVersions

namespace Rtpigate

/-- All but the monotonic time, the octets of the info field and the slicer mask. -/
def RTPPacket.SameSerialized {F : Type} (p q : RTPPacket F) : Prop :=
  { q with receivedInstant := p.receivedInstant, infoBytes := p.infoBytes
           slicerMask := p.slicerMask } = p

theorem fromMicros_toMicros_whole {ns : Int} (hdate : InDates ns) (hmicros : 1000 ∣ ns) :
    fromMicros (toMicros ns) = ns := by
  rw [fromMicros_toMicros hdate, toMicros, Int.ediv_mul_cancel hmicros]

theorem storedTwist_row {F : Type} [F64 F] {p : RTPPacket F}
    (h : ∀ t, p.twist = some t → 0 < t.cols ∧ t.cols < 2 ^ 32) :
    storedTwist (PacketRec.fromPacket p).twistCols (PacketRec.fromPacket p).twistMask
      (PacketRec.fromPacket p).twistZones (PacketRec.fromPacket p).twistCentroidDb = p.twist := by
  simp only [PacketRec.fromPacket]
  cases htwist : p.twist with
  | none => rfl
  | some t =>
    obtain ⟨hpos, hlt⟩ := h t htwist
    simp only [Option.elim_some, Nat.mod_eq_of_lt hlt]
    exact if_pos hpos

theorem fromPacket_intoPacket {F : Type} [F64 F] {p : RTPPacket F} (hdate : InDates p.receivetime)
    (hmicros : 1000 ∣ p.receivetime)
    (htwist : ∀ t, p.twist = some t → 0 < t.cols ∧ t.cols < 2 ^ 32) (instant : Nat) :
    p.SameSerialized ((PacketRec.fromPacket p).intoPacket instant) := by
  have htime : ((PacketRec.fromPacket p).intoPacket instant).receivetime = p.receivetime :=
    fromMicros_toMicros_whole hdate hmicros
  have hrow : ((PacketRec.fromPacket p).intoPacket instant).twist = p.twist :=
    storedTwist_row htwist
  have hfields : { (PacketRec.fromPacket p).intoPacket instant with
      receivedInstant := p.receivedInstant, infoBytes := p.infoBytes, slicerMask := p.slicerMask } =
      { p with receivetime := ((PacketRec.fromPacket p).intoPacket instant).receivetime
               twist := ((PacketRec.fromPacket p).intoPacket instant).twist } := rfl
  rw [RTPPacket.SameSerialized, hfields, htime, hrow]

namespace Listener

/-- A frame comes in one datagram, which has less than 2^16 octets. -/
def Input.InDatagram {F : Type} : Input F → Prop
  | .frame _ fr => ∀ g ∈ fr.rf.slicerGains, g.length < 2 ^ 16
  | .tick _ => True

/-- An input as the socket and the clock give it. -/
abbrev ReceivedInput (F : Type) : Type := { i : Input F // i.Dated ∧ i.InDatagram }

namespace Slicers

variable {F : Type} [F64 F] {overflowChecks : Bool} {log10 : F → F} {satFreqs : List F}

/-- The slicers after some inputs, `none` if a step has panicked. -/
def runLoop (overflowChecks : Bool) (log10 : F → F) (satFreqs : List F) (s : Slicers F)
    (is : List (Input F)) : Option (Slicers F) :=
  is.foldlM (stepLoop overflowChecks log10 satFreqs) s

theorem twistLoop_cols {s : Slicers F} {slicerMask : UInt16} {t : TwistInfo F}
    (h : s.twistLoop overflowChecks log10 slicerMask = some (some t)) :
    t.cols = s.count ∧ 0 < s.count := by
  rw [twistLoop] at h
  split at h
  · next hset =>
    obtain ⟨mean, -, hmean⟩ := Option.bind_eq_some_iff.mp h
    cases hmean
    exact ⟨rfl, hset.2⟩
  · cases h

omit [F64 F] in
theorem tallyLoop_count {s s' : Slicers F} {slicerMask : UInt16}
    (h : s.tallyLoop overflowChecks slicerMask = some s') : s'.count = s.count := by
  obtain ⟨counts, -, hcounts⟩ := Option.bind_eq_some_iff.mp h
  cases hcounts
  rfl

/-- A frame that is mapped gives a packet with the twist of the bank. -/
theorem frameLoop_packet {s s' : Slicers F} {world : FrameWorld F} {fr : AprsFrame F}
    {p : RTPPacket F}
    (h : s.frameLoop overflowChecks log10 satFreqs world fr = some (s', some p)) :
    ∃ mapped twist, mapFrame world.decodeTextual world.clock fr = some mapped ∧
      (s.learn fr.rf.slicerGains).twistLoop overflowChecks log10 mapped.packet.slicerMask =
        some twist ∧
      p = flagged satFreqs world.now twist mapped.packet := by
  rw [frameLoop] at h
  cases hmap : mapFrame world.decodeTextual world.clock fr with
  | none =>
    rw [hmap] at h
    cases h
  | some mapped =>
    rw [hmap] at h
    obtain ⟨twist, htwist, hrest⟩ := Option.bind_eq_some_iff.mp h
    obtain ⟨tallied, -, hlast⟩ := Option.bind_eq_some_iff.mp hrest
    cases hlast
    exact ⟨mapped, twist, rfl, htwist, rfl⟩

theorem frameLoop_count {s s' : Slicers F} {world : FrameWorld F} {fr : AprsFrame F}
    {p : Option (RTPPacket F)}
    (h : s.frameLoop overflowChecks log10 satFreqs world fr = some (s', p)) :
    s'.count = (s.learn fr.rf.slicerGains).count := by
  rw [frameLoop] at h
  split at h
  · cases h
    rfl
  · obtain ⟨twist, -, hrest⟩ := Option.bind_eq_some_iff.mp h
    obtain ⟨tallied, htallied, hlast⟩ := Option.bind_eq_some_iff.mp hrest
    cases hlast
    exact tallyLoop_count htallied

omit [F64 F] in
theorem learn_count_lt {s : Slicers F} {slicerGains : Option (List F)} (h : s.count < 2 ^ 16)
    (hgains : ∀ g ∈ slicerGains, g.length < 2 ^ 16) :
    (s.learn slicerGains).count < 2 ^ 16 := by
  rw [learn_count]
  split
  · cases hladder : slicerGains.filter (!·.isEmpty) with
    | none => exact Nat.two_pow_pos 16
    | some g => exact hgains g (Option.filter_eq_some_iff.mp hladder).1
  · exact h

theorem runLoop_count_lt {s : Slicers F} {is : List (Input F)} (his : ∀ i ∈ is, i.InDatagram)
    {s₀ : Slicers F} (hs₀ : s₀.count < 2 ^ 16)
    (h : s₀.runLoop overflowChecks log10 satFreqs is = some s) : s.count < 2 ^ 16 := by
  induction is generalizing s₀ with
  | nil =>
    cases h
    exact hs₀
  | cons i is ih =>
    rw [runLoop, List.foldlM_cons] at h
    obtain ⟨s₁, hstep, hrest⟩ := Option.bind_eq_some_iff.mp h
    refine ih (fun i' hi' => his i' (List.mem_cons_of_mem i hi')) ?_ hrest
    cases i with
    | tick world =>
      cases hstep
      exact hs₀
    | frame world fr =>
      obtain ⟨⟨s', p⟩, hframe, rfl⟩ := Option.map_eq_some_iff.mp hstep
      rw [frameLoop_count hframe]
      exact learn_count_lt hs₀ (his _ List.mem_cons_self)

/-- The twist of a packet has columns, and their number fits into the row. -/
theorem runLoop_twist {r : Option RestoredSlicer} {is : List (ReceivedInput F)}
    {i : ReceivedInput F} {s s' : Slicers F} {world : FrameWorld F} {fr : AprsFrame F}
    {p : RTPPacket F}
    (hrun : ({ restored := r } : Slicers F).runLoop overflowChecks log10 satFreqs
      (is.map Subtype.val) = some s)
    (hi : i.val = .frame world fr)
    (hframe : s.frameLoop overflowChecks log10 satFreqs world fr = some (s', some p)) :
    InDates p.receivetime ∧ ∀ t, p.twist = some t → 0 < t.cols ∧ t.cols < 2 ^ 32 := by
  obtain ⟨mapped, twist, hmap, htwist, rfl⟩ := frameLoop_packet hframe
  obtain ⟨i, hdated, hdatagram⟩ := i
  cases hi
  have hcount : s.count < 2 ^ 16 := by
    refine runLoop_count_lt (fun i hi => ?_) (Nat.two_pow_pos 16) hrun
    obtain ⟨i', -, rfl⟩ := List.mem_map.mp hi
    exact i'.property.2
  have hlearned := learn_count_lt hcount hdatagram
  refine ⟨mapFrame_dated hmap hdated, fun t ht => ?_⟩
  replace ht : twist = some t := ht
  rw [ht] at htwist
  obtain ⟨hcols, hpos⟩ := twistLoop_cols htwist
  rw [hcols]
  exact ⟨hpos, hlearned.trans (by decide)⟩

end Slicers

end Listener

/-! ## Rows of earlier versions -/

/-- A packet has the columns of a row, with the epoch for a time without a date. -/
structure RTPPacket.OfRow {F : Type} (p : RTPPacket F) (columns : PacketColumns F)
    (keyMicros : Int) (twist : Option (TwistInfo F)) (speedMph : Option F)
    (courseDeg : Option Nat) (snrDb : Option F) : Prop where
  columns : p.columns = columns
  time : InDates (keyMicros * 1000) → p.receivetime = keyMicros * 1000
  undated : ¬ InDates (keyMicros * 1000) → p.receivetime = 0
  twist : p.twist = twist
  speedMph : p.speedMph = speedMph
  courseDeg : p.courseDeg = courseDeg
  snrDb : p.snrDb = snrDb

theorem PacketRecV3.ofRow {F : Type} (v : PacketRecV3 F) (instant : Nat) :
    ((PacketRec.fromV3 v).intoPacket instant).OfRow v.columns v.keyMicros
      (storedTwist v.twistCols v.twistMask v.twistZones v.twistCentroidDb) v.speedMph v.courseDeg
      none :=
  ⟨rfl, fun h => if_pos h, fun h => if_neg h, rfl, rfl, rfl, rfl⟩

/-- What the listener stores comes back but for what is not serialized, and a row of an
earlier version comes back from the current one and shows its columns, with nothing where
the version had none. -/
theorem packet_records_kept {F : Type} [F64 F] :
    (∀ (overflowChecks : Bool) (log10 : F → F) (satFreqs : List F) (r : Option RestoredSlicer)
        (is : List (Listener.ReceivedInput F)) (i : Listener.ReceivedInput F)
        (s s' : Listener.Slicers F) (world : Listener.FrameWorld F) (fr : AprsFrame F)
        (p : RTPPacket F) (instant : Nat),
      ({ restored := r } : Listener.Slicers F).runLoop overflowChecks log10 satFreqs
          (is.map Subtype.val) = some s →
        i.val = .frame world fr →
        s.frameLoop overflowChecks log10 satFreqs world fr = some (s', some p) →
        1000000 ∣ p.receivetime →
        p.SameSerialized ((PacketRec.fromPacket p).intoPacket instant)) ∧
      ((∀ v : PacketRecV1 F, .restore v.migrate = v) ∧
        (∀ v : PacketRecV2 F, .restore v.migrate = v) ∧
        ∀ v : PacketRecV3 F, .fromV4 (PacketRec.fromV3 v) = v) ∧
      (∀ (v : PacketRecV1 F) (instant : Nat), (v.migrate.intoPacket instant).OfRow v.columns
        v.keyMicros none none none none) ∧
      (∀ (v : PacketRecV2 F) (instant : Nat), (v.migrate.intoPacket instant).OfRow v.columns
        v.keyMicros (storedTwist v.twistCols v.twistMask v.twistZones v.twistCentroidDb) none none
        none) ∧
      ∀ (v : PacketRecV3 F) (instant : Nat), ((PacketRec.fromV3 v).intoPacket instant).OfRow
        v.columns v.keyMicros
        (storedTwist v.twistCols v.twistMask v.twistZones v.twistCentroidDb) v.speedMph
        v.courseDeg none := by
  refine ⟨?_, ⟨fun _ => rfl, fun _ => rfl, fun _ => rfl⟩, fun v instant => ?_, fun v instant => ?_,
    PacketRecV3.ofRow⟩
  · intro overflowChecks log10 satFreqs r is i s s' world fr p instant hrun hi hframe hmillis
    obtain ⟨hdate, htwist⟩ := Listener.Slicers.runLoop_twist hrun hi hframe
    exact fromPacket_intoPacket hdate ((by decide : (1000 : Int) ∣ 1000000).trans hmillis) htwist
      instant
  · exact PacketRecV3.ofRow (.fromV2 (.fromV1 v)) instant
  · exact PacketRecV3.ofRow (.fromV2 v) instant

/-! ## Samples -/

/-- The logarithms of the gains 1 and 10. -/
def decadeLog (x : ℚ) : ℚ := if x = 10 then 1 else 0

def decadeInput : Listener.ReceivedInput ℚ :=
  ⟨Listener.Slicers.firstSlicerInput [1, 10], (by decide : InDates 0), by
    intro g hg
    cases hg
    decide⟩

/-- A packet with a twist is stored and read again. -/
theorem packet_records_kept_decade :
    ∃ s' p, ({} : Listener.Slicers ℚ).frameLoop false decadeLog []
        { clock := ⟨0, 0⟩, now := 0, twist := none, decodeTextual := fun _ => none }
        (Listener.Slicers.firstSlicerFrame [1, 10]) = some (s', some p) ∧
      p.twist.isSome = true ∧ p.SameSerialized ((PacketRec.fromPacket p).intoPacket 0) := by
  refine ⟨_, _, rfl, rfl, ?_⟩
  exact packet_records_kept.1 false decadeLog [] none [] decadeInput {} _ _ _ _ 0 rfl rfl rfl
    (by decide)

/-- Columns that no build has written: a time beyond the last date, and a mask without a
slicer. -/
def strayRow : PacketRecV2 ℚ where
  keyMicros := 2 ^ 63 - 1
  source := "W1AW"
  raw := ""
  info := ""
  path := ""
  digipeaterPath := []
  hops := 0
  ptype := '>'
  destination := "APRS"
  heardDirect := true
  heardfrom := "W1AW"
  wasDigipeated := false
  rfonly := false
  frequency := 0
  isSatellite := false
  igated := false
  infoInvalidBytes := 0
  objectName := none
  latitude := none
  longitude := none
  altitudeFt := none
  twistCols := 0
  twistMask := 5
  twistZones := []
  twistCentroidDb := 0

/-- The packet shows neither. -/
theorem strayRow_shown :
    (strayRow.migrate.intoPacket 0).receivetime = 0 ∧
      (strayRow.migrate.intoPacket 0).receivetime ≠ strayRow.keyMicros * 1000 ∧
      strayRow.twistMask = 5 ∧ (strayRow.migrate.intoPacket 0).twist.isNone = true := by
  decide +kernel

end Rtpigate
