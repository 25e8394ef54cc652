/-
What the packet branch writes.

A packet passes two checks on CR and LF, one on its fields and one on the assembled
line, and both let terminators trail.  A field that is not the last one is followed
by a separator, so a terminator that trails it lies inside the line.
-/
import Rtpigate.Aprsis.Steps
import Rtpigate.Listener

namespace Rtpigate
namespace Aprsis

open Lib Listener

variable {F : Type}

/-! ## The assembled line -/

def headerClean (callsign : String) (p : RTPPacket F) : Prop :=
  ∀ field ∈ [p.source, p.destination, p.path, callsign], field.toList.any isTerminatorChar = false

theorem forRxigateBytes_parts (p : RTPPacket F) (callsign : String) :
    ∃ middle, p.forRxigateBytes callsign =
        utf8 p.source ++ 62 :: (utf8 p.destination ++ 44 :: (middle ++ 44 :: (utf8 callsign ++
          58 :: p.infoBytes))) ∧
      middle.any isTerminator = (utf8 p.path).any isTerminator := by
  rw [RTPPacket.forRxigateBytes, RTPPacket.rxigateHeader]
  by_cases hpath : p.path.isEmpty = true
  · refine ⟨[113, 65, 79], ?_, ?_⟩
    · rw [if_pos hpath]
      simp only [utf8_append, List.append_assoc]
      rfl
    · rw [String.isEmpty_iff.mp hpath]
      rfl
  · refine ⟨utf8 p.path ++ 44 :: [113, 65, 79], ?_, ?_⟩
    · rw [if_neg hpath]
      simp only [utf8_append, List.append_assoc]
      rfl
    · rw [List.any_append]
      exact Bool.or_false _

theorem forRxigateBytes_trailing_iff (p : RTPPacket F) (callsign : String) :
    Trailing isTerminator (p.forRxigateBytes callsign) ↔
      headerClean callsign p ∧ Trailing isTerminator p.infoBytes := by
  obtain ⟨middle, hline, hmiddle⟩ := forRxigateBytes_parts p callsign
  rw [hline, trailing_append_cons (by decide), trailing_append_cons (by decide),
    trailing_append_cons (by decide), trailing_append_cons (by decide), hmiddle]
  simp only [utf8_any_isTerminator, headerClean, List.forall_mem_cons, List.not_mem_nil,
    false_implies, implies_true, and_true, and_assoc]

theorem refused_eq_false_iff (p : RTPPacket F) (callsign : String) :
    refused (p.forRxigateBytes callsign) = false ↔
      headerClean callsign p ∧ Trailing isTerminator p.infoBytes := by
  rw [refused, any_rdropWhile_eq_false_iff, forRxigateBytes_trailing_iff]

/-- The text of the info field is lossy, but its terminators are those of the
octets. -/
theorem info_trailing_iff {p : RTPPacket F} (hinfo : p.info = fromUtf8Lossy p.infoBytes) :
    Trailing isTerminatorChar p.info.toList ↔ Trailing isTerminator p.infoBytes := by
  rw [hinfo, ← (fromUtf8Lossy_renders p.infoBytes).trailing_iff terminator_class]

theorem malformed_refused {p : RTPPacket F} (hinfo : p.info = fromUtf8Lossy p.infoBytes)
    (hmal : p.malformed = true) (callsign : String) :
    refused (p.forRxigateBytes callsign) = true := by
  by_contra href
  rw [Bool.not_eq_true, refused_eq_false_iff] at href
  obtain ⟨hclean, htrail⟩ := href
  have htr : ∀ field ∈ [p.source, p.destination, p.path, callsign],
      Trailing isTerminatorChar field.toList :=
    fun field hmem => trailing_of_any_eq_false (hclean field hmem)
  have hfalse : p.malformed = false := malformed_eq_false_iff.mpr
    ⟨htr _ (by simp), htr _ (by simp), htr _ (by simp), (info_trailing_iff hinfo).mpr htrail⟩
  rw [hfalse] at hmal
  cases hmal

theorem splitOnP_line {bytes : List UInt8} (h : refused bytes = false)
    (hne : ∃ b ∈ bytes, isTerminator b = false) :
    ((bytes ++ crlf).splitOnP isTerminator).filter (fun l => !l.isEmpty) =
      [bytes.rdropWhile isTerminator] := by
  have htr : Trailing isTerminator (bytes ++ crlf) := by
    rw [refused, any_rdropWhile_eq_false_iff] at h
    refine List.pairwise_append.mpr ⟨h, by simp [crlf, isTerminator], ?_⟩
    intro _ _ y hy _
    rcases List.mem_cons.mp hy with rfl | hy
    · rfl
    · rw [List.mem_singleton.mp hy]
      rfl
  rw [filter_splitOnP_of_trailing htr (by
    obtain ⟨b, hb, hf⟩ := hne
    exact ⟨b, List.mem_append_left _ hb, hf⟩)]
  have hcut : (bytes ++ crlf).rdropWhile isTerminator = bytes.rdropWhile isTerminator := by
    rw [show bytes ++ crlf = bytes ++ [13] ++ [10] from (List.append_assoc bytes [13] [10]).symm,
      List.rdropWhile_concat_pos _ _ _ (by decide), List.rdropWhile_concat_pos _ _ _ (by decide)]
  rw [hcut]

variable [F64 F] {t : Captured F} {clock : GateClock} {outcome : WriteResult} {s : State F}
  {p : RTPPacket F}

theorem packetWrites_handlePacket {w : PacketWrite F}
    (h : w ∈ packetWrites (handlePacket t clock outcome s p).2) :
    w = ⟨p, clock, p.forRxigateBytes t.callsign ++ crlf, outcome⟩ ∧
      (t.igating && t.rw) = true ∧ droppacket clock.instant p = none ∧
      s.dedupCache.fresh dedupTtlSecs clock.now (dedupKey p) = false ∧
      refused (p.forRxigateBytes t.callsign) = false := by
  have hexit := handlePacket_exit t clock outcome s p
  generalize handlePacket t clock outcome s p = r at h hexit
  cases hexit with
  | ungated | filtered | duplicate | refused => cases h
  | gated hgate hdrop hfresh hrefused hdone =>
    rw [hdone]
    exact ⟨List.mem_singleton.mp h, hgate, hdrop, hfresh, hrefused⟩
  | failed hgate hdrop hfresh hrefused hdone =>
    exact ⟨List.mem_singleton.mp h, hgate, hdrop, hfresh, hrefused⟩

/-- One packet is at most one line, and only a packet whose line holds a terminator
inside counts as malformed. -/
theorem handlePacket_lines (t : Captured F) (clock : GateClock) (outcome : WriteResult)
    (s : State F) (p : RTPPacket F) (hinfo : p.info = fromUtf8Lossy p.infoBytes) :
    (∀ w ∈ packetWrites (handlePacket t clock outcome s p).2,
        (w.bytes.splitOnP isTerminator).filter (fun l => !l.isEmpty) =
          [(p.forRxigateBytes t.callsign).rdropWhile isTerminator]) ∧
      (s.lifetime.dropsMalformed < (handlePacket t clock outcome s p).1.lifetime.dropsMalformed →
        Embedded isTerminator (p.forRxigateBytes t.callsign)) := by
  constructor
  · intro w hw
    obtain ⟨rfl, _, _, _, hrefused⟩ := packetWrites_handlePacket hw
    refine splitOnP_line hrefused ⟨62, ?_, by decide⟩
    obtain ⟨middle, hline, _⟩ := forRxigateBytes_parts p t.callsign
    rw [hline]
    exact List.mem_append_right _ List.mem_cons_self
  · intro hcount
    have hembedded : refused (p.forRxigateBytes t.callsign) = true →
        Embedded isTerminator (p.forRxigateBytes t.callsign) := by
      intro href
      rw [← not_trailing_iff_embedded, ← any_rdropWhile_eq_false_iff, Bool.not_eq_false]
      exact href
    have hexit := handlePacket_exit t clock outcome s p
    generalize handlePacket t clock outcome s p = r at hcount hexit
    cases hexit with
    | ungated | duplicate | gated | failed => exact absurd hcount (Nat.lt_irrefl _)
    | refused _ _ _ hrefused => exact hembedded hrefused
    | filtered reason _ hdrop =>
      cases reason with
      | malformedField =>
        exact hembedded (malformed_refused hinfo (droppacket_eq_malformed_iff.mp hdrop) _)
      | stale | rfOnly | genericQuery | thirdPartyInternet | satelliteDirect =>
        exact absurd hcount (Nat.lt_irrefl _)

theorem handlePacket_lines_sample :
    (∀ w ∈ packetWrites (handlePacket sampleStation ⟨0, 0⟩ .done {}
          (samplePacket "W1AW" [62, 65])).2,
        (w.bytes.splitOnP isTerminator).filter (fun l => !l.isEmpty) =
          [((samplePacket "W1AW" [62, 65]).forRxigateBytes "N0CALL").rdropWhile isTerminator]) ∧
      (0 < (handlePacket sampleStation ⟨0, 0⟩ .done {}
          (samplePacket "W1AW" [62, 13, 65])).1.lifetime.dropsMalformed →
        Embedded isTerminator ((samplePacket "W1AW" [62, 13, 65]).forRxigateBytes "N0CALL")) :=
  ⟨(handlePacket_lines sampleStation ⟨0, 0⟩ .done {} (samplePacket "W1AW" [62, 65]) rfl).1,
    (handlePacket_lines sampleStation ⟨0, 0⟩ .done {} (samplePacket "W1AW" [62, 13, 65]) rfl).2⟩

/-! ## The flag of the listener -/

/-- What the packet branch does with a young packet that is no duplicate, when the
write goes through. -/
theorem packetWrites_ne_nil_iff (hgate : (t.igating && t.rw) = true)
    (hyoung : clock.instant ≤ p.receivedInstant + ageThreshold)
    (hcache : s.dedupCache (dedupKey p) = none) :
    packetWrites (handlePacket t clock .done s p).2 ≠ [] ↔
      ¬ p.RuledOut ∧ refused (p.forRxigateBytes t.callsign) = false := by
  rw [← droppacket_eq_none_iff_of_fresh hyoung]
  have hfresh : s.dedupCache.fresh dedupTtlSecs clock.now (dedupKey p) = false := by
    rw [Expiring.fresh, hcache]
  constructor
  · intro h
    obtain ⟨w, hw⟩ := List.exists_mem_of_ne_nil _ h
    obtain ⟨_, _, hdrop, _, hrefused⟩ := packetWrites_handlePacket hw
    exact ⟨hdrop, hrefused⟩
  · rintro ⟨hdrop, hrefused⟩
    have hexit := handlePacket_exit t clock .done s p
    generalize handlePacket t clock .done s p = r at hexit
    cases hexit with
    | ungated h => exact absurd (hgate.symm.trans h) (by decide)
    | filtered _ _ h => exact absurd (hdrop.symm.trans h) (by simp)
    | duplicate _ _ h => exact absurd (hfresh.symm.trans h) (by decide)
    | refused _ _ _ h => exact absurd (hrefused.symm.trans h) (by decide)
    | gated => exact List.cons_ne_nil _ _
    | failed _ _ _ _ h => exact absurd rfl h

/-- The flag and the decision agree on a packet that a rule keeps off, and else when
no header field brings a terminator into the line. -/
theorem flag_agrees_iff {up : Char → List Char} {c : Config F} (hcap : capture up c = .ok t)
    (higating : c.aprsis.igating = some true) (hrw : c.passcodeIsvalid up = true) {world : FrameWorld F}
    {fr : AprsFrame F} (hframe : packet c.satelliteFrequencies world fr = some p)
    (hflag : world.now ≤ world.clock.instant + ageThreshold)
    (hdecide : clock.instant ≤ world.clock.instant + ageThreshold)
    (hcache : s.dedupCache (dedupKey p) = none) :
    (p.igated = true ↔ packetWrites (handlePacket t clock .done s p).2 ≠ []) ↔
      p.RuledOut ∨ headerClean t.callsign p := by
  obtain ⟨mapped, hmap, hp⟩ := packet_some hframe
  obtain ⟨ax, _, hinstant, _, hbytes, hinfo, _⟩ := mapFrame_some hmap
  have hmapped : p.receivedInstant = world.clock.instant := by rw [hp]; exact hinstant
  have hlossy : p.info = fromUtf8Lossy p.infoBytes := by
    rw [hp]
    show mapped.packet.info = fromUtf8Lossy mapped.packet.infoBytes
    rw [hinfo, hbytes]
  have higated : p.igated = true ↔ ¬ p.RuledOut := by
    rw [← droppacket_eq_none_iff_of_fresh (hmapped ▸ hflag), hp, flagged_igated,
      Option.isNone_iff_eq_none]
  have hgate : (t.igating && t.rw) = true := by
    obtain ⟨_, hig, _, hvalid⟩ := capture_ok hcap
    rw [hig, hvalid, higating, hrw]
    rfl
  rw [higated, packetWrites_ne_nil_iff hgate (hmapped ▸ hdecide) hcache, refused_eq_false_iff]
  by_cases hout : p.RuledOut
  · simp only [hout, not_true_eq_false, false_and, true_or]
  · -- a packet no rule keeps off has a well-formed info field
    have htrail : Trailing isTerminator p.infoBytes := by
      rw [RTPPacket.RuledOut, not_or, Bool.not_eq_true, malformed_eq_false_iff] at hout
      exact (info_trailing_iff hlossy).mp hout.1.2.2.2
    simp only [hout, not_false_eq_true, true_and, htrail, and_true, false_or, true_iff]

theorem flag_agrees_iff_sample :
    ((samplePacket "W1AW" [62, 65]).igated = true ↔
        packetWrites (handlePacket sampleStation ⟨0, 0⟩ .done {}
          (samplePacket "W1AW" [62, 65])).2 ≠ []) ↔
      (samplePacket "W1AW" [62, 65]).RuledOut ∨
        headerClean sampleStation.callsign (samplePacket "W1AW" [62, 65]) :=
  flag_agrees_iff capture_sampleConfig rfl (by decide) (packet_sampleFrame "W1AW" [62, 65])
    (by decide) (by decide) rfl

/-- A source address that ends in CR passes the rules, so the packet is flagged, but
the task refuses its line. -/
theorem flag_disagrees :
    capture asciiUpper sampleConfig = .ok sampleStation ∧
      sampleConfig.aprsis.igating = some true ∧ sampleConfig.passcodeIsvalid asciiUpper = true ∧
      ¬ ((samplePacket "W1AW\r" [62, 65]).igated = true ↔
        packetWrites (handlePacket sampleStation ⟨0, 0⟩ .done {}
          (samplePacket "W1AW\r" [62, 65])).2 ≠ []) := by
  have hflag : (samplePacket "W1AW\r" [62, 65]).igated = true := by decide +kernel
  have hwrites : (packetWrites (handlePacket sampleStation ⟨0, 0⟩ .done {}
      (samplePacket "W1AW\r" [62, 65])).2).isEmpty = true := by decide +kernel
  refine ⟨rfl, rfl, by decide, ?_⟩
  rw [hflag, List.isEmpty_iff.mp hwrites]
  simp

end Aprsis
end Rtpigate
