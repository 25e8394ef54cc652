/-
Third-party packets.

A third-party packet carries another packet behind its first character.  The rule that
keeps it off the Internet searches all of that text for a marker, the header of the inner
packet as well as its payload.
-/
import Rtpigate.GatedLine

namespace Rtpigate

open Lib

variable {F : Type}

/-- `TCPIP` or `TCPXX` occurs in some letter case. -/
def NamesInternet (cs : List Char) : Prop :=
  ∃ w, w <:+: cs ∧ (w.map Char.toUpper = "TCPIP".toList ∨ w.map Char.toUpper = "TCPXX".toList)

/-- The inner header is what follows the first character up to a colon. -/
def innerHeader (info : String) : List Char := (splitFirst isColonChar info.toList.tail).1

def innerPayload (info : String) : List Char := (splitFirst isColonChar info.toList.tail).2

theorem namesInternet_iff (cs : List Char) :
    NamesInternet cs ↔
      "TCPIP".toList <:+: cs.map Char.toUpper ∨ "TCPXX".toList <:+: cs.map Char.toUpper := by
  simp only [NamesInternet, List.infix_map_iff, eq_comm (a := "TCPIP".toList),
    eq_comm (a := "TCPXX".toList), and_or_left, exists_or]

instance (cs : List Char) : Decidable (NamesInternet cs) :=
  decidable_of_iff' _ (namesInternet_iff cs)

/-- The rule looks for a marker in everything behind the first character. -/
theorem isThirdPartyInternet_iff {p : RTPPacket F} (htype : p.ptype = '}')
    (hinfo : p.info.toList.head? = some '}') :
    p.isThirdPartyInternet = true ↔ NamesInternet p.info.toList.tail := by
  obtain ⟨rest, hrest⟩ : ∃ rest, p.info.toList = '}' :: rest := by
    cases hlist : p.info.toList with
    | nil => rw [hlist] at hinfo; cases hinfo
    | cons c rest =>
      rw [hlist, List.head?_cons, Option.some.injEq] at hinfo
      exact ⟨rest, by rw [hinfo]⟩
  have hafter : afterFirstByte p.info = String.ofList rest := by
    rw [afterFirstByte, hrest]
    rfl
  rw [RTPPacket.isThirdPartyInternet, htype, hafter, hrest, List.tail_cons, namesInternet_iff]
  simp only [beq_self_eq_true, Bool.true_and, Bool.or_eq_true, strContains_iff, toAsciiUppercase,
    String.toList_ofList]

theorem marker_colonless {w : List Char}
    (h : w.map Char.toUpper = "TCPIP".toList ∨ w.map Char.toUpper = "TCPXX".toList) :
    w ≠ [] ∧ ∀ c ∈ w, isColonChar c = false := by
  have hupper : w.map Char.toUpper ≠ [] ∧ ':' ∉ w.map Char.toUpper := by
    rcases h with h | h <;> rw [h] <;> exact ⟨by decide, by decide⟩
  refine ⟨fun hnil => hupper.1 (by rw [hnil]; rfl), fun c hc => ?_⟩
  rw [isColonChar, beq_eq_false_iff_ne]
  intro hcolon
  exact hupper.2 (List.mem_map.mpr ⟨c, hc, by rw [hcolon]; rfl⟩)

/-- A marker holds no colon, so it stands in the header or in the payload. -/
theorem namesInternet_tail_iff (info : String) :
    NamesInternet info.toList.tail ↔
      NamesInternet (innerHeader info) ∨ NamesInternet (innerPayload info) := by
  constructor
  · rintro ⟨w, hin, hw⟩
    obtain ⟨hne, hclean⟩ := marker_colonless hw
    rcases (infix_splitFirst_iff hne hclean).mp hin with hin | hin
    · exact Or.inl ⟨w, hin, hw⟩
    · exact Or.inr ⟨w, hin, hw⟩
  · rintro (⟨w, hin, hw⟩ | ⟨w, hin, hw⟩)
    · obtain ⟨hne, hclean⟩ := marker_colonless hw
      exact ⟨w, (infix_splitFirst_iff hne hclean).mpr (Or.inl hin), hw⟩
    · obtain ⟨hne, hclean⟩ := marker_colonless hw
      exact ⟨w, (infix_splitFirst_iff hne hclean).mpr (Or.inr hin), hw⟩

theorem droppacket_eq_thirdParty_iff {p : RTPPacket F} {now : Nat} (hmal : p.malformed = false)
    (hfresh : p.isStale now = false) (hrf : p.rfonly = false) (htype : p.ptype = '}') :
    droppacket now p = some .thirdPartyInternet ↔ p.isThirdPartyInternet = true := by
  rw [droppacket, hmal, hfresh, hrf, htype]
  by_cases hthird : p.isThirdPartyInternet = true
  · simp [hthird]
  · rw [Bool.not_eq_true] at hthird
    simp [hthird]

/-- Only the inner header decides exactly when the payload names no marker of its own. -/
theorem inner_header_decides_iff {p : RTPPacket F} {now : Nat} (hmal : p.malformed = false)
    (hfresh : p.isStale now = false) (hrf : p.rfonly = false) (htype : p.ptype = '}')
    (hinfo : p.info.toList.head? = some '}') :
    (droppacket now p = some .thirdPartyInternet ↔ NamesInternet (innerHeader p.info)) ↔
      (NamesInternet (innerPayload p.info) → NamesInternet (innerHeader p.info)) := by
  rw [droppacket_eq_thirdParty_iff hmal hfresh hrf htype, isThirdPartyInternet_iff htype hinfo,
    namesInternet_tail_iff]
  constructor
  · intro h hpayload
    exact h.mp (Or.inr hpayload)
  · intro h
    exact ⟨fun hany => hany.elim id h, Or.inl⟩

/-- A packet from a station that no gateway has passed on, whose text quotes a marker. -/
def quotingPacket : RTPPacket ℚ :=
  Listener.samplePacket "N0CALL" [125, 65, 62, 66, 58, 84, 67, 80, 73, 80]

theorem inner_header_decides_iff_sample :
    (droppacket 0 quotingPacket = some .thirdPartyInternet ↔
        NamesInternet (innerHeader quotingPacket.info)) ↔
      (NamesInternet (innerPayload quotingPacket.info) →
        NamesInternet (innerHeader quotingPacket.info)) :=
  inner_header_decides_iff (by decide) (by decide) (by decide) (by decide) (by decide)

theorem payload_decides :
    quotingPacket.malformed = false ∧ quotingPacket.isStale 0 = false ∧
      quotingPacket.rfonly = false ∧ quotingPacket.ptype = '}' ∧
      quotingPacket.info.toList.head? = some '}' ∧
      droppacket 0 quotingPacket = some .thirdPartyInternet ∧
      ¬ NamesInternet (innerHeader quotingPacket.info) := by
  decide

end Rtpigate
