/-
Which frames reach APRS-IS.

A packet line in a run of the system comes from a frame the listener mapped, and the
rules held the packet of that frame when the line was written.  The rules read the
text of the info field; what they say about markers carries over to its octets,
because an ASCII marker in the octets shows up in the text.
-/
import Rtpigate.System

namespace Rtpigate

open Lib Aprsis

/-! ## Markers in any letter case -/

def upperOctet (b : UInt8) : UInt8 := if 97 ≤ b ∧ b ≤ 122 then b - 32 else b

theorem upperOctet_spec : ∀ n < 128,
    Char.toUpper (Char.ofNat n) = Char.ofNat (upperOctet (UInt8.ofNat n)).toNat := by decide

theorem upperOctet_ascii {b : UInt8} (h : upperOctet b < 0x80) : b < 0x80 := by
  rw [upperOctet] at h
  split at h
  · next hb => exact Nat.lt_of_le_of_lt (UInt8.le_iff_toNat_le.mp hb.2) (by decide)
  · exact h

def HoldsMarker (marker : List UInt8) (bs : List UInt8) : Prop :=
  ∃ w, w <:+: bs ∧ w.map upperOctet = marker

theorem holdsMarker_text {marker bs : List UInt8} {cs : List Char} (hrend : Renders bs cs)
    (hascii : ∀ b ∈ marker, b < 0x80) (h : HoldsMarker marker bs) :
    marker.map (fun b => Char.ofNat b.toNat) <:+: cs.map Char.toUpper := by
  obtain ⟨w, hin, rfl⟩ := h
  have hw : ∀ b ∈ w, b < 0x80 := fun b hb => upperOctet_ascii (hascii _ (List.mem_map_of_mem hb))
  have htext := (hrend.infix_ascii hw hin).map Char.toUpper
  rw [List.map_map] at htext ⊢
  have hmap : w.map (Char.toUpper ∘ fun b => Char.ofNat b.toNat) =
      w.map ((fun b => Char.ofNat b.toNat) ∘ upperOctet) := by
    apply List.map_congr_left
    intro b hb
    have hlt : b.toNat < 128 := UInt8.lt_iff_toNat_lt.mp (hw b hb)
    have hspec := upperOctet_spec b.toNat hlt
    rwa [UInt8.ofNat_toNat] at hspec
  rwa [hmap] at htext

/-! ## The rules on the frame -/

variable {F : Type}

/-- What the rules ask of a frame, mapped and decided on at these monotonic times. -/
structure Gateable (satFreqs : List F) [F64 F] (fr : AprsFrame F) (ax : Ax25Meta)
    (mapped decided : Nat) : Prop where
  noMarker : ∀ hop ∈ ax.via, ∀ marker ∈ ["TCPIP", "TCPXX", "RFONLY", "NOGATE"],
    strContains hop.call marker = false
  noQuery : (infoField fr ax).head? ≠ some 63
  noInternet : (infoField fr ax).head? = some 125 →
    ∀ marker ∈ ["TCPIP", "TCPXX"], ¬ HoldsMarker (utf8 marker) (infoField fr ax).tail
  satellite : satFreqs.contains (frameFrequency fr) = true →
    (∃ hop ∈ ax.via, hop.heard = true) ∨ ∃ sat ∈ knownSats, eqIgnoreAsciiCase sat ax.source = true
  young : decided ≤ mapped + ageThreshold

/-- The producer's data type identifier is the first octet of the info field. -/
def TypedByInfo (fr : AprsFrame F) : Prop :=
  ∀ ax b, fr.ax25Meta = some ax → ax.dti = some b → (infoField fr ax).head? = some b

/-- An ASCII octet that begins the info field is the data type. -/
theorem framePtype_head {fr : AprsFrame F} {ax : Ax25Meta} {b : UInt8} {rest : List UInt8}
    (htyped : TypedByInfo fr) (hax : fr.ax25Meta = some ax) (hb : b < 0x80)
    (hinfo : infoField fr ax = b :: rest) :
    ∃ cs, (fromUtf8Lossy (infoField fr ax)).toList = Char.ofNat b.toNat :: cs ∧ Renders rest cs ∧
      framePtype ax (fromUtf8Lossy (infoField fr ax)) = Char.ofNat b.toNat := by
  have hrend := fromUtf8Lossy_renders (infoField fr ax)
  rw [hinfo] at hrend
  obtain ⟨cs, htext, hrest⟩ := hrend.of_cons_ascii hb
  rw [← hinfo] at htext
  refine ⟨cs, htext, hrest, ?_⟩
  rw [framePtype]
  cases hdti : ax.dti with
  | some d =>
    have hhead := htyped ax d hax hdti
    rw [hinfo, List.head?_cons, Option.some.injEq] at hhead
    rw [hhead]
  | none =>
    show (fromUtf8Lossy (infoField fr ax)).toList.head?.getD _ = _
    rw [htext]
    rfl

/-- The text after the first octet, uppercased, has no marker: neither have the
octets, in any letter case. -/
theorem noInternet_of_text {p : RTPPacket F} {rest : List UInt8} {cs : List Char}
    (htext : p.info.toList = '}' :: cs) (hrend : Renders rest cs) (htype : p.ptype = '}')
    (h : p.isThirdPartyInternet = false) :
    ∀ marker ∈ ["TCPIP", "TCPXX"], ¬ HoldsMarker (utf8 marker) rest := by
  have hafter : (toAsciiUppercase (afterFirstByte p.info)).toList = cs.map Char.toUpper := by
    rw [afterFirstByte, htext, toAsciiUppercase, String.toList_ofList]
    show (String.ofList cs).toList.map _ = _
    rw [String.toList_ofList]
  rw [RTPPacket.isThirdPartyInternet, htype, beq_self_eq_true, Bool.true_and,
    Bool.or_eq_false_iff] at h
  have hmarker : ∀ marker : String, (∀ b ∈ utf8 marker, b < 0x80) →
      (utf8 marker).map (fun b => Char.ofNat b.toNat) = marker.toList →
      strContains (toAsciiUppercase (afterFirstByte p.info)) marker = false →
        ¬ HoldsMarker (utf8 marker) rest := by
    intro marker hascii hchars hnot hholds
    have hin := holdsMarker_text hrend hascii hholds
    rw [hchars, ← hafter] at hin
    rw [(strContains_iff _ _).mpr hin] at hnot
    cases hnot
  rintro marker hmem
  rcases List.mem_cons.mp hmem with rfl | hmem
  · exact hmarker _ (by decide +kernel) (by decide) h.1
  · rw [List.mem_singleton.mp hmem]
    exact hmarker _ (by decide +kernel) (by decide) h.2

variable [F64 F]

theorem gateable_of_droppacket {satFreqs : List F} {world : Listener.FrameWorld F}
    {fr : AprsFrame F} {p : RTPPacket F} {now : Nat} (htyped : TypedByInfo fr)
    (hp : Listener.packet satFreqs world fr = some p) (hdrop : droppacket now p = none) :
    ∃ ax, fr.ax25Meta = some ax ∧ Gateable satFreqs fr ax world.clock.instant now := by
  obtain ⟨mapped, hmap, hflag⟩ := Listener.packet_some hp
  obtain ⟨ax, hax, hinstant, hsource, _, hinfo, hptype, hdigi, hrf, hfreq⟩ := mapFrame_some hmap
  obtain ⟨_, hstale, hrfonly, hquery, hthird, hsat⟩ := droppacket_eq_none_iff.mp hdrop
  have hptext : p.info = fromUtf8Lossy (infoField fr ax) := by rw [hflag]; exact hinfo
  have hptyp : p.ptype = framePtype ax (fromUtf8Lossy (infoField fr ax)) := by
    rw [hflag]; exact hptype
  refine ⟨ax, hax, ?_, ?_, ?_, ?_, ?_⟩
  · intro hop hhop marker hmarker
    have hnone : (ax.via.any fun h => rfonlyAddrs.any fun x => strContains h.call x) = false := by
      rw [← hrf, ← hrfonly, hflag]
      rfl
    rw [List.any_eq_false] at hnone
    have hhop := hnone hop hhop
    rw [Bool.not_eq_true, List.any_eq_false] at hhop
    exact Bool.not_eq_true _ ▸ hhop marker hmarker
  · intro hhead
    obtain ⟨rest, hcons⟩ := List.head?_eq_some_iff.mp hhead
    obtain ⟨_, _, _, htype⟩ := framePtype_head htyped hax (by decide) hcons
    exact hquery (hptyp.trans htype)
  · intro hhead
    obtain ⟨rest, hcons⟩ := List.head?_eq_some_iff.mp hhead
    obtain ⟨cs, htext, hrend, htype⟩ := framePtype_head htyped hax (by decide) hcons
    rw [hcons, List.tail_cons]
    exact noInternet_of_text (hptext ▸ htext) hrend (hptyp.trans htype) hthird
  · intro hcontains
    have htuned : p.isSatellite = true := by
      rw [hflag]
      show satFreqs.contains mapped.packet.frequency = true
      rw [hfreq]
      exact hcontains
    have hdigipeated : p.wasDigipeated = ax.via.any fun h => h.heard := by rw [hflag]; exact hdigi
    have hsrc : p.source = ax.source := by rw [hflag]; exact hsource
    rw [RTPPacket.isSatelliteDirect, htuned, hdigipeated, hsrc, Bool.and_true] at hsat
    cases hheard : ax.via.any fun h => h.heard with
    | true => exact Or.inl (List.any_eq_true.mp hheard)
    | false =>
      rw [hheard, Bool.not_false, Bool.true_and, Bool.not_eq_false'] at hsat
      exact Or.inr (List.any_eq_true.mp hsat)
  · have hreceived : p.receivedInstant = world.clock.instant := by rw [hflag]; exact hinstant
    rw [← hreceived]
    exact isStale_eq_false_iff.mp hstale

/-! ## Runs -/

def FromFrame (c : Config F) (is : List (SystemInput F)) (p : RTPPacket F) : Prop :=
  ∃ world fr, .frame world fr ∈ is ∧ Listener.packet c.satelliteFrequencies world fr = some p

/-- All packets on the channel and in the lines come from frames, and the lines have
passed the rules. -/
structure Sourced (c : Config F) (t : Captured F) (is : List (SystemInput F)) (sys : System F)
    (tr : List (Event F)) : Prop where
  log : ∀ p, .pkt p ∈ sys.channel.log → FromFrame c is p
  written : ∀ w ∈ packetWrites tr, FromFrame c is w.p ∧ (t.igating && t.rw) = true ∧
    droppacket w.clock.instant w.p = none

variable {c : Config F} {t : Captured F} {is : List (SystemInput F)} {sys : System F}
  {tr : List (Event F)}

theorem FromFrame.later {p : RTPPacket F} (h : FromFrame c is p) (i : SystemInput F) :
    FromFrame c (is ++ [i]) p := by
  obtain ⟨world, fr, hmem, hp⟩ := h
  exact ⟨world, fr, List.mem_append_left _ hmem, hp⟩

theorem Sourced.taskStep (h : Sourced c t is sys tr) (i : SystemInput F)
    {channel : Receiver (DataItem F)} {a : Aprsis.Input F} (hlog : channel.log = sys.channel.log)
    (hwrites : ∀ w ∈ packetWrites (step t sys.task a).2, .pkt w.p ∈ sys.channel.log ∧
      (t.igating && t.rw) = true ∧ droppacket w.clock.instant w.p = none) :
    Sourced c t (is ++ [i]) (System.taskStep t { sys with channel := channel } a).1
      (tr ++ (System.taskStep t { sys with channel := channel } a).2) where
  log p hp := by
    rcases List.mem_append.mp (show _ ∈ channel.log ++ _ from hp) with hold | hnew
    · exact (h.log p (hlog ▸ hold)).later i
    · cases published_isPkt hnew
  written w hw := by
    rw [packetWrites_append] at hw
    rcases List.mem_append.mp hw with hold | hnew
    · obtain ⟨hfrom, hrest⟩ := h.written w hold
      exact ⟨hfrom.later i, hrest⟩
    · obtain ⟨hmem, hrest⟩ := hwrites w hnew
      exact ⟨(h.log w.p hmem).later i, hrest⟩

theorem Sourced.send (h : Sourced c t is sys tr) (i : SystemInput F)
    {items : List (DataItem F)} (hitems : ∀ p, .pkt p ∈ items → FromFrame c (is ++ [i]) p) :
    Sourced c t (is ++ [i]) { sys with channel := sys.channel.send items } (tr ++ []) where
  log p hp := by
    rcases List.mem_append.mp (show _ ∈ sys.channel.log ++ items from hp) with hold | hnew
    · exact (h.log p hold).later i
    · exact hitems p hnew
  written w hw := by
    rw [List.append_nil] at hw
    obtain ⟨hfrom, hrest⟩ := h.written w hw
    exact ⟨hfrom.later i, hrest⟩

theorem next_sourced (h : Sourced c t is sys tr) (i : SystemInput F) :
    Sourced c t (is ++ [i]) (sys.next c t i).1 (tr ++ (sys.next c t i).2) := by
  have hidle : Sourced c t (is ++ [i]) sys (tr ++ []) := by
    have hnone : ∀ p : RTPPacket F, DataItem.pkt p ∈ [] → FromFrame c (is ++ [i]) p :=
      fun p hp => by cases hp
    have hsend := h.send i hnone
    rwa [Receiver.send, List.append_nil] at hsend
  cases i with
  | frame world fr =>
    refine h.send _ fun p hp => ?_
    rw [Option.mem_toList, Option.map_eq_some_iff] at hp
    obtain ⟨q, hq, heq⟩ := hp
    cases heq
    exact ⟨world, fr, List.mem_append_right _ List.mem_cons_self, hq⟩
  | telemetry x =>
    refine h.send _ fun p hp => ?_
    cases List.mem_singleton.mp hp
  | own a =>
    rw [System.next]
    split
    case isTrue => exact hidle
    case isFalse hown =>
      refine h.taskStep (.own a) rfl fun w hw => ?_
      rw [(System.step_own t sys.task (Bool.not_eq_true _ ▸ hown)).2] at hw
      cases hw
  | recv clock outcome =>
    cases System.next_recv_cases c t sys clock outcome with
    | lagged channel hphase _ hlog _ _ hnext =>
      rw [hnext]
      refine h.taskStep _ hlog fun w hw => ?_
      rw [System.step_recv t hphase] at hw
      cases hw
    | message d channel hphase hlog _ hpassed hnext =>
      have hmem : d ∈ sys.channel.log := by
        have hd : d ∈ channel.passed := hpassed ▸ List.mem_append_right _ List.mem_cons_self
        exact hlog ▸ List.mem_of_mem_take hd
      rw [hnext]
      refine h.taskStep _ hlog fun w hw => ?_
      rw [System.step_recv t hphase] at hw
      cases d with
      | tlm x => cases hw
      | pkt p =>
        rw [handleMessage] at hw
        obtain ⟨rfl, hgate, hdrop, _⟩ := packetWrites_handlePacket hw
        exact ⟨hmem, hgate, hdrop⟩
    | idle hnext =>
      rw [hnext]
      exact hidle

/-- Every packet line of a run comes from a frame the rules let through, no more than
30 seconds after it was mapped, and only while igating is on and the passcode is
valid. -/
theorem gate_safety {up : Char → List Char} (hcap : capture up c = .ok t)
    (row : Option AprsisLifetime) (seq : SeqLoad) (is : List (SystemInput F))
    (htyped : ∀ world fr, .frame world fr ∈ is → TypedByInfo fr) :
    ∀ w ∈ packetWrites (run (System.next c t) (System.start row seq) is).2,
      c.aprsis.igating = some true ∧ c.passcodeIsvalid up = true ∧
        ∃ world fr ax, .frame world fr ∈ is ∧
          Listener.packet c.satelliteFrequencies world fr = some w.p ∧
          fr.ax25Meta = some ax ∧
          Gateable c.satelliteFrequencies fr ax world.clock.instant w.clock.instant := by
  have hstart : Sourced c t [] (System.start row seq) [] :=
    ⟨(fun p hp => by cases hp), (fun w hw => by cases hw)⟩
  have h := run_invariant (P := Sourced c t) hstart (fun _ i _ _ h => next_sourced h i) is
  intro w hw
  obtain ⟨⟨world, fr, hmem, hp⟩, hgate, hdrop⟩ := h.written w hw
  obtain ⟨ax, hax, hgateable⟩ := gateable_of_droppacket (htyped world fr hmem) hp hdrop
  obtain ⟨_, higating, _, hrw⟩ := capture_ok hcap
  rw [Bool.and_eq_true, higating, hrw] at hgate
  refine ⟨?_, hgate.2, world, fr, ax, hmem, hp, hax, hgateable⟩
  cases hig : c.aprsis.igating with
  | none =>
    rw [hig] at hgate
    cases hgate.1
  | some b =>
    rw [hig] at hgate
    exact congrArg some hgate.1

def oneFrame : List (SystemInput ℚ) :=
  [.own (.attempt .loggedIn), .frame Listener.sampleWorld (Listener.sampleFrame "W1AW" [62, 65]),
    .recv ⟨0, 0⟩ .done]

theorem gate_safety_sample :
    (packetWrites (run (System.next sampleConfig sampleStation)
        (System.start none .failed) oneFrame).2).length = 1 ∧
      ∀ w ∈ packetWrites (run (System.next sampleConfig sampleStation)
          (System.start none .failed) oneFrame).2,
        sampleConfig.aprsis.igating = some true ∧
          sampleConfig.passcodeIsvalid asciiUpper = true ∧
          ∃ world fr ax, .frame world fr ∈ oneFrame ∧
            Listener.packet sampleConfig.satelliteFrequencies world fr = some w.p ∧
            fr.ax25Meta = some ax ∧
            Gateable sampleConfig.satelliteFrequencies fr ax world.clock.instant
              w.clock.instant := by
  have htyped : ∀ world fr, .frame world fr ∈ oneFrame → TypedByInfo fr := by
    intro world fr hmem ax b hax hdti
    simp only [oneFrame, List.mem_cons, reduceCtorEq, SystemInput.frame.injEq, List.not_mem_nil,
      or_false, false_or] at hmem
    obtain ⟨_, rfl⟩ := hmem
    cases hax
    exact hdti
  exact ⟨by decide +kernel, gate_safety capture_sampleConfig none .failed oneFrame htyped⟩

end Rtpigate
