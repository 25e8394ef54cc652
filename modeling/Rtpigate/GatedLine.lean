/-
The gated line read back.

The header joins the addresses with separators that no address holds, and the first
colon ends it, so that a reader finds the addresses and the info field of the frame.
The text form of the line shows what its octets decode to.
-/
import Rtpigate.Listener

namespace Rtpigate

open Lib

variable {F : Type}

/-! ## What a line is made of -/

theorem mapFrame_addresses [F64 F] {decodeTextual : List UInt8 → Option (DecodedPacket F)}
    {clock : MapClock} {frame : AprsFrame F} {mapped : MappedPacket F} {ax : Ax25Meta}
    (h : mapFrame decodeTextual clock frame = some mapped) (hax : frame.ax25Meta = some ax) :
    mapped.packet.source = ax.source ∧ mapped.packet.destination = ax.destination ∧
      mapped.packet.path = viaPath ax ∧ mapped.packet.infoBytes = infoField frame ax := by
  rw [mapFrame, hax] at h
  cases h
  exact ⟨rfl, rfl, rfl, rfl⟩

theorem infoField_of_inside {frame : AprsFrame F} {ax : Ax25Meta} {off : Nat}
    (hoff : ax.infoOffset = some off) (hle : off ≤ frame.ax25.length) :
    infoField frame ax = frame.ax25.drop off := by
  rw [infoField, hoff]
  exact if_pos hle

/-! ## Reading a line -/

def isHeaderSeparator (c : Char) : Bool := c == '>' || c == ','

def isColon (b : UInt8) : Bool := b == 58

def isColonChar (c : Char) : Bool := c == ':'

theorem colon_class : AsciiClass isColon isColonChar :=
  AsciiClass.single (by decide : (58 : UInt8) < 0x80)

/-- The header of a line in its parts. -/
def gatedHeader (line : List UInt8) : List String :=
  ((fromUtf8Lossy (splitFirst isColon line).1).toList.splitOnP isHeaderSeparator).map String.ofList

def gatedInfo (line : List UInt8) : List UInt8 := (splitFirst isColon line).2

/-! ## Lines of a frame -/

/-- An address that can stand in a header. -/
structure PlainAddress (s : String) : Prop where
  nonempty : s ≠ ""
  plain : ∀ c ∈ s.toList, c ≠ '>' ∧ c ≠ ',' ∧ c ≠ ':'

structure PlainAddresses (ax : Ax25Meta) (callsign : String) : Prop where
  source : PlainAddress ax.source
  destination : PlainAddress ax.destination
  via : ∀ h ∈ ax.via, PlainAddress h.call
  callsign : PlainAddress callsign

/-- The header after the source. -/
def headerFields (ax : Ax25Meta) (callsign : String) : List String :=
  ax.destination :: (ax.via.map fun h => h.call) ++ ["qAO", callsign]

theorem PlainAddresses.fields {ax : Ax25Meta} {callsign : String}
    (h : PlainAddresses ax callsign) :
    ∀ s ∈ ax.source :: headerFields ax callsign, PlainAddress s := by
  have hchars : "qAO".toList = ['q', 'A', 'O'] := rfl
  have hq : PlainAddress "qAO" := ⟨by decide, by simp [hchars]⟩
  intro s hs
  simp only [headerFields, List.mem_cons, List.mem_append, List.cons_append, List.mem_map,
    List.not_mem_nil, or_false] at hs
  rcases hs with rfl | rfl | ⟨hop, hmem, rfl⟩ | rfl | rfl
  · exact h.source
  · exact h.destination
  · exact h.via hop hmem
  · exact hq
  · exact h.callsign

/-- A direct packet leaves its path out, and so does the joined list of its fields. -/
theorem rxigateHeader_joined {p : RTPPacket F} {ax : Ax25Meta} {callsign : String}
    (hsource : p.source = ax.source) (hdest : p.destination = ax.destination)
    (hpath : p.path = viaPath ax) (h : PlainAddresses ax callsign) :
    p.rxigateHeader callsign =
      ax.source ++ ">" ++ ",".intercalate (headerFields ax callsign) ++ ":" := by
  rw [RTPPacket.rxigateHeader, hsource, hdest, hpath, viaPath, headerFields]
  have hvia := h.via
  generalize ax.via = via at hvia ⊢
  cases via with
  | nil =>
    rw [List.map_nil, String.intercalate_nil, if_pos (by rfl)]
    simp only [List.cons_append, List.nil_append, String.intercalate_cons_cons,
      String.intercalate_singleton, String.append_assoc]
    rfl
  | cons hop hops =>
    have hfirst : hop.call ≠ "" := (hvia hop List.mem_cons_self).nonempty
    have hne : ¬ (",".intercalate ((hop :: hops).map fun h => h.call)).isEmpty = true := by
      rw [String.isEmpty_iff, List.map_cons]
      intro hempty
      cases hops with
      | nil => exact hfirst hempty
      | cons hop' hops =>
        rw [List.map_cons, String.intercalate_cons_cons, String.append_eq_empty_iff,
          String.append_eq_empty_iff] at hempty
        exact hfirst hempty.1.1
    rw [if_neg hne, List.cons_append, String.intercalate_cons_of_ne_nil (by simp),
      String.intercalate_append_of_ne_nil (by simp) (by simp), String.intercalate_cons_cons,
      String.intercalate_singleton]
    simp only [String.append_assoc]
    rfl

/-- The header without its colon. -/
def joinedHeader (ax : Ax25Meta) (callsign : String) : String :=
  ax.source ++ ">" ++ ",".intercalate (headerFields ax callsign)

theorem PlainAddress.separators {s : String} (h : PlainAddress s) :
    ∀ c ∈ s.toList, isHeaderSeparator c = false ∧ isColonChar c = false := by
  intro c hc
  obtain ⟨hgt, hcomma, hcolon⟩ := h.plain c hc
  simp only [isHeaderSeparator, isColonChar, Bool.or_eq_false_iff, beq_eq_false_iff_ne]
  exact ⟨⟨hgt, hcomma⟩, hcolon⟩

theorem joinedHeader_colonless {ax : Ax25Meta} {callsign : String}
    (h : PlainAddresses ax callsign) :
    ∀ b ∈ utf8 (joinedHeader ax callsign), isColon b = false := by
  have hany : (joinedHeader ax callsign).toList.any isColonChar = false := by
    rw [List.any_eq_false]
    intro c hc
    rw [joinedHeader, String.toList_append, String.toList_append, String.toList_intercalate,
      List.mem_append, List.mem_append] at hc
    rw [Bool.not_eq_true]
    rcases hc with (hc | hc) | hc
    · exact (h.source.separators c hc).2
    · rw [List.mem_singleton.mp hc]
      rfl
    · rcases mem_of_mem_intercalate hc with hc | ⟨l, hl, hc⟩
      · rw [List.mem_singleton.mp hc]
        rfl
      · obtain ⟨s, hs, rfl⟩ := List.mem_map.mp hl
        exact ((h.fields s (List.mem_cons_of_mem _ hs)).separators c hc).2
  rw [← (utf8_renders _).any_eq colon_class, List.any_eq_false] at hany
  exact fun b hb => Bool.not_eq_true _ ▸ hany b hb

theorem joinedHeader_split {ax : Ax25Meta} {callsign : String} (h : PlainAddresses ax callsign) :
    (joinedHeader ax callsign).toList.splitOnP isHeaderSeparator =
      (ax.source :: headerFields ax callsign).map String.toList := by
  have hsource : ∀ c ∈ ax.source.toList, isHeaderSeparator c = false :=
    fun c hc => (h.source.separators c hc).1
  have hfields : ∀ l ∈ (headerFields ax callsign).map String.toList, ∀ c ∈ l,
      isHeaderSeparator c = false := by
    intro l hl c hc
    obtain ⟨s, hs, rfl⟩ := List.mem_map.mp hl
    exact ((h.fields s (List.mem_cons_of_mem _ hs)).separators c hc).1
  have hjoined : (joinedHeader ax callsign).toList = ax.source.toList ++
      '>' :: [','].intercalate ((headerFields ax callsign).map String.toList) := by
    rw [joinedHeader, String.toList_append, String.toList_append, String.toList_intercalate,
      List.append_assoc]
    rfl
  rw [hjoined, List.splitOnP_append_cons_of_forall_mem hsource '>' (by rfl),
    splitOnP_intercalate (by rfl) (by simp [headerFields]) hfields, List.map_cons]

/-- The line of a packet reads back as its addresses and its info field. -/
theorem gatedHeader_forRxigateBytes {p : RTPPacket F} {ax : Ax25Meta} {callsign : String}
    (hsource : p.source = ax.source) (hdest : p.destination = ax.destination)
    (hpath : p.path = viaPath ax) (h : PlainAddresses ax callsign) :
    gatedHeader (p.forRxigateBytes callsign) = ax.source :: headerFields ax callsign ∧
      gatedInfo (p.forRxigateBytes callsign) = p.infoBytes := by
  have hline : p.forRxigateBytes callsign =
      utf8 (joinedHeader ax callsign) ++ 58 :: p.infoBytes := by
    rw [RTPPacket.forRxigateBytes, rxigateHeader_joined hsource hdest hpath h, utf8_append _ ":",
      List.append_assoc]
    rfl
  have hdecode : fromUtf8Lossy (utf8 (joinedHeader ax callsign)) = joinedHeader ax callsign := by
    have hall := fromUtf8Lossy_utf8_append (joinedHeader ax callsign) []
    rwa [List.append_nil, show fromUtf8Lossy [] = "" from rfl, String.append_empty] at hall
  rw [gatedHeader, gatedInfo, hline, splitFirst_append_cons (by rfl) (joinedHeader_colonless h)]
  refine ⟨?_, rfl⟩
  rw [hdecode, joinedHeader_split h, List.map_map]
  exact (List.map_congr_left fun s _ => String.ofList_toList).trans (List.map_id _)

/-- A frame whose producer located the info field, and the callsign it is gated under. -/
structure GatedFrame (F : Type) [F64 F] where
  decodeTextual : List UInt8 → Option (DecodedPacket F)
  clock : MapClock
  frame : AprsFrame F
  ax : Ax25Meta
  off : Nat
  mapped : MappedPacket F
  callsign : String
  ax25Meta : frame.ax25Meta = some ax
  infoOffset : ax.infoOffset = some off
  inside : off ≤ frame.ax25.length
  isMapped : mapFrame decodeTextual clock frame = some mapped
  plain : PlainAddresses ax callsign

namespace GatedFrame

variable [F64 F]

def line (g : GatedFrame F) : List UInt8 := g.mapped.packet.forRxigateBytes g.callsign

/-- What a reader gets from the line. -/
theorem read_line (g : GatedFrame F) :
    gatedHeader g.line = g.ax.source :: headerFields g.ax g.callsign ∧
      gatedInfo g.line = g.frame.ax25.drop g.off := by
  obtain ⟨hsource, hdest, hpath, hinfo⟩ := mapFrame_addresses g.isMapped g.ax25Meta
  rw [line, ← hinfo.trans (infoField_of_inside g.infoOffset g.inside)]
  exact gatedHeader_forRxigateBytes hsource hdest hpath g.plain

end GatedFrame

/-- Every frame reads back from its gated line: the source, the destination, the via calls
in order, then the marker and the own callsign, and behind the first colon the octets of
the info field.  Frames with the same line agree in all of these. -/
theorem gated_line_decodes [F64 F] (g : GatedFrame F) :
    gatedHeader g.line =
        g.ax.source :: g.ax.destination :: ((g.ax.via.map fun h => h.call) ++
          ["qAO", g.callsign]) ∧
      (∀ field ∈ gatedHeader g.line, field ≠ "") ∧
      gatedInfo g.line = g.frame.ax25.drop g.off ∧
      ∀ g' : GatedFrame F, g.line = g'.line →
        g.ax.source = g'.ax.source ∧ g.ax.destination = g'.ax.destination ∧
          (g.ax.via.map fun h => h.call) = (g'.ax.via.map fun h => h.call) ∧
          g.callsign = g'.callsign ∧ g.frame.ax25.drop g.off = g'.frame.ax25.drop g'.off := by
  obtain ⟨hheader, hinfo⟩ := g.read_line
  refine ⟨hheader, ?_, hinfo, fun g' heq => ?_⟩
  · intro field hfield
    rw [hheader] at hfield
    exact (g.plain.fields field hfield).nonempty
  · obtain ⟨hheader', hinfo'⟩ := g'.read_line
    rw [← heq, hheader] at hheader'
    rw [← heq, hinfo] at hinfo'
    obtain ⟨hsource, hrest⟩ := List.cons.inj hheader'
    obtain ⟨hdest, hvia⟩ := List.cons.inj hrest
    obtain ⟨hvia, htail⟩ := List.append_inj' hvia rfl
    exact ⟨hsource, hdest, hvia, (List.cons.inj (List.cons.inj htail).2).1, hinfo'⟩

def sampleMeta : Ax25Meta where
  source := "N0CALL"
  destination := "APRS"
  via := [⟨"WIDE1-1", true⟩]
  heardDirect := false
  heardFrom := "WIDE1-1"
  dti := some 62
  infoOffset := some 2
  infoInvalidBytes := 1

def sampleGated : GatedFrame ℚ where
  decodeTextual := Listener.sampleWorld.decodeTextual
  clock := Listener.sampleWorld.clock
  frame := { Listener.sampleFrame "N0CALL" [3, 240, 62, 58, 44, 255] with
    ax25Meta := some sampleMeta }
  ax := sampleMeta
  off := 2
  mapped := (mapFrame Listener.sampleWorld.decodeTextual Listener.sampleWorld.clock
    { Listener.sampleFrame "N0CALL" [3, 240, 62, 58, 44, 255] with
      ax25Meta := some sampleMeta }).get rfl
  callsign := "W1AW"
  ax25Meta := rfl
  infoOffset := rfl
  inside := by decide
  isMapped := rfl
  plain := {
    source := ⟨by decide, by simp [sampleMeta]⟩
    destination := ⟨by decide, by simp [sampleMeta]⟩
    via := by
      intro h hmem
      rw [List.mem_singleton.mp hmem]
      exact ⟨by decide, by simp⟩
    callsign := ⟨by decide, by simp⟩ }

/-- A payload with separators of its own. -/
theorem gated_line_decodes_sample :
    gatedHeader sampleGated.line = ["N0CALL", "APRS", "WIDE1-1", "qAO", "W1AW"] ∧
      gatedInfo sampleGated.line = [62, 58, 44, 255] :=
  ⟨(gated_line_decodes sampleGated).1, (gated_line_decodes sampleGated).2.2.1⟩

/-! ## Text and octets -/

theorem RTPPacket.forRxigate_eq (p : RTPPacket F) (callsign : String) :
    p.forRxigate callsign = p.rxigateHeader callsign ++ p.info := by
  rw [forRxigate, rxigateHeader]
  split <;> rfl

/-- The octets of the line decode to its text. -/
theorem forRxigateBytes_decoded [F64 F] {decodeTextual : List UInt8 → Option (DecodedPacket F)}
    {clock : MapClock} {frame : AprsFrame F} {mapped : MappedPacket F}
    (h : mapFrame decodeTextual clock frame = some mapped) (callsign : String) :
    fromUtf8Lossy (mapped.packet.forRxigateBytes callsign) =
      mapped.packet.forRxigate callsign := by
  obtain ⟨ax, -, -, -, hbytes, hinfo, -⟩ := mapFrame_some h
  rw [RTPPacket.forRxigateBytes, fromUtf8Lossy_utf8_append, RTPPacket.forRxigate_eq, hinfo, hbytes]

theorem forRxigateBytes_decoded_sample :
    fromUtf8Lossy (sampleGated.mapped.packet.forRxigateBytes "W1AW") =
      sampleGated.mapped.packet.forRxigate "W1AW" :=
  forRxigateBytes_decoded sampleGated.isMapped "W1AW"

end Rtpigate
