/-
The lines the task writes.

A packet that is gated, a beacon, and a line of a report each go out as one message
of the line protocol: a text without terminators, and terminators.  Of the settings
only those that are copied into beacons and reports matter, and of numbers only that
their text is on one line.
-/
import Rtpigate.Aprsis.Gate
import Rtpigate.Exact
import Rtpigate.Lib.Framing

namespace Rtpigate

open Lib

/-! ## Texts on one line -/

def OneLine (s : String) : Prop := s.toList.any isTerminatorChar = false

instance (s : String) : Decidable (OneLine s) := inferInstanceAs (Decidable (_ = false))

@[simp] theorem oneLine_append {s t : String} : OneLine (s ++ t) ↔ OneLine s ∧ OneLine t := by
  rw [OneLine, String.toList_append, List.any_append, Bool.or_eq_false_iff]
  rfl

theorem oneLine_ofList {cs : List Char} :
    OneLine (String.ofList cs) ↔ ∀ c ∈ cs, isTerminatorChar c = false := by
  rw [OneLine, String.toList_ofList, List.any_eq_false]
  simp only [Bool.not_eq_true]

theorem oneLine_iff {s : String} : OneLine s ↔ ∀ c ∈ s.toList, isTerminatorChar c = false := by
  rw [← oneLine_ofList, String.ofList_toList]

theorem isDigit_not_terminator {c : Char} (h : c.isDigit = true) : isTerminatorChar c = false := by
  rw [isTerminatorChar, Bool.or_eq_false_iff, beq_eq_false_iff_ne, beq_eq_false_iff_ne]
  constructor
  · rintro rfl
    exact absurd h (by decide)
  · rintro rfl
    exact absurd h (by decide)

theorem oneLine_digits {s : String} (h : ∀ c ∈ s.toList, c.isDigit = true) : OneLine s :=
  oneLine_iff.mpr fun c hc => isDigit_not_terminator (h c hc)

theorem oneLine_repr (n : Nat) : OneLine (Nat.repr n) := by
  refine oneLine_digits fun c hc => ?_
  rw [Nat.toList_repr] at hc
  exact Nat.isDigit_of_mem_toDigits (by omega) (by omega) hc

theorem oneLine_natPad (width n : Nat) : OneLine (natPad width n) :=
  oneLine_digits fun _ hc => isDigit_of_mem_natPad hc

theorem oneLine_zeroPad {width : Nat} {s : String} (h : OneLine s) : OneLine (zeroPad width s) := by
  rw [zeroPad, oneLine_ofList, List.leftpad]
  intro c hc
  rcases List.mem_append.mp hc with hc | hc
  · rw [List.eq_of_mem_replicate hc]
    rfl
  · exact oneLine_iff.mp h c hc

theorem oneLine_blankPad {width : Nat} {s : String} (h : OneLine s) :
    OneLine (blankPad width s) := by
  rw [blankPad, oneLine_ofList, List.rightpad]
  intro c hc
  rcases List.mem_append.mp hc with hc | hc
  · exact oneLine_iff.mp h c hc
  · rw [List.eq_of_mem_replicate hc]
    rfl

theorem oneLine_singleton {c : Char} : OneLine (String.singleton c) ↔ isTerminatorChar c = false := by
  rw [oneLine_iff, String.toList_singleton, List.forall_mem_singleton]

/-- The text of a number is on one line. -/
class OneLineDisplay (F : Type) [F64 F] : Prop where
  display : ∀ v : F, OneLine (F64.display v)
  display0 : ∀ v : F, OneLine (F64.display0 v)

instance : OneLineDisplay ℚ where
  display q := by
    show OneLine (Exact.display q)
    simp only [Exact.display, oneLine_append]
    refine ⟨⟨?_, oneLine_repr _⟩, ?_⟩
    · split <;> decide
    · split
      · decide
      · refine oneLine_append.mpr ⟨by decide, oneLine_ofList.mpr fun c hc => ?_⟩
        exact isDigit_not_terminator
          (isDigit_of_mem_fractionDigits q.den_pos (Nat.mod_lt _ q.den_pos) hc)
  display0 q := by
    show OneLine (toString (Exact.halfEven q))
    cases Exact.halfEven q with
    | ofNat n => exact oneLine_repr n
    | negSucc n => exact oneLine_append.mpr ⟨by decide, oneLine_repr (n + 1)⟩

theorem renders_ne_nil {bs : List UInt8} {cs : List Char} (h : Renders bs cs) (hne : cs ≠ []) :
    bs ≠ [] := by
  cases h with
  | nil => exact absurd rfl hne
  | ascii _ _ => exact List.cons_ne_nil _ _
  | wide hchunk _ _ _ => exact List.append_ne_nil_of_left_ne_nil hchunk _

/-- A text and its line end. -/
theorem message_text {s : String} (h : OneLine s) (hne : s.toList ≠ []) :
    Message isTerminator (utf8 (s ++ "\r\n")) := by
  have hany : (utf8 s).any isTerminator = false := by
    rw [utf8_any_isTerminator]
    exact h
  have hnone : ∀ b ∈ utf8 s, isTerminator b = false :=
    fun b hb => Bool.not_eq_true _ ▸ List.any_eq_false.mp hany b hb
  have hbytes : utf8 (s ++ "\r\n") = utf8 s ++ [13, 10] := utf8_append s "\r\n"
  rw [hbytes]
  refine ⟨?_, ?_, utf8 s ++ [13], 10, by rw [List.append_assoc]; rfl, rfl⟩
  · refine List.pairwise_append.mpr ⟨trailing_of_any_eq_false hany, by decide, ?_⟩
    intro b hb _ _ hterm
    rw [hnone b hb] at hterm
    cases hterm
  · obtain ⟨b, hb⟩ := List.exists_mem_of_ne_nil _ (renders_ne_nil (utf8_renders s) hne)
    exact ⟨b, List.mem_append_left _ hb, hnone b hb⟩

namespace Aprsis

variable {F : Type} [F64 F]

/-! ## Settings -/

/-- The settings that stand in beacons and reports are on one line. -/
structure PlainSettings (t : Captured F) : Prop where
  callsign : OneLine t.callsign
  stationName : OneLine t.stationName
  symbol : ∀ s, t.symbol = some s → OneLine s
  overlay : ∀ s, t.overlay = some s → OneLine s

/-! ## Packets -/

omit [F64 F] in
theorem message_packet {p : RTPPacket F} {callsign : String}
    (h : refused (p.forRxigateBytes callsign) = false) :
    Message isTerminator (p.forRxigateBytes callsign ++ crlf) where
  trailing := by
    rw [refused, any_rdropWhile_eq_false_iff] at h
    refine List.pairwise_append.mpr ⟨h, by decide, fun _ _ b hb _ => ?_⟩
    rcases List.mem_cons.mp hb with rfl | hb
    · rfl
    · rw [List.mem_singleton.mp hb]
      rfl
  text := by
    obtain ⟨middle, hline, _⟩ := forRxigateBytes_parts p callsign
    refine ⟨62, List.mem_append_left _ ?_, rfl⟩
    rw [hline]
    exact List.mem_append_right _ List.mem_cons_self
  ends := ⟨p.forRxigateBytes callsign ++ [13], 10, by rw [List.append_assoc]; rfl, rfl⟩

/-! ## Beacons -/

omit [F64 F] in
theorem oneLine_axisString {width : Nat} {a : AxisParts F} {direction : String}
    (h : OneLine direction) : OneLine (axisString width a direction) := by
  simp only [axisString, oneLine_append]
  exact ⟨⟨⟨⟨oneLine_natPad _ _, oneLine_natPad _ _⟩, by decide⟩, oneLine_natPad _ _⟩, h⟩

theorem oneLine_base91DaoChar (rem : F) : OneLine (String.singleton (base91DaoChar rem)) := by
  rw [oneLine_singleton, base91DaoChar]
  generalize F64.toInt (F64.floor (rem / 0.01 * 91.0)) = val
  have hval : (max 0 (min val 90)).toNat ≤ 90 := by omega
  generalize (max 0 (min val 90)).toNat = n at hval
  have hnat : (Char.ofNat (33 + n)).toNat = 33 + n := toNat_charOfNat (Or.inl (by omega))
  rw [isTerminatorChar, Bool.or_eq_false_iff, beq_eq_false_iff_ne, beq_eq_false_iff_ne]
  constructor
  · intro hc
    rw [hc] at hnat
    have : ('\r').toNat = 13 := rfl
    omega
  · intro hc
    rw [hc] at hnat
    have : ('\n').toNat = 10 := rfl
    omega

theorem oneLine_daoString (dao : DaoMode) (lat lon : AxisParts F) :
    OneLine (daoString dao lat lon) := by
  cases dao with
  | off => exact (by decide : OneLine "")
  | human =>
    simp only [daoString, oneLine_append]
    exact ⟨⟨⟨by decide, oneLine_repr _⟩, oneLine_repr _⟩, by decide⟩
  | base91 =>
    simp only [daoString, oneLine_append]
    exact ⟨⟨⟨by decide, oneLine_base91DaoChar _⟩, oneLine_base91DaoChar _⟩, by decide⟩

omit [F64 F] in
theorem oneLine_overlayString {symbol overlay : Option String}
    (hsymbol : ∀ s, symbol = some s → OneLine s) (hoverlay : ∀ s, overlay = some s → OneLine s) :
    OneLine (overlayString symbol overlay) := by
  cases overlay with
  | some o => exact hoverlay o rfl
  | none =>
    cases symbol with
    | none => decide
    | some s =>
      rw [overlayString]
      cases hhead : s.toList.head? with
      | none => exact (by decide : OneLine "/")
      | some c =>
        exact oneLine_singleton.mpr
          (oneLine_iff.mp (hsymbol s rfl) c (List.mem_of_mem_head? (Option.mem_def.mpr hhead)))

omit [F64 F] in
theorem oneLine_symbolString {symbol : Option String}
    (hsymbol : ∀ s, symbol = some s → OneLine s) : OneLine (symbolString symbol) := by
  cases symbol with
  | none => decide
  | some s =>
    rw [symbolString]
    cases hsecond : s.toList[1]? with
    | none => exact (by decide : OneLine "0")
    | some c =>
      exact oneLine_singleton.mpr
        (oneLine_iff.mp (hsymbol s rfl) c (List.mem_of_getElem? hsecond))

theorem message_posit [OneLineDisplay F] {t : Captured F} (ht : PlainSettings t) {utc : Int}
    {loc : Location F} {text : String}
    (h : positpacket utc loc t.callsign t.stationName t.symbol t.overlay t.daoMode = .ok text) :
    Message isTerminator (utf8 (text ++ "\r\n")) := by
  rw [positpacket] at h
  split at h
  case h_2 => cases h
  case h_1 altFt lat lon _ _ _ =>
    split at h
    · cases h
    · cases h
      have hdir : ∀ b : Bool, OneLine (if b then "N" else "S") ∧ OneLine (if b then "E" else "W") :=
        by decide
      have hliteral : OneLine ">" ∧ OneLine TOCALL ∧ OneLine ",TCPIP*:/" ∧ OneLine "h" ∧
          OneLine "/A=" := by decide
      have htocall : TOCALL.toList ≠ [] := by decide
      refine message_text ?_ ?_
      · simp only [oneLine_append, ht.callsign, ht.stationName, hliteral, oneLine_natPad,
          oneLine_axisString (hdir _).1, oneLine_axisString (hdir _).2,
          oneLine_overlayString ht.symbol ht.overlay, oneLine_symbolString ht.symbol,
          oneLine_zeroPad (OneLineDisplay.display0 altFt), oneLine_daoString, and_self]
      · simp only [String.toList_append, ne_eq, List.append_eq_nil_iff, htocall, and_false,
          false_and, not_false_eq_true]

/-! ## Reports -/

/-- The four lines built so far. -/
structure ReportOneLine (r : ReportText) : Prop where
  telem : OneLine r.telem
  eqn : OneLine r.eqn
  parm : OneLine r.parm
  unit : OneLine r.unit

theorem ReportOneLine.addItem [OneLineDisplay F] {r : ReportText} (h : ReportOneLine r)
    {item : AnalogItem F} (hlabel : OneLine item.label) (hunits : OneLine item.units) :
    ReportOneLine (r.addItem item) := by
  have hseparator : OneLine (if r.i = 1 then "." else ",") := by split <;> decide
  have hcomma : OneLine "," := by decide
  have hdisplay : ∀ v : F, OneLine (F64.display v) := OneLineDisplay.display
  constructor <;> simp only [ReportText.addItem, oneLine_append, h.telem, h.eqn, h.parm, h.unit,
    hseparator, hcomma, hdisplay, hlabel, hunits, oneLine_natPad, and_self]

theorem ReportOneLine.addItems [OneLineDisplay F] :
    ∀ {items : List (AnalogItem F)} {r : ReportText}, ReportOneLine r →
      (∀ item ∈ items, OneLine item.label ∧ OneLine item.units) → ReportOneLine (r.addItems items)
  | [], _, h, _ => h
  | item :: rest, r, h, hitems => by
    rw [ReportText.addItems]
    split
    · exact h
    · obtain ⟨hlabel, hunits⟩ := hitems item List.mem_cons_self
      exact ReportOneLine.addItems (h.addItem hlabel hunits)
        fun i hi => hitems i (List.mem_cons_of_mem item hi)

theorem ReportOneLine.addZeros : ∀ {n : Nat} {r : ReportText}, ReportOneLine r →
    ReportOneLine (r.addZeros n)
  | 0, _, h => h
  | n + 1, r, h => by
    have hzeros : OneLine ",000" ∧ OneLine ",0,0,0" := by decide
    have hzero : ReportOneLine r.addZero := ⟨oneLine_append.mpr ⟨h.telem, hzeros.1⟩,
      oneLine_append.mpr ⟨h.eqn, hzeros.2⟩, h.parm, h.unit⟩
    exact hzero.addZeros

theorem oneLine_toAprs [OneLineDisplay F] {report : Telemetry F} {callsign : String}
    (hcallsign : OneLine callsign) (hname : OneLine report.name)
    (hitems : ∀ item ∈ report.telemetry, OneLine item.label ∧ OneLine item.units)
    {lines : List String} (h : report.toAprs callsign = .ok lines) :
    ∀ info ∈ lines, OneLine info := by
  rw [Telemetry.toAprs] at h
  split at h
  · cases h
  · cases h
    have haddressee : OneLine (":" ++ blankPad 9 callsign) :=
      oneLine_append.mpr ⟨by decide, oneLine_blankPad hcallsign⟩
    have hliteral : OneLine "T#" ∧ OneLine ":EQNS" ∧ OneLine ":PARM" ∧ OneLine ":UNIT" ∧
        OneLine ",00000000," ∧ OneLine ":BITS.00000000," := by decide
    have hstart : ReportOneLine {
        telem := "T#" ++ Nat.repr report.sequence.toNat
        eqn := ":" ++ blankPad 9 callsign ++ ":EQNS"
        parm := ":" ++ blankPad 9 callsign ++ ":PARM"
        unit := ":" ++ blankPad 9 callsign ++ ":UNIT"
        i := 1 } := by
      constructor <;> simp only [oneLine_append (s := ":" ++ blankPad 9 callsign), haddressee,
        oneLine_append (s := "T#"), hliteral, oneLine_repr, and_self]
    have hitems := hstart.addItems hitems
    have hpadded := fun k => hitems.addZeros (n := k)
    simp only [List.forall_mem_cons, List.not_mem_nil, false_implies, implies_true, and_true]
    refine ⟨?_, (hpadded _).eqn, (hpadded _).parm, (hpadded _).unit, ?_⟩
    · simp only [oneLine_append, hname, hliteral, and_true]
      exact (hpadded _).telem
    · rw [oneLine_append, oneLine_append]
      exact ⟨⟨haddressee, by decide⟩, hname⟩

theorem message_report [OneLineDisplay F] {t : Captured F} (ht : PlainSettings t)
    {interval : Interval} {seq : UInt32} {lines : List String}
    (h : (telemetryReport t interval seq).toAprs t.callsign = .ok lines) {info : String}
    (hinfo : info ∈ lines) : Message isTerminator (reportBytes t info) := by
  have hminutes : ∀ label : String, OneLine label →
      OneLine (label ++ (Nat.repr (t.telemetryThreshold / 60) ++ "min")) := by
    intro label hlabel
    exact oneLine_append.mpr ⟨hlabel, oneLine_append.mpr ⟨oneLine_repr _, by decide⟩⟩
  have hitems : ∀ item ∈ (telemetryReport t interval seq).telemetry,
      OneLine item.label ∧ OneLine item.units := by
    simp only [telemetryReport, List.forall_mem_cons, List.not_mem_nil, false_implies,
      implies_true, and_true]
    exact ⟨⟨hminutes _ (by decide), by decide⟩, ⟨hminutes _ (by decide), by decide⟩,
      ⟨hminutes _ (by decide), by decide⟩, ⟨hminutes _ (by decide), by decide⟩,
      hminutes _ (by decide), by decide⟩
  have hname : OneLine "Telemetry Report" := by decide
  have hinfo := oneLine_toAprs ht.callsign hname hitems h info hinfo
  have hliteral : OneLine ">" ∧ OneLine TOCALL ∧ OneLine ",TCPIP*:" := by decide
  have htocall : TOCALL.toList ≠ [] := by decide
  refine message_text ?_ ?_
  · simp only [oneLine_append, ht.callsign, hliteral, hinfo, and_self]
  · simp only [String.toList_append, ne_eq, List.append_eq_nil_iff, htocall, and_false,
      false_and, not_false_eq_true]

end Aprsis
end Rtpigate
