/-
The lines of a report read back.

A receiver cuts the values and the equations at their commas.  The values end at the
digital field, and the equations start behind the addressee.  What it finds is the items
in order, the first five at most, and then the zeros of the padding loop, which pads to
four channels.
-/
import Rtpigate.Lib.Lines
import Rtpigate.Quadratic

namespace Rtpigate

open Lib

variable {F : Type} [F64 F]

/-- No comma stands in the text of a number. -/
class PlainDisplay (F : Type) [F64 F] : Prop where
  display_plain : ∀ v : F, ',' ∉ (F64.display v).toList

instance : PlainDisplay ℚ := ⟨comma_not_mem_display⟩

/-! ## Reading a report -/

def digitalField : List Char := "00000000".toList

/-- The fields between the sequence number and the digital field. -/
def analogFields (values : String) : List (List Char) :=
  ((values.toList.splitOn ',').drop 1).takeWhile (· != digitalField)

def eqnsHeader (callsign : String) : String := ":" ++ blankPad 9 callsign ++ ":EQNS."

def coefficients (callsign equations : String) : List (List Char) :=
  (equations.toList.drop (eqnsHeader callsign).toList.length).splitOn ','

/-! ## Writing a report -/

def valueField (item : AnalogItem F) : List Char := (natPad 3 item.equation.x).toList

def equationFields (item : AnalogItem F) : List (List Char) :=
  [(F64.display item.equation.a).toList, (F64.display item.equation.b).toList,
    (F64.display item.equation.c).toList]

/-- Fields with a comma in front of each. -/
def listed (fields : List (List Char)) : List Char := fields.flatMap fun field => ',' :: field

theorem listed_append (xs ys : List (List Char)) : listed (xs ++ ys) = listed xs ++ listed ys :=
  List.flatMap_append

theorem splitOn_listed {first : List Char} {fields : List (List Char)} (hfirst : ',' ∉ first)
    (h : ∀ field ∈ fields, ',' ∉ field) :
    (first ++ listed fields).splitOn ',' = first :: fields := by
  induction fields generalizing first with
  | nil =>
    rw [listed, List.flatMap_nil, List.append_nil, List.splitOn_eq_singleton hfirst]
  | cons field fields ih =>
    have hcons : listed (field :: fields) = ',' :: (field ++ listed fields) := by
      rw [listed, List.flatMap_cons, List.cons_append]
      rfl
    rw [hcons, List.splitOn_append_cons_self_of_not_mem hfirst,
      ih (h field List.mem_cons_self) fun f hf => h f (List.mem_cons_of_mem _ hf)]

namespace ReportText

theorem addItem_telem (r : ReportText) (item : AnalogItem F) :
    (r.addItem item).telem.toList = r.telem.toList ++ listed [valueField item] := by
  have hcomma : (",").toList = [','] := rfl
  simp only [addItem, String.toList_append, listed, List.flatMap_cons, List.flatMap_nil,
    List.append_nil, List.append_assoc, hcomma, List.cons_append, List.nil_append, valueField]

/-- From the second item on. -/
theorem addItem_eqn (r : ReportText) (h : 1 < r.i) (item : AnalogItem F) :
    (r.addItem item).eqn.toList = r.eqn.toList ++ listed (equationFields item) := by
  have hcomma : (",").toList = [','] := rfl
  have hi : ¬ r.i = 1 := by omega
  simp only [addItem, if_neg hi, String.toList_append, listed, equationFields, List.flatMap_cons,
    List.flatMap_nil, List.append_assoc, hcomma, List.cons_append, List.nil_append,
    List.append_nil]

theorem foldl_addItem_telem (r : ReportText) (items : List (AnalogItem F)) :
    (items.foldl addItem r).telem.toList = r.telem.toList ++ listed (items.map valueField) := by
  induction items generalizing r with
  | nil => exact (List.append_nil _).symm
  | cons item items ih =>
    rw [List.foldl_cons, ih, addItem_telem, List.append_assoc, ← listed_append]
    rfl

theorem foldl_addItem_i (r : ReportText) (items : List (AnalogItem F)) :
    (items.foldl addItem r).i = r.i + items.length := by
  induction items generalizing r with
  | nil => rfl
  | cons item items ih =>
    rw [List.foldl_cons, ih, List.length_cons]
    show r.i + 1 + items.length = _
    omega

theorem foldl_addItem_eqn (r : ReportText) (h : 1 < r.i) (items : List (AnalogItem F)) :
    (items.foldl addItem r).eqn.toList =
      r.eqn.toList ++ listed (items.flatMap equationFields) := by
  induction items generalizing r with
  | nil => exact (List.append_nil _).symm
  | cons item items ih =>
    rw [List.foldl_cons, ih _ (Nat.lt_succ_of_lt h), addItem_eqn r h, List.append_assoc,
      ← listed_append, List.flatMap_cons]

/-- The loop with its early break takes the items up to the fifth. -/
theorem addItems_eq (r : ReportText) (items : List (AnalogItem F)) :
    r.addItems items = (items.take (6 - r.i)).foldl addItem r := by
  induction items generalizing r with
  | nil =>
    rw [List.take_nil]
    rfl
  | cons item items ih =>
    rw [addItems]
    by_cases hfull : 5 < r.i
    · rw [if_pos hfull, show 6 - r.i = 0 by omega]
      rfl
    · have hnext : 6 - (r.addItem item).i = 6 - r.i - 1 := by
        show 6 - (r.i + 1) = _
        omega
      rw [if_neg hfull, ih, hnext, show 6 - r.i = 6 - r.i - 1 + 1 by omega, List.take_succ_cons,
        Nat.add_sub_cancel]
      rfl

theorem addItems_i (r : ReportText) (h : r.i ≤ 6) (items : List (AnalogItem F)) :
    (r.addItems items).i = min (r.i + items.length) 6 := by
  rw [addItems_eq, foldl_addItem_i, List.length_take]
  omega

theorem addZeros_telem (r : ReportText) (n : Nat) :
    (r.addZeros n).telem.toList = r.telem.toList ++ listed (List.replicate n "000".toList) := by
  induction n generalizing r with
  | zero =>
    show r.telem.toList = r.telem.toList ++ []
    rw [List.append_nil]
  | succ n ih =>
    have hstep : r.addZero.telem.toList = r.telem.toList ++ listed ["000".toList] :=
      String.toList_append
    rw [addZeros, ih, hstep, List.append_assoc, ← listed_append]
    rfl

theorem addZeros_eqn (r : ReportText) (n : Nat) :
    (r.addZeros n).eqn.toList = r.eqn.toList ++ listed (List.replicate (3 * n) "0".toList) := by
  induction n generalizing r with
  | zero =>
    show r.eqn.toList = r.eqn.toList ++ []
    rw [List.append_nil]
  | succ n ih =>
    have hstep : r.addZero.eqn.toList = r.eqn.toList ++ listed (List.replicate 3 "0".toList) :=
      String.toList_append
    rw [addZeros, ih, hstep, List.append_assoc, ← listed_append, List.replicate_append_replicate,
      show 3 + 3 * n = 3 * (n + 1) by ring]

/-- The values of a report from its start on. -/
theorem padded_telem (r : ReportText) (hi : r.i = 1) (items : List (AnalogItem F)) :
    ((r.addItems items).addZeros (5 - (r.addItems items).i)).telem.toList =
      r.telem.toList ++ listed ((items.take 5).map valueField ++
        List.replicate (4 - items.length) "000".toList) := by
  have hcount : 5 - (r.addItems items).i = 4 - items.length := by
    rw [addItems_i r (by omega)]
    omega
  rw [hcount, addZeros_telem, addItems_eq, foldl_addItem_telem, hi, listed_append,
    List.append_assoc]

/-- The equations of a report from its start on, which has no point behind it yet. -/
theorem padded_eqn (r : ReportText) (hi : r.i = 1) (item : AnalogItem F)
    (items : List (AnalogItem F)) :
    ((r.addItems (item :: items)).addZeros (5 - (r.addItems (item :: items)).i)).eqn.toList =
      r.eqn.toList ++ '.' :: ((F64.display item.equation.a).toList ++
        listed ([(F64.display item.equation.b).toList, (F64.display item.equation.c).toList] ++
          (items.take 4).flatMap equationFields ++
          List.replicate (3 * (3 - items.length)) "0".toList)) := by
  have hcount : 5 - (r.addItems (item :: items)).i = 3 - items.length := by
    rw [addItems_i r (by omega), List.length_cons]
    omega
  have hsecond : (r.addItem item).i = 2 := congrArg (· + 1) hi
  have hfirst : (r.addItem item).eqn.toList = r.eqn.toList ++
      '.' :: ((F64.display item.equation.a).toList ++
        listed [(F64.display item.equation.b).toList, (F64.display item.equation.c).toList]) := by
    have hpoint : (".").toList = ['.'] := rfl
    have hcomma : (",").toList = [','] := rfl
    simp only [addItem, if_pos hi, String.toList_append, listed, List.flatMap_cons,
      List.flatMap_nil, List.append_assoc, hpoint, hcomma, List.cons_append, List.nil_append,
      List.append_nil]
  rw [hcount, addZeros_eqn, addItems, if_neg (by omega), addItems_eq,
    foldl_addItem_eqn _ (by omega), hsecond, hfirst, listed_append, listed_append]
  simp only [List.append_assoc, List.cons_append]

end ReportText

/-- The first two lines of a report. -/
theorem toAprs_lines {t : Telemetry F} {item : AnalogItem F} {items : List (AnalogItem F)}
    (h : t.telemetry = item :: items) (callsign : String) :
    ∃ values equations rest, t.toAprs callsign = .ok (values :: equations :: rest) ∧
      values.toList = ("T#" ++ Nat.repr t.sequence.toNat).toList ++
        listed (((item :: items).take 5).map valueField ++
          List.replicate (3 - items.length) "000".toList) ++
        ',' :: (digitalField ++ ',' :: t.name.toList) ∧
      equations.toList = (eqnsHeader callsign).toList ++
        ((F64.display item.equation.a).toList ++
          listed ([(F64.display item.equation.b).toList, (F64.display item.equation.c).toList] ++
            (items.take 4).flatMap equationFields ++
            List.replicate (3 * (3 - items.length)) "0".toList)) := by
  rw [Telemetry.toAprs, h]
  refine ⟨_, _, _, rfl, ?_, ?_⟩
  · have hfield : (",00000000,").toList = ',' :: (digitalField ++ [',']) := rfl
    rw [String.toList_append, String.toList_append, ReportText.padded_telem _ rfl, hfield,
      List.length_cons, show 4 - (items.length + 1) = 3 - items.length by omega]
    simp only [List.append_assoc, List.cons_append, List.nil_append]
  · have hheader : (eqnsHeader callsign).toList =
        (":" ++ blankPad 9 callsign ++ ":EQNS").toList ++ ['.'] := by
      have hpoint : (":EQNS.").toList = (":EQNS").toList ++ ['.'] := rfl
      simp only [eqnsHeader, String.toList_append, hpoint, List.append_assoc]
    rw [ReportText.padded_eqn _ rfl, hheader]
    simp only [List.append_assoc, List.cons_append, List.nil_append]

theorem comma_not_mem_digits {cs : List Char} (h : ∀ c ∈ cs, c.isDigit = true) : ',' ∉ cs :=
  fun hmem => absurd (h _ hmem) (by decide)

omit [F64 F] in
theorem comma_not_mem_valueField (item : AnalogItem F) : ',' ∉ valueField item :=
  comma_not_mem_digits fun _ hc => isDigit_of_mem_natPad hc

theorem comma_not_mem_equationFields [PlainDisplay F] {item : AnalogItem F} :
    ∀ field ∈ equationFields item, ',' ∉ field := by
  intro field hfield
  simp only [equationFields, List.mem_cons, List.not_mem_nil, or_false] at hfield
  rcases hfield with rfl | rfl | rfl <;> exact PlainDisplay.display_plain _

theorem comma_not_mem_sequence (n : Nat) : ',' ∉ ("T#" ++ Nat.repr n).toList := by
  rw [String.toList_append, Nat.toList_repr, List.mem_append]
  rintro (h | h)
  · exact absurd h (by decide)
  · exact comma_not_mem_digits
      (fun c hc => Nat.isDigit_of_mem_toDigits (by omega) (by omega) hc) h

omit [F64 F] in
/-- An analog field is shorter than the digital one, so it ends the analog fields. -/
theorem analog_field_plain {items : List (AnalogItem F)}
    (hx : ∀ item ∈ items, item.equation.x ≤ 999) (padding : Nat) :
    ∀ field ∈ items.map valueField ++ List.replicate padding "000".toList,
      ',' ∉ field ∧ field ≠ digitalField := by
  intro field hfield
  rcases List.mem_append.mp hfield with hfield | hfield
  · obtain ⟨item, hitem, rfl⟩ := List.mem_map.mp hfield
    refine ⟨comma_not_mem_valueField item, fun heq => ?_⟩
    have hbound := hx item hitem
    have hlen : (valueField item).length = 3 := length_natPad (by omega) (by omega)
    rw [heq] at hlen
    exact absurd hlen (by decide)
  · rw [List.eq_of_mem_replicate hfield]
    exact ⟨by decide, by decide⟩

theorem coefficient_plain [PlainDisplay F] (item : AnalogItem F) (items : List (AnalogItem F))
    (padding : Nat) :
    ∀ field ∈ [(F64.display item.equation.b).toList, (F64.display item.equation.c).toList] ++
      items.flatMap equationFields ++ List.replicate padding "0".toList, ',' ∉ field := by
  intro field hfield
  rcases List.mem_append.mp hfield with hfield | hfield
  · rcases List.mem_append.mp hfield with hfield | hfield
    · exact comma_not_mem_equationFields field (List.mem_cons_of_mem _ hfield)
    · obtain ⟨item', -, hfield⟩ := List.mem_flatMap.mp hfield
      exact comma_not_mem_equationFields field hfield
  · rw [List.eq_of_mem_replicate hfield]
    decide

/-- What a receiver finds in the lines of a report with an item. -/
theorem read_toAprs [PlainDisplay F] {t : Telemetry F} (hne : t.telemetry ≠ [])
    (hx : ∀ item ∈ t.telemetry, item.equation.x ≤ 999) (callsign : String) :
    ∃ values equations rest, t.toAprs callsign = .ok (values :: equations :: rest) ∧
      (values.toList.splitOn ',').head? = some ("T#" ++ Nat.repr t.sequence.toNat).toList ∧
      analogFields values = (t.telemetry.take 5).map valueField ++
        List.replicate (4 - t.telemetry.length) "000".toList ∧
      coefficients callsign equations = (t.telemetry.take 5).flatMap equationFields ++
        List.replicate (3 * (4 - t.telemetry.length)) "0".toList := by
  obtain ⟨item, items, hitems⟩ := List.exists_cons_of_ne_nil hne
  obtain ⟨values, equations, rest, hlines, hvalues, hequations⟩ := toAprs_lines hitems callsign
  rw [hitems] at hx
  refine ⟨values, equations, rest, hlines, ?_⟩
  rw [hitems, List.length_cons, show 4 - (items.length + 1) = 3 - items.length by omega]
  have hbound : ∀ item' ∈ (item :: items).take 5, item'.equation.x ≤ 999 :=
    fun item' hitem' => hx item' (List.mem_of_mem_take hitem')
  have hfields := analog_field_plain hbound (3 - items.length)
  have hdigital : ',' ∉ digitalField := by decide
  have hsplit : values.toList.splitOn ',' = ("T#" ++ Nat.repr t.sequence.toNat).toList ::
      (((item :: items).take 5).map valueField ++
        List.replicate (3 - items.length) "000".toList) ++ digitalField ::
          t.name.toList.splitOn ',' := by
    rw [hvalues, List.splitOn_append_cons_self,
      splitOn_listed (comma_not_mem_sequence _) fun f hf => (hfields f hf).1,
      List.splitOn_append_cons_self_of_not_mem hdigital]
  refine ⟨by rw [hsplit]; rfl, ?_, ?_⟩
  · rw [analogFields, hsplit, List.cons_append, List.drop_one, List.tail_cons,
      List.takeWhile_append_of_pos fun f hf => bne_iff_ne.mpr (hfields f hf).2,
      List.takeWhile_cons_of_neg (by decide), List.append_nil]
  · rw [coefficients, hequations, List.drop_left,
      splitOn_listed (PlainDisplay.display_plain _) (coefficient_plain item _ _)]
    rfl

/-! ## Channels -/

/-- The raw value and the coefficients of a channel, as a receiver reads them. -/
def readChannel (callsign values equations : String) (k : Nat) : Option (APRSQuadratic ℚ) :=
  match (analogFields values)[k]?.bind readNat,
    (coefficients callsign equations)[3 * k]?.bind readRat,
    (coefficients callsign equations)[3 * k + 1]?.bind readRat,
    (coefficients callsign equations)[3 * k + 2]?.bind readRat with
  | some x, some a, some b, some c => some ⟨a, b, c, x⟩
  | _, _, _, _ => none

theorem length_flatMap_equationFields (items : List (AnalogItem F)) :
    (items.flatMap equationFields).length = 3 * items.length := by
  induction items with
  | nil => rfl
  | cons item items ih =>
    rw [List.flatMap_cons, List.length_append, ih, List.length_cons]
    show 3 + 3 * items.length = _
    omega

theorem getElem?_flatMap_equationFields {items : List (AnalogItem F)} {k j : Nat} (hj : j < 3) :
    (items.flatMap equationFields)[3 * k + j]? =
      items[k]?.bind fun item => (equationFields item)[j]? := by
  induction items generalizing k with
  | nil => simp
  | cons item items ih =>
    have hthree : (equationFields item).length = 3 := rfl
    rw [List.flatMap_cons]
    cases k with
    | zero =>
      rw [List.getElem?_append_left (by omega), Nat.mul_zero, Nat.zero_add]
      rfl
    | succ k =>
      rw [List.getElem?_append_right (by omega), hthree,
        show 3 * (k + 1) + j - 3 = 3 * k + j by omega, ih]
      rfl

/-- A channel reads back as the form it was given. -/
theorem readChannel_toAprs {t : Telemetry ℚ}
    (hden : ∀ item ∈ t.telemetry, item.equation.a.den ∣ 10 ^ 24 ∧
      item.equation.b.den ∣ 10 ^ 24 ∧ item.equation.c.den ∣ 10 ^ 24)
    {callsign values equations : String}
    (hvalues : analogFields values = (t.telemetry.take 5).map valueField ++
      List.replicate (4 - t.telemetry.length) "000".toList)
    (hequations : coefficients callsign equations = (t.telemetry.take 5).flatMap equationFields ++
      List.replicate (3 * (4 - t.telemetry.length)) "0".toList)
    {k : Nat} (hk : k < 5) {item : AnalogItem ℚ} (hitem : t.telemetry[k]? = some item) :
    readChannel callsign values equations k = some item.equation := by
  obtain ⟨ha, hb, hc⟩ := hden item (List.mem_of_getElem? hitem)
  have htake : (t.telemetry.take 5)[k]? = some item := by
    rw [List.getElem?_take_of_lt hk, hitem]
  have hlen : k < (t.telemetry.take 5).length := (List.getElem?_eq_some_iff.mp htake).1
  have hvalue : (analogFields values)[k]? = some (valueField item) := by
    rw [hvalues, List.getElem?_append_left (by rw [List.length_map]; exact hlen), List.getElem?_map,
      htake]
    rfl
  have hcoefficient : ∀ j < 3, (coefficients callsign equations)[3 * k + j]? =
      (equationFields item)[j]? := by
    intro j hj
    rw [hequations, List.getElem?_append_left
      (by rw [length_flatMap_equationFields]; omega), getElem?_flatMap_equationFields hj, htake]
    rfl
  have h0 := hcoefficient 0 (by omega)
  have h1 := hcoefficient 1 (by omega)
  have h2 := hcoefficient 2 (by omega)
  rw [Nat.add_zero] at h0
  simp only [readChannel, hvalue, h0, h1, h2, equationFields, List.getElem?_cons_zero,
    List.getElem?_cons_succ, Option.bind_some, valueField, readNat_natPad]
  simp only [F64.display, readRat_display ha, readRat_display hb, readRat_display hc]

/-- A report with five channels: the sequence number, five values and fifteen coefficients,
of the items first and then zeros. -/
structure FiveChannels (t : Telemetry F) (callsign values equations : String) : Prop where
  sequence : (values.toList.splitOn ',').head? =
    some ("T#" ++ Nat.repr t.sequence.toNat).toList
  values_five : (analogFields values).length = 5
  coefficients_fifteen : (coefficients callsign equations).length = 15
  values_items : analogFields values =
    (t.telemetry.take 5).map valueField ++ List.replicate (5 - t.telemetry.length) "000".toList
  coefficients_items : coefficients callsign equations =
    (t.telemetry.take 5).flatMap equationFields ++
      List.replicate (3 * (5 - t.telemetry.length)) "0".toList

/-- A report has five channels exactly when it is given five items or more. -/
theorem five_channels_iff [PlainDisplay F] {t : Telemetry F} (hne : t.telemetry ≠ [])
    (hx : ∀ item ∈ t.telemetry, item.equation.x ≤ 999) (callsign : String) :
    (∃ values equations rest, t.toAprs callsign = .ok (values :: equations :: rest) ∧
      FiveChannels t callsign values equations) ↔ 5 ≤ t.telemetry.length := by
  obtain ⟨values, equations, rest, hlines, hseq, hvalues, hequations⟩ :=
    read_toAprs hne hx callsign
  have hlength : (analogFields values).length =
      min 5 t.telemetry.length + (4 - t.telemetry.length) := by
    rw [hvalues, List.length_append, List.length_map, List.length_take, List.length_replicate]
  constructor
  · rintro ⟨values', equations', rest', hlines', hfive⟩
    rw [hlines] at hlines'
    cases hlines'
    have := hfive.values_five
    have hpos := List.length_pos_iff.mpr hne
    omega
  · intro hlen
    have hpad : 4 - t.telemetry.length = 5 - t.telemetry.length := by omega
    have htake : (t.telemetry.take 5).length = 5 := by
      rw [List.length_take]
      omega
    rw [hpad] at hvalues hequations
    refine ⟨values, equations, rest, hlines, hseq, by omega, ?_, hvalues, hequations⟩
    rw [hequations, List.length_append, length_flatMap_equationFields, htake,
      List.length_replicate]
    omega

def sampleReport (n : Nat) : Telemetry ℚ where
  telemetry := List.replicate n { equation := ⟨0, 1, 0, 10⟩, label := "Rx", units := "Pkts" }
  name := "Test"
  sequence := 1

theorem sampleReport_x (n : Nat) : ∀ item ∈ (sampleReport n).telemetry, item.equation.x ≤ 999 := by
  intro item hitem
  rw [List.eq_of_mem_replicate hitem]
  decide

theorem five_channels_iff_sample :
    ∃ values equations rest,
      (sampleReport 5).toAprs "N0CALL" = .ok (values :: equations :: rest) ∧
        FiveChannels (sampleReport 5) "N0CALL" values equations :=
  (five_channels_iff (List.cons_ne_nil _ _) (sampleReport_x 5) "N0CALL").mpr (Nat.le_refl 5)

/-- A report of one item goes out with four channels. -/
theorem one_item_four_channels :
    (sampleReport 1).telemetry ≠ [] ∧
      (∀ item ∈ (sampleReport 1).telemetry, item.equation.x ≤ 999) ∧
      ¬ ∃ values equations rest,
        (sampleReport 1).toAprs "N0CALL" = .ok (values :: equations :: rest) ∧
          FiveChannels (sampleReport 1) "N0CALL" values equations := by
  refine ⟨List.cons_ne_nil _ _, sampleReport_x 1, ?_⟩
  rintro ⟨values, equations, rest, hlines, hfive⟩
  obtain ⟨values', equations', rest', hlines', -, hvalues, -⟩ :=
    read_toAprs (List.cons_ne_nil _ _) (sampleReport_x 1) "N0CALL"
  rw [hlines] at hlines'
  cases hlines'
  have hlen := congrArg List.length hvalues
  rw [hfive.values_five] at hlen
  exact absurd hlen (by decide)

end Rtpigate
