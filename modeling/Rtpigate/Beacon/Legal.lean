/-
Legal coordinates.

The fields of a beacon are digits at fixed offsets, which the page reads too.  But the
nudge may complete the last minute of a degree, and the minutes are then written as sixty.
And the page counts code units: an overlay of one character that takes two of them moves
the longitude on.
-/
import Rtpigate.Beacon.Precision

namespace Rtpigate

open Exact

/-! ## Legal coordinates -/

/-- Degrees in `width` digits, minutes from 00 to 59, a point, hundredths and
a direction. -/
def LegalAxis (width : Nat) (directions field : List Char) : Prop :=
  ∃ degs mins hunds direction,
    field = degs ++ (mins ++ ('.' :: (hunds ++ [direction]))) ∧
      degs.length = width ∧ mins.length = 2 ∧ hunds.length = 2 ∧
      (∀ c ∈ degs ++ mins ++ hunds, c.isDigit = true) ∧
      (∃ minutes ≤ 59, readNat mins = some minutes) ∧ direction ∈ directions

theorem legalAxis_axisString_iff {width : Nat} {a : AxisParts ℚ} (hw : 0 < width)
    (hdeg : a.deg < 10 ^ width) (hhund : a.hund ≤ 6000) {direction : Char}
    {directions : List Char} (hdir : direction ∈ directions) :
    LegalAxis width directions (axisString width a (String.singleton direction)).toList ↔
      a.hund < 6000 := by
  have hdegs := length_natPad hw hdeg
  have hmins : (natPad 2 (a.hund / 100)).toList.length = 2 := length_natPad (by omega) (by omega)
  have hhunds : (natPad 2 (a.hund % 100)).toList.length = 2 := length_natPad (by omega) (by omega)
  rw [axisString_toList]
  constructor
  · rintro ⟨degs, mins, hunds, direction', heq, hlenDegs, hlenMins, -, -, ⟨m, hle, hread⟩, -⟩
    obtain ⟨-, hrest⟩ := List.append_inj heq (by omega)
    obtain ⟨rfl, -⟩ := List.append_inj hrest (by omega)
    rw [readNat_natPad, Option.some.injEq] at hread
    omega
  · intro hlt
    refine ⟨_, _, _, direction, rfl, hdegs, hmins, hhunds, ?_,
      ⟨a.hund / 100, by omega, readNat_natPad 2 _⟩, hdir⟩
    intro c hc
    rcases List.mem_append.mp hc with hc | hc
    · rcases List.mem_append.mp hc with hc | hc <;> exact isDigit_of_mem_natPad hc
    · exact isDigit_of_mem_natPad hc

/-! ## The page's view -/

/-- The code units of a character in a JavaScript string. -/
def jsUnits (c : Char) : List Nat :=
  if c.toNat < 0x10000 then [c.toNat]
  else [0xD800 + (c.toNat - 0x10000) / 0x400, 0xDC00 + (c.toNat - 0x10000) % 0x400]

def jsString (cs : List Char) : List Nat := cs.flatMap jsUnits

/-- The texts that `parsePosition` hands on to `parseDDMM`. -/
structure PositionFields where
  lat : List Nat
  latDir : List Nat
  lon : List Nat
  lonDir : List Nat

/-- The uncompressed branch of `parsePosition` behind a time stamp. -/
def parsePosition (info : List Nat) : Option PositionFields :=
  let posStr := info.drop 8
  match info.head?, posStr.head? with
  | some dataType, some first =>
    if (dataType = '/'.toNat ∨ dataType = '@'.toNat) ∧ '0'.toNat ≤ first ∧ first ≤ '9'.toNat ∧
        18 ≤ posStr.length then
      some { lat := posStr.take 7, latDir := (posStr.drop 7).take 1,
             lon := (posStr.drop 9).take 8, lonDir := (posStr.drop 17).take 1 }
    else none
  | _, _ => none

/-- The page finds the fields where the beacon has them. -/
def FieldsInPlace (overlay : String) (info : List Char) : Prop :=
  parsePosition (jsString info) =
    some { lat := jsString ((latField info).take 7), latDir := jsString ((latField info).drop 7),
           lon := jsString ((lonField overlay info).take 8),
           lonDir := jsString ((lonField overlay info).drop 8) }

/-- A legal position, and for an overlay of one character it lies where the page reads it. -/
structure LegalPosition (overlay : String) (info : List Char) : Prop where
  lat : LegalAxis 2 ['N', 'S'] (latField info)
  lon : LegalAxis 3 ['E', 'W'] (lonField overlay info)
  offsets : overlay.toList.length = 1 → FieldsInPlace overlay info

theorem jsString_append (xs ys : List Char) : jsString (xs ++ ys) = jsString xs ++ jsString ys :=
  List.flatMap_append

/-- A character beyond the first plane takes two units, the second a low surrogate. -/
theorem jsUnits_wide {c : Char} (h : ¬ c.toNat < 0x10000) :
    ∃ high low, jsUnits c = [high, low] ∧ 0xDC00 ≤ low := by
  rw [jsUnits, if_neg h]
  exact ⟨_, _, rfl, Nat.le_add_right _ _⟩

/-- A text of characters that take one unit each. -/
theorem jsString_eq_map {cs : List Char} (h : ∀ c ∈ cs, c.toNat < 0x10000) :
    jsString cs = cs.map Char.toNat := by
  induction cs with
  | nil => rfl
  | cons c cs ih =>
    have hc := h c List.mem_cons_self
    rw [jsString, List.flatMap_cons, jsUnits, if_pos hc, List.map_cons]
    exact congrArg _ (ih fun c' hc' => h c' (List.mem_cons_of_mem c hc'))

theorem toNat_lt_of_isDigit {c : Char} (h : c.isDigit = true) :
    '0'.toNat ≤ c.toNat ∧ c.toNat ≤ '9'.toNat := by
  rw [Char.isDigit, Bool.and_eq_true, decide_eq_true_eq, decide_eq_true_eq] at h
  exact h

theorem axisString_units {width : Nat} {a : AxisParts ℚ} {direction : Char}
    (hdir : direction.toNat < 0x10000) :
    ∀ c ∈ (axisString width a (String.singleton direction)).toList, c.toNat < 0x10000 := by
  have hnine : '9'.toNat = 57 := rfl
  intro c hc
  rw [axisString_toList] at hc
  simp only [List.mem_append, List.mem_cons, List.not_mem_nil, or_false] at hc
  rcases hc with hc | hc | rfl | hc | rfl
  · have := (toNat_lt_of_isDigit (isDigit_of_mem_natPad hc)).2
    omega
  · have := (toNat_lt_of_isDigit (isDigit_of_mem_natPad hc)).2
    omega
  · decide
  · have := (toNat_lt_of_isDigit (isDigit_of_mem_natPad hc)).2
    omega
  · exact hdir

theorem timeText_units (utc : Int) : ∀ c ∈ timeText utc, c.toNat < 0x10000 := by
  have hnine : '9'.toNat = 57 := rfl
  have hdigits : ∀ n, ∀ c ∈ (natPad 2 n).toList, c.toNat < 0x10000 := by
    intro n c hc
    have := (toNat_lt_of_isDigit (isDigit_of_mem_natPad hc)).2
    omega
  intro c hc
  simp only [timeText, List.mem_append, List.mem_cons, List.not_mem_nil, or_false] at hc
  rcases hc with (((rfl | hc) | hc) | hc) | rfl
  · decide
  · exact hdigits _ c hc
  · exact hdigits _ c hc
  · exact hdigits _ c hc
  · decide

/-- The fixed offsets, with one unit between the axes. -/
theorem parsePosition_parts {dataType first : Nat} {time lat overlay lon rest : List Nat}
    (htype : time.head? = some dataType) (hslash : dataType = '/'.toNat)
    (hfirst : lat.head? = some first) (hdigit : '0'.toNat ≤ first ∧ first ≤ '9'.toNat)
    (htime : time.length = 8) (hlat : lat.length = 8) (hoverlay : overlay.length = 1)
    (hlon : lon.length = 9) :
    parsePosition (time ++ (lat ++ (overlay ++ (lon ++ rest)))) =
      some { lat := lat.take 7, latDir := lat.drop 7, lon := lon.take 8,
             lonDir := lon.drop 8 } := by
  have hpos : (time ++ (lat ++ (overlay ++ (lon ++ rest)))).drop 8 =
      lat ++ (overlay ++ (lon ++ rest)) := by
    rw [← htime, List.drop_left]
  have hhead : (time ++ (lat ++ (overlay ++ (lon ++ rest)))).head? = some dataType := by
    rw [List.head?_append, htype, Option.some_or]
  have hposHead : (lat ++ (overlay ++ (lon ++ rest))).head? = some first := by
    rw [List.head?_append, hfirst, Option.some_or]
  have hskip : ∀ n, (lat ++ (overlay ++ (lon ++ rest))).drop (9 + n) = (lon ++ rest).drop n := by
    intro n
    have hlen : (lat ++ overlay).length = 9 := by rw [List.length_append, hlat, hoverlay]
    rw [← List.append_assoc lat, List.drop_append, List.drop_eq_nil_of_le (by omega),
      List.nil_append, hlen, Nat.add_sub_cancel_left]
  have hlong : 18 ≤ (lat ++ (overlay ++ (lon ++ rest))).length := by
    simp only [List.length_append]
    omega
  have hlatDir : ((lat ++ (overlay ++ (lon ++ rest))).drop 7).take 1 = lat.drop 7 := by
    have hlen : (lat.drop 7).length = 1 := by rw [List.length_drop, hlat]
    rw [List.drop_append_of_le_length (by omega), ← hlen, List.take_left]
  have hlonDir : ((lon ++ rest).drop 8).take 1 = lon.drop 8 := by
    have hlen : (lon.drop 8).length = 1 := by rw [List.length_drop, hlon]
    rw [List.drop_append_of_le_length (by omega), ← hlen, List.take_left]
  simp only [parsePosition, hpos, hhead, hposHead]
  rw [if_pos ⟨Or.inl hslash, hdigit.1, hdigit.2, hlong⟩, hlatDir, hskip 8, hskip 0, hlonDir,
    List.drop_zero, List.take_append_of_le_length (by omega),
    List.take_append_of_le_length (by omega)]

/-- The longitude is read from the second unit after the latitude on. -/
theorem parsePosition_lon_head {time lat tail : List Nat} {fields : PositionFields}
    (htime : time.length = 8) (hlat : lat.length = 8)
    (h : parsePosition (time ++ (lat ++ tail)) = some fields) : fields.lon.head? = tail[1]? := by
  have hpos : (time ++ (lat ++ tail)).drop 8 = lat ++ tail := by rw [← htime, List.drop_left]
  have hlon : (lat ++ tail).drop 9 = tail.drop 1 := by
    rw [List.drop_append, List.drop_eq_nil_of_le (by omega), hlat]
    rfl
  rw [parsePosition, hpos] at h
  split at h
  · split at h
    · cases h
      show (((lat ++ tail).drop 9).take 8).head? = tail[1]?
      rw [hlon, List.head?_take, if_neg (by decide), List.head?_drop]
    · cases h
  · cases h

theorem latText_head (p : Place) : ∃ c, (latText p).head? = some c ∧ c.isDigit = true := by
  have hlen := length_natPad (by omega) (lat_deg_lt p)
  obtain ⟨c, cs, hcs⟩ : ∃ c cs, (natPad 2 (axisParts p.lat).deg).toList = c :: cs :=
    List.exists_cons_of_length_pos (by omega)
  refine ⟨c, ?_, isDigit_of_mem_natPad (hcs ▸ List.mem_cons_self)⟩
  rw [latText, axisString_toList, hcs]
  rfl

theorem lonText_head (p : Place) : ∃ c, (lonText p).head? = some c ∧ c.isDigit = true := by
  have hlen := length_natPad (by omega) (lon_deg_lt p)
  obtain ⟨c, cs, hcs⟩ : ∃ c cs, (natPad 3 (axisParts p.lon).deg).toList = c :: cs :=
    List.exists_cons_of_length_pos (by omega)
  refine ⟨c, ?_, isDigit_of_mem_natPad (hcs ▸ List.mem_cons_self)⟩
  rw [lonText, axisString_toList, hcs]
  rfl

theorem latText_units (p : Place) : ∀ c ∈ latText p, c.toNat < 0x10000 := by
  refine axisString_units ?_
  rw [latDirection]
  split <;> decide

theorem lonText_units (p : Place) : ∀ c ∈ lonText p, c.toNat < 0x10000 := by
  refine axisString_units ?_
  rw [lonDirection]
  split <;> decide

theorem fieldsInPlace (utc : Int) (p : Place) (overlay : String) (rest : List Char)
    (hoverlay : (jsString overlay.toList).length = 1) :
    FieldsInPlace overlay
      (timeText utc ++ (latText p ++ (overlay.toList ++ (lonText p ++ rest)))) := by
  have hlat := latText_units p
  have hlon := lonText_units p
  obtain ⟨first, hfirst, hdigit⟩ := latText_head p
  have htime : ((timeText utc).map Char.toNat).length = 8 := by
    rw [List.length_map, length_timeText]
  have htype : ((timeText utc).map Char.toNat).head? = some '/'.toNat := rfl
  have hlatLen : ((latText p).map Char.toNat).length = 8 := by
    rw [List.length_map, length_latText]
  have hlatHead : ((latText p).map Char.toNat).head? = some first.toNat := by
    rw [List.head?_map, hfirst, Option.map_some]
  have hlonLen : ((lonText p).map Char.toNat).length = 9 := by
    rw [List.length_map, length_lonText]
  rw [FieldsInPlace, latField_info, lonField_info,
    jsString_eq_map fun c hc => hlat c (List.mem_of_mem_take hc),
    jsString_eq_map fun c hc => hlat c (List.mem_of_mem_drop hc),
    jsString_eq_map fun c hc => hlon c (List.mem_of_mem_take hc),
    jsString_eq_map fun c hc => hlon c (List.mem_of_mem_drop hc)]
  simp only [jsString_append, jsString_eq_map (timeText_units utc), jsString_eq_map hlat,
    jsString_eq_map hlon, List.map_take, List.map_drop]
  exact parsePosition_parts htype rfl hlatHead (toNat_lt_of_isDigit hdigit) htime hlatLen hoverlay
    hlonLen

/-- An overlay of two units puts its second one where the page reads the longitude. -/
theorem not_fieldsInPlace (utc : Int) (p : Place) (overlay : String) (rest : List Char) {c : Char}
    (hoverlay : overlay.toList = [c]) (hwide : ¬ c.toNat < 0x10000) :
    ¬ FieldsInPlace overlay
      (timeText utc ++ (latText p ++ (overlay.toList ++ (lonText p ++ rest)))) := by
  intro h
  obtain ⟨first, hfirst, hdigit⟩ := lonText_head p
  have htime : ((timeText utc).map Char.toNat).length = 8 := by
    rw [List.length_map, length_timeText]
  have hlat : ((latText p).map Char.toNat).length = 8 := by rw [List.length_map, length_latText]
  rw [FieldsInPlace, lonField_info] at h
  simp only [jsString_append, jsString_eq_map (timeText_units utc),
    jsString_eq_map (latText_units p)] at h
  have hhead := parsePosition_lon_head htime hlat h
  have hlon : (jsString ((lonText p).take 8)).head? = some first.toNat := by
    rw [jsString_eq_map fun d hd => lonText_units p d (List.mem_of_mem_take hd), List.head?_map,
      List.head?_take, if_neg (by decide), hfirst, Option.map_some]
  obtain ⟨high, low, hunits, hlow⟩ := jsUnits_wide hwide
  have hoverlayUnits : jsString overlay.toList = [high, low] := by
    rw [hoverlay, jsString, List.flatMap_singleton, hunits]
  dsimp only at hhead
  rw [hlon, hoverlayUnits] at hhead
  have hnine : '9'.toNat = 57 := rfl
  have hle := (toNat_lt_of_isDigit hdigit).2
  have heq : first.toNat = low := by simpa using hhead
  omega

/-- An overlay of one character lets the page find the fields when it is one unit. -/
theorem fieldsInPlace_iff (utc : Int) (p : Place) (overlay : String) (rest : List Char) :
    (overlay.toList.length = 1 → FieldsInPlace overlay
        (timeText utc ++ (latText p ++ (overlay.toList ++ (lonText p ++ rest))))) ↔
      ∀ c, overlay.toList = [c] → c.toNat < 0x10000 := by
  constructor
  · intro h c hc
    by_contra hwide
    exact not_fieldsInPlace utc p overlay rest hc hwide (h (by rw [hc]; rfl))
  · intro h hone
    obtain ⟨c, hc⟩ := List.length_eq_one_iff.mp hone
    refine fieldsInPlace utc p overlay rest ?_
    rw [hc, jsString, List.flatMap_singleton, jsUnits, if_pos (h c hc)]
    rfl

/-- A beacon is a legal coordinate unless the nudge completes a degree: the degrees are
truncated before it, and the minute it completes is written as sixty.  An overlay of one
character must be one code unit for the page to find the fields. -/
theorem legal_position_iff (utc : Int) (p : Place) (source : PositionSource)
    (callsign name : String) (symbol overlay : Option String) (dao : DaoMode) :
    ∃ text, positpacket utc (p.location source) callsign name symbol overlay dao = .ok text ∧
      (LegalPosition (overlayString symbol overlay) (beaconInfo callsign text) ↔
        degreeMinutes p.lat + 1e-8 < 60 ∧ degreeMinutes p.lon + 1e-8 < 60 ∧
          ∀ c, (overlayString symbol overlay).toList = [c] → c.toNat < 0x10000) := by
  obtain ⟨text, htext, hinfo⟩ :=
    positpacket_place utc p source callsign name symbol overlay dao
  have hdirLat : latDirection p ∈ ['N', 'S'] := by
    rw [latDirection]
    split <;> decide
  have hdirLon : lonDirection p ∈ ['E', 'W'] := by
    rw [lonDirection]
    split <;> decide
  have hlat := legalAxis_axisString_iff (by omega) (lat_deg_lt p) (hund_le p.lat) hdirLat
  have hlon := legalAxis_axisString_iff (by omega) (lon_deg_lt p) (hund_le p.lon) hdirLon
  have hlatField : latField (beaconInfo callsign text) = latText p := by
    rw [hinfo, latField_info]
  have hlonField : lonField (overlayString symbol overlay) (beaconInfo callsign text) =
      lonText p := by
    rw [hinfo, lonField_info]
  have hoffsets := fieldsInPlace_iff utc p (overlayString symbol overlay)
    (commentText p name symbol ++ daoText p dao)
  refine ⟨text, htext, ?_, ?_⟩
  · rintro ⟨hlegalLat, hlegalLon, hplace⟩
    rw [hlatField] at hlegalLat
    rw [hlonField] at hlegalLon
    rw [hinfo] at hplace
    exact ⟨(hund_lt_iff p.lat).mp (hlat.mp hlegalLat), (hund_lt_iff p.lon).mp (hlon.mp hlegalLon),
      hoffsets.mp hplace⟩
  · rintro ⟨hcarryLat, hcarryLon, hunit⟩
    refine ⟨?_, ?_, ?_⟩
    · rw [hlatField]
      exact hlat.mpr ((hund_lt_iff p.lat).mpr hcarryLat)
    · rw [hlonField]
      exact hlon.mpr ((hund_lt_iff p.lon).mpr hcarryLon)
    · rw [hinfo]
      exact hoffsets.mpr hunit

/-- A billionth of a minute south of the fortieth degree. -/
def belowDegree : Place where
  lat := 40 - 1 / 60000000000
  lon := 15
  alt := 100
  lat_range := by norm_num
  lon_range := by norm_num
  lat_ne := by norm_num
  lon_ne := by norm_num
  alt_pos := by norm_num

/-- Thirty-nine degrees and sixty minutes. -/
theorem sixty_minutes_written :
    ∃ text, positpacket 0 (belowDegree.location .config) "N0CALL" "" none none .off = .ok text ∧
      text = "N0CALL>APZJD1,TCPIP*:/000000h3960.00N/01500.00E0/A=000100" ∧
      ¬ LegalPosition "/" (beaconInfo "N0CALL" text) := by
  have htext : positpacket 0 (belowDegree.location .config) "N0CALL" "" none none .off =
      .ok "N0CALL>APZJD1,TCPIP*:/000000h3960.00N/01500.00E0/A=000100" := by
    decide +kernel
  refine ⟨_, htext, rfl, ?_⟩
  rintro ⟨⟨degs, mins, hunds, direction, heq, hdegs, hmins, -, -, ⟨m, hle, hread⟩, -⟩, -, -⟩
  have hfield : latField (beaconInfo "N0CALL"
      "N0CALL>APZJD1,TCPIP*:/000000h3960.00N/01500.00E0/A=000100") = "3960.00N".toList := by
    decide +kernel
  have hsixty : ((degs ++ (mins ++ ('.' :: (hunds ++ [direction])))).drop 2).take 2 = mins := by
    rw [← hdegs, List.drop_left, hdegs, ← hmins, List.take_left]
  have hvalue : ("3960.00N".toList.drop 2).take 2 = (natPad 2 60).toList := by decide +kernel
  rw [← heq, hfield, hvalue] at hsixty
  rw [← hsixty, readNat_natPad, Option.some.injEq] at hread
  omega

end Rtpigate
