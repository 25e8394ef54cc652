/-
Beacons read by the page.

The backend writes position reports and the page reads them, two implementations of one
format.  The page takes degrees, minutes and hundredths and leaves the `!DAO!` token alone, so
it gets the position of a beacon to a hundredth of a minute.
-/
import Rtpigate.Page.Objects

namespace Rtpigate
namespace Page

open Exact

/-! ## Axes -/

theorem ofDigitChars_natPad (width n : Nat) :
    Nat.ofDigitChars 10 (natPad width n).toList 0 = n := by
  have hread := readNat_natPad width n
  rw [readNat] at hread
  split at hread
  · exact Option.some.inj hread
  · cases hread

/-- A beacon's axis as a field of digits. -/
def beaconAxis (width : Nat) (positive negative : Char) (x : ℚ) (hwidth : 0 < width)
    (hdeg : (axisParts x).deg < 10 ^ width) : AxisField width positive negative where
  degs := (natPad width (axisParts x).deg).toList
  mins := (natPad 2 ((axisParts x).hund / 100)).toList
  hunds := (natPad 2 ((axisParts x).hund % 100)).toList
  negated := decide (x < 0)
  length_degs := length_natPad hwidth hdeg
  length_mins := by
    have hle := hund_le x
    exact length_natPad (by omega) (by omega)
  length_hunds := length_natPad (by omega) (by omega)
  digits c hc := by
    rcases List.mem_append.mp hc with hc | hc
    · exact isDigit_of_mem_natPad hc
    · rcases List.mem_append.mp hc with hc | hc <;> exact isDigit_of_mem_natPad hc

section Axis

variable {width : Nat} {positive negative : Char} {x : ℚ} {hwidth : 0 < width}
  {hdeg : (axisParts x).deg < 10 ^ width}

theorem beaconAxis_direction : (beaconAxis width positive negative x hwidth hdeg).direction =
    if 0 ≤ x then positive else negative := by
  rw [AxisField.direction]
  by_cases hneg : x < 0
  · rw [if_neg (not_le.mpr hneg)]
    exact if_pos (decide_eq_true hneg)
  · rw [if_pos (not_lt.mp hneg)]
    exact if_neg (by rw [beaconAxis, decide_eq_false hneg]; exact Bool.false_ne_true)

theorem axisString_beaconAxis (direction : Char) :
    (axisString width (axisParts x) (String.singleton direction)).toList =
      (beaconAxis width positive negative x hwidth hdeg).number ++ [direction] := by
  rw [axisString_toList, AxisField.number]
  simp only [beaconAxis, List.append_assoc, List.cons_append]

/-- The magnitude of the coordinate, in degrees. -/
def writtenDegrees (x : ℚ) : ℚ := (axisParts x).deg + (axisParts x).hund / 100 / 60

theorem beaconAxis_value : ((beaconAxis width positive negative x hwidth hdeg).value : ℚ) =
    if x < 0 then -writtenDegrees x else writtenDegrees x := by
  have hminutes : Nat.ofDigitChars 10 ((natPad 2 ((axisParts x).hund / 100)).toList ++
      (natPad 2 ((axisParts x).hund % 100)).toList) 0 = (axisParts x).hund := by
    have hlen : (natPad 2 ((axisParts x).hund % 100)).toList.length = 2 :=
      length_natPad (by omega) (by omega)
    rw [Nat.ofDigitChars_append, Nat.ofDigitChars_eq_ofDigitChars_zero, hlen,
      ofDigitChars_natPad, ofDigitChars_natPad]
    omega
  have hdegrees : (decimal (axisParts x).deg 0 : ℚ) = (axisParts x).deg := by
    show Rat.ofScientific (axisParts x).deg false 0 = _
    rw [Rat.ofScientific_false_def, Nat.pow_zero, Nat.mul_one]
  have hhund : (decimal (axisParts x).hund (-2) : ℚ) = (axisParts x).hund / 100 := by
    show Rat.ofScientific (axisParts x).hund true 2 = _
    rw [Rat.ofScientific_true_def, Rat.mkRat_eq_div, Int.cast_natCast]
    norm_num
  have hsixty : (60.0 : ℚ) = 60 := by norm_num
  rw [AxisField.value]
  simp only [beaconAxis, ofDigitChars_natPad, hminutes, hdegrees, hhund, hsixty,
    decide_eq_true_eq]
  rfl

/-- The coordinate read is the true one, short by less than a hundredth of a minute.  The
nudge may put it past the true one by a hundred-millionth. -/
structure Near (x y : ℚ) : Prop where
  side : 0 ≤ x * y
  lower : -1e-8 ≤ (|x| - |y|) * 60
  upper : (|x| - |y|) * 60 < 1 / 100

theorem writtenDegrees_nonneg (x : ℚ) : 0 ≤ writtenDegrees x := by
  rw [writtenDegrees]
  positivity

theorem writtenDegrees_bounds (x : ℚ) : -1e-8 ≤ (|x| - writtenDegrees x) * 60 ∧
    (|x| - writtenDegrees x) * 60 < 1 / 100 := by
  have hmagnitude := abs_mul_sixty x
  obtain ⟨hlow, hhigh⟩ := hund_bounds x
  norm_num at hlow hhigh ⊢
  rw [writtenDegrees]
  constructor <;> linarith

theorem near_beaconAxis :
    Near x ((beaconAxis width positive negative x hwidth hdeg).value : ℚ) := by
  have hnonneg := writtenDegrees_nonneg x
  obtain ⟨hlow, hhigh⟩ := writtenDegrees_bounds x
  rw [beaconAxis_value]
  by_cases hneg : x < 0
  · rw [if_pos hneg]
    refine ⟨mul_nonneg_of_nonpos_of_nonpos hneg.le (neg_nonpos.mpr hnonneg), ?_, ?_⟩ <;>
      rwa [abs_neg, abs_of_nonneg hnonneg]
  · rw [if_neg hneg]
    refine ⟨mul_nonneg (not_lt.mp hneg) hnonneg, ?_, ?_⟩ <;> rwa [abs_of_nonneg hnonneg]

end Axis

/-! ## Reports with a time stamp -/

section Stamped

variable {F : Type} [F64 F] {stamp : List Nat} (lat lon rest : List Nat)
  (latDir table lonDir code : Nat)

/-- The units of a report behind its stamp. -/
def stampedUnits (stamp lat lon rest : List Nat) (latDir table lonDir code : Nat) : List Nat :=
  '/'.toNat :: (stamp ++ (lat ++ latDir :: table :: (lon ++ lonDir :: code :: rest)))

theorem drop_stamped (hstamp : stamp.length = 7) (n : Nat) :
    (stampedUnits stamp lat lon rest latDir table lonDir code).drop (8 + n) =
      (lat ++ latDir :: table :: (lon ++ lonDir :: code :: rest)).drop n := by
  have hlen : ('/'.toNat :: stamp).length = 8 := by rw [List.length_cons, hstamp]
  have hsplit : stampedUnits stamp lat lon rest latDir table lonDir code = ('/'.toNat :: stamp) ++
      (lat ++ latDir :: table :: (lon ++ lonDir :: code :: rest)) := rfl
  rw [hsplit, ← hlen, List.drop_append, List.drop_eq_nil_of_le (by omega), List.nil_append,
    Nat.add_sub_cancel_left]

theorem stamped_cons (hstamp : stamp.length = 7) : ∃ u us,
    stampedUnits stamp lat lon rest latDir table lonDir code = '/'.toNat :: u :: us := by
  obtain ⟨u, us, rfl⟩ := List.exists_cons_of_length_eq_add_one hstamp
  exact ⟨u, _, rfl⟩

theorem parsePosition_stamped (hstamp : stamp.length = 7)
    (hdigit : lat.head?.any isDigitUnit = true) (hlat : lat.length = 7) (hlon : lon.length = 8)
    {y x : F} (hy : parseDDMM lat (some latDir) = some y)
    (hx : parseDDMM lon (some lonDir) = some x) :
    parsePosition (stampedUnits stamp lat lon rest latDir table lonDir code) = some (y, x) := by
  have hdrop := drop_stamped lat lon rest latDir table lonDir code hstamp 0
  have hfrom : (parsePosition (stampedUnits stamp lat lon rest latDir table lonDir code) :
      Option (F × F)) =
      posFrom ((stampedUnits stamp lat lon rest latDir table lonDir code).drop 8) := by
    obtain ⟨u, us, hunits⟩ := stamped_cons lat lon rest latDir table lonDir code hstamp
    rw [hunits]
    rfl
  have hhead : (lat ++ latDir :: table :: (lon ++ lonDir :: code :: rest)).head?.any isDigitUnit =
      true := by
    obtain ⟨u, us, rfl⟩ := List.exists_cons_of_length_eq_add_one hlat
    exact hdigit
  rw [hfrom, hdrop, List.drop_zero, posFrom, if_pos hhead, uncompressedPos_fields hlat hlon, hy, hx]

theorem getElem?_stamped (hstamp : stamp.length = 7) (n : Nat) :
    (stampedUnits stamp lat lon rest latDir table lonDir code)[8 + n]? =
      (lat ++ latDir :: table :: (lon ++ lonDir :: code :: rest))[n]? := by
  rw [← Nat.add_zero (8 + n), ← List.getElem?_drop, drop_stamped _ _ _ _ _ _ _ hstamp, List.getElem?_drop,
    Nat.add_zero]

theorem getSymbolImage_stamped (symbols : List Nat → Option (List Nat)) (hstamp : stamp.length = 7)
    (hdigit : lat.head?.any isDigitUnit = true) (hlat : lat.length = 7) (hlon : lon.length = 8) :
    getSymbolImage symbols (stampedUnits stamp lat lon rest latDir table lonDir code) =
      symbolImage symbols table code := by
  let units := stampedUnits stamp lat lon rest latDir table lonDir code
  have htable : units[16]? = some table := by
    rw [getElem?_stamped lat lon rest latDir table lonDir code hstamp 8, List.getElem?_append_right (by omega), hlat]
    rfl
  have hcode : units[26]? = some code := by
    rw [getElem?_stamped lat lon rest latDir table lonDir code hstamp 18, List.getElem?_append_right (by omega), hlat]
    show (lon ++ lonDir :: code :: rest)[9]? = _
    rw [List.getElem?_append_right (by omega), hlon]
    rfl
  have hlen : 8 + 19 ≤ units.length := (List.getElem?_eq_some_iff.mp hcode).1
  have hplaces : symbolPlaces units = some ⟨16, 26⟩ := by
    obtain ⟨first, lat, rfl⟩ := List.exists_cons_of_length_eq_add_one hlat
    have hfirst : units[8]? = some first :=
      getElem?_stamped (first :: lat) lon rest latDir table lonDir code hstamp 0
    have hfrom : symbolPlaces units = symbolFrom units 8 := by
      obtain ⟨u, us, hunits⟩ := stamped_cons (first :: lat) lon rest latDir table lonDir code hstamp
      show symbolPlaces (stampedUnits stamp (first :: lat) lon rest latDir table lonDir code) =
        symbolFrom (stampedUnits stamp (first :: lat) lon rest latDir table lonDir code) 8
      rw [hunits]
      rfl
    rw [hfrom, symbolFrom, hfirst]
    dsimp only
    rw [if_pos (show isDigitUnit first = true from hdigit), if_pos hlen]
  show getSymbolImage symbols units = _
  rw [getSymbolImage, hplaces, Option.bind_some, htable, hcode]

end Stamped

/-! ## Beacons -/

theorem jsString_symbolString_ne_nil (symbol : Option String) :
    jsString (symbolString symbol).toList ≠ [] := by
  have hsingle : ∀ c : Char, jsString (String.singleton c).toList ≠ [] := by
    intro c
    rw [String.toList_singleton, jsString, List.flatMap_singleton, jsUnits]
    split <;> exact List.cons_ne_nil _ _
  unfold symbolString
  split
  · split
    · exact hsingle _
    · exact hsingle '0'
  · exact hsingle '0'

/-- The beacon of a place as the page takes it apart. -/
theorem beaconInfo_units (utc : Int) (p : Place) (source : PositionSource)
    (callsign name : String) (symbol overlay : Option String) (dao : DaoMode) {table : Nat}
    (htable : jsString (overlayString symbol overlay).toList = [table]) :
    ∃ text stamp code rest,
      positpacket utc (p.location source) callsign name symbol overlay dao = .ok text ∧
        stamp.length = 7 ∧ (jsString (symbolString symbol).toList).head? = some code ∧
        jsString (beaconInfo callsign text) = stampedUnits stamp
          ((beaconAxis 2 'N' 'S' p.lat (by decide) (lat_deg_lt p)).number.map Char.toNat)
          ((beaconAxis 3 'E' 'W' p.lon (by decide) (lon_deg_lt p)).number.map Char.toNat) rest
          (latDirection p).toNat table (lonDirection p).toNat code := by
  obtain ⟨text, htext, hinfo⟩ :=
    positpacket_place utc p source callsign name symbol overlay dao
  have hdirLat : (latDirection p).toNat < 0x10000 := by
    rw [latDirection]
    split <;> decide
  have hdirLon : (lonDirection p).toNat < 0x10000 := by
    rw [lonDirection]
    split <;> decide
  have hlat : jsString (latText p) =
      (beaconAxis 2 'N' 'S' p.lat (by decide) (lat_deg_lt p)).number.map Char.toNat ++
        [(latDirection p).toNat] := by
    rw [latText, jsString_eq_map (axisString_units hdirLat), axisString_beaconAxis,
      List.map_append, List.map_cons, List.map_nil]
  have hlon : jsString (lonText p) =
      (beaconAxis 3 'E' 'W' p.lon (by decide) (lon_deg_lt p)).number.map Char.toNat ++
        [(lonDirection p).toNat] := by
    rw [lonText, jsString_eq_map (axisString_units hdirLon), axisString_beaconAxis,
      List.map_append, List.map_cons, List.map_nil]
  obtain ⟨code, codes, hcode⟩ : ∃ code codes, jsString (symbolString symbol).toList =
      code :: codes :=
    List.exists_cons_of_ne_nil (jsString_symbolString_ne_nil symbol)
  obtain ⟨stamp, hstamp⟩ : ∃ stamp, timeText utc = '/' :: stamp := by
    simp only [timeText, List.cons_append, List.nil_append]
    exact ⟨_, rfl⟩
  have hlen : stamp.length = 7 := by
    have hlength := length_timeText utc
    rw [hstamp, List.length_cons] at hlength
    omega
  have htime : jsString (timeText utc) = '/'.toNat :: stamp.map Char.toNat := by
    rw [jsString_eq_map (timeText_units utc), hstamp, List.map_cons]
  have hcomment : ∃ tail, jsString (commentText p name symbol) = code :: tail := by
    refine ⟨codes ++ jsString ("/A=".toList ++ ((zeroPad 6 (F64.display0 p.alt)).toList ++
      name.toList)), ?_⟩
    rw [commentText, List.append_assoc, List.append_assoc, jsString_append, hcode,
      List.cons_append]
  obtain ⟨tail, htail⟩ := hcomment
  refine ⟨text, stamp.map Char.toNat, code, tail ++ jsString (daoText p dao), htext,
    ?_, by rw [hcode, List.head?_cons], ?_⟩
  · rw [List.length_map, hlen]
  · rw [hinfo, jsString_append, jsString_append, jsString_append, jsString_append, jsString_append,
      htime, hlat, htable, hlon, htail]
    simp only [stampedUnits, List.append_assoc, List.cons_append, List.nil_append]

/-- The page reads the position of a beacon to a hundredth of a minute, and shows its overlay
and its symbol. -/
theorem page_reads_beacon (utc : Int) (p : Place) (source : PositionSource)
    (callsign name : String) (symbol overlay : Option String) (dao : DaoMode) {table : Nat}
    (htable : jsString (overlayString symbol overlay).toList = [table]) :
    ∃ text lat lon code,
      positpacket utc (p.location source) callsign name symbol overlay dao = .ok text ∧
        parsePosition (jsString (beaconInfo callsign text)) = some (lat, lon) ∧
        Near p.lat lat ∧ Near p.lon lon ∧
        (jsString (symbolString symbol).toList).head? = some code ∧
        ∀ symbols, getSymbolImage symbols (jsString (beaconInfo callsign text)) =
          symbolImage symbols table code := by
  obtain ⟨text, stamp, code, rest, htext, hstamp, hcode, hunits⟩ :=
    beaconInfo_units utc p source callsign name symbol overlay dao htable
  let lat := beaconAxis 2 'N' 'S' p.lat (by decide) (lat_deg_lt p)
  let lon := beaconAxis 3 'E' 'W' p.lon (by decide) (lon_deg_lt p)
  have hlatLen : (lat.number.map Char.toNat).length = 7 := by
    rw [List.length_map, AxisField.length_number]
  have hlonLen : (lon.number.map Char.toNat).length = 8 := by
    rw [List.length_map, AxisField.length_number]
  have hdigit : (lat.number.map Char.toNat).head?.any isDigitUnit = true := by
    obtain ⟨c, cs, hdegs⟩ := List.exists_cons_of_length_eq_add_one lat.length_degs
    have hc : isDigitUnit c.toNat = true :=
      isDigitUnit_of_isDigit (lat.digit_degs c (hdegs ▸ List.mem_cons_self))
    rw [AxisField.number, hdegs]
    exact hc
  have hlat : parseDDMM (lat.number.map Char.toNat) (some (latDirection p).toNat) =
      some (lat.value : ℚ) := by
    have hread := lat.parseDDMM_number (F := ℚ) (by decide) (by
      rw [AxisField.direction]
      cases lat.negated <;> decide)
    rwa [beaconAxis_direction] at hread
  have hlon : parseDDMM (lon.number.map Char.toNat) (some (lonDirection p).toNat) =
      some (lon.value : ℚ) := by
    have hread := lon.parseDDMM_number (F := ℚ) (by decide) (by
      rw [AxisField.direction]
      cases lon.negated <;> decide)
    rwa [beaconAxis_direction] at hread
  refine ⟨text, lat.value, lon.value, code, htext, ?_, near_beaconAxis, near_beaconAxis, hcode, ?_⟩
  · rw [hunits]
    exact parsePosition_stamped _ _ _ _ _ _ _ hstamp hdigit hlatLen hlonLen hlat hlon
  · intro symbols
    rw [hunits]
    exact getSymbolImage_stamped _ _ _ _ _ _ _ symbols hstamp hdigit hlatLen hlonLen

theorem page_reads_beacon_sample :
    ∃ text lat lon code,
      positpacket 0 (belowDegree.location .config) "N0CALL" "" none none .off = .ok text ∧
        parsePosition (jsString (beaconInfo "N0CALL" text)) = some (lat, lon) ∧
        Near belowDegree.lat lat ∧ Near belowDegree.lon lon ∧
        (jsString (symbolString none).toList).head? = some code ∧
        ∀ symbols, getSymbolImage symbols (jsString (beaconInfo "N0CALL" text)) =
          symbolImage symbols '/'.toNat code :=
  page_reads_beacon 0 belowDegree .config "N0CALL" "" none none .off (by decide +kernel)

end Page
end Rtpigate
