/-
Beacon positions read back.

A receiver finds the axes of a beacon at fixed places behind its header and reads degrees,
minutes and hundredths, and the digits of the `!DAO!` token at the end.  The position it
gets is the station's, short by less than the last unit written.
-/
import Rtpigate.Beacon.Axis

namespace Rtpigate

open Exact

/-- A position within the legal ranges, which `positpacket` does not check, and with the
values it asks for. -/
structure Place where
  lat : ℚ
  lon : ℚ
  alt : ℚ
  lat_range : -90 ≤ lat ∧ lat ≤ 90
  lon_range : -180 ≤ lon ∧ lon ≤ 180
  lat_ne : lat ≠ 0
  lon_ne : lon ≠ 0
  alt_pos : 0 < alt

def Place.location (p : Place) (source : PositionSource) : Location ℚ :=
  { lat := some p.lat, lon := some p.lon, alt := some p.alt, source := source }

/-! ## Reading a beacon -/

/-- An axis as a receiver reads it. -/
structure AxisReading where
  deg : Nat
  min : Nat
  hund : Nat
  direction : Char
  /-- The character in the token. -/
  extra : Char

def AxisReading.sign (r : AxisReading) : Option SignType :=
  if r.direction = 'N' ∨ r.direction = 'E' then some SignType.pos
  else if r.direction = 'S' ∨ r.direction = 'W' then some SignType.neg
  else none

/-- The magnitude in minutes. -/
def AxisReading.minutes (dao : DaoMode) (r : AxisReading) : ℚ :=
  (r.deg : ℚ) * 60 + r.min + (r.hund : ℚ) / 100 + daoMinutes dao r.extra

/-- Degrees in `width` digits, two digits of minutes, a point, two of hundredths and
the direction. -/
def readAxis (width : Nat) (field : List Char) (extra : Char) : Option AxisReading :=
  match readNat (field.take width), readNat ((field.drop width).take 2),
      readNat ((field.drop (width + 3)).take 2), field.drop (width + 5) with
  | some deg, some min, some hund, [direction] =>
    if (field.drop (width + 2)).head? = some '.' then
      some { deg := deg, min := min, hund := hund, direction := direction, extra := extra }
    else none
  | _, _, _, _ => none

/-- The two characters of a token behind its datum. -/
def tokenBody (datum : Char) : List Char → Option (Char × Char)
  | [opening, d, y, x, closing] =>
    if opening = '!' ∧ d = datum ∧ closing = '!' then some (y, x) else none
  | _ => none

/-- The token is the last five characters.  Blanks stand for a token that is not there. -/
def readDao (dao : DaoMode) (text : List Char) : Option (Char × Char) :=
  match dao with
  | .off => some (' ', ' ')
  | .human => tokenBody 'W' (text.drop (text.length - 5))
  | .base91 => tokenBody 'w' (text.drop (text.length - 5))

def beaconHeader (callsign : String) : String := callsign ++ ">" ++ TOCALL ++ ",TCPIP*:"

/-- The information field: from the data type on. -/
def beaconInfo (callsign text : String) : List Char :=
  text.toList.drop (beaconHeader callsign).toList.length

/-- Behind the data type and seven characters of time. -/
def latField (info : List Char) : List Char := (info.drop 8).take 8

def lonField (overlay : String) (info : List Char) : List Char :=
  (info.drop (8 + 8 + overlay.toList.length)).take 9

/-- The axes of a beacon, latitude first.  The receiver knows the callsign and the length of
the overlay. -/
def readBeacon (callsign overlay : String) (dao : DaoMode) (text : String) :
    Option (AxisReading × AxisReading) :=
  let info := beaconInfo callsign text
  match readDao dao info with
  | none => none
  | some (y, x) =>
    match readAxis 2 (latField info) y, readAxis 3 (lonField overlay info) x with
    | some lat, some lon => some (lat, lon)
    | _, _ => none

/-! ## Writing a beacon -/

section Writing

variable (utc : Int) (p : Place) (source : PositionSource) (callsign name : String)
  (symbol overlay : Option String) (dao : DaoMode)

def latDirection : Char := if 0 ≤ p.lat then 'N' else 'S'

def lonDirection : Char := if 0 ≤ p.lon then 'E' else 'W'

def latText : List Char :=
  (axisString 2 (axisParts p.lat) (String.singleton (latDirection p))).toList

def lonText : List Char :=
  (axisString 3 (axisParts p.lon) (String.singleton (lonDirection p))).toList

def timeText : List Char :=
  let seconds := (utc % 86400).toNat
  ['/'] ++ (natPad 2 (seconds / 3600)).toList ++ (natPad 2 (seconds / 60 % 60)).toList ++
    (natPad 2 (seconds % 60)).toList ++ ['h']

def commentText : List Char :=
  (symbolString symbol).toList ++ "/A=".toList ++
    (zeroPad 6 (F64.display0 p.alt)).toList ++ name.toList

def daoText : List Char :=
  (daoString dao (axisParts p.lat) (axisParts p.lon)).toList

theorem accepted (p : Place) :
    (F64.le p.alt 0.0 || p.lat == 0.0 || p.lon == 0.0) = false := by
  have hzero : (0.0 : ℚ) = 0 := by norm_num
  rw [hzero, Bool.or_eq_false_iff, Bool.or_eq_false_iff, le_eq, decide_eq_false_iff_not, not_le]
  exact ⟨⟨p.alt_pos, beq_false_of_ne p.lat_ne⟩, beq_false_of_ne p.lon_ne⟩

/-- The report of a place, in its parts. -/
theorem positpacket_place : ∃ text,
    positpacket utc (p.location source) callsign name symbol overlay dao = .ok text ∧
      beaconInfo callsign text =
        timeText utc ++ (latText p ++ ((overlayString symbol overlay).toList ++
          (lonText p ++ (commentText p name symbol ++ daoText p dao)))) := by
  refine ⟨_, if_neg (by rw [accepted p]; exact Bool.false_ne_true), ?_⟩
  have hzero : (0.0 : ℚ) = 0 := by norm_num
  have hlat : (if F64.le 0.0 p.lat then "N" else "S") = String.singleton (latDirection p) := by
    rw [hzero, le_eq, latDirection]
    by_cases h : 0 ≤ p.lat <;> simp [h]
  have hlon : (if F64.le 0.0 p.lon then "E" else "W") = String.singleton (lonDirection p) := by
    rw [hzero, le_eq, lonDirection]
    by_cases h : 0 ≤ p.lon <;> simp [h]
  have hhead : (",TCPIP*:/").toList = (",TCPIP*:").toList ++ ['/'] := by decide
  have hmark : ("h").toList = ['h'] := by decide
  rw [beaconInfo, hlat, hlon]
  simp only [beaconHeader, timeText, latText, lonText, commentText, daoText, String.toList_append,
    hhead, hmark]
  generalize hhdr : callsign.toList ++ ">".toList ++ TOCALL.toList ++ ",TCPIP*:".toList = header
  simp only [← List.append_assoc, hhdr]
  simp only [List.append_assoc, List.drop_left]

end Writing

theorem axisString_toList (width : Nat) (a : AxisParts ℚ) (direction : Char) :
    (axisString width a (String.singleton direction)).toList =
      (natPad width a.deg).toList ++ ((natPad 2 (a.hund / 100)).toList ++
        ('.' :: ((natPad 2 (a.hund % 100)).toList ++ [direction]))) := by
  have hpoint : (".").toList = ['.'] := by decide
  simp only [axisString, String.toList_append, hpoint, String.toList_singleton, List.append_assoc,
    List.cons_append, List.nil_append]

theorem readAxis_parts {degs mins hunds : List Char} {deg min hund : Nat}
    (hdegs : readNat degs = some deg) (hmins : readNat mins = some min)
    (hhunds : readNat hunds = some hund) (hlenMins : mins.length = 2)
    (hlenHunds : hunds.length = 2) (direction extra : Char) :
    readAxis degs.length (degs ++ (mins ++ ('.' :: (hunds ++ [direction])))) extra =
      some { deg := deg, min := min, hund := hund, direction := direction, extra := extra } := by
  obtain ⟨m₁, m₂, rfl⟩ := List.length_eq_two.mp hlenMins
  obtain ⟨h₁, h₂, rfl⟩ := List.length_eq_two.mp hlenHunds
  have hdrop : ∀ k, (degs ++ ([m₁, m₂] ++ '.' :: ([h₁, h₂] ++ [direction]))).drop
      (degs.length + k) = ([m₁, m₂] ++ '.' :: ([h₁, h₂] ++ [direction])).drop k := by
    intro k
    rw [List.drop_append, List.drop_eq_nil_of_le (by omega), Nat.add_sub_cancel_left,
      List.nil_append]
  have hstart := hdrop 0
  rw [Nat.add_zero] at hstart
  have hmins' : readNat ((([m₁, m₂] ++ '.' :: ([h₁, h₂] ++ [direction])).drop 0).take 2) =
      some min := hmins
  have hhunds' : readNat ((([m₁, m₂] ++ '.' :: ([h₁, h₂] ++ [direction])).drop 3).take 2) =
      some hund := hhunds
  rw [readAxis, List.take_left, hstart, hdrop 2, hdrop 3, hdrop 5, hdegs, hmins', hhunds']
  exact if_pos rfl

section Axis

variable {width : Nat} {a : AxisParts ℚ}

theorem length_axisString (hw : 0 < width) (hdeg : a.deg < 10 ^ width) (hhund : a.hund ≤ 6000)
    (direction : Char) :
    (axisString width a (String.singleton direction)).toList.length = width + 6 := by
  rw [axisString_toList]
  simp only [List.length_append, List.length_cons, List.length_nil]
  rw [length_natPad hw hdeg, length_natPad (by omega) (by omega),
    length_natPad (by omega) (by omega)]

theorem readAxis_axisString (hw : 0 < width) (hdeg : a.deg < 10 ^ width) (hhund : a.hund ≤ 6000)
    (direction extra : Char) :
    readAxis width (axisString width a (String.singleton direction)).toList extra =
      some { deg := a.deg, min := a.hund / 100, hund := a.hund % 100, direction := direction,
             extra := extra } := by
  have hread := readAxis_parts (readNat_natPad width a.deg) (readNat_natPad 2 (a.hund / 100))
    (readNat_natPad 2 (a.hund % 100)) (length_natPad (by omega) (by omega))
    (length_natPad (by omega) (by omega)) direction extra
  rw [length_natPad hw hdeg] at hread
  rw [axisString_toList]
  exact hread

end Axis

/-! ## Precision -/

/-- The axis read is the true one, short by less than the last unit.  The nudge may put it
past the true one by a hundred-millionth of a minute. -/
structure Precise (dao : DaoMode) (x : ℚ) (r : AxisReading) : Prop where
  sign : r.sign = some (SignType.sign x)
  lower : -1e-8 ≤ |x| * 60 - r.minutes dao
  upper : |x| * 60 - r.minutes dao < daoUnit dao

/-- The axis as it is written, with its character in the token. -/
def axisReading (dao : DaoMode) (x : ℚ) (direction : Char) : AxisReading :=
  { deg := (axisParts x).deg, min := (axisParts x).hund / 100, hund := (axisParts x).hund % 100,
    direction := direction, extra := daoChar dao (axisParts x).rem }

theorem axisReading_minutes (dao : DaoMode) (x : ℚ) (direction : Char) :
    |x| * 60 - (axisReading dao x direction).minutes dao =
      degreeMinutes x - (axisParts x).hund / 100 -
        daoMinutes dao (daoChar dao (axisParts x).rem) := by
  have hsplit : ((axisParts x).hund : ℚ) = 100 * ((axisParts x).hund / 100 : Nat) +
      ((axisParts x).hund % 100 : Nat) := by
    exact_mod_cast (Nat.div_add_mod _ 100).symm
  rw [abs_mul_sixty, AxisReading.minutes, axisReading]
  linarith

theorem axisReading_bounds (dao : DaoMode) (x : ℚ) (direction : Char) :
    -1e-8 ≤ |x| * 60 - (axisReading dao x direction).minutes dao ∧
      |x| * 60 - (axisReading dao x direction).minutes dao < daoUnit dao := by
  have hunit : 0 < daoUnit dao := by
    cases dao <;> norm_num [daoUnit]
  rw [axisReading_minutes]
  obtain ⟨hlt, ⟨hnonneg, hrest⟩ | ⟨hzero, hpast, hnudge⟩⟩ := rem_cases x
  · have hbounds := daoMinutes_bounds dao hnonneg hlt
    rwa [← hrest, add_sub_cancel_left]
  · rw [hzero, daoMinutes_zero, sub_zero]
    exact ⟨by linarith, by linarith⟩

/-! ## Where the fields lie -/

section Fields

variable (utc : Int) (p : Place) (callsign name : String) (symbol overlay : Option String)
  (dao : DaoMode)

theorem length_timeText : (timeText utc).length = 8 := by
  have hlt : (utc % 86400).toNat < 86400 := by omega
  simp only [timeText, List.length_append, List.length_singleton]
  rw [length_natPad (by omega) (by omega), length_natPad (by omega) (by omega),
    length_natPad (by omega) (by omega)]

theorem deg_lt {x : ℚ} {bound : Nat} (h : |x| < bound) : (axisParts x).deg < bound := by
  have hle : ((axisParts x).deg : ℚ) ≤ |x| := by
    rw [axisParts_deg, natCast_toNat_floor (abs_nonneg x)]
    exact Int.floor_le _
  exact_mod_cast hle.trans_lt h

theorem lat_deg_lt : (axisParts p.lat).deg < 10 ^ 2 := by
  have habs : |p.lat| ≤ 90 := abs_le.mpr p.lat_range
  refine deg_lt ?_
  norm_num
  linarith

theorem lon_deg_lt : (axisParts p.lon).deg < 10 ^ 3 := by
  have habs : |p.lon| ≤ 180 := abs_le.mpr p.lon_range
  refine deg_lt ?_
  norm_num
  linarith

theorem length_latText : (latText p).length = 8 :=
  length_axisString (by omega) (lat_deg_lt p) (hund_le _) _

theorem length_lonText : (lonText p).length = 9 :=
  length_axisString (by omega) (lon_deg_lt p) (hund_le _) _

theorem latField_info (rest : List Char) :
    latField (timeText utc ++ (latText p ++ rest)) = latText p := by
  rw [latField, ← length_timeText utc, List.drop_left, length_timeText, ← length_latText p,
    List.take_left]

theorem lonField_info (overlay : String) (rest : List Char) :
    lonField overlay (timeText utc ++ (latText p ++ (overlay.toList ++ (lonText p ++ rest)))) =
      lonText p := by
  have hsplit : timeText utc ++ (latText p ++ (overlay.toList ++ (lonText p ++ rest))) =
      (timeText utc ++ latText p ++ overlay.toList) ++ (lonText p ++ rest) := by
    simp only [List.append_assoc]
  have hlen : (timeText utc ++ latText p ++ overlay.toList).length =
      8 + 8 + overlay.toList.length := by
    rw [List.length_append, List.length_append, length_timeText, length_latText]
  rw [lonField, hsplit, ← hlen, List.drop_left, ← length_lonText p, List.take_left]

theorem rem_range (x : ℚ) : 0 ≤ (axisParts x).rem ∧ (axisParts x).rem < 1 / 100 := by
  obtain ⟨hlt, ⟨hnonneg, -⟩ | ⟨hzero, -⟩⟩ := rem_cases x
  · exact ⟨hnonneg, hlt⟩
  · exact ⟨hzero.ge, hlt⟩

theorem repr_daoDigit (x : ℚ) :
    (Nat.repr (daoDigit (axisParts x).rem)).toList = [daoChar .human (axisParts x).rem] := by
  obtain ⟨hten, -⟩ := daoDigit_bounds (rem_range x).1 (rem_range x).2
  rw [Nat.toList_repr, Nat.toDigits_of_lt_base hten, daoChar]

theorem daoText_human :
    daoText p .human = ['!', 'W', daoChar .human (axisParts p.lat).rem,
      daoChar .human (axisParts p.lon).rem, '!'] := by
  have hopen : ("!W").toList = ['!', 'W'] := by decide
  have hclose : ("!").toList = ['!'] := by decide
  simp only [daoText, daoString, String.toList_append, hopen, hclose, repr_daoDigit,
    List.cons_append, List.nil_append]

theorem daoText_base91 :
    daoText p .base91 = ['!', 'w', daoChar .base91 (axisParts p.lat).rem,
      daoChar .base91 (axisParts p.lon).rem, '!'] := by
  have hopen : ("!w").toList = ['!', 'w'] := by decide
  have hclose : ("!").toList = ['!'] := by decide
  simp only [daoText, daoString, String.toList_append, hopen, hclose, String.toList_singleton,
    List.cons_append, List.nil_append, daoChar]

theorem readDao_info (front : List Char) :
    readDao dao (front ++ daoText p dao) =
      some (daoChar dao (axisParts p.lat).rem, daoChar dao (axisParts p.lon).rem) := by
  have hlast : ∀ token : List Char, token.length = 5 →
      (front ++ token).drop ((front ++ token).length - 5) = token := by
    intro token htoken
    rw [List.length_append, htoken, Nat.add_sub_cancel, List.drop_left]
  cases dao with
  | off => rfl
  | human =>
    rw [daoText_human, readDao, hlast _ rfl]
    rw [tokenBody, if_pos ⟨rfl, rfl, rfl⟩]
  | base91 =>
    rw [daoText_base91, readDao, hlast _ rfl]
    rw [tokenBody, if_pos ⟨rfl, rfl, rfl⟩]

end Fields

/-! ## Precision of a beacon -/

theorem axisReading_sign (dao : DaoMode) {x : ℚ} (hx : x ≠ 0) {positive negative : Char}
    (hpos : positive = 'N' ∨ positive = 'E') (hneg : negative = 'S' ∨ negative = 'W') :
    (axisReading dao x (if 0 ≤ x then positive else negative)).sign =
      some (SignType.sign x) := by
  rw [AxisReading.sign, axisReading]
  by_cases h : 0 ≤ x
  · have hxpos : 0 < x := lt_of_le_of_ne h hx.symm
    rw [if_pos h, if_pos hpos, sign_pos hxpos]
    rfl
  · have hother : ¬ (negative = 'N' ∨ negative = 'E') := by
      rcases hneg with rfl | rfl <;> decide
    rw [if_neg h, if_neg hother, if_pos hneg, sign_neg (not_le.mp h)]
    rfl

/-- A receiver of a beacon gets the station's position to the last unit of the mode. -/
theorem beacon_precise (utc : Int) (p : Place) (source : PositionSource) (callsign name : String)
    (symbol overlay : Option String) (dao : DaoMode) :
    ∃ text lat lon,
      positpacket utc (p.location source) callsign name symbol overlay dao = .ok text ∧
        readBeacon callsign (overlayString symbol overlay) dao text = some (lat, lon) ∧
        Precise dao p.lat lat ∧ Precise dao p.lon lon := by
  obtain ⟨text, htext, hinfo⟩ :=
    positpacket_place utc p source callsign name symbol overlay dao
  have hlat := readAxis_axisString (a := axisParts p.lat) (by omega) (lat_deg_lt p) (hund_le p.lat)
    (latDirection p) (daoChar dao (axisParts p.lat).rem)
  have hlon := readAxis_axisString (a := axisParts p.lon) (by omega) (lon_deg_lt p) (hund_le p.lon)
    (lonDirection p) (daoChar dao (axisParts p.lon).rem)
  have hdao := readDao_info p dao (timeText utc ++ (latText p ++
    ((overlayString symbol overlay).toList ++ (lonText p ++ commentText p name symbol))))
  simp only [List.append_assoc] at hdao
  refine ⟨text, axisReading dao p.lat (latDirection p), axisReading dao p.lon (lonDirection p),
    htext, ?_, ?_, ?_⟩
  · unfold readBeacon
    simp only [hinfo, hdao, latField_info, lonField_info]
    rw [latText, lonText, hlat, hlon]
    rfl
  · obtain ⟨hlo, hhi⟩ := axisReading_bounds dao p.lat (latDirection p)
    exact ⟨axisReading_sign dao p.lat_ne (Or.inl rfl) (Or.inl rfl), hlo, hhi⟩
  · obtain ⟨hlo, hhi⟩ := axisReading_bounds dao p.lon (lonDirection p)
    exact ⟨axisReading_sign dao p.lon_ne (Or.inr rfl) (Or.inr rfl), hlo, hhi⟩

end Rtpigate
