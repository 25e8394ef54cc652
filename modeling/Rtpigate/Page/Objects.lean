/-
Object reports on the page.

The page takes the position and the symbol of a report from its text.  In an object report
they stand behind a name, a marker and a time stamp.  The page looks for the marker by its
character, which the name and the comment may have too.
-/
import Rtpigate.Beacon.Legal

namespace Rtpigate
namespace Page

variable {F : Type} [F64 F]

/-! ## Numbers -/

def isDigitUnit (u : Nat) : Bool := '0'.toNat ≤ u && u ≤ '9'.toNat

/-- White space and line terminators. -/
def isWhiteUnit (u : Nat) : Bool :=
  (0x9 ≤ u && u ≤ 0xD) || (0x2000 ≤ u && u ≤ 0x200A) ||
    [0x20, 0xA0, 0x1680, 0x2028, 0x2029, 0x202F, 0x205F, 0x3000, 0xFEFF].contains u

def unitsToNat (ds : List Nat) : Nat := ds.foldl (fun n d => 10 * n + (d - '0'.toNat)) 0

/-- The number nearest to `m * 10 ^ e`. -/
def decimal (m : Nat) (e : Int) : F := OfScientific.ofScientific m (decide (e < 0)) e.natAbs

/-- Whether there is a minus, and what is behind the sign. -/
def splitSign (s : List Nat) : Bool × List Nat :=
  if s.head? = some '-'.toNat then (true, s.tail)
  else if s.head? = some '+'.toNat then (false, s.tail)
  else (false, s)

/-- The exponent behind the digits, 0 if there is none. -/
def exponentPart (s : List Nat) : Int :=
  if s.head? = some 'e'.toNat ∨ s.head? = some 'E'.toNat then
    let (neg, digits) := splitSign s.tail
    let n : Int := unitsToNat (digits.takeWhile isDigitUnit)
    if neg then -n else n
  else 0

/-- Digits, a point with digits, and an exponent.  There is a digit at least. -/
def decimalLiteral (s : List Nat) : Option F :=
  let whole := s.takeWhile isDigitUnit
  let rest := s.dropWhile isDigitUnit
  let point := rest.head? = some '.'.toNat
  let fraction := if point then rest.tail.takeWhile isDigitUnit else []
  let after := if point then rest.tail.dropWhile isDigitUnit else rest
  if whole ++ fraction = [] then none
  else some (decimal (unitsToNat (whole ++ fraction)) (exponentPart after - fraction.length))

def unsignedFloat (s : List Nat) : Option F :=
  if (jsString "Infinity".toList).isPrefixOf s then some (1.0 / 0.0) else decimalLiteral s

/-- The number a text begins with, `none` for NaN. -/
def parseFloat (s : List Nat) : Option F :=
  let (neg, magnitude) := splitSign (s.dropWhile isWhiteUnit)
  (unsignedFloat magnitude).map fun x => if neg then -x else x

/-! ## Positions -/

def parseDDMM (ddmm : List Nat) (dir : Option Nat) : Option F :=
  if ddmm.length < 4 then none
  else
    match ddmm.idxOf? '.'.toNat with
    | none => none
    | some dotIdx =>
      if dotIdx < 2 then none
      else
        let degLen := dotIdx - 2
        match (parseFloat (ddmm.take degLen) : Option F),
            (parseFloat (ddmm.drop degLen) : Option F) with
        | some deg, some min =>
          let result := deg + min / 60.0
          some (if dir = some 'S'.toNat ∨ dir = some 'W'.toNat then -result else result)
        | _, _ => none

def parseCompressedPos (s : List Nat) : Option (F × F) :=
  if s.length < 12 then none
  else
    let digits := ((s.drop 1).take 8).map fun u => u - 33
    let value (ds : List Nat) : Nat := ds.foldl (fun n d => 91 * n + d) 0
    if ((s.drop 1).take 8).all (33 ≤ ·) then
      some (90.0 - (value (digits.take 4) : F) / 380926.0,
        -180.0 + (value (digits.drop 4) : F) / 190463.0)
    else none

/-- The fields of an uncompressed position. -/
def uncompressedPos (posStr : List Nat) : Option (F × F) :=
  if 18 ≤ posStr.length then
    match (parseDDMM (posStr.take 7) posStr[7]? : Option F),
        (parseDDMM ((posStr.drop 9).take 8) posStr[17]? : Option F) with
    | some lat, some lon => some (lat, lon)
    | _, _ => none
  else none

/-- A position, which begins with a digit if it is not compressed. -/
def posFrom (posStr : List Nat) : Option (F × F) :=
  if posStr.head?.any isDigitUnit then uncompressedPos posStr else parseCompressedPos posStr

/-- `starIdx`: the first star, or else the first underscore. -/
def markerIdx (info : List Nat) : Option Nat :=
  (info.idxOf? '*'.toNat).or (info.idxOf? '_'.toNat)

def parsePosition (info : List Nat) : Option (F × F) :=
  match info with
  | [] | [_] => none
  | dataType :: _ =>
    if dataType = '!'.toNat ∨ dataType = '='.toNat then posFrom (info.drop 1)
    else if dataType = '/'.toNat ∨ dataType = '@'.toNat then posFrom (info.drop 8)
    else if dataType = ';'.toNat then
      (markerIdx info).bind fun starIdx => uncompressedPos (info.drop (starIdx + 8))
    else none

/-! ## Symbols -/

/-- Where the two characters of a symbol are in the text. -/
structure SymbolPlaces where
  table : Nat
  code : Nat
  deriving DecidableEq, Repr

/-- The places in a position that begins at `posStart`. -/
def symbolFrom (info : List Nat) (posStart : Nat) : Option SymbolPlaces :=
  match info[posStart]? with
  | none => none
  | some posChar =>
    if isDigitUnit posChar then
      if posStart + 19 ≤ info.length then some ⟨posStart + 8, posStart + 18⟩ else none
    else if posStart + 10 ≤ info.length then some ⟨posStart, posStart + 9⟩
    else none

/-- `tableChar` and `symbolChar` by their places, `none` if either is missing. -/
def symbolPlaces (info : List Nat) : Option SymbolPlaces :=
  match info with
  | [] | [_] => none
  | dataType :: _ =>
    if dataType = '!'.toNat ∨ dataType = '='.toNat then symbolFrom info 1
    else if dataType = '/'.toNat ∨ dataType = '@'.toNat then symbolFrom info 8
    else if dataType = 0x60 ∨ dataType = 0x27 then
      if 9 ≤ info.length then some ⟨8, 7⟩ else none
    else if dataType = ';'.toNat then
      (markerIdx info).bind fun starIdx => symbolFrom info (starIdx + 8)
    else none

/-- The file of a symbol.  `symbols` gives the identity of an entry. -/
def symbolImage (symbols : List Nat → Option (List Nat)) (tableChar symbolChar : Nat) :
    Option (List Nat) :=
  let png (filename : List Nat) :=
    jsString "/assets/aprssymbols/".toList ++ filename ++ jsString ".png".toList
  if tableChar ≠ '/'.toNat ∧ tableChar ≠ '\\'.toNat then
    (symbols ['\\'.toNat, symbolChar]).map fun identity =>
      png (tableChar :: '-'.toNat :: identity)
  else (symbols [tableChar, symbolChar]).map png

def getSymbolImage (symbols : List Nat → Option (List Nat)) (info : List Nat) :
    Option (List Nat) :=
  (symbolPlaces info).bind fun places =>
    match info[places.table]?, info[places.code]? with
    | some tableChar, some symbolChar => symbolImage symbols tableChar symbolChar
    | _, _ => none

/-! ## Reports -/

/-- Degrees in `width` digits, minutes and hundredths in two, and a direction.  Digits that
are blank, as in a position of less precision, are not covered. -/
structure AxisField (width : Nat) (positive negative : Char) where
  degs : List Char
  mins : List Char
  hunds : List Char
  negated : Bool
  length_degs : degs.length = width
  length_mins : mins.length = 2
  length_hunds : hunds.length = 2
  digits : ∀ c ∈ degs ++ (mins ++ hunds), c.isDigit = true

namespace AxisField

variable {width : Nat} {positive negative : Char}

def number (a : AxisField width positive negative) : List Char :=
  a.degs ++ (a.mins ++ '.' :: a.hunds)

def direction (a : AxisField width positive negative) : Char :=
  if a.negated then negative else positive

/-- The encoded coordinate. -/
def value (a : AxisField width positive negative) : F :=
  let magnitude : F := decimal (Nat.ofDigitChars 10 a.degs 0) 0 +
    decimal (Nat.ofDigitChars 10 (a.mins ++ a.hunds) 0) (-2) / 60.0
  if a.negated then -magnitude else magnitude

end AxisField

/-- An object report with an uncompressed position.  The time stamp and the symbol are of
characters that take one unit each. -/
structure ObjectReport where
  name : List Char
  killed : Bool
  timestamp : List Char
  lat : AxisField 2 'N' 'S'
  table : Char
  lon : AxisField 3 'E' 'W'
  code : Char
  comment : List Char
  length_name : name.length = 9
  length_timestamp : timestamp.length = 7
  units : ∀ c ∈ table :: code :: timestamp, c.toNat < 0x10000

namespace ObjectReport

def marker (o : ObjectReport) : Char := if o.killed then '_' else '*'

def position (o : ObjectReport) : List Char :=
  o.lat.number ++ o.lat.direction :: o.table :: (o.lon.number ++ [o.lon.direction, o.code])

def info (o : ObjectReport) : List Char :=
  ';' :: o.name ++ o.marker :: (o.timestamp ++ (o.position ++ o.comment))

/-- Where the position begins in the text. -/
def posStart (o : ObjectReport) : Nat := (jsString (';' :: o.name)).length + 8

/-- The page gives the coordinates of the report, and takes the symbol from its place. -/
structure ReadInPlace (F : Type) [F64 F] (o : ObjectReport) : Prop where
  position : parsePosition (jsString o.info) = some ((o.lat.value : F), (o.lon.value : F))
  places : symbolPlaces (jsString o.info) = some ⟨o.posStart + 8, o.posStart + 18⟩
  image : ∀ symbols, getSymbolImage symbols (jsString o.info) =
    symbolImage symbols o.table.toNat o.code.toNat

/-- The character that the page finds is the marker. -/
def MarkerFound (o : ObjectReport) : Prop :=
  if o.killed then '*' ∉ o.info ∧ '_' ∉ o.name else '*' ∉ o.name

instance (o : ObjectReport) : Decidable o.MarkerFound :=
  inferInstanceAs (Decidable (if o.killed then '*' ∉ o.info ∧ '_' ∉ o.name else '*' ∉ o.name))

end ObjectReport

/-! ## Numbers of digits -/

theorem isDigitUnit_of_isDigit {c : Char} (h : c.isDigit = true) : isDigitUnit c.toNat = true := by
  obtain ⟨hlow, hhigh⟩ := toNat_lt_of_isDigit h
  rw [isDigitUnit, Bool.and_eq_true, decide_eq_true_eq, decide_eq_true_eq]
  exact ⟨hlow, hhigh⟩

theorem unitsToNat_map (cs : List Char) :
    unitsToNat (cs.map Char.toNat) = Nat.ofDigitChars 10 cs 0 := List.foldl_map

/-- A text that begins with a digit is read as a literal at once. -/
theorem parseFloat_of_digit {u : Nat} (hu : isDigitUnit u = true) (rest : List Nat) :
    (parseFloat (u :: rest) : Option F) = decimalLiteral (u :: rest) := by
  rw [isDigitUnit, Bool.and_eq_true, decide_eq_true_eq, decide_eq_true_eq] at hu
  obtain ⟨hlow, hhigh⟩ : 48 ≤ u ∧ u ≤ 57 := hu
  have hwhite : isWhiteUnit u = false := by
    simp only [isWhiteUnit, List.contains_eq_mem, List.mem_cons, List.not_mem_nil, or_false]
    grind
  have hminus : (u :: rest).head? ≠ some '-'.toNat := by
    show some u ≠ some 45
    grind
  have hplus : (u :: rest).head? ≠ some '+'.toNat := by
    show some u ≠ some 43
    grind
  have hname : jsString "Infinity".toList = 73 :: jsString "nfinity".toList := by decide +kernel
  have hinfinity : ¬ (jsString "Infinity".toList).isPrefixOf (u :: rest) = true := by
    rw [hname, List.isPrefixOf_cons_cons, Bool.and_eq_true, beq_iff_eq]
    grind
  rw [parseFloat, List.dropWhile_cons_of_neg (by rw [hwhite]; decide), splitSign, if_neg hminus,
    if_neg hplus]
  dsimp only
  rw [unsignedFloat, if_neg hinfinity]
  exact congrFun Option.map_id _

section Digits

variable {whole fraction : List Char}

theorem digitUnits (h : ∀ c ∈ whole, c.isDigit = true) :
    ∀ u ∈ whole.map Char.toNat, isDigitUnit u = true := by
  intro u hu
  obtain ⟨c, hc, rfl⟩ := List.mem_map.mp hu
  exact isDigitUnit_of_isDigit (h c hc)

theorem parseFloat_literal (hne : whole ≠ []) (hwhole : ∀ c ∈ whole, c.isDigit = true)
    (rest : List Nat) :
    (parseFloat (whole.map Char.toNat ++ rest) : Option F) =
      decimalLiteral (whole.map Char.toNat ++ rest) := by
  obtain ⟨c, cs, rfl⟩ := List.exists_cons_of_ne_nil hne
  exact parseFloat_of_digit (isDigitUnit_of_isDigit (hwhole c List.mem_cons_self)) _

theorem parseFloat_digits (hne : whole ≠ []) (hwhole : ∀ c ∈ whole, c.isDigit = true) :
    parseFloat (whole.map Char.toNat) =
      some (decimal (F := F) (Nat.ofDigitChars 10 whole 0) 0) := by
  have hdigits := digitUnits hwhole
  have hne' : whole.map Char.toNat ≠ [] := fun h => hne (List.map_eq_nil_iff.mp h)
  have htake : (whole.map Char.toNat).takeWhile isDigitUnit = whole.map Char.toNat :=
    List.takeWhile_eq_self_iff.mpr hdigits
  have hdrop : (whole.map Char.toNat).dropWhile isDigitUnit = [] :=
    List.dropWhile_eq_nil_iff.mpr hdigits
  have hpoint : ¬ ([] : List Nat).head? = some '.'.toNat := by decide
  have hliteral := parseFloat_literal (F := F) hne hwhole []
  rw [List.append_nil] at hliteral
  rw [hliteral, decimalLiteral, htake, hdrop]
  simp only [if_neg hpoint, List.append_nil]
  rw [if_neg hne', unitsToNat_map]
  rfl

theorem parseFloat_point (hne : whole ≠ []) (hwhole : ∀ c ∈ whole, c.isDigit = true)
    (hfraction : ∀ c ∈ fraction, c.isDigit = true) :
    parseFloat ((whole ++ '.' :: fraction).map Char.toNat) =
      some (decimal (F := F) (Nat.ofDigitChars 10 (whole ++ fraction) 0) (-fraction.length)) := by
  have hdigits := digitUnits hwhole
  have hdigits' := digitUnits hfraction
  have hne' : whole.map Char.toNat ≠ [] := fun h => hne (List.map_eq_nil_iff.mp h)
  let rest := '.'.toNat :: fraction.map Char.toNat
  have hpoint : rest.head? = some '.'.toNat := rfl
  have htake : (whole.map Char.toNat ++ rest).takeWhile isDigitUnit = whole.map Char.toNat := by
    rw [List.takeWhile_append_of_pos hdigits, List.takeWhile_cons_of_neg (by decide),
      List.append_nil]
  have hdrop : (whole.map Char.toNat ++ rest).dropWhile isDigitUnit = rest := by
    rw [List.dropWhile_append_of_pos hdigits, List.dropWhile_cons_of_neg (by decide)]
  have htakeFraction : rest.tail.takeWhile isDigitUnit = fraction.map Char.toNat :=
    List.takeWhile_eq_self_iff.mpr hdigits'
  have hdropFraction : rest.tail.dropWhile isDigitUnit = [] :=
    List.dropWhile_eq_nil_iff.mpr hdigits'
  rw [List.map_append, List.map_cons]
  rw [parseFloat_literal hne hwhole, decimalLiteral, htake, hdrop, htakeFraction, hdropFraction]
  simp only [if_pos hpoint]
  rw [if_neg (List.append_ne_nil_of_left_ne_nil hne' _), ← List.map_append, unitsToNat_map,
    List.length_map]
  show some (decimal _ (0 - _)) = _
  rw [Int.zero_sub]

end Digits

/-! ## Fields -/

/-- The first place of `u` is where it stands if it is not before it. -/
theorem idxOf?_append_cons_iff {before after : List Nat} {u v : Nat} :
    (before ++ v :: after).idxOf? u = some before.length ↔ u ∉ before ∧ v = u := by
  induction before with
  | nil => simp [List.idxOf?_cons]
  | cons a before ih =>
    rw [List.cons_append, List.idxOf?_cons, List.length_cons, List.mem_cons, not_or]
    by_cases ha : a = u
    · simp [ha]
    · rw [if_neg (by simpa using ha), Option.map_eq_some_iff]
      simp only [Nat.add_right_cancel_iff, exists_eq_right, ih, Ne.symm ha,
        not_false_eq_true, true_and]

namespace AxisField

variable {width : Nat} {positive negative : Char} (a : AxisField width positive negative)

theorem digit_degs : ∀ c ∈ a.degs, c.isDigit = true :=
  fun c hc => a.digits c (List.mem_append_left _ hc)

theorem digit_mins : ∀ c ∈ a.mins, c.isDigit = true :=
  fun c hc => a.digits c (List.mem_append_right _ (List.mem_append_left _ hc))

theorem digit_hunds : ∀ c ∈ a.hunds, c.isDigit = true :=
  fun c hc => a.digits c (List.mem_append_right _ (List.mem_append_right _ hc))

theorem length_number : a.number.length = width + 5 := by
  rw [number, List.length_append, List.length_append, List.length_cons, a.length_degs,
    a.length_mins, a.length_hunds]

theorem number_units : ∀ c ∈ a.number, c.toNat < 0x10000 := by
  have hdigit : ∀ c : Char, c.isDigit = true → c.toNat < 0x10000 :=
    fun c hc => (toNat_lt_of_isDigit hc).2.trans_lt (by decide)
  intro c hc
  rw [number, List.mem_append, List.mem_append, List.mem_cons] at hc
  rcases hc with hc | hc | rfl | hc
  · exact hdigit c (a.digit_degs c hc)
  · exact hdigit c (a.digit_mins c hc)
  · decide
  · exact hdigit c (a.digit_hunds c hc)

/-- The field of an axis is read as its coordinate. -/
theorem parseDDMM_number (hwidth : 0 < width)
    (hdir : a.direction = 'S' ∨ a.direction = 'W' ↔ a.negated = true) :
    parseDDMM (a.number.map Char.toNat) (some a.direction.toNat) = some (a.value : F) := by
  have hdegs : a.degs ≠ [] := List.ne_nil_of_length_pos (by rw [a.length_degs]; exact hwidth)
  have hmins : a.mins ≠ [] := List.ne_nil_of_length_pos (by rw [a.length_mins]; decide)
  have hlen : ¬ (a.number.map Char.toNat).length < 4 := by
    rw [List.length_map, a.length_number]
    omega
  have hsplit : a.number.map Char.toNat =
      (a.degs ++ a.mins).map Char.toNat ++ '.'.toNat :: a.hunds.map Char.toNat := by
    rw [number, ← List.append_assoc, List.map_append, List.map_cons]
  have hbefore : '.'.toNat ∉ (a.degs ++ a.mins).map Char.toNat := by
    intro hmem
    have hdigits : ∀ c ∈ a.degs ++ a.mins, c.isDigit = true := fun c hc =>
      (List.mem_append.mp hc).elim (a.digit_degs c) (a.digit_mins c)
    exact absurd (digitUnits hdigits _ hmem) (by decide)
  have hdot : (a.number.map Char.toNat).idxOf? '.'.toNat = some (width + 2) := by
    have hlenBefore : ((a.degs ++ a.mins).map Char.toNat).length = width + 2 := by
      rw [List.length_map, List.length_append, a.length_degs, a.length_mins]
    rw [hsplit, ← hlenBefore]
    exact idxOf?_append_cons_iff.mpr ⟨hbefore, rfl⟩
  have hwide : (a.degs.map Char.toNat).length = width := by rw [List.length_map, a.length_degs]
  have htake : (a.number.map Char.toNat).take width = a.degs.map Char.toNat := by
    rw [number, List.map_append, List.take_left' hwide]
  have hdrop : (a.number.map Char.toNat).drop width =
      (a.mins ++ '.' :: a.hunds).map Char.toNat := by
    rw [number, List.map_append, List.drop_left' hwide]
  have hneg : some a.direction.toNat = some 'S'.toNat ∨ some a.direction.toNat = some 'W'.toNat ↔
      a.negated = true := by
    rw [Option.some.injEq, Option.some.injEq, Char.toNat_inj, Char.toNat_inj]
    exact hdir
  rw [parseDDMM, if_neg hlen, hdot]
  dsimp only
  rw [if_neg (by omega), Nat.add_sub_cancel, htake, hdrop, parseFloat_digits hdegs a.digit_degs,
    parseFloat_point hmins a.digit_mins a.digit_hunds, a.length_hunds]
  simp only [hneg]
  rfl

end AxisField

/-! ## Units -/

/-- A character below the surrogates has a unit of its own. -/
theorem mem_jsString_iff {c : Char} (hc : c.toNat < 0xD800) {cs : List Char} :
    c.toNat ∈ jsString cs ↔ c ∈ cs := by
  rw [jsString, List.mem_flatMap]
  constructor
  · rintro ⟨d, hd, hmem⟩
    rw [jsUnits] at hmem
    split at hmem
    · rw [List.mem_singleton, Char.toNat_inj] at hmem
      exact hmem ▸ hd
    · simp only [List.mem_cons, List.not_mem_nil, or_false] at hmem
      omega
  · intro hmem
    refine ⟨c, hmem, ?_⟩
    rw [jsUnits, if_pos (by omega)]
    exact List.mem_singleton_self _

/-- An uncompressed position by its fields. -/
theorem uncompressedPos_fields {lat lon rest : List Nat} {latDir table lonDir : Nat}
    (hlat : lat.length = 7) (hlon : lon.length = 8) :
    (uncompressedPos (lat ++ latDir :: table :: (lon ++ lonDir :: rest)) : Option (F × F)) =
      match (parseDDMM lat (some latDir) : Option F), (parseDDMM lon (some lonDir) : Option F) with
      | some lat, some lon => some (lat, lon)
      | _, _ => none := by
  let posStr := lat ++ latDir :: table :: (lon ++ lonDir :: rest)
  have hlen : 18 ≤ posStr.length := by
    simp only [posStr, List.length_append, List.length_cons, hlat, hlon]
    omega
  have htake : posStr.take 7 = lat := List.take_left' hlat
  have hlatDir : posStr[7]? = some latDir := by
    rw [List.getElem?_append_right (by omega), hlat]
    rfl
  have hdrop : posStr.drop 9 = lon ++ lonDir :: rest := by
    have hsplit : posStr = (lat ++ [latDir, table]) ++ (lon ++ lonDir :: rest) := by
      rw [List.append_assoc]
      rfl
    rw [hsplit, List.drop_left' (by rw [List.length_append, hlat]; rfl)]
  have hlonDir : posStr[17]? = some lonDir := by
    have hget : (posStr.drop 9)[8]? = some lonDir := by
      rw [hdrop, List.getElem?_append_right (by omega), hlon]
      rfl
    rwa [List.getElem?_drop] at hget
  rw [uncompressedPos, if_pos hlen, htake, hlatDir, hdrop, List.take_left' hlon, hlonDir]

/-- Only an uncompressed position has its symbol at these places. -/
theorem symbolFrom_start {info : List Nat} {posStart p : Nat}
    (h : symbolFrom info posStart = some ⟨p + 8, p + 18⟩) : posStart = p := by
  rw [symbolFrom] at h
  cases hchar : info[posStart]? with
  | none =>
    rw [hchar] at h
    cases h
  | some posChar =>
    simp only [hchar] at h
    split at h
    · split at h
      · rw [Option.some.injEq, SymbolPlaces.mk.injEq] at h
        omega
      · cases h
    · split at h
      · rw [Option.some.injEq, SymbolPlaces.mk.injEq] at h
        omega
      · cases h

namespace ObjectReport

variable (o : ObjectReport)

/-- What is before the marker. -/
def before : List Nat := jsString (';' :: o.name)

theorem marker_unit : jsUnits o.marker = [o.marker.toNat] := by
  rw [marker]
  cases o.killed <;> rfl

theorem direction_units :
    o.lat.direction.toNat < 0x10000 ∧ o.lon.direction.toNat < 0x10000 := by
  rw [AxisField.direction, AxisField.direction]
  constructor <;> split <;> decide

theorem position_units : jsString o.position = o.position.map Char.toNat := by
  refine jsString_eq_map fun c hc => ?_
  simp only [position, List.mem_append, List.mem_cons, List.not_mem_nil, or_false] at hc
  rcases hc with hc | rfl | rfl | hc | rfl | rfl
  · exact o.lat.number_units c hc
  · exact o.direction_units.1
  · exact o.units _ List.mem_cons_self
  · exact o.lon.number_units c hc
  · exact o.direction_units.2
  · exact o.units _ (List.mem_cons_of_mem _ List.mem_cons_self)

theorem info_units : jsString o.info = o.before ++ o.marker.toNat ::
    (o.timestamp.map Char.toNat ++ (o.position.map Char.toNat ++ jsString o.comment)) := by
  have hstamp : jsString o.timestamp = o.timestamp.map Char.toNat :=
    jsString_eq_map fun c hc => o.units c (List.mem_cons_of_mem _ (List.mem_cons_of_mem _ hc))
  have hmarker : ∀ cs, jsString (o.marker :: cs) = o.marker.toNat :: jsString cs := by
    intro cs
    rw [jsString, List.flatMap_cons, marker_unit]
    rfl
  rw [info, jsString_append, hmarker, jsString_append, jsString_append, hstamp, position_units]
  rfl

theorem drop_posStart :
    (jsString o.info).drop o.posStart = o.position.map Char.toNat ++ jsString o.comment := by
  have hsplit : jsString o.info = (o.before ++ o.marker.toNat :: o.timestamp.map Char.toNat) ++
      (o.position.map Char.toNat ++ jsString o.comment) := by
    rw [info_units, List.append_assoc]
    rfl
  have hlen : (o.before ++ o.marker.toNat :: o.timestamp.map Char.toNat).length = o.posStart := by
    rw [List.length_append, List.length_cons, List.length_map, o.length_timestamp]
    rfl
  rw [hsplit, List.drop_left' hlen]

/-- The page finds the marker if nothing before it looks like one, and nothing behind it
if it is an underscore. -/
theorem markerFound_iff : markerIdx (jsString o.info) = some o.before.length ↔ o.MarkerFound := by
  have hbefore : ∀ c : Char, c.toNat < 0xD800 → c ≠ ';' → (c.toNat ∉ o.before ↔ c ∉ o.name) := by
    intro c hc hne
    rw [before, mem_jsString_iff hc, List.mem_cons, not_or]
    exact and_iff_right hne
  have hstar := hbefore '*' (by decide) (by decide)
  have hunder := hbefore '_' (by decide) (by decide)
  rw [markerIdx, MarkerFound]
  cases hkilled : o.killed with
  | false =>
    have hmarker : o.marker = '*' := by rw [marker, hkilled]; rfl
    have hfound : ((jsString o.info).idxOf? '*'.toNat).isSome = true := by
      rw [List.isSome_idxOf?, info_units, hmarker]
      exact List.mem_append_right _ List.mem_cons_self
    obtain ⟨n, hn⟩ := Option.isSome_iff_exists.mp hfound
    rw [hn, Option.some_or, ← hn, info_units, idxOf?_append_cons_iff, hstar, hmarker]
    exact and_iff_left rfl
  | true =>
    have hmarker : o.marker = '_' := by rw [marker, hkilled]; rfl
    show _ ↔ '*' ∉ o.info ∧ '_' ∉ o.name
    rw [← mem_jsString_iff (by decide : '*'.toNat < 0xD800), ← hunder]
    cases hfirst : (jsString o.info).idxOf? '*'.toNat with
    | none =>
      have hnone : '*'.toNat ∉ jsString o.info := List.idxOf?_eq_none_iff.mp hfirst
      rw [Option.none_or, and_iff_right hnone, info_units, idxOf?_append_cons_iff, hmarker]
      exact and_iff_left rfl
    | some n =>
      have hmem : '*'.toNat ∈ jsString o.info :=
        List.isSome_idxOf?.mp (hfirst ▸ rfl)
      rw [Option.some_or]
      constructor
      · intro heq
        rw [heq, info_units, idxOf?_append_cons_iff, hmarker] at hfirst
        exact absurd hfirst.2 (by decide)
      · rintro ⟨hnone, -⟩
        exact absurd hmem hnone

theorem info_head : ∃ u us, jsString o.info = ';'.toNat :: u :: us := by
  have hbefore : o.before = ';'.toNat :: jsString o.name := rfl
  rw [info_units, hbefore]
  cases jsString o.name with
  | nil => exact ⟨_, _, rfl⟩
  | cons u us => exact ⟨_, _, rfl⟩

theorem parsePosition_info : (parsePosition (jsString o.info) : Option (F × F)) =
    (markerIdx (jsString o.info)).bind fun starIdx =>
      uncompressedPos ((jsString o.info).drop (starIdx + 8)) := by
  obtain ⟨u, us, hinfo⟩ := o.info_head
  rw [hinfo]
  rfl

theorem symbolPlaces_info : symbolPlaces (jsString o.info) =
    (markerIdx (jsString o.info)).bind fun starIdx =>
      symbolFrom (jsString o.info) (starIdx + 8) := by
  obtain ⟨u, us, hinfo⟩ := o.info_head
  rw [hinfo]
  rfl

/-- The units of the position, from its start. -/
theorem getElem?_posStart {n : Nat} {c : Char} (h : o.position[n]? = some c) :
    (jsString o.info)[o.posStart + n]? = some c.toNat := by
  have hn : n < (o.position.map Char.toNat).length := by
    rw [List.length_map]
    exact (List.getElem?_eq_some_iff.mp h).1
  rw [← List.getElem?_drop, drop_posStart, List.getElem?_append_left hn, List.getElem?_map, h]
  rfl

theorem length_position : o.position.length = 19 := by
  simp only [position, List.length_append, List.length_cons, AxisField.length_number,
    List.length_nil]

theorem position_table : o.position[8]? = some o.table := by
  have hlen : o.lat.number.length = 7 := o.lat.length_number
  rw [position, List.getElem?_append_right (by omega), hlen]
  rfl

theorem position_code : o.position[18]? = some o.code := by
  have hlat : o.lat.number.length = 7 := o.lat.length_number
  have hlon : o.lon.number.length = 8 := o.lon.length_number
  rw [position, List.getElem?_append_right (by omega), hlat]
  show (o.lon.number ++ _)[9]? = _
  rw [List.getElem?_append_right (by omega), hlon]
  rfl

theorem position_fields :
    o.position.map Char.toNat ++ jsString o.comment = o.lat.number.map Char.toNat ++
      o.lat.direction.toNat :: o.table.toNat :: (o.lon.number.map Char.toNat ++
        o.lon.direction.toNat :: (o.code.toNat :: jsString o.comment)) := by
  simp only [position, List.map_append, List.map_cons, List.map_nil, List.append_assoc,
    List.cons_append, List.nil_append]

theorem position_of_marker (h : markerIdx (jsString o.info) = some o.before.length) :
    parsePosition (jsString o.info) = some ((o.lat.value : F), (o.lon.value : F)) := by
  have hlat : parseDDMM (o.lat.number.map Char.toNat) (some o.lat.direction.toNat) =
      some (o.lat.value : F) := o.lat.parseDDMM_number (by decide) (by
    rw [AxisField.direction]
    cases o.lat.negated <;> decide)
  have hlon : parseDDMM (o.lon.number.map Char.toNat) (some o.lon.direction.toNat) =
      some (o.lon.value : F) := o.lon.parseDDMM_number (by decide) (by
    rw [AxisField.direction]
    cases o.lon.negated <;> decide)
  have hlatLen : (o.lat.number.map Char.toNat).length = 7 := by
    rw [List.length_map, AxisField.length_number]
  have hlonLen : (o.lon.number.map Char.toNat).length = 8 := by
    rw [List.length_map, AxisField.length_number]
  rw [parsePosition_info, h, Option.bind_some]
  show uncompressedPos ((jsString o.info).drop o.posStart) = _
  rw [drop_posStart, position_fields, uncompressedPos_fields hlatLen hlonLen, hlat, hlon]

theorem places_iff : symbolPlaces (jsString o.info) = some ⟨o.posStart + 8, o.posStart + 18⟩ ↔
    markerIdx (jsString o.info) = some o.before.length := by
  rw [symbolPlaces_info]
  constructor
  · intro h
    obtain ⟨starIdx, hidx, hfrom⟩ := Option.bind_eq_some_iff.mp h
    have hstart : starIdx + 8 = o.before.length + 8 := symbolFrom_start hfrom
    rw [hidx, Nat.add_right_cancel hstart]
  · intro h
    rw [h, Option.bind_some]
    show symbolFrom (jsString o.info) o.posStart = _
    obtain ⟨c, cs, hdegs⟩ := List.exists_cons_of_ne_nil
      (List.ne_nil_of_length_pos (by rw [o.lat.length_degs]; decide) : o.lat.degs ≠ [])
    have hdigit : isDigitUnit c.toNat = true :=
      isDigitUnit_of_isDigit (o.lat.digit_degs c (hdegs ▸ List.mem_cons_self))
    have hfirst : (jsString o.info)[o.posStart]? = some c.toNat := by
      refine o.getElem?_posStart (n := 0) ?_
      rw [position, AxisField.number, hdegs]
      rfl
    have hlen : o.posStart + 19 ≤ (jsString o.info).length := by
      have hdrop := congrArg List.length o.drop_posStart
      rw [List.length_drop, List.length_append, List.length_map, o.length_position] at hdrop
      omega
    rw [symbolFrom, hfirst]
    dsimp only
    rw [if_pos hdigit, if_pos hlen]

theorem getSymbolImage_info (symbols : List Nat → Option (List Nat))
    (h : symbolPlaces (jsString o.info) = some ⟨o.posStart + 8, o.posStart + 18⟩) :
    getSymbolImage symbols (jsString o.info) =
      symbolImage symbols o.table.toNat o.code.toNat := by
  have htable : (jsString o.info)[o.posStart + 8]? = some o.table.toNat :=
    o.getElem?_posStart o.position_table
  have hcode : (jsString o.info)[o.posStart + 18]? = some o.code.toNat :=
    o.getElem?_posStart o.position_code
  rw [getSymbolImage, h, Option.bind_some, htable, hcode]

end ObjectReport

/-- A report is read in its place exactly if its marker is the one that the page finds. -/
theorem object_readInPlace_iff (o : ObjectReport) : o.ReadInPlace F ↔ o.MarkerFound := by
  rw [← o.markerFound_iff]
  constructor
  · intro h
    exact o.places_iff.mp h.places
  · intro h
    have hplaces := o.places_iff.mpr h
    exact ⟨o.position_of_marker h, hplaces, fun symbols => o.getSymbolImage_info symbols hplaces⟩

/-! ## A live object with a star in its name -/

def leader : ObjectReport where
  name := "LEADER*1 ".toList
  killed := false
  timestamp := "092345z".toList
  lat := {
    degs := ['4', '9'], mins := ['0', '3'], hunds := ['5', '0'], negated := false
    length_degs := rfl, length_mins := rfl, length_hunds := rfl
    digits := List.all_eq_true.mp rfl }
  table := '/'
  lon := {
    degs := ['0', '7', '2'], mins := ['0', '1'], hunds := ['7', '5'], negated := true
    length_degs := rfl, length_mins := rfl, length_hunds := rfl
    digits := List.all_eq_true.mp rfl }
  code := '>'
  comment := []
  length_name := rfl
  length_timestamp := rfl
  units c hc := of_decide_eq_true (List.all_eq_true.mp
    (rfl : ('/' :: '>' :: "092345z".toList).all (fun c => decide (c.toNat < 0x10000)) = true) c hc)

theorem leader_not_read :
    leader.info = ";LEADER*1 *092345z4903.50N/07201.75W>".toList ∧
      (parsePosition (jsString leader.info) : Option (ℚ × ℚ)) = none ∧
      ¬ leader.ReadInPlace ℚ := by
  have hnone : (parsePosition (jsString leader.info) : Option (ℚ × ℚ)) = none := by
    decide +kernel
  refine ⟨by decide +kernel, hnone, fun h => ?_⟩
  have hsome := h.position
  rw [hnone] at hsome
  cases hsome

end Page
end Rtpigate
