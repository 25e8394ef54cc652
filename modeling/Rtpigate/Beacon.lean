/-
Position beacons.

`positpacket` writes a location as an APRS position report.  The position is
truncated to hundredths of a minute; what is left over goes into the optional
`!DAO!` token.
-/
import Rtpigate.Config

namespace Rtpigate

def TOCALL : String := "APZJD1"

section Posit

variable {F : Type} [F64 F]

/-- A remainder below a hundredth of a minute as one printable character. -/
def base91DaoChar (remMinutes : F) : Char :=
  let val := F64.toInt (F64.floor ((remMinutes / 0.01) * 91.0))
  Char.ofNat (33 + (max 0 (min val 90)).toNat)

/-- One coordinate taken apart: whole degrees, whole hundredths of a minute, and
the minutes left over. -/
structure AxisParts (F : Type) where
  deg : Nat
  hund : Nat
  rem : F

def axisParts (x : F) : AxisParts F :=
  let absX := F64.abs x
  let deg := F64.toNat absX
  let m := (absX - (deg : F)) * 60.0
  -- the epsilon keeps a value just below a boundary on its own side
  let hund := F64.toNat (F64.floor (m * 100.0 + 1e-6))
  { deg := deg, hund := hund, rem := F64.max (m - (hund : F) / 100.0) 0.0 }

def daoDigit (rem : F) : Nat :=
  min (F64.toNat (F64.min (F64.floor (rem * 1000.0 + 1e-6)) 9.0)) u8Max

def daoString (dao : DaoMode) (lat lon : AxisParts F) : String :=
  match dao with
  | .off => ""
  | .human => "!W" ++ Nat.repr (daoDigit lat.rem) ++ Nat.repr (daoDigit lon.rem) ++ "!"
  | .base91 => "!w" ++ String.singleton (base91DaoChar lat.rem) ++
      String.singleton (base91DaoChar lon.rem) ++ "!"

/-- Degrees in `width` digits, then minutes to hundredths and the direction. -/
def axisString (width : Nat) (a : AxisParts F) (direction : String) : String :=
  natPad width a.deg ++ natPad 2 (a.hund / 100) ++ "." ++ natPad 2 (a.hund % 100) ++ direction

/-- The overlay, or else the first character of the symbol, or else a slash. -/
def overlayString (symbol overlay : Option String) : String :=
  match overlay with
  | some o => o
  | none =>
    match symbol with
    | some s =>
      match s.toList.head? with
      | some c => String.singleton c
      | none => "/"
    | none => "/"

def symbolString (symbol : Option String) : String :=
  match symbol with
  | some s =>
    match s.toList[1]? with
    | some k => String.singleton k
    | none => "0"
  | none => "0"

/-- A position report for the location.  `utc` is the epoch second its time stamp
shows. -/
def positpacket (utc : Int) (l : Location F) (callsign name : String)
    (symbol overlay : Option String) (dao : DaoMode) : Except RtpigateError String :=
  match l.alt, l.lat, l.lon with
  | some altFt, some lat, some lon =>
    if F64.le altFt 0.0 || lat == 0.0 || lon == 0.0 then
      .error (.validation "positpacket: Invalid lat/lon/alt")
    else
      let seconds := (utc % 86400).toNat
      let latParts := axisParts lat
      let lonParts := axisParts lon
      .ok (callsign ++ ">" ++ TOCALL ++ ",TCPIP*:/" ++
        natPad 2 (seconds / 3600) ++ natPad 2 (seconds / 60 % 60) ++ natPad 2 (seconds % 60) ++
        "h" ++
        axisString 2 latParts (if F64.le 0.0 lat then "N" else "S") ++
        overlayString symbol overlay ++
        axisString 3 lonParts (if F64.le 0.0 lon then "E" else "W") ++
        symbolString symbol ++ "/A=" ++ zeroPad 6 (F64.display0 altFt) ++ name ++
        daoString dao latParts lonParts)
  | _, _, _ => .error (.validation "positpacket: Missing lat/lon/alt")

theorem positpacket_isOk_iff {utc : Int} {l : Location F} {callsign name : String}
    {symbol overlay : Option String} {dao : DaoMode} :
    (positpacket utc l callsign name symbol overlay dao).isOk = true ↔
      ∃ altFt lat lon, l.alt = some altFt ∧ l.lat = some lat ∧ l.lon = some lon ∧
        (F64.le altFt 0.0 || lat == 0.0 || lon == 0.0) = false := by
  unfold positpacket
  split
  · next altFt lat lon halt hlat hlon =>
    constructor
    · intro hok
      refine ⟨altFt, lat, lon, halt, hlat, hlon, ?_⟩
      split at hok
      · cases hok
      · next hbad => exact Bool.not_eq_true _ ▸ hbad
    · rintro ⟨altFt', lat', lon', halt', hlat', hlon', hgood⟩
      cases halt.symm.trans halt'
      cases hlat.symm.trans hlat'
      cases hlon.symm.trans hlon'
      rw [if_neg (Bool.not_eq_true _ ▸ hgood)]
      rfl
  · next hmissing =>
    refine iff_of_false (fun h => by cases h) ?_
    rintro ⟨altFt, lat, lon, halt, hlat, hlon, -⟩
    exact hmissing altFt lat lon halt hlat hlon

/-! ## Positions from GPSD -/

/-- The latest fix.  `receivedAt` is monotonic. -/
structure GpsFix (F : Type) where
  lat : Option F
  lon : Option F
  altFt : Option F
  mode : Nat
  receivedAt : Nat

def gpsFreshness : Nat := 30 * 10 ^ 9

def GpsFix.isFresh {F : Type} (now : Nat) (fix : GpsFix F) : Bool :=
  decide (now - fix.receivedAt < gpsFreshness) && decide (2 ≤ fix.mode) && fix.lat.isSome &&
    fix.lon.isSome

/-- The location to beacon from the latest fix, `none` without a fresh one. -/
def gpsdBeaconLocation {F : Type} (now : Nat) (gpsState : Option (GpsFix F))
    (fallbackAlt : Option F) : Option (Location F) :=
  match gpsState with
  | none => none
  | some fix =>
    if fix.isFresh now then
      some { lat := fix.lat, lon := fix.lon, alt := fix.altFt.or fallbackAlt, source := .gpsd }
    else none

theorem GpsFix.isFresh_iff {F : Type} {now : Nat} {fix : GpsFix F} :
    fix.isFresh now = true ↔ now - fix.receivedAt < gpsFreshness ∧ 2 ≤ fix.mode ∧
      (∃ lat, fix.lat = some lat) ∧ ∃ lon, fix.lon = some lon := by
  simp only [isFresh, Bool.and_eq_true, decide_eq_true_eq, Option.isSome_iff_exists, and_assoc]

theorem gpsdBeaconLocation_eq_some {F : Type} {now : Nat} {gpsState : Option (GpsFix F)}
    {fallbackAlt : Option F} {loc : Location F}
    (h : gpsdBeaconLocation now gpsState fallbackAlt = some loc) :
    ∃ fix, gpsState = some fix ∧ fix.isFresh now = true ∧
      loc = { lat := fix.lat, lon := fix.lon, alt := fix.altFt.or fallbackAlt, source := .gpsd } := by
  cases gpsState with
  | none => cases h
  | some fix =>
    rw [gpsdBeaconLocation] at h
    split at h
    · next hfresh =>
      cases h
      exact ⟨fix, rfl, hfresh, rfl⟩
    · cases h

end Posit

end Rtpigate
