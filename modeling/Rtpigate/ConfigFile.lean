/-
The configuration file as a whole.

`validate` looks at every section and gives the list of what is wrong, in the order of
the sections.  What the process does with a file is decided by that list being empty.
`toPublic` is what the dashboard is shown.
-/
import Rtpigate.Config

namespace Rtpigate

/-! ## Sections -/

structure Ipv4Addr where
  a : UInt8
  b : UInt8
  c : UInt8
  d : UInt8
  deriving DecidableEq, Repr

namespace Ipv4Addr

def isMulticast (ip : Ipv4Addr) : Bool := decide (224 ≤ ip.a ∧ ip.a ≤ 239)

def display (ip : Ipv4Addr) : String :=
  ".".intercalate ([ip.a, ip.b, ip.c, ip.d].map fun octet => Nat.repr octet.toNat)

end Ipv4Addr

structure StreamConfig where
  group : Ipv4Addr
  port : UInt16
  interface : Option Ipv4Addr := none
  recvBufferBytes : Option Nat := none
  deriving DecidableEq, Repr

structure StorageConfig where
  path : Option String
  packetHistory : Option UInt32

structure HttpConfig where
  listen : Option String
  frontend : Option String

structure ConfigFile (F : Type) extends Config F where
  stream : StreamConfig
  http : Option HttpConfig
  storage : Option StorageConfig

/-! ## Paths -/

/-- The segments of a path that stand for a component, with their places.  Empty segments
do not, nor does `.` but at the start. -/
def pathComponents (segments : List String) : List (String × Nat) :=
  segments.zipIdx.filter fun e => e.1 ≠ "" ∧ (e.1 ≠ "." ∨ e.2 = 0)

/-- `Path::parent`: the path without its last component, `none` when there is none. -/
def pathParent (path : String) : Option String :=
  let segments := (path.toList.splitOn '/').map String.ofList
  match (pathComponents segments).getLast? with
  | none => none
  | some (_, last) =>
    match (pathComponents (segments.take last)).getLast? with
    | none => some (if path.toList.head? = some '/' then "/" else "")
    | some (_, before) => some ("/".intercalate (segments.take (before + 1)))

/-! ## Values with defaults -/

namespace ConfigFile

variable {F : Type}

def storagePath (c : ConfigFile F) : String :=
  ((c.storage.bind fun s => s.path).filter fun p => !p.isEmpty).getD "./rtpigate.db"

def packetHistoryHours (c : ConfigFile F) : Nat :=
  ((c.storage.bind fun s => s.packetHistory).getD 6).toNat

/-! ## Validation -/

/-- The message, when the check fails. -/
def check (bad : Bool) (message : String) : List String := if bad then [message] else []

@[simp] theorem check_eq_nil_iff {bad : Bool} {message : String} :
    check bad message = [] ↔ bad = false := by
  cases bad <;> simp [check]

def stationErrors (c : ConfigFile F) : List String :=
  match c.station.callsign with
  | some callsign => check callsign.isEmpty "[station] callsign is empty"
  | none => ["[station] callsign is required"]

def streamErrors (c : ConfigFile F) : List String :=
  check (!c.stream.group.isMulticast) ("[stream] group " ++ c.stream.group.display ++
      " is not a multicast address (224.0.0.0 – 239.255.255.255)") ++
    check (c.stream.port == 0) "[stream] port must be > 0"

section Float

variable [F64 F]

def rangeErrors (field : String) (limit : F) (range : String) (value : Option F) : List String :=
  match value with
  | some x => check (!(F64.le (-limit) x && F64.le x limit))
      ("[location] " ++ field ++ " " ++ F64.display x ++ " is out of range (" ++ range ++ ")")
  | none => []

def locationErrors (c : ConfigFile F) : List String :=
  rangeErrors "lat" 90.0 "-90 to 90" c.location.lat ++
    rangeErrors "lon" 180.0 "-180 to 180" c.location.lon

end Float

def hostErrors (c : ConfigFile F) : List String :=
  match c.aprsis.host with
  | some host => check host.isEmpty "[aprsis] host is empty but aprsis is enabled"
  | none => ["[aprsis] host is required when aprsis is enabled"]

/-- The position for beacons is fixed by the file, or comes from GPSD. -/
def fixedErrors (c : ConfigFile F) : List String :=
  if c.aprsis.beaconing == some true && c.location.source == .config then
    check (c.location.lat.isNone || c.location.lon.isNone)
        "[location] lat and lon are required when beaconing is enabled" ++
      check c.location.alt.isNone "[location] alt is required when beaconing is enabled"
  else []

def aprsisErrors (c : ConfigFile F) : List String :=
  if c.aprsis.enabled == some true then
    c.hostErrors ++
      check c.aprsis.port.isNone "[aprsis] port is required when aprsis is enabled" ++
      c.fixedErrors
  else []

/-- The section counts only when GPSD is the source of the position. -/
def gpsdErrors [F64 F] (c : ConfigFile F) : List String :=
  match c.location.source, c.gpsd with
  | .gpsd, some gpsd =>
    (match gpsd.moveThresholdDeg with
      | some threshold => check (F64.le threshold 0.0)
          ("[gpsd] move_threshold_deg " ++ F64.display threshold ++ " must be > 0")
      | none => []) ++
      check (gpsd.minBeaconSecs == some 0) "[gpsd] min_beacon_secs must be > 0"
  | _, _ => []

/-- `dirExists` looks into the file system. -/
def storageErrors (dirExists : String → Bool) (c : ConfigFile F) : List String :=
  (match pathParent c.storagePath with
    | some parent => check (!parent.isEmpty && !dirExists parent)
        ("[storage] path parent directory '" ++ parent ++ "' does not exist")
    | none => []) ++
    check ((c.storage.bind fun s => s.packetHistory) == some 0)
      "[storage] packet_history must be >= 1"

def httpErrors (c : ConfigFile F) : List String :=
  match c.http.bind fun h => h.listen with
  | some listen => check (!listen.toList.contains ':')
      ("[http] listen '" ++ listen ++ "' should be in host:port format")
  | none => []

variable [F64 F]

def validate (dirExists : String → Bool) (c : ConfigFile F) : List String :=
  c.stationErrors ++ c.streamErrors ++ c.locationErrors ++ c.aprsisErrors ++ c.gpsdErrors ++
    c.storageErrors dirExists ++ c.httpErrors

/-- What the tasks may rely on once a file is valid. -/
structure Valid (c : ConfigFile F) : Prop where
  callsign : ∃ callsign, c.station.callsign = some callsign
  server : c.aprsis.enabled = some true → c.aprsis.host.isSome ∧ c.aprsis.port.isSome
  fixed : c.aprsis.enabled = some true → c.aprsis.beaconing = some true →
    c.location.source = .config →
      c.location.lat.isSome ∧ c.location.lon.isSome ∧ c.location.alt.isSome
  spacing : c.location.source = .gpsd → (c.gpsd.bind fun g => g.minBeaconSecs) ≠ some 0
  history : c.packetHistoryHours ≠ 0

variable {dirExists : String → Bool} {c : ConfigFile F}

omit [F64 F] in
theorem callsign_of_stationErrors (h : c.stationErrors = []) :
    ∃ callsign, c.station.callsign = some callsign := by
  rw [stationErrors] at h
  split at h
  · next callsign hcallsign => exact ⟨callsign, hcallsign⟩
  · cases h

omit [F64 F] in
theorem host_of_hostErrors (h : c.hostErrors = []) : c.aprsis.host.isSome = true := by
  rw [hostErrors] at h
  split at h
  · next host hsome =>
    rw [hsome]
    rfl
  · cases h

omit [F64 F] in
/-- With APRS-IS enabled there is a server, and a fixed position to beacon is complete. -/
theorem settings_of_aprsisErrors (h : c.aprsisErrors = []) (henabled : c.aprsis.enabled = some true) :
    c.aprsis.host.isSome = true ∧ c.aprsis.port.isSome = true ∧ c.fixedErrors = [] := by
  simp only [aprsisErrors, henabled, beq_self_eq_true, if_true, List.append_eq_nil_iff,
    check_eq_nil_iff, Option.isNone_eq_false_iff] at h
  obtain ⟨⟨hhost, hport⟩, hfixed⟩ := h
  exact ⟨host_of_hostErrors hhost, hport, hfixed⟩

omit [F64 F] in
theorem position_of_fixedErrors (h : c.fixedErrors = []) (hbeaconing : c.aprsis.beaconing = some true)
    (hsource : c.location.source = .config) :
    c.location.lat.isSome = true ∧ c.location.lon.isSome = true ∧
      c.location.alt.isSome = true := by
  simp only [fixedErrors, hbeaconing, hsource, beq_self_eq_true, Bool.and_self, if_true,
    List.append_eq_nil_iff, check_eq_nil_iff, Bool.or_eq_false_iff,
    Option.isNone_eq_false_iff] at h
  exact ⟨h.1.1, h.1.2, h.2⟩

theorem spacing_of_gpsdErrors (h : c.gpsdErrors = []) (hsource : c.location.source = .gpsd) :
    (c.gpsd.bind fun g => g.minBeaconSecs) ≠ some 0 := by
  intro hzero
  obtain ⟨gpsd, hsome, hsecs⟩ := Option.bind_eq_some_iff.mp hzero
  simp only [gpsdErrors, hsource, hsome, List.append_eq_nil_iff, check_eq_nil_iff, hsecs] at h
  cases h.2

omit [F64 F] in
theorem history_of_storageErrors (h : c.storageErrors dirExists = []) :
    c.packetHistoryHours ≠ 0 := by
  simp only [storageErrors, List.append_eq_nil_iff, check_eq_nil_iff] at h
  rw [packetHistoryHours]
  cases hhistory : c.storage.bind fun s => s.packetHistory with
  | none => decide
  | some hours =>
    rw [hhistory] at h
    intro hzero
    have hhours : hours = 0 := UInt32.toNat_inj.mp hzero
    rw [hhours] at h
    cases h.2

theorem valid_of_validate (h : c.validate dirExists = []) : c.Valid := by
  simp only [validate, List.append_eq_nil_iff] at h
  obtain ⟨⟨⟨⟨⟨⟨hstation, -⟩, -⟩, haprsis⟩, hgpsd⟩, hstorage⟩, -⟩ := h
  refine ⟨callsign_of_stationErrors hstation, fun henabled => ?_,
    fun henabled hbeaconing hsource => ?_, spacing_of_gpsdErrors hgpsd,
    history_of_storageErrors hstorage⟩
  · obtain ⟨hhost, hport, -⟩ := settings_of_aprsisErrors haprsis henabled
    exact ⟨hhost, hport⟩
  · obtain ⟨-, -, hfixed⟩ := settings_of_aprsisErrors haprsis henabled
    exact position_of_fixedErrors hfixed hbeaconing hsource

end ConfigFile

/-! ## The dashboard -/

structure AprsisConfigPublic where
  host : Option String
  port : Option Nat
  enabled : Option Bool
  beaconing : Option Bool
  igating : Option Bool
  symbol : Option String
  overlay : Option String
  threshold : Option Nat
  dao : DaoMode

structure PublicConfig (F : Type) where
  station : StationConfig
  location : Location F
  aprsis : AprsisConfigPublic
  stream : StreamConfig
  satelliteFrequencies : List F
  gpsd : Option (GpsdConfig F)
  startedAt : Option Int

/-- The passcode is left out, and the defaults are filled in where a default is a value
to show. -/
def ConfigFile.toPublic {F : Type} [F64 F] (c : ConfigFile F) : PublicConfig F where
  station := c.station
  location := c.location
  aprsis :=
    { host := c.aprsis.host
      port := c.aprsis.port
      enabled := c.aprsis.enabled
      beaconing := c.aprsis.beaconing
      igating := c.aprsis.igating
      symbol := c.aprsis.symbol
      overlay := c.aprsis.overlay
      threshold := c.aprsis.threshold
      dao := c.daoMode }
  stream := c.stream
  satelliteFrequencies := c.satelliteFrequencies
  gpsd :=
    if c.location.source = .gpsd then
      some {
        moveThresholdDeg := some c.gpsdConfig.effectiveThresholdDeg
        minBeaconSecs := some c.gpsdConfig.effectiveBeaconSecs }
    else none
  startedAt := none

/-! ## A sample file -/

def sampleFile : ConfigFile ℚ where
  toConfig := sampleConfig
  stream := { group := ⟨239, 1, 2, 3⟩, port := 5004 }
  http := none
  storage := none

theorem validate_sampleFile : sampleFile.validate (fun _ => true) = [] := by decide +kernel

end Rtpigate
