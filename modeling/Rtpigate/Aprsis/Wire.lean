/-
What the server reads.

A connection begins with the login: the server names itself, the task sends its login
line, and the server answers.  Only after an answer that verifies a station with a
valid passcode does the task send anything else, and then packets, beacons and reports,
one message after the other.  A write that is not done may get out in part, and is the
last one on its connection.
-/
import Rtpigate.Aprsis.OwnLines

namespace Rtpigate

open Lib

/-! ## The login line -/

/-- The line that logs a station in.  A passcode that is not valid is not sent. -/
def Config.aprsisLoginString {F : Type} (up : Char → List Char) (c : Config F) : String :=
  let passcode := if c.passcodeIsvalid up then c.aprsis.passcode.getD "-1" else "-1"
  "user " ++ c.station.callsign.getD "N0CAL" ++ " pass " ++ passcode ++ " vers " ++ "rtpigate" ++
    " " ++ "0.5.2" ++ "\r\n"

theorem oneLine_of_parseDigits : ∀ {cs : List Char} {n : Nat} {m : Nat},
    parseDigits cs n = some m → ∀ c ∈ cs, isTerminatorChar c = false
  | [], _, _, _, _, hc => by cases hc
  | c :: cs, n, m, h, d, hd => by
    rw [parseDigits] at h
    split at h
    · next hdigit =>
      rcases List.mem_cons.mp hd with rfl | hd
      · exact isDigit_not_terminator hdigit
      · exact oneLine_of_parseDigits h d hd
    · cases h

theorem oneLine_of_parseI32 {s : String} {i : Int} (h : parseI32 s = some i) : OneLine s := by
  have hdigits : ∀ {cs : List Char} {f : Int → Int} {j : Int},
      (do let a ← parseDigits cs 0; pure (a : Int) : Option Int).map f = some j →
        ∀ c ∈ cs, isTerminatorChar c = false := by
    intro cs f j hmap
    cases hn : parseDigits cs 0 with
    | none =>
      rw [hn] at hmap
      cases hmap
    | some n => exact oneLine_of_parseDigits hn
  rw [oneLine_iff]
  rw [parseI32, Option.filter_eq_some_iff] at h
  obtain ⟨h, _⟩ := h
  split at h
  · cases h
  · next cs heq =>
    rw [heq]
    split at h
    · cases h
    · exact List.forall_mem_cons.mpr ⟨rfl, hdigits h⟩
  · next cs heq =>
    rw [heq]
    split at h
    · cases h
    · exact List.forall_mem_cons.mpr ⟨rfl, hdigits h⟩
  · exact hdigits h

/-- The login line of a station whose callsign is on one line. -/
theorem message_login {F : Type} {up : Char → List Char} {c : Config F}
    (h : ∀ s, c.station.callsign = some s → OneLine s) :
    Message isTerminator (utf8 (c.aprsisLoginString up)) := by
  have hcallsign : OneLine (c.station.callsign.getD "N0CAL") := by
    cases hs : c.station.callsign with
    | none => exact (by decide : OneLine "N0CAL")
    | some s => exact h s hs
  have hpasscode : OneLine
      (if c.passcodeIsvalid up then c.aprsis.passcode.getD "-1" else "-1") := by
    have hminus : OneLine "-1" := by decide
    by_cases hvalid : c.passcodeIsvalid up = true
    · rw [if_pos hvalid]
      rw [Config.passcodeIsvalid] at hvalid
      cases hp : c.aprsis.passcode with
      | none => exact hminus
      | some p =>
        rw [hp] at hvalid
        cases hi : parseI32 p with
        | none =>
          simp only [hi] at hvalid
          cases hvalid
        | some i => exact oneLine_of_parseI32 hi
    · rw [if_neg hvalid]
      exact hminus
  have hliteral : OneLine "user " ∧ OneLine " pass " ∧ OneLine " vers " ∧ OneLine "rtpigate" ∧
      OneLine " " ∧ OneLine "0.5.2" := by decide
  have huser : ("user ").toList ≠ [] := by decide
  refine message_text ?_ ?_
  · simp only [oneLine_append, hliteral, hcallsign, hpasscode, and_self]
  · simp only [String.toList_append, ne_eq, List.append_eq_nil_iff, huser, false_and,
      not_false_eq_true]

namespace Aprsis

variable {F : Type}

/-! ## The login -/

/-- A line read from the server. -/
inductive LoginRead
  | line (text : String)
  | closed
  | error

/-- How a wait within the login ends.  The login as a whole may time out or be cancelled. -/
inductive Awaited (α : Type)
  | done (a : α)
  | timedOut
  | cancelled

/-- The version line, the write of the login line, of which `cut` octets get out if it is
not done, and the answer. -/
structure LoginWorld where
  version : Awaited LoginRead
  written : Awaited Bool
  cut : Nat
  response : Awaited LoginRead

/-- The check of the answer.  Without a valid passcode any answer will do.  A letter that
is not ASCII has no lower case in these words. -/
def verified (rw : Bool) (response : String) : Bool :=
  let responseLower := response.toLower
  if rw && strContains responseLower "unverified" then false
  else if rw && !strContains responseLower "verified" then false
  else true

/-- How an attempt ends that has got a connection, and the octets that went out. -/
def loginToAprsis (loginstring : String) (rw : Bool) (w : LoginWorld) : Attempt × List UInt8 :=
  match w.version with
  | .timedOut => (.loginTimeout, [])
  | .cancelled => (.loginCancelled, [])
  | .done .closed | .done .error => (.loginError, [])
  | .done (.line _) =>
    match w.written with
    | .timedOut => (.loginTimeout, (utf8 loginstring).take w.cut)
    | .cancelled => (.loginCancelled, (utf8 loginstring).take w.cut)
    | .done false => (.loginError, (utf8 loginstring).take w.cut)
    | .done true =>
      match w.response with
      | .timedOut => (.loginTimeout, utf8 loginstring)
      | .cancelled => (.loginCancelled, utf8 loginstring)
      | .done .closed | .done .error => (.loginError, utf8 loginstring)
      | .done (.line r) =>
        (if verified rw r then .loggedIn else .loginRefused, utf8 loginstring)

/-- The answer that let the task in. -/
def LoginWorld.accepted (loginstring : String) (rw : Bool) (w : LoginWorld) : Option String :=
  match (loginToAprsis loginstring rw w).1, w.response with
  | .loggedIn, .done (.line r) => some r
  | _, _ => none

/-- What one connection has carried to the server, and the answer to its login. -/
structure Connection where
  sent : List UInt8
  response : Option String

/-- The task and its connections, the latest one first. -/
structure Wire (F : Type) where
  task : State F
  connections : List Connection := []

/-- No connection comes about, one does, or something else happens to the task.  `cut`
octets get out of a write that is not done. -/
inductive WireInput (F : Type)
  | unresolved
  | noAddress
  | refused
  | timedOut
  | login (w : LoginWorld)
  | own (i : Input F) (cut : Nat)

def Input.isAttempt : Input F → Bool
  | .attempt _ => true
  | _ => false

def Event.onWire (cut : Nat) : Event F → List UInt8
  | .write _ bytes .done => bytes
  | .write _ bytes _ => bytes.take cut
  | _ => []

def onWire (cut : Nat) (events : List (Event F)) : List UInt8 := events.flatMap (Event.onWire cut)

def say (bytes : List UInt8) : List Connection → List Connection
  | [] => []
  | c :: rest => { c with sent := c.sent ++ bytes } :: rest

def Wire.next [F64 F] (t : Captured F) (loginstring : String) (s : Wire F) :
    WireInput F → Wire F
  | .unresolved => { s with task := (step t s.task (.attempt .resolveError)).1 }
  | .noAddress => { s with task := (step t s.task (.attempt .noAddress)).1 }
  | .refused => { s with task := (step t s.task (.attempt .connectError)).1 }
  | .timedOut => { s with task := (step t s.task (.attempt .connectTimeout)).1 }
  | .login w =>
    if s.task.phase = .outer then
      let ended := loginToAprsis loginstring t.rw w
      { task := (step t s.task (.attempt ended.1)).1
        connections := ⟨ended.2, w.accepted loginstring t.rw⟩ :: s.connections }
    else s
  | .own i cut =>
    if i.isAttempt then s
    else
      let stepped := step t s.task i
      { task := stepped.1, connections := say (onWire cut stepped.2) s.connections }

/-! ## What a step writes -/

/-- A line of the task, which only a station with a valid passcode writes. -/
inductive OwnLine [F64 F] (t : Captured F) : List UInt8 → Prop
  | packet (p : RTPPacket F) (clock : GateClock) (hgate : (t.igating && t.rw) = true)
      (hdrop : droppacket clock.instant p = none)
      (hrefused : refused (p.forRxigateBytes t.callsign) = false) :
      OwnLine t (p.forRxigateBytes t.callsign ++ crlf)
  | posit (utc : Int) (loc : Location F) (text : String) (hgate : (t.beaconing && t.rw) = true)
      (h : positpacket utc loc t.callsign t.stationName t.symbol t.overlay t.daoMode = .ok text) :
      OwnLine t (utf8 (text ++ "\r\n"))
  | report (interval : Interval) (seq : UInt32) (lines : List String) (info : String)
      (hgate : (t.beaconing && t.rw) = true)
      (h : (telemetryReport t interval seq).toAprs t.callsign = .ok lines) (hinfo : info ∈ lines) :
      OwnLine t (reportBytes t info)

variable [F64 F] {t : Captured F}

theorem OwnLine.rw {m : List UInt8} (h : OwnLine t m) : t.rw = true := by
  cases h with
  | packet _ _ hgate | posit _ _ _ hgate | report _ _ _ _ hgate =>
    exact (Bool.and_eq_true_iff.mp hgate).2

theorem OwnLine.message [OneLineDisplay F] (ht : PlainSettings t) {m : List UInt8}
    (h : OwnLine t m) : Message isTerminator m := by
  cases h with
  | packet p _ _ _ hrefused => exact message_packet hrefused
  | posit utc loc text _ hok => exact message_posit ht hok
  | report interval seq lines info _ hok hinfo => exact message_report ht hok hinfo

omit [F64 F] in
theorem crlf_suffix (s : String) : crlf <:+ utf8 (s ++ "\r\n") := by
  rw [utf8_append]
  exact List.suffix_append (utf8 s) crlf

theorem OwnLine.crlf {m : List UInt8} (h : OwnLine t m) : Aprsis.crlf <:+ m := by
  cases h with
  | packet p => exact List.suffix_append _ _
  | posit _ _ text => exact crlf_suffix text
  | report => exact crlf_suffix _

/-- Whole lines, and behind them a part of one if the connection is lost. -/
def Spoken (t : Captured F) (whole : Prop) (bytes : List UInt8) : Prop :=
  ∃ (ms : List (List UInt8)) (part : List UInt8), bytes = ms.flatten ++ part ∧
    (∀ m ∈ ms, OwnLine t m) ∧ (part = [] ∨ ∃ m, OwnLine t m ∧ part <+: m) ∧ (whole → part = [])

theorem spoken_nil (t : Captured F) (whole : Prop) : Spoken t whole [] :=
  ⟨[], [], rfl, List.forall_mem_nil _, Or.inl rfl, fun _ => rfl⟩

theorem Spoken.append {whole whole' : Prop} {a b : List UInt8} (ha : Spoken t whole a)
    (hwhole : whole) (hb : Spoken t whole' b) : Spoken t whole' (a ++ b) := by
  obtain ⟨ms, part, rfl, hms, _, hpart⟩ := ha
  obtain ⟨ms', part', rfl, hms', hpart', hwhole'⟩ := hb
  refine ⟨ms ++ ms', part', ?_, fun m hm => ?_, hpart', hwhole'⟩
  · rw [hpart hwhole, List.append_nil, List.flatten_append, List.append_assoc]
  · rcases List.mem_append.mp hm with hm | hm
    · exact hms m hm
    · exact hms' m hm

/-- A single write. -/
theorem spoken_write {m : List UInt8} (h : OwnLine t m) {whole : Prop} (line : Line F)
    (result : WriteResult) (hwhole : whole → result = .done) (cut : Nat) :
    Spoken t whole (onWire cut [.write line m result]) := by
  have hsingle : onWire cut [.write line m result] = (Event.write line m result).onWire cut :=
    List.append_nil _
  rw [hsingle]
  cases result with
  | done =>
    exact ⟨[m], [], by simp [Event.onWire], List.forall_mem_singleton.mpr h, Or.inl rfl,
      fun _ => rfl⟩
  | failed | timedOut =>
    exact ⟨[], m.take cut, rfl, List.forall_mem_nil _, Or.inr ⟨m, h, List.take_prefix cut m⟩,
      fun hw => by cases hwhole hw⟩

omit [F64 F] in
theorem onWire_append (cut : Nat) (a b : List (Event F)) :
    onWire cut (a ++ b) = onWire cut a ++ onWire cut b := List.flatMap_append

/-- What the step writes is whole as long as the connection is kept. -/
def Speaks (t : Captured F) (r : State F × List (Event F)) : Prop :=
  ∀ cut, Spoken t (r.1.phase = .inner) (onWire cut r.2)

theorem speaks_silent {r : State F × List (Event F)} (h : ∀ cut, onWire cut r.2 = []) :
    Speaks t r := by
  intro cut
  rw [h cut]
  exact spoken_nil t _

theorem handlePacket_speaks (t : Captured F) (clock : GateClock) (outcome : WriteResult)
    (s : State F) (p : RTPPacket F) : Speaks t (handlePacket t clock outcome s p) := by
  have hexit := handlePacket_exit t clock outcome s p
  generalize handlePacket t clock outcome s p = r at hexit
  cases hexit with
  | ungated | filtered | duplicate | refused => exact speaks_silent fun _ => rfl
  | gated hgate hdrop _ hrefused _ =>
    exact fun cut => spoken_write (.packet p clock hgate hdrop hrefused) _ _ (fun _ => rfl) cut
  | failed hgate hdrop _ hrefused _ =>
    exact fun cut => spoken_write (.packet p clock hgate hdrop hrefused) _ _
      (fun hinner => by cases hinner) cut

theorem writeLines_spoken (hgate : (t.beaconing && t.rw) = true) {interval : Interval}
    {seq : UInt32} {full : List String}
    (hfull : (telemetryReport t interval seq).toAprs t.callsign = .ok full)
    (outcomes : Nat → WriteResult) (cut : Nat) :
    ∀ (rest : List String) (i : Nat), rest ⊆ full →
      Spoken t ((writeLines t (telemetryReport t interval seq) outcomes i rest).2 = true)
        (onWire cut (writeLines t (telemetryReport t interval seq) outcomes i rest).1) := by
  intro rest
  induction rest with
  | nil => exact fun _ _ => spoken_nil t _
  | cons info rest ih =>
    intro i hsub
    have hline : OwnLine t (reportBytes t info) :=
      .report interval seq full info hgate hfull (hsub List.mem_cons_self)
    rw [writeLines]
    cases ho : outcomes i with
    | failed | timedOut => exact spoken_write hline _ _ (fun h => by cases h) cut
    | done =>
      have hfirst : Spoken t True (onWire cut
          [.write (.report (telemetryReport t interval seq) i) (reportBytes t info) .done]) :=
        spoken_write hline _ _ (fun _ => rfl) cut
      have hrest := ih (i + 1) fun x hx => hsub (List.mem_cons_of_mem info hx)
      have happend := hfirst.append trivial hrest
      rwa [← onWire_append] at happend

theorem sendReport_speaks (hgate : (t.beaconing && t.rw) = true) (outcomes : Nat → WriteResult)
    (s : State F) : Speaks t (sendReport t outcomes s) := by
  rw [sendReport]
  split
  · exact speaks_silent fun _ => rfl
  · next lines hlines =>
    intro cut
    have hspoken := writeLines_spoken hgate hlines outcomes cut lines 0 fun _ h => h
    show Spoken t ((if (writeLines t (telemetryReport t s.interval s.sequence) outcomes 0
        lines).2 = true then _ else _ : State F × List (Event F)).1.phase = .inner)
      (onWire cut (if (writeLines t (telemetryReport t s.interval s.sequence) outcomes 0
        lines).2 = true then _ else _ : State F × List (Event F)).2)
    by_cases hdone : (writeLines t (telemetryReport t s.interval s.sequence) outcomes 0
        lines).2 = true
    · rw [if_pos hdone, onWire_append]
      exact hspoken.append hdone (spoken_nil t _)
    · rw [if_neg hdone]
      obtain ⟨ms, part, heq, hms, hpart, _⟩ := hspoken
      exact ⟨ms, part, heq, hms, hpart, fun h => by cases h⟩

/-- A beacon that lets the task go on is written whole, or not at all. -/
theorem beacon_speaks (hgate : (t.beaconing && t.rw) = true) (utc : Int) (outcome : WriteResult)
    (loc : Location F) (s : State F) :
    Speaks t (beacon t utc outcome loc s) ∧
      ((sendPositionBeacon t utc loc outcome).1 = true →
        ∀ cut, Spoken t True (onWire cut (beacon t utc outcome loc s).2)) := by
  have hevents : (beacon t utc outcome loc s).2 = (sendPositionBeacon t utc loc outcome).2 ∧
      ((beacon t utc outcome loc s).1.phase = .inner →
        (sendPositionBeacon t utc loc outcome).1 = true) := by
    rw [beacon]
    show (if (sendPositionBeacon t utc loc outcome).1 = true then _ else _ :
        State F × List (Event F)).2 = _ ∧
      ((if (sendPositionBeacon t utc loc outcome).1 = true then _ else _ :
        State F × List (Event F)).1.phase = .inner → _)
    split
    · next hsent => split <;> exact ⟨rfl, fun _ => hsent⟩
    · exact ⟨rfl, fun h => by cases h⟩
  have hspoken : ∀ cut, Spoken t ((sendPositionBeacon t utc loc outcome).1 = true)
      (onWire cut (sendPositionBeacon t utc loc outcome).2) := by
    intro cut
    rw [sendPositionBeacon]
    split
    · exact spoken_nil t _
    · next text htext =>
      exact spoken_write (.posit utc loc text hgate htext) _ _ (fun h => eq_of_beq h) cut
  constructor
  · intro cut
    rw [hevents.1]
    obtain ⟨ms, part, heq, hms, hpart, hwhole⟩ := hspoken cut
    exact ⟨ms, part, heq, hms, hpart, fun h => hwhole (hevents.2 h)⟩
  · intro hsent cut
    rw [hevents.1]
    obtain ⟨ms, part, heq, hms, hpart, hwhole⟩ := hspoken cut
    exact ⟨ms, part, heq, hms, hpart, fun _ => hwhole hsent⟩

theorem floorTick_speaks (t : Captured F) (world : BeaconWorld F) (posit : WriteResult)
    (outcomes : Nat → WriteResult) (s : State F) :
    Speaks t (floorTick t world posit outcomes s) := by
  rw [floorTick]
  by_cases hgate : (t.beaconing && t.rw) = true
  case neg =>
    rw [if_neg hgate]
    exact speaks_silent fun _ => rfl
  rw [if_pos hgate]
  split
  · next loc _ =>
    have hbeacon := beacon_speaks hgate world.utc posit loc s
    show Speaks t (if (sendPositionBeacon t world.utc loc posit).1 = true then _ else _)
    by_cases hsent : (sendPositionBeacon t world.utc loc posit).1 = true
    · rw [if_pos hsent]
      intro cut
      show Spoken t _ (onWire cut (_ ++ _))
      rw [onWire_append]
      exact (hbeacon.2 hsent cut).append trivial (sendReport_speaks hgate outcomes _ cut)
    · rw [if_neg hsent]
      exact hbeacon.1
  · exact sendReport_speaks hgate outcomes s

theorem moveTick_speaks (t : Captured F) (world : BeaconWorld F) (posit : WriteResult)
    (s : State F) : Speaks t (moveTick t world posit s) := by
  rw [moveTick]
  split
  · next hguard =>
    rw [Bool.and_assoc, Bool.and_eq_true_iff] at hguard
    split
    · next loc _ =>
      split
      · exact (beacon_speaks hguard.2 world.utc posit loc s).1
      · exact speaks_silent fun _ => rfl
    · exact speaks_silent fun _ => rfl
  · exact speaks_silent fun _ => rfl

/-- Outside of the inner loop nothing is written. -/
theorem step_speaks (t : Captured F) (s : State F) {i : Input F} (hi : i.isAttempt = false) :
    Speaks t (step t s i) ∧ (s.phase ≠ .inner →
      (step t s i).1.phase ≠ .inner ∧ ∀ cut, onWire cut (step t s i).2 = []) := by
  cases step_branch t s i with
  | attempt a hattempt =>
    rw [hattempt] at hi
    cases hi
  | cancel _ h =>
    rw [h]
    exact ⟨speaks_silent fun _ => rfl, fun _ => ⟨(fun h => by cases h), fun _ => rfl⟩⟩
  | sample now utc _ hphase h =>
    rw [h]
    exact ⟨speaks_silent fun _ => rfl, fun hne => absurd hphase hne⟩
  | lost r _ h =>
    rw [h]
    exact ⟨speaks_silent fun _ => rfl, fun _ => ⟨(fun h => by cases h), fun _ => rfl⟩⟩
  | recv m clock outcome _ hphase h =>
    refine ⟨?_, fun hne => absurd hphase hne⟩
    rw [h]
    cases m with
    | lagged n => exact speaks_silent fun _ => rfl
    | message d =>
      cases d with
      | tlm x => exact speaks_silent fun _ => rfl
      | pkt p => exact handlePacket_speaks t clock outcome s p
  | floor world posit outcomes _ hphase h =>
    exact ⟨h ▸ floorTick_speaks t world posit outcomes s, fun hne => absurd hphase hne⟩
  | move world posit _ hphase h =>
    exact ⟨h ▸ moveTick_speaks t world posit s, fun hne => absurd hphase hne⟩
  | idle _ h =>
    rw [h]
    exact ⟨speaks_silent fun _ => rfl, fun hne => ⟨hne, fun _ => rfl⟩⟩

/-! ## Runs -/

/-- A connection without a good answer has carried the login line at most. -/
structure Connection.Sound (t : Captured F) (loginstring : String) (whole : Prop)
    (c : Connection) : Prop where
  refused : c.response = none → c.sent <+: utf8 loginstring
  accepted : ∀ r, c.response = some r → verified t.rw r = true ∧
    ∃ bytes, c.sent = utf8 loginstring ++ bytes ∧ Spoken t whole bytes

/-- In the inner loop the latest connection is one that has been accepted, and nothing
on it has been cut short. -/
structure Wire.Sound (t : Captured F) (loginstring : String) (s : Wire F) : Prop where
  all : ∀ c ∈ s.connections, c.Sound t loginstring False
  latest : s.task.phase = .inner → ∃ c rest, s.connections = c :: rest ∧
    c.response.isSome = true ∧ c.Sound t loginstring True

variable {loginstring : String}

theorem Spoken.weaken {whole whole' : Prop} {bytes : List UInt8} (h : Spoken t whole bytes)
    (hle : whole' → whole) : Spoken t whole' bytes := by
  obtain ⟨ms, part, heq, hms, hpart, hwhole⟩ := h
  exact ⟨ms, part, heq, hms, hpart, fun hw => hwhole (hle hw)⟩

theorem Connection.Sound.weaken {whole whole' : Prop} {c : Connection}
    (h : c.Sound t loginstring whole) (hle : whole' → whole) : c.Sound t loginstring whole' where
  refused := h.refused
  accepted r hr := by
    obtain ⟨hv, bytes, heq, hspoken⟩ := h.accepted r hr
    exact ⟨hv, bytes, heq, hspoken.weaken hle⟩

omit [F64 F] in
/-- A login succeeds with an answer that is accepted, or it sends no more than its line. -/
theorem loginToAprsis_cases (loginstring : String) (rw : Bool) (w : LoginWorld) :
    (∃ r, w.accepted loginstring rw = some r ∧ verified rw r = true ∧
        loginToAprsis loginstring rw w = (.loggedIn, utf8 loginstring)) ∨
      (w.accepted loginstring rw = none ∧ (loginToAprsis loginstring rw w).1 ≠ .loggedIn ∧
        (loginToAprsis loginstring rw w).2 <+: utf8 loginstring) := by
  obtain ⟨version, written, cut, response⟩ := w
  rw [LoginWorld.accepted]
  have hcut := List.take_prefix cut (utf8 loginstring)
  cases version with
  | timedOut | cancelled => exact Or.inr ⟨rfl, (fun h => by cases h), List.nil_prefix⟩
  | done version =>
    cases version with
    | closed | error => exact Or.inr ⟨rfl, (fun h => by cases h), List.nil_prefix⟩
    | line _ =>
      cases written with
      | timedOut | cancelled => exact Or.inr ⟨rfl, (fun h => by cases h), hcut⟩
      | done written =>
        cases written with
        | false => exact Or.inr ⟨rfl, (fun h => by cases h), hcut⟩
        | true =>
          cases response with
          | timedOut | cancelled => exact Or.inr ⟨rfl, (fun h => by cases h), List.prefix_rfl⟩
          | done response =>
            cases response with
            | closed | error => exact Or.inr ⟨rfl, (fun h => by cases h), List.prefix_rfl⟩
            | line r =>
              by_cases hv : verified rw r = true
              · refine Or.inl ⟨r, ?_, hv, ?_⟩ <;> simp only [loginToAprsis, if_pos hv]
              · refine Or.inr ⟨?_, ?_, ?_⟩ <;> simp only [loginToAprsis, if_neg hv]
                · exact fun h => by cases h
                · exact List.prefix_rfl

theorem attempt_phase (t : Captured F) {s : State F} {a : Attempt} (ha : a ≠ .loggedIn)
    (hphase : s.phase = .outer) : (step t s (.attempt a)).1.phase ≠ .inner := by
  have hconn : (connected s).phase = s.phase := by
    rw [connected]
    split <;> rfl
  have hstep : step t s (.attempt a) = attempt a s := by simp only [step, hphase]
  rw [hstep]
  cases a with
  | loggedIn => exact absurd rfl ha
  | resolveError | noAddress | connectError | connectTimeout =>
    show s.phase ≠ .inner
    rw [hphase]
    decide
  | loginRefused | loginError | loginTimeout =>
    show (connected s).phase ≠ .inner
    rw [hconn, hphase]
    decide
  | loginCancelled => exact fun h => by cases h

/-- An attempt that gets no connection. -/
theorem Wire.Sound.unreached {s : Wire F} (h : s.Sound t loginstring) {a : Attempt}
    (ha : a ≠ .loggedIn) :
    Wire.Sound t loginstring { s with task := (step t s.task (.attempt a)).1 } where
  all := h.all
  latest hinner := by
    by_cases hphase : s.task.phase = .outer
    · exact absurd hinner (attempt_phase t ha hphase)
    · have hidle : step t s.task (.attempt a) = (s.task, []) := by
        cases hp : s.task.phase with
        | outer => exact absurd hp hphase
        | inner | ended => simp only [step, hp]
      rw [show (step t s.task (.attempt a)).1 = s.task by rw [hidle]] at hinner
      exact h.latest hinner

theorem Wire.next_sound {s : Wire F} (h : s.Sound t loginstring) (i : WireInput F) :
    (s.next t loginstring i).Sound t loginstring := by
  cases i with
  | unresolved | noAddress | refused | timedOut => exact h.unreached (by decide)
  | login w =>
    by_cases hphase : s.task.phase = .outer
    case neg =>
      rw [Wire.next, if_neg hphase]
      exact h
    rw [Wire.next, if_pos hphase]
    rcases loginToAprsis_cases loginstring t.rw w with ⟨r, hr, hv, heq⟩ | ⟨hr, hne, hpre⟩
    · have hsound : Connection.Sound t loginstring True ⟨utf8 loginstring, some r⟩ := by
        refine ⟨(fun h => by cases h), fun r' hr' => ?_⟩
        cases hr'
        exact ⟨hv, [], (List.append_nil _).symm, spoken_nil t True⟩
      rw [heq, hr]
      refine ⟨List.forall_mem_cons.mpr ⟨hsound.weaken False.elim, h.all⟩, fun _ => ?_⟩
      exact ⟨_, _, rfl, rfl, hsound⟩
    · rw [hr]
      refine ⟨List.forall_mem_cons.mpr ⟨⟨fun _ => hpre, fun r hr => by cases hr⟩, h.all⟩, ?_⟩
      exact fun hinner => absurd hinner (attempt_phase t hne hphase)
  | own i cut =>
    by_cases hi : i.isAttempt = true
    case pos =>
      rw [Wire.next, if_pos hi]
      exact h
    rw [Wire.next, if_neg hi]
    rw [Bool.not_eq_true] at hi
    obtain ⟨hspeaks, hquiet⟩ := step_speaks t s.task hi
    by_cases hphase : s.task.phase = .inner
    · obtain ⟨c, rest, hconns, hsome, hsound⟩ := h.latest hphase
      have hnew : Connection.Sound t loginstring ((step t s.task i).1.phase = .inner)
          { c with sent := c.sent ++ onWire cut (step t s.task i).2 } := by
        refine ⟨fun hnone => ?_, fun r hr => ?_⟩
        · rw [show c.response = none from hnone] at hsome
          cases hsome
        · obtain ⟨hv, bytes, heq, hspoken⟩ := hsound.accepted r hr
          refine ⟨hv, bytes ++ onWire cut (step t s.task i).2, ?_,
            hspoken.append trivial (hspeaks cut)⟩
          show c.sent ++ _ = _
          rw [heq, List.append_assoc]
      have hrest : ∀ c' ∈ rest, c'.Sound t loginstring False :=
        fun c' hc' => h.all c' (hconns ▸ List.mem_cons_of_mem c hc')
      show Wire.Sound t loginstring ⟨_, say _ s.connections⟩
      rw [hconns]
      refine ⟨List.forall_mem_cons.mpr ⟨hnew.weaken False.elim, hrest⟩, fun hinner => ?_⟩
      exact ⟨_, rest, rfl, hsome, hnew.weaken fun _ => hinner⟩
    · obtain ⟨hstays, hnothing⟩ := hquiet hphase
      have hsame : say (onWire cut (step t s.task i).2) s.connections = s.connections := by
        rw [hnothing cut]
        cases s.connections with
        | nil => rfl
        | cons c rest =>
          show { c with sent := c.sent ++ [] } :: rest = c :: rest
          rw [List.append_nil]
      show Wire.Sound t loginstring ⟨_, say _ s.connections⟩
      rw [hsame]
      exact ⟨h.all, fun hinner => absurd hinner hstays⟩

/-- What a server has got that has let the task in: the login line, whole lines of the task,
and at most one more that is cut short. -/
structure Served (t : Captured F) (login sent : List UInt8) (ms : List (List UInt8))
    (part : List UInt8) : Prop where
  bytes : sent = login ++ (ms.flatten ++ part)
  ended : crlf <:+ login
  whole : ∀ m ∈ ms, OwnLine t m ∧ crlf <:+ m
  cut : part = [] ∨ ∃ m, OwnLine t m ∧ part <+: m
  lines : linesOf isTerminator sent = login.rdropWhile isTerminator ::
    (ms.map (List.rdropWhile isTerminator) ++ linesOf isTerminator part)
  lastLine : linesOf isTerminator part = [] ∨ ∃ m line, OwnLine t m ∧
    linesOf isTerminator part = [line] ∧ line <+: m.rdropWhile isTerminator

/-- Spoken messages are read as lines. -/
theorem Spoken.served [OneLineDisplay F] (ht : PlainSettings t) {login bytes : List UInt8}
    {whole : Prop} (hlogin : Message isTerminator login) (hcrlf : crlf <:+ login)
    (h : Spoken t whole bytes) : ∃ ms part, Served t login (login ++ bytes) ms part := by
  obtain ⟨ms, part, rfl, hms, hpart, _⟩ := h
  have hmessages : ∀ m ∈ ms, Message isTerminator m := fun m hm => (hms m hm).message ht
  refine ⟨ms, part, rfl, hcrlf, fun m hm => ⟨hms m hm, (hms m hm).crlf⟩, hpart, ?_, ?_⟩
  · rw [hlogin.linesOf_append, linesOf_messages hmessages]
  · rcases hpart with rfl | ⟨m, hm, hpre⟩
    · exact Or.inl (linesOf_nil _)
    · rcases (hm.message ht).linesOf_beginning hpre with hnil | ⟨line, hone, hpre'⟩
      · exact Or.inl hnil
      · exact Or.inr ⟨m, line, hm, hone, hpre'⟩

theorem Wire.run_sound (row : Option AprsisLifetime) (seq : SeqLoad) (is : List (WireInput F)) :
    (is.foldl (Wire.next t loginstring) ⟨(start row seq).1, []⟩).Sound t loginstring := by
  induction is using List.reverseRecOn with
  | nil =>
    refine ⟨List.forall_mem_nil _, fun hinner => ?_⟩
    cases row <;> cases seq <;> cases hinner
  | append_singleton is i ih =>
    rw [List.foldl_concat]
    exact Wire.next_sound ih i

/-- What the servers get in any run of a station whose settings are on one line.  The task
is in its inner loop only on a connection that was answered.  On a connection without a
good answer there is no more than the login line.  With one, there are the login line,
whole lines of the task, and at most one more that is cut short.  Nothing but the login
line comes from a station without a valid passcode. -/
theorem wire_lines [OneLineDisplay F] {up : Char → List Char} {c : Config F}
    (hcap : capture up c = .ok t) (ht : PlainSettings t) (row : Option AprsisLifetime)
    (seq : SeqLoad) (is : List (WireInput F)) :
    let s := is.foldl (Wire.next t (c.aprsisLoginString up)) ⟨(start row seq).1, []⟩
    (s.task.phase = .inner → ∃ conn rest r, s.connections = conn :: rest ∧
        conn.response = some r) ∧
      ∀ conn ∈ s.connections,
        (conn.response = none → conn.sent <+: utf8 (c.aprsisLoginString up)) ∧
        ∀ r, conn.response = some r → verified (c.passcodeIsvalid up) r = true ∧
          ∃ ms part, Served t (utf8 (c.aprsisLoginString up)) conn.sent ms part ∧
            (c.passcodeIsvalid up = false → ms = [] ∧ part = []) := by
  intro s
  obtain ⟨hcallsign, _, _, hrw⟩ := capture_ok hcap
  have hlogin : Message isTerminator (utf8 (c.aprsisLoginString up)) :=
    message_login fun s hs => by
      cases hs.symm.trans hcallsign
      exact ht.callsign
  have hsound : s.Sound t (c.aprsisLoginString up) := Wire.run_sound row seq is
  constructor
  · intro hinner
    obtain ⟨conn, rest, hconns, hsome, -⟩ := hsound.latest hinner
    obtain ⟨r, hr⟩ := Option.isSome_iff_exists.mp hsome
    exact ⟨conn, rest, r, hconns, hr⟩
  · intro conn hconn
    have hsent := hsound.all conn hconn
    refine ⟨hsent.refused, fun r hr => ?_⟩
    obtain ⟨hv, bytes, heq, hspoken⟩ := hsent.accepted r hr
    rw [hrw] at hv
    obtain ⟨ms, part, hserved⟩ := hspoken.served ht hlogin (crlf_suffix _)
    refine ⟨hv, ms, part, heq ▸ hserved, fun hinvalid => ?_⟩
    have hno : ∀ m, ¬ OwnLine t m := fun m hm => by
      rw [← hrw, hm.rw] at hinvalid
      cases hinvalid
    refine ⟨List.eq_nil_iff_forall_not_mem.mpr fun m hm => hno m (hserved.whole m hm).1, ?_⟩
    rcases hserved.cut with hnil | ⟨m, hm, -⟩
    · exact hnil
    · exact absurd hm (hno m)

theorem plain_sampleStation : PlainSettings sampleStation where
  callsign := by decide
  stationName := by decide
  symbol _ h := by cases h
  overlay _ h := by cases h

/-- A login that is verified, a packet, and a second one that goes out in part. -/
def sampleSession : List (WireInput ℚ) :=
  [.login ⟨.done (.line "# aprsc\r\n"), .done true, 0,
      .done (.line "# logresp N0CALL verified\r\n")⟩,
    .own (.recv (.message (.pkt (Listener.samplePacket "W1AW" [62, 65]))) ⟨0, 0⟩ .done) 0,
    .own (.recv (.message (.pkt (Listener.samplePacket "W2AW" [62, 65]))) ⟨0, 0⟩ .timedOut) 7]

theorem wire_lines_sample :
    let s := sampleSession.foldl
      (Wire.next sampleStation (sampleConfig.aprsisLoginString asciiUpper))
      ⟨(start none (.stored 7)).1, []⟩
    s.connections.length = 1 ∧
      ∀ conn ∈ s.connections, ∀ r, conn.response = some r →
        verified (sampleConfig.passcodeIsvalid asciiUpper) r = true ∧
          ∃ ms part, Served sampleStation (utf8 (sampleConfig.aprsisLoginString asciiUpper))
              conn.sent ms part ∧
            (sampleConfig.passcodeIsvalid asciiUpper = false → ms = [] ∧ part = []) :=
  ⟨by decide +kernel, fun conn hconn => ((wire_lines capture_sampleConfig plain_sampleStation none
    (.stored 7) sampleSession).2 conn hconn).2⟩

end Aprsis
end Rtpigate
