/-
The connection of the page.

The page gets events from one `EventSource` at a time.  When that fails the page closes it
and tries again after a delay of its own.  A new stream has only what is sent after it was
opened, so the page asks for the configuration each time, and gets later ones as events.
-/
import Rtpigate.Lib.Backoff
import Rtpigate.Sse

namespace Rtpigate
namespace Page
namespace Connection

open Lib

def BACKOFF_INITIAL : Nat := 2000

def BACKOFF_MAX : Nat := 30000

/-- The place of the stream among those of the server, once the server has taken the
request, and whether the page knows. -/
structure EventSource where
  reader : Option Nat := none
  opened : Bool := false
  deriving DecidableEq

/-- The server, the variables of the page with the configuration it shows, and its requests
for the configuration: how many are to be served, and the answers under way, in the order in
which they were served. -/
structure Link (F : Type) where
  sse : Sse F
  currentES : Option EventSource := none
  reconnectTimer : Option Nat := none
  backoffMs : Nat := BACKOFF_INITIAL
  config : Option (PublicConfig F) := none
  asked : Nat := 0
  answers : List (PublicConfig F) := []

/-- The page hears from the server, or sets its timer, in milliseconds. -/
inductive Event
  | contact
  | scheduled (ms : Nat)
  deriving DecidableEq

/-- What the rest of the server and the other browsers do; the server takes the request for
the stream; the stream is opened, fails, or has a message; the timer runs out; a request for
the configuration is served; its answer in place `i` comes; or it fails. -/
inductive Input (F : Type)
  | others (i : SseInput F)
  | accept
  | opened
  | error
  | message
  | timeout
  | serve
  | answer (i : Nat)
  | fail

namespace Link

variable {F : Type}

def fetchConfig (w : Link F) : Link F := { w with asked := w.asked + 1 }

def destroyES (w : Link F) : Link F := { w with currentES := none }

def connectSSE (w : Link F) : Link F := { w.destroyES with currentES := some {} }

def scheduleReconnect (w : Link F) : Link F × List Event :=
  match w.reconnectTimer with
  | some _ => (w, [])
  | none =>
    ({ w with
        reconnectTimer := some w.backoffMs
        backoffMs := min (w.backoffMs * 2) BACKOFF_MAX },
      [.scheduled w.backoffMs])

def onopen (w : Link F) : Link F × List Event :=
  (fetchConfig { w with backoffMs := BACKOFF_INITIAL }, [.contact])

def onerror (w : Link F) : Link F × List Event := w.destroyES.scheduleReconnect

/-- The listeners, as far as the connection and the configuration are concerned. -/
def onMessage (e : SSEEvent F) (w : Link F) : Link F × List Event :=
  ({ w with backoffMs := BACKOFF_INITIAL, config := e.shownConfig.or w.config }, [.contact])

/-- The end of the script. -/
def load (sse : Sse F) : Link F := connectSSE (fetchConfig { sse := sse })

/-- The next message of the stream of the page. -/
def received (w : Link F) (k : Nat) : Option (Received (SSEEvent F)) :=
  ((w.sse.relay.readers[k]?).bind fun r => r.channel.recv sseChannelCapacity).map Prod.fst

variable [F64 F]

def step (startedAt : Int) (w : Link F) : Input F → Link F × List Event
  | .others i => ({ w with sse := w.sse.next startedAt i }, [])
  | .accept =>
    match w.currentES with
    | some ⟨none, false⟩ =>
      ({ w with
          sse := w.sse.next startedAt .connect
          currentES := some ⟨some w.sse.relay.readers.length, false⟩ }, [])
    | _ => (w, [])
  | .opened =>
    match w.currentES with
    | some ⟨some k, false⟩ => onopen { w with currentES := some ⟨some k, true⟩ }
    | _ => (w, [])
  | .error => if w.currentES.isSome then w.onerror else (w, [])
  | .message =>
    match w.currentES with
    | some ⟨some k, true⟩ =>
      let w' := { w with sse := w.sse.next startedAt (.read k) }
      match w.received k with
      | some (.message e) => w'.onMessage e
      | _ => (w', [])
    | _ => (w, [])
  | .timeout =>
    match w.reconnectTimer with
    | some _ => (connectSSE { w with reconnectTimer := none }, [])
    | none => (w, [])
  | .serve =>
    if w.asked = 0 then (w, [])
    else
      ({ w with asked := w.asked - 1, answers := w.answers ++ [w.sse.settled.publicConfig] }, [])
  | .answer i =>
    match w.answers[i]? with
    | some cfg => ({ w with config := some cfg, answers := w.answers.eraseIdx i }, [])
    | none => (w, [])
  | .fail => ({ w with asked := w.asked - 1 }, [])

end Link

/-! ## Reconnecting -/

/-- The delay after `k` failures in a row. -/
def reconnectDelay (k : Nat) : Nat := backoff BACKOFF_INITIAL BACKOFF_MAX k

def Event.isScheduled : Event → Bool
  | .scheduled _ => true
  | .contact => false

/-- How often the timer was set since the page last heard from the server. -/
def failures (events : List Event) : Nat := (events.rtakeWhile Event.isScheduled).length

theorem failures_contact (events : List Event) : failures (events ++ [.contact]) = 0 := by
  rw [failures, List.rtakeWhile_concat_neg _ _ _ (by simp [Event.isScheduled])]
  rfl

theorem failures_scheduled (events : List Event) (ms : Nat) :
    failures (events ++ [.scheduled ms]) = failures events + 1 := by
  rw [failures, List.rtakeWhile_concat_pos _ _ _ rfl, List.length_append]
  rfl

/-- There is a stream or a timer, and the delays are on schedule. -/
structure OnSchedule {F : Type} (w : Link F) (events : List Event) : Prop where
  waiting : w.reconnectTimer.isSome = !w.currentES.isSome
  backoff : w.backoffMs = reconnectDelay (failures events)
  delays : ∀ pre ms post, events = pre ++ .scheduled ms :: post →
    ms = reconnectDelay (failures pre)

section Schedule

variable {F : Type} {w w' : Link F} {events : List Event}

theorem OnSchedule.kept (h : OnSchedule w events)
    (hwaiting : w'.reconnectTimer.isSome = !w'.currentES.isSome)
    (hbackoff : w'.backoffMs = w.backoffMs) : OnSchedule w' (events ++ []) := by
  rw [List.append_nil]
  exact ⟨hwaiting, hbackoff.trans h.backoff, h.delays⟩

theorem concat_eq_split {α : Type*} {xs pre post : List α} {x a : α}
    (h : xs ++ [x] = pre ++ a :: post) : (∃ post', xs = pre ++ a :: post') ∨ (xs = pre ∧ x = a) := by
  rcases List.eq_nil_or_concat post with rfl | ⟨post', z, rfl⟩
  · obtain ⟨hxs, hx⟩ := List.append_inj' h rfl
    exact Or.inr ⟨hxs, List.head_eq_of_cons_eq hx⟩
  · rw [List.concat_eq_append, ← List.cons_append, ← List.append_assoc] at h
    exact Or.inl ⟨post', (List.append_inj' h rfl).1⟩

theorem OnSchedule.contact (h : OnSchedule w events)
    (hwaiting : w'.reconnectTimer.isSome = !w'.currentES.isSome)
    (hbackoff : w'.backoffMs = BACKOFF_INITIAL) : OnSchedule w' (events ++ [.contact]) := by
  refine ⟨hwaiting, ?_, fun pre ms post heq => ?_⟩
  · rw [hbackoff, failures_contact]
    exact (backoff_zero (by decide)).symm
  · rcases concat_eq_split heq with ⟨post', hevents⟩ | ⟨-, hcontact⟩
    · exact h.delays pre ms post' hevents
    · cases hcontact

theorem OnSchedule.failed (h : OnSchedule w events) (hopen : w.currentES.isSome = true) :
    OnSchedule w.onerror.1 (events ++ w.onerror.2) := by
  have hnone : w.reconnectTimer = none := by
    have hwaiting := h.waiting
    rw [hopen] at hwaiting
    exact Option.not_isSome_iff_eq_none.mp (ne_true_of_eq_false hwaiting)
  have herror : w.onerror =
      ({ w with
          currentES := none
          reconnectTimer := some w.backoffMs
          backoffMs := min (w.backoffMs * 2) BACKOFF_MAX }, [.scheduled w.backoffMs]) := by
    rw [Link.onerror, Link.scheduleReconnect]
    show (match w.reconnectTimer with | some _ => _ | none => _) = _
    rw [hnone]
    rfl
  rw [herror]
  refine ⟨rfl, ?_, fun pre ms post heq => ?_⟩
  · show min (w.backoffMs * 2) BACKOFF_MAX = _
    rw [failures_scheduled, h.backoff]
    exact backoff_double _
  · rcases concat_eq_split heq with ⟨post', hevents⟩ | ⟨rfl, hms⟩
    · exact h.delays pre ms post' hevents
    · cases hms
      exact h.backoff

variable [F64 F]

theorem OnSchedule.step (h : OnSchedule w events) (startedAt : Int) (i : Input F) :
    OnSchedule (w.step startedAt i).1 (events ++ (w.step startedAt i).2) := by
  have hwaiting := h.waiting
  cases i with
  | others i => exact h.kept hwaiting rfl
  | fail => exact h.kept hwaiting rfl
  | accept =>
    rw [Link.step]
    split
    · next hes => exact h.kept (by rw [hwaiting, hes]; rfl) rfl
    · exact h.kept hwaiting rfl
  | opened =>
    rw [Link.step]
    split
    · next hes => exact h.contact (by show w.reconnectTimer.isSome = _; rw [hwaiting, hes]; rfl) rfl
    · exact h.kept hwaiting rfl
  | error =>
    rw [Link.step]
    split
    · next hopen => exact h.failed hopen
    · exact h.kept hwaiting rfl
  | message =>
    rw [Link.step]
    split
    · simp only
      split
      · exact h.contact hwaiting rfl
      · exact h.kept hwaiting rfl
    · exact h.kept hwaiting rfl
  | timeout =>
    rw [Link.step]
    split
    · exact h.kept rfl rfl
    · exact h.kept hwaiting rfl
  | serve =>
    rw [Link.step]
    split
    · exact h.kept hwaiting rfl
    · exact h.kept hwaiting rfl
  | answer i =>
    rw [Link.step]
    split
    · exact h.kept hwaiting rfl
    · exact h.kept hwaiting rfl

/-- The page always has a stream or waits for the next one, and never both.  The delay is
doubled with each failure in a row up to half a minute, and starts again at two seconds when
the page has heard from the server. -/
theorem page_reconnects (startedAt : Int) (sse : Sse F) (is : List (Input F)) :
    let r := run (Link.step startedAt) (Link.load sse) is
    (r.1.currentES.isSome = true ↔ r.1.reconnectTimer = none) ∧
      ∀ pre ms post, r.2 = pre ++ .scheduled ms :: post →
        ms = backoff BACKOFF_INITIAL BACKOFF_MAX (failures pre) := by
  intro r
  have hstart : OnSchedule (Link.load sse) [] :=
    ⟨rfl, (backoff_zero (show BACKOFF_INITIAL ≤ BACKOFF_MAX by decide)).symm,
      fun pre ms post heq => by cases pre <;> cases heq⟩
  have h : OnSchedule r.1 r.2 :=
    run_invariant (P := fun _ (w : Link F) events => OnSchedule w events) hstart
      (fun _ i _ _ h => h.step startedAt i) is
  refine ⟨?_, h.delays⟩
  rw [← Option.not_isSome_iff_eq_none, h.waiting]
  cases r.1.currentES.isSome <;> decide

end Schedule

/-! ## The configuration -/

/-- The configurations among the events that are still to come. -/
def pendingConfigs {F : Type} (r : Reader (SSEEvent F)) : List (PublicConfig F) :=
  r.channel.pending.filterMap SSEEvent.shownConfig

/-- What the page is going to show is what the process shows: a request is to be served, or
a newer configuration is to come, or the last answer has it, or the page shows it. -/
def UpToDate {F : Type} (w : Link F) (r : Reader (SSEEvent F)) : Prop :=
  0 < w.asked ∨ pendingConfigs r ≠ [] ∨
    w.answers.getLast?.or w.config = some w.sse.settled.publicConfig

/-- A stream that was opened and has missed nothing is up to date. -/
structure Fresh {F : Type} (w : Link F) : Prop where
  sse : w.sse.Sound
  reader : ∀ k opened, w.currentES = some ⟨some k, opened⟩ →
    ∃ r, w.sse.relay.readers[k]? = some r ∧ (opened = true → r.lagged = 0 → UpToDate w r)

/-- The next message of the stream is a configuration. -/
def Link.configNext {F : Type} (w : Link F) (k : Nat) : Bool :=
  match w.received k with
  | some (.message e) => e.isConfig
  | _ => false

/-- Nobody else reads from the stream of the page, no answer overtakes another or is on its
way when the page reads a new configuration, and none is lost. -/
def Orderly {F : Type} (w : Link F) : Input F → Prop
  | .others (.read k) => ∀ es ∈ w.currentES, es.reader ≠ some k
  | .message => ∀ es ∈ w.currentES, ∀ k ∈ es.reader, w.configNext k = true → w.answers = []
  | .answer i => i = 0
  | .fail => False
  | .others (.item _) | .others .forward | .others (.reload _) | .others .connect | .accept
  | .opened | .error | .timeout | .serve => True

section Freshness

variable {F : Type} {w w' : Link F} {r r' : Reader (SSEEvent F)}

theorem UpToDate.grow (h : UpToDate w r) (hvalid : r.channel.Valid) {items : List (SSEEvent F)}
    (hchannel : r'.channel = r.channel.send items) (hasked : w'.asked = w.asked)
    (hanswers : w'.answers = w.answers) (hconfig : w'.config = w.config)
    (hnew : w'.sse.settled.publicConfig = w.sse.settled.publicConfig ∨
      items.filterMap SSEEvent.shownConfig ≠ []) : UpToDate w' r' := by
  have hpending : pendingConfigs r' = pendingConfigs r ++ items.filterMap SSEEvent.shownConfig := by
    rw [pendingConfigs, hchannel, Receiver.send_pending hvalid, List.filterMap_append]
    rfl
  rw [UpToDate, hasked, hanswers, hconfig, hpending]
  rcases hnew with hsame | hnew
  · rw [hsame]
    rcases h with hasked | hcoming | hshown
    · exact Or.inl hasked
    · exact Or.inr (Or.inl (List.append_ne_nil_of_left_ne_nil hcoming _))
    · exact Or.inr (Or.inr hshown)
  · exact Or.inr (Or.inl (List.append_ne_nil_of_right_ne_nil _ hnew))

variable [F64 F]

/-- What another step of the server does to a stream. -/
theorem sse_reader {s : Sse F} {k : Nat} (hr : s.relay.readers[k]? = some r) (startedAt : Int)
    {i : SseInput F} (hi : i ≠ .read k) :
    ∃ r' items, (s.next startedAt i).relay.readers[k]? = some r' ∧
      r'.channel = r.channel.send items ∧ r'.lagged = r.lagged ∧
      ((s.next startedAt i).settled.publicConfig = s.settled.publicConfig ∨
        items.filterMap SSEEvent.shownConfig ≠ []) := by
  have hforward : ∀ i : RelayInput (DataItem F) (SSEEvent F), i ≠ .read k →
      ∃ r' items, (s.forward i).relay.readers[k]? = some r' ∧
        r'.channel = r.channel.send items ∧ r'.lagged = r.lagged ∧
        ((s.forward i).settled.publicConfig = s.settled.publicConfig ∨
          items.filterMap SSEEvent.shownConfig ≠ []) := by
    intro i hi
    obtain ⟨r', items, hr', hchannel, hlagged⟩ :=
      Relay.next_other channelCapacity sseChannelCapacity sseEvent hr hi
    exact ⟨r', items, hr', hchannel, hlagged, Or.inl rfl⟩
  cases i with
  | item d => exact hforward _ fun h => by cases h
  | forward => exact hforward _ fun h => by cases h
  | connect => exact hforward _ fun h => by cases h
  | read j => exact hforward _ fun h => hi (by cases h; rfl)
  | reload i =>
    rw [Sse.next, Settled.reload]
    cases i.accepted with
    | none => exact ⟨r, [], hr, (Receiver.send_nil _).symm, rfl, Or.inl rfl⟩
    | some c =>
      refine ⟨r.send (configEvent { c.toPublic with startedAt := some startedAt }),
        [configEvent { c.toPublic with startedAt := some startedAt }], ?_, rfl, rfl,
        Or.inr (List.cons_ne_nil _ _)⟩
      show (s.relay.readers.map (Reader.send _))[k]? = _
      rw [List.getElem?_map, hr]
      rfl

theorem Fresh.others (h : Fresh w) (startedAt : Int) {i : SseInput F}
    (hi : ∀ k opened, w.currentES = some ⟨some k, opened⟩ → i ≠ .read k) :
    Fresh { w with sse := w.sse.next startedAt i } := by
  refine ⟨h.sse.next startedAt i, fun k opened hes => ?_⟩
  obtain ⟨r, hr, hdate⟩ := h.reader k opened hes
  have hvalid := (h.sse.relay.readers r (List.mem_of_getElem? hr)).valid
  obtain ⟨r', items, hr', hchannel, hlagged, hnew⟩ := sse_reader hr startedAt (hi k opened hes)
  refine ⟨r', hr', fun hopened hmissed => ?_⟩
  exact (hdate hopened (hlagged ▸ hmissed)).grow hvalid hchannel rfl rfl rfl hnew

/-- The page reads the next message. -/
theorem Fresh.message (h : Fresh w) (startedAt : Int) {k : Nat}
    (hes : w.currentES = some ⟨some k, true⟩)
    (horderly : w.configNext k = true → w.answers = []) :
    Fresh (w.step startedAt .message).1 := by
  have hsse := h.sse.next startedAt (.read k)
  obtain ⟨r, hr, hdate⟩ := h.reader k true hes
  have hread : (w.sse.next startedAt (.read k)).relay.readers[k]? =
      some (r.read sseChannelCapacity) := Relay.next_read channelCapacity sseChannelCapacity sseEvent hr
  have hreceived : w.received k = (r.channel.recv sseChannelCapacity).map Prod.fst := by
    rw [Link.received, hr]
    rfl
  rw [Link.step, hes]
  simp only [hreceived]
  cases hrecv : r.channel.recv sseChannelCapacity with
  | none =>
    have hsame : r.read sseChannelCapacity = r := by rw [Reader.read, hrecv]
    refine ⟨hsse, fun k' opened hes' => ?_⟩
    cases hes'
    exact ⟨r, hread.trans (congrArg some hsame), hdate⟩
  | some received =>
    obtain ⟨m, channel⟩ := received
    cases m with
    | lagged n =>
      have hn : 0 < n := by
        rcases Receiver.recv_cases hrecv with ⟨heq, hpos, -⟩ | ⟨a, heq, -⟩
        · cases heq
          exact hpos
        · cases heq
      refine ⟨hsse, fun k' opened hes' => ?_⟩
      cases hes'
      refine ⟨_, hread, fun _ hmissed => ?_⟩
      rw [Reader.read, hrecv] at hmissed
      have hsum : r.lagged + n = 0 := hmissed
      omega
    | message e =>
      obtain ⟨hpending, hlog⟩ := Receiver.recv_message hrecv
      refine ⟨hsse, fun k' opened hes' => ?_⟩
      cases hes'
      refine ⟨_, hread, fun hopened hmissed => ?_⟩
      have hreader : r.read sseChannelCapacity = { r with channel := channel, got := r.got ++ [e] } := by
        rw [Reader.read, hrecv]
      rw [hreader] at hmissed ⊢
      have hbefore : pendingConfigs r = e.shownConfig.toList ++ channel.pending.filterMap
          SSEEvent.shownConfig := by
        rw [pendingConfigs, hpending, List.filterMap_cons]
        cases e.shownConfig <;> rfl
      show 0 < w.asked ∨ channel.pending.filterMap SSEEvent.shownConfig ≠ [] ∨
        w.answers.getLast?.or (e.shownConfig.or w.config) = some w.sse.settled.publicConfig
      cases hconfig : e.shownConfig with
      | none =>
        rw [hconfig] at hbefore
        have hdate := hdate rfl hmissed
        rw [UpToDate, hbefore] at hdate
        exact hdate
      | some c =>
        by_cases hmore : channel.pending.filterMap SSEEvent.shownConfig = []
        · -- The last configuration that was sent is the one that is shown.
          have hanswers : w.answers = [] := by
            refine horderly ?_
            rw [Link.configNext, hreceived, hrecv]
            show e.shownConfig.isSome = true
            rw [hconfig]
            rfl
          have hlast : (r.channel.log.filterMap SSEEvent.shownConfig).getLast? = some c := by
            rw [← r.channel.passed_append_pending, List.filterMap_append]
            rw [show r.channel.pending.filterMap SSEEvent.shownConfig = [c] by
              rw [hpending, List.filterMap_cons, hconfig, hmore]]
            exact List.getLast?_concat
          have hshown := h.sse.shown r (List.mem_of_getElem? hr) c hlast
          rw [hanswers, ← hshown]
          exact Or.inr (Or.inr rfl)
        · exact Or.inr (Or.inl hmore)

omit [F64 F] in
theorem Fresh.congr (h : Fresh w) (hsse : w'.sse = w.sse)
    (hreader : ∀ k opened, w'.currentES = some ⟨some k, opened⟩ →
      w.currentES = some ⟨some k, opened⟩ ∧ ∀ r, UpToDate w r → UpToDate w' r) : Fresh w' := by
  refine ⟨by rw [hsse]; exact h.sse, fun k opened hes => ?_⟩
  obtain ⟨hes, hdate⟩ := hreader k opened hes
  obtain ⟨r, hr, hold⟩ := h.reader k opened hes
  exact ⟨r, by rw [hsse]; exact hr, fun hopened hmissed => hdate r (hold hopened hmissed)⟩

theorem Fresh.step (h : Fresh w) (startedAt : Int) {i : Input F} (hi : Orderly w i) :
    Fresh (w.step startedAt i).1 := by
  cases i with
  | others i =>
    refine h.others startedAt fun k opened hes hread => ?_
    rw [hread] at hi
    exact hi _ hes rfl
  | fail => exact hi.elim
  | accept =>
    rw [Link.step]
    split
    · refine ⟨h.sse.next startedAt .connect, fun k opened hes => ?_⟩
      cases hes
      exact ⟨{ origin := w.sse.relay.up.next, behind := w.sse.relay.lagged },
        List.getElem?_concat_length, fun hopened => nomatch hopened⟩
    · exact h
  | opened =>
    rw [Link.step]
    split
    · next k hes =>
      refine ⟨h.sse, fun k' opened hes' => ?_⟩
      cases hes'
      obtain ⟨r, hr, -⟩ := h.reader k false hes
      exact ⟨r, hr, fun _ _ => Or.inl (Nat.succ_pos _)⟩
    · exact h
  | error =>
    rw [Link.step]
    split
    · refine h.congr ?_ fun k opened hes => ?_
      · rw [Link.onerror, Link.scheduleReconnect]
        split <;> rfl
      · rw [Link.onerror, Link.scheduleReconnect] at hes
        split at hes <;> cases hes
    · exact h
  | message =>
    by_cases hes : ∃ k, w.currentES = some ⟨some k, true⟩
    · obtain ⟨k, hes⟩ := hes
      exact h.message startedAt hes (hi _ hes k rfl)
    · rw [Link.step]
      split
      · next k hsome => exact absurd ⟨k, hsome⟩ hes
      · exact h
  | timeout =>
    rw [Link.step]
    split
    · exact h.congr rfl fun k opened hes => by cases hes
    · exact h
  | serve =>
    rw [Link.step]
    split
    · exact h
    · refine h.congr rfl fun k opened hes => ⟨hes, fun r _ => Or.inr (Or.inr ?_)⟩
      show (w.answers ++ [_]).getLast?.or _ = _
      rw [List.getLast?_concat]
      rfl
  | answer i =>
    obtain rfl : i = 0 := hi
    rw [Link.step]
    cases hanswers : w.answers with
    | nil => exact h
    | cons a rest =>
      refine h.congr rfl fun k opened hes => ⟨hes, fun r hdate => ?_⟩
      rw [UpToDate, hanswers] at hdate
      rcases hdate with hasked | hcoming | hshown
      · exact Or.inl hasked
      · exact Or.inr (Or.inl hcoming)
      · refine Or.inr (Or.inr ?_)
        show rest.getLast?.or (some a) = some w.sse.settled.publicConfig
        rw [← hshown, List.getLast?_cons]
        cases rest.getLast? <;> rfl

/-- Whatever was missed while the page had no stream, or a reload changes while it is asking:
when its stream was opened and has missed nothing, and nothing is under way, the page shows
the configuration that the process shows. -/
theorem page_shows_config (startedAt : Int) (settled : Settled F) (is : List (Input F))
    (horderly : ∀ js i, js ++ [i] <+: is →
      Orderly (run (Link.step startedAt) (Link.load { settled := settled }) js).1 i) :
    let w := (run (Link.step startedAt) (Link.load { settled := settled }) is).1
    ∀ k, w.currentES = some ⟨some k, true⟩ →
      ∃ r, w.sse.relay.readers[k]? = some r ∧
        (r.lagged = 0 → pendingConfigs r = [] → w.asked = 0 → w.answers = [] →
          w.config = some w.sse.settled.publicConfig) := by
  intro w k hes
  have hstart : Fresh (Link.load ({ settled := settled } : Sse F)) :=
    ⟨Sse.start_sound settled, fun k opened hes => by cases hes⟩
  have h : Fresh w := run_guarded (P := fun w : Link F => Fresh w) hstart
    (fun w i hi h => h.step startedAt hi) is horderly
  obtain ⟨r, hr, hdate⟩ := h.reader k true hes
  refine ⟨r, hr, fun hmissed hpending hasked hanswers => ?_⟩
  rcases hdate rfl hmissed with hpos | hcoming | hshown
  · exact absurd hasked (Nat.pos_iff_ne_zero.mp hpos)
  · exact absurd hpending hcoming
  · rwa [hanswers] at hshown

end Freshness

/-- The page is loaded, and loses its stream while the configuration is reloaded.  It comes
back, and there is another reload. -/
def reloads : List (Input ℚ) :=
  [.accept, .opened, .serve, .serve, .answer 0, .answer 0, .error,
    .others (.reload Settled.quietReload), .timeout, .accept, .opened, .serve, .answer 0,
    .others (.reload ⟨some sampleFile, fun _ => true⟩), .message]

instance Orderly.decidable {F : Type} (w : Link F) : (i : Input F) → Decidable (Orderly w i)
  | .others (.read k) => inferInstanceAs (Decidable (∀ es ∈ w.currentES, es.reader ≠ some k))
  | .message =>
    inferInstanceAs (Decidable
      (∀ es ∈ w.currentES, ∀ k ∈ es.reader, w.configNext k = true → w.answers = []))
  | .answer i => inferInstanceAs (Decidable (i = 0))
  | .fail => inferInstanceAs (Decidable False)
  | .others (.item _) | .others .forward | .others (.reload _) | .others .connect | .accept
  | .opened | .error | .timeout | .serve => inferInstanceAs (Decidable True)

theorem page_shows_config_reloads :
    let w := (run (Link.step 0)
      (Link.load { settled := Settled.start asciiUpper 0 sampleFile }) reloads).1
    w.config = some w.sse.settled.publicConfig := by
  intro w
  obtain ⟨r, hr, hshows⟩ := page_shows_config 0 (Settled.start asciiUpper 0 sampleFile) reloads
    (forall_prefix_of_take (by decide +kernel)) 1 (by decide +kernel)
  have hread : (w.sse.relay.readers[1]?).all
      (fun r => r.lagged == 0 && (pendingConfigs r).isEmpty) = true := by decide +kernel
  rw [hr, Option.all_some, Bool.and_eq_true] at hread
  exact hshows (eq_of_beq hread.1) (List.isEmpty_iff.mp hread.2) (by decide +kernel)
    (List.isEmpty_iff.mp (by decide +kernel))

end Connection
end Page
end Rtpigate
