/-
A relay between two broadcast channels.

The relay is one receiver of a first channel, and sends what it takes on a second one,
to which others send too.  Readers of the second channel come at any time.  Both
channels are bounded, so that a message may be missed by the relay, for all readers,
or by one reader.

A reader has an account: what the relay has got for it since it came, and what was
sent to it besides, it has read, it has missed, or it is still to come.
-/
import Rtpigate.Lib.Broadcast

namespace Rtpigate
namespace Lib

variable {α β : Type*}

/-- A reader with what it has read, and how many messages it has missed.  When it came, the
relay was done with `origin` messages and had missed `behind`. -/
structure Reader (β : Type*) where
  channel : Receiver β := Receiver.subscribe
  got : List β := []
  lagged : Nat := 0
  origin : Nat
  behind : Nat

/-- The receiver of the relay, how many messages it has missed, and the readers in the order
in which they came. -/
structure Relay (α β : Type*) where
  up : Receiver α := Receiver.subscribe
  lagged : Nat := 0
  readers : List (Reader β) := []

inductive RelayInput (α β : Type*)
  | send (a : α)
  | relay
  | own (b : β)
  | connect
  | read (k : Nat)

/-- What an input puts into the first channel. -/
def RelayInput.sent : RelayInput α β → List α
  | .send a => [a]
  | .relay | .own _ | .connect | .read _ => []

namespace Reader

def send (b : β) (r : Reader β) : Reader β := { r with channel := r.channel.send [b] }

def read (capacity : Nat) (r : Reader β) : Reader β :=
  match r.channel.recv capacity with
  | none => r
  | some (.lagged n, channel) => { r with channel := channel, lagged := r.lagged + n }
  | some (.message b, channel) => { r with channel := channel, got := r.got ++ [b] }

end Reader

namespace Relay

def next (upper lower : Nat) (f : α → β) (s : Relay α β) : RelayInput α β → Relay α β
  | .send a => { s with up := s.up.send [a] }
  | .relay =>
    match s.up.recv upper with
    | none => s
    | some (.lagged n, up) => { s with up := up, lagged := s.lagged + n }
    | some (.message a, up) => { s with up := up, readers := s.readers.map (Reader.send (f a)) }
  | .own b => { s with readers := s.readers.map (Reader.send b) }
  | .connect => { s with readers := s.readers ++ [{ origin := s.up.next, behind := s.lagged }] }
  | .read k => { s with readers := s.readers.modify k (Reader.read lower) }

end Relay

/-! ## The account of a reader -/

/-- `own` tells the messages that others send. -/
structure Reader.Sound (f : α → β) (own : β → Bool) (s : Relay α β) (r : Reader β) : Prop where
  valid : r.channel.Valid
  origin : r.origin ≤ s.up.next
  behind : r.behind ≤ s.lagged
  relayed : (r.channel.log.filter fun b => !own b).Sublist ((s.up.passed.drop r.origin).map f)
  missed : (r.channel.log.filter fun b => !own b).length + (s.lagged - r.behind) =
    s.up.next - r.origin
  got : r.got.Sublist r.channel.passed
  lagged : r.got.length + r.lagged = r.channel.next

structure Relay.Sound (f : α → β) (own : β → Bool) (s : Relay α β) : Prop where
  valid : s.up.Valid
  readers : ∀ r ∈ s.readers, r.Sound f own s

/-- Inputs whose own messages are told from those relayed. -/
def RelayInput.Apart (own : β → Bool) : RelayInput α β → Prop
  | .own b => own b = true
  | .send _ | .relay | .connect | .read _ => True

variable {f : α → β} {own : β → Bool} {s : Relay α β} {r : Reader β}

theorem Receiver.passed_length {r : Receiver α} (h : r.Valid) : r.passed.length = r.next := by
  rw [passed, List.length_take, Nat.min_eq_left h]

/-- The relay is done with more messages, of which the reader has got `items`. -/
theorem Reader.Sound.move (h : r.Sound f own s) (hvalid : s.up.Valid) {up : Receiver α}
    (hup : up.Valid) {more : List α} (hpassed : up.passed = s.up.passed ++ more) (lagged : Nat)
    (items : List β) (readers : List (Reader β))
    (hitems : (items.filter fun b => !own b).Sublist (more.map f))
    (hcount : (items.filter fun b => !own b).length + lagged = more.length) :
    Reader.Sound f own ⟨up, s.lagged + lagged, readers⟩
      { r with channel := r.channel.send items } := by
  have hlen := Receiver.passed_length hup
  rw [hpassed, List.length_append, Receiver.passed_length hvalid] at hlen
  have horigin := h.origin
  have hbehind := h.behind
  have hmissed := h.missed
  refine ⟨Receiver.send_valid h.valid items, ?_, ?_, ?_, ?_, ?_, h.lagged⟩
  · show r.origin ≤ up.next
    omega
  · show r.behind ≤ s.lagged + lagged
    omega
  · show ((r.channel.log ++ items).filter fun b => !own b).Sublist ((up.passed.drop r.origin).map f)
    have hle : r.origin ≤ s.up.passed.length := by
      rw [Receiver.passed_length hvalid]
      exact horigin
    rw [List.filter_append, hpassed, List.drop_append_of_le_length hle, List.map_append]
    exact h.relayed.append hitems
  · show ((r.channel.log ++ items).filter fun b => !own b).length +
      (s.lagged + lagged - r.behind) = up.next - r.origin
    rw [List.filter_append, List.length_append]
    omega
  · show r.got.Sublist (r.channel.send items).passed
    rw [Receiver.send_passed h.valid]
    exact h.got

/-- What happens to the other readers, and to the channel before the relay, does not
matter. -/
theorem Reader.Sound.congr (h : r.Sound f own s) {s' : Relay α β}
    (hnext : s'.up.next = s.up.next) (hpassed : s'.up.passed = s.up.passed)
    (hlagged : s'.lagged = s.lagged) : r.Sound f own s' where
  valid := h.valid
  origin := hnext ▸ h.origin
  behind := hlagged ▸ h.behind
  relayed := hpassed ▸ h.relayed
  missed := by
    rw [hnext, hlagged]
    exact h.missed
  got := h.got
  lagged := h.lagged

theorem Reader.read_log (r : Reader β) (capacity : Nat) :
    (r.read capacity).channel.log = r.channel.log := by
  rw [Reader.read]
  cases hrecv : r.channel.recv capacity with
  | none => rfl
  | some received =>
    obtain ⟨m, channel⟩ := received
    rcases Receiver.recv_cases hrecv with ⟨rfl, -, hlog, -⟩ | ⟨_, rfl, hlog, -⟩
    · exact hlog
    · exact hlog

theorem Reader.Sound.read (h : r.Sound f own s) (capacity : Nat) :
    (r.read capacity).Sound f own s := by
  rw [Reader.read]
  cases hrecv : r.channel.recv capacity with
  | none => exact h
  | some received =>
    obtain ⟨m, channel⟩ := received
    have hlagged := h.lagged
    have hlen := Receiver.passed_length h.valid
    rcases Receiver.recv_cases hrecv with
      ⟨rfl, _, hlog, hvalid, hpassed⟩ | ⟨b, rfl, hlog, hvalid, hpassed⟩
    · have hnext := Receiver.passed_length hvalid
      rw [hpassed, List.length_append, hlen] at hnext
      refine ⟨hvalid, h.origin, h.behind, ?_, ?_, ?_, ?_⟩
      · show (channel.log.filter fun b => !own b).Sublist _
        rw [hlog]
        exact h.relayed
      · show (channel.log.filter fun b => !own b).length + _ = _
        rw [hlog]
        exact h.missed
      · show r.got.Sublist channel.passed
        rw [hpassed]
        exact h.got.trans (List.sublist_append_left _ _)
      · show r.got.length + (r.lagged + (r.channel.skipped capacity).length) = channel.next
        omega
    · have hnext := Receiver.passed_length hvalid
      rw [hpassed, List.length_append, hlen, List.length_singleton] at hnext
      refine ⟨hvalid, h.origin, h.behind, ?_, ?_, ?_, ?_⟩
      · show (channel.log.filter fun b => !own b).Sublist _
        rw [hlog]
        exact h.relayed
      · show (channel.log.filter fun b => !own b).length + _ = _
        rw [hlog]
        exact h.missed
      · show (r.got ++ [b]).Sublist channel.passed
        rw [hpassed]
        exact h.got.append (List.Sublist.refl [b])
      · show (r.got ++ [b]).length + r.lagged = channel.next
        rw [List.length_append, List.length_singleton]
        omega

theorem Relay.Sound.next (h : s.Sound f own) (hf : ∀ a, own (f a) = false) (upper lower : Nat)
    {i : RelayInput α β} (hi : i.Apart own) : (s.next upper lower f i).Sound f own := by
  have hup := Receiver.passed_length h.valid
  cases i with
  | send a =>
    refine ⟨Receiver.send_valid h.valid [a], fun r hr => (h.readers r hr).congr rfl ?_ rfl⟩
    exact Receiver.send_passed h.valid [a]
  | own b =>
    refine ⟨h.valid, fun r hr => ?_⟩
    obtain ⟨r₀, hr₀, rfl⟩ := List.mem_map.mp hr
    have hnone : [b].filter (fun b => !own b) = [] := by
      rw [List.filter_singleton, show own b = true from hi]
      rfl
    exact (h.readers r₀ hr₀).move h.valid h.valid (List.append_nil _).symm 0 [b]
      (s.readers.map (Reader.send b)) (by rw [hnone]; exact List.Sublist.refl [])
      (by rw [hnone]; rfl)
  | connect =>
    refine ⟨h.valid, fun r hr => ?_⟩
    rcases List.mem_append.mp hr with hr | hr
    · exact (h.readers r hr).congr rfl rfl rfl
    · rw [List.mem_singleton.mp hr]
      refine ⟨Receiver.subscribe_valid, le_rfl, le_rfl, List.nil_sublist _, ?_,
        List.Sublist.refl _, rfl⟩
      show 0 + (s.lagged - s.lagged) = s.up.next - s.up.next
      omega
  | read k =>
    refine ⟨h.valid, fun r hr => ?_⟩
    rw [Relay.next, List.mem_iff_getElem?] at hr
    obtain ⟨n, hn⟩ := hr
    rw [List.getElem?_modify] at hn
    obtain ⟨r₀, hr₀, heq⟩ := Option.map_eq_some_iff.mp hn
    have hsound := h.readers r₀ (List.mem_of_getElem? hr₀)
    split at heq
    · rw [← heq]
      exact (hsound.read lower).congr rfl rfl rfl
    · rw [← heq]
      exact hsound.congr rfl rfl rfl
  | relay =>
    rw [Relay.next]
    cases hrecv : s.up.recv upper with
    | none => exact h
    | some received =>
      obtain ⟨m, up⟩ := received
      rcases Receiver.recv_cases hrecv with
        ⟨rfl, _, _, hvalid, hpassed⟩ | ⟨a, rfl, _, hvalid, hpassed⟩
      · refine ⟨hvalid, fun r hr => ?_⟩
        have hmove := (h.readers r hr).move h.valid hvalid hpassed (s.up.skipped upper).length []
          s.readers (List.nil_sublist _) (Nat.zero_add _)
        rwa [show r.channel.send [] = r.channel by rw [Receiver.send, List.append_nil]] at hmove
      · refine ⟨hvalid, fun r hr => ?_⟩
        obtain ⟨r₀, hr₀, rfl⟩ := List.mem_map.mp hr
        have hone : [f a].filter (fun b => !own b) = [f a] := by
          rw [List.filter_singleton, hf a]
          rfl
        exact (h.readers r₀ hr₀).move h.valid hvalid hpassed 0 [f a]
          (s.readers.map (Reader.send (f a))) (by rw [hone]; exact List.Sublist.refl _)
          (by rw [hone]; rfl)

/-- What a step sends to a reader is made of a message of the first channel, unless it is
sent besides.  A reader that comes is the last one. -/
theorem Relay.next_log_at (upper lower : Nat) {i : RelayInput α β} (hi : ∀ b, i ≠ .own b) {k : Nat}
    {r : Reader β} (hr : (s.next upper lower f i).readers[k]? = some r) :
    (i = .connect ∧ k = s.readers.length ∧ r.channel.log = []) ∨
      ∃ r₀, s.readers[k]? = some r₀ ∧ (r.channel.log = r₀.channel.log ∨
        ∃ a ∈ s.up.log, r.channel.log = r₀.channel.log ++ [f a]) := by
  cases i with
  | send a => exact Or.inr ⟨r, hr, Or.inl rfl⟩
  | own b => exact absurd rfl (hi b)
  | connect =>
    change (s.readers ++ [_])[k]? = some r at hr
    by_cases hk : k < s.readers.length
    · rw [List.getElem?_append_left hk] at hr
      exact Or.inr ⟨r, hr, Or.inl rfl⟩
    · rw [List.getElem?_append_right (not_lt.mp hk), List.getElem?_singleton] at hr
      split at hr
      · cases hr
        exact Or.inl ⟨rfl, by omega, rfl⟩
      · cases hr
  | read j =>
    rw [Relay.next, List.getElem?_modify] at hr
    obtain ⟨r₀, hr₀, heq⟩ := Option.map_eq_some_iff.mp hr
    refine Or.inr ⟨r₀, hr₀, Or.inl ?_⟩
    split at heq
    · rw [← heq]
      exact r₀.read_log lower
    · rw [← heq]
  | relay =>
    rw [Relay.next] at hr
    cases hrecv : s.up.recv upper with
    | none =>
      rw [hrecv] at hr
      exact Or.inr ⟨r, hr, Or.inl rfl⟩
    | some received =>
      obtain ⟨m, up⟩ := received
      rw [hrecv] at hr
      rcases Receiver.recv_cases hrecv with ⟨rfl, -⟩ | ⟨a, rfl, hlog, -, hpassed⟩
      · exact Or.inr ⟨r, hr, Or.inl rfl⟩
      · change (s.readers.map (Reader.send (f a)))[k]? = some r at hr
        rw [List.getElem?_map] at hr
        obtain ⟨r₀, hr₀, rfl⟩ := Option.map_eq_some_iff.mp hr
        have ha : a ∈ up.passed := by
          rw [hpassed]
          exact List.mem_append_right _ List.mem_cons_self
        refine Or.inr ⟨r₀, hr₀, Or.inr ⟨a, ?_, rfl⟩⟩
        rw [← hlog]
        exact List.mem_of_mem_take ha

theorem Relay.next_log (upper lower : Nat) {i : RelayInput α β} (hi : ∀ b, i ≠ .own b)
    {r : Reader β} (hr : r ∈ (s.next upper lower f i).readers) :
    r.channel.log = [] ∨ ∃ r₀ ∈ s.readers, r.channel.log = r₀.channel.log ∨
      ∃ a ∈ s.up.log, r.channel.log = r₀.channel.log ++ [f a] := by
  obtain ⟨k, hk⟩ := List.mem_iff_getElem?.mp hr
  rcases Relay.next_log_at upper lower hi hk with ⟨-, -, hlog⟩ | ⟨r₀, hr₀, hlog⟩
  · exact Or.inl hlog
  · exact Or.inr ⟨r₀, List.mem_of_getElem? hr₀, hlog⟩

theorem Relay.next_length (upper lower : Nat) (f : α → β) {i : RelayInput α β} (hi : i ≠ .connect) :
    (s.next upper lower f i).readers.length = s.readers.length := by
  cases i with
  | send a => rfl
  | own b => exact List.length_map _
  | connect => exact absurd rfl hi
  | read k => exact List.length_modify _ _ _
  | relay =>
    rw [Relay.next]
    split
    · rfl
    · rfl
    · exact List.length_map _

theorem Relay.next_up (s : Relay α β) (upper lower : Nat) (f : α → β) (i : RelayInput α β) :
    (s.next upper lower f i).up.log = s.up.log ++ i.sent := by
  cases i with
  | send a => rfl
  | own b | connect | read k => exact (List.append_nil _).symm
  | relay =>
    rw [Relay.next, RelayInput.sent, List.append_nil]
    cases hrecv : s.up.recv upper with
    | none => rfl
    | some received =>
      obtain ⟨m, up⟩ := received
      rcases Receiver.recv_cases hrecv with ⟨rfl, -, hlog, -⟩ | ⟨_, rfl, hlog, -⟩
      · exact hlog
      · exact hlog

/-! ## One reader -/

theorem Receiver.send_nil (r : Receiver α) : r.send [] = r := by rw [send, List.append_nil]

/-- The steps of the others send something to a reader, or nothing. -/
theorem Relay.next_other (upper lower : Nat) (f : α → β) {k : Nat} {i : RelayInput α β}
    (hr : s.readers[k]? = some r) (hi : i ≠ .read k) :
    ∃ r' items, (s.next upper lower f i).readers[k]? = some r' ∧
      r'.channel = r.channel.send items ∧ r'.lagged = r.lagged := by
  have hsame : ∃ r' items, some r = some r' ∧ r'.channel = r.channel.send items ∧
      r'.lagged = r.lagged := ⟨r, [], rfl, (Receiver.send_nil _).symm, rfl⟩
  cases i with
  | send a =>
    rw [← hr] at hsame
    exact hsame
  | own b =>
    refine ⟨r.send b, [b], ?_, rfl, rfl⟩
    show (s.readers.map (Reader.send b))[k]? = _
    rw [List.getElem?_map, hr]
    rfl
  | connect =>
    refine ⟨r, [], ?_, (Receiver.send_nil _).symm, rfl⟩
    show (s.readers ++ [_])[k]? = _
    rw [List.getElem?_append_left (List.getElem?_eq_some_iff.mp hr).1]
    exact hr
  | read j =>
    have hj : j ≠ k := fun h => hi (congrArg _ h)
    rw [← hr, ← List.getElem?_modify_ne (Reader.read lower) s.readers hj] at hsame
    exact hsame
  | relay =>
    rw [Relay.next]
    cases hrecv : s.up.recv upper with
    | none =>
      rw [← hr] at hsame
      exact hsame
    | some received =>
      obtain ⟨m, up⟩ := received
      cases m with
      | lagged n =>
        rw [← hr] at hsame
        exact hsame
      | message a =>
        refine ⟨r.send (f a), [f a], ?_, rfl, rfl⟩
        show (s.readers.map (Reader.send (f a)))[k]? = _
        rw [List.getElem?_map, hr]
        rfl

theorem Relay.next_read (upper lower : Nat) (f : α → β) {k : Nat}
    (hr : s.readers[k]? = some r) :
    (s.next upper lower f (.read k)).readers[k]? = some (r.read lower) := by
  show (s.readers.modify k (Reader.read lower))[k]? = _
  rw [List.getElem?_modify_eq, hr]
  rfl

/-- What is sent is still to come. -/
theorem Receiver.send_pending {r : Receiver α} (h : r.Valid) (items : List α) :
    (r.send items).pending = r.pending ++ items := List.drop_append_of_le_length h

/-- A message that is received was the next one. -/
theorem Receiver.recv_message {capacity : Nat} {r r' : Receiver α} {a : α} (h : r.recv capacity =
    some (.message a, r')) : r.pending = a :: r'.pending ∧ r'.log = r.log := by
  rcases Receiver.recv_cases h with ⟨hm, -⟩ | ⟨a', hm, hlog, -, hpassed⟩
  · cases hm
  · cases hm
    have hsplit := r'.passed_append_pending
    rw [hlog, ← r.passed_append_pending, hpassed, List.append_assoc] at hsplit
    exact ⟨(List.append_cancel_left hsplit).symm, hlog⟩

/-! ## What a reader gets -/

/-- What a reader has read of the relayed messages is a part of what was sent since it came,
in order. -/
theorem Reader.Sound.got_sublist (h : r.Sound f own s) :
    (r.got.filter fun b => !own b).Sublist ((s.up.log.drop r.origin).map f) := by
  have hlog : r.got.Sublist r.channel.log := h.got.trans (List.take_sublist _ _)
  have hpassed : s.up.passed.Sublist s.up.log := List.take_sublist _ _
  exact (hlog.filter _).trans (h.relayed.trans ((hpassed.drop r.origin).map f))

/-- All that was sent for the reader since it came is read, missed or still to come. -/
theorem Reader.Sound.account (h : r.Sound f own s) (hvalid : s.up.Valid) :
    r.got.length + r.lagged + r.channel.pending.length + (s.lagged - r.behind) +
        s.up.pending.length =
      (s.up.log.length - r.origin) + r.channel.log.countP own := by
  have hnext : r.channel.next ≤ r.channel.log.length := h.valid
  have hup : s.up.next ≤ s.up.log.length := hvalid
  have horigin := h.origin
  have hmissed := h.missed
  have hlagged := h.lagged
  have hsplit := List.length_eq_countP_add_countP own (l := r.channel.log)
  have hothers : (r.channel.log.filter fun b => !own b).length =
      r.channel.log.countP fun b => ¬own b := by
    rw [List.countP_eq_length_filter]
    congr 1
    refine List.filter_congr fun b _ => ?_
    cases own b <;> rfl
  rw [Receiver.pending, Receiver.pending, List.length_drop, List.length_drop]
  omega

theorem Reader.Sound.got_log (h : r.Sound f own s) (hlagged : r.lagged = 0)
    (hpending : r.channel.pending = []) : r.got = r.channel.log := by
  have hpassed : r.channel.passed = r.channel.log := by
    have := r.channel.passed_append_pending
    rwa [hpending, List.append_nil] at this
  have hsub := h.got
  have hlen := Receiver.passed_length h.valid
  rw [hpassed] at hsub hlen
  have hcount := h.lagged
  exact hsub.eq_of_length (by omega)

/-- A reader that has missed nothing, and for which nothing is under way, has read all. -/
theorem Reader.Sound.got_all (h : r.Sound f own s) (hvalid : s.up.Valid)
    (hmissed : s.lagged = r.behind) (hlagged : r.lagged = 0) (hup : s.up.pending = [])
    (hdown : r.channel.pending = []) :
    (r.got.filter fun b => !own b) = (s.up.log.drop r.origin).map f := by
  have hpassed : s.up.passed = s.up.log := by
    have := s.up.passed_append_pending
    rwa [hup, List.append_nil] at this
  rw [h.got_log hlagged hdown]
  have hsub := h.relayed
  rw [hpassed] at hsub
  refine hsub.eq_of_length ?_
  have hcount := h.missed
  have hall : s.up.log.length ≤ s.up.next := List.drop_eq_nil_iff.mp hup
  have hnext : s.up.next ≤ s.up.log.length := hvalid
  rw [List.length_map, List.length_drop]
  omega

end Lib
end Rtpigate
