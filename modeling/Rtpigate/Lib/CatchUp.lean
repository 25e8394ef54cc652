/-
Receivers that have caught up.

A bounded channel loses its oldest messages first.  So what a receiver has read last is a part
of the log without a gap, and that part starts no later than with the oldest message the
channel still keeps.  However much it has missed before, a receiver for which nothing is left
has read the newest messages, as many as the channel holds.  The same goes for a relay and its
readers, one channel after the other.
-/
import Rtpigate.Lib.Relay

namespace Rtpigate
namespace Lib

variable {α β : Type*}

namespace Receiver

/-- A receiver that came at `origin` turns each message into a list.  What it has made ends
with all from one message on that the channel still keeps, or that was the first one after
it came. -/
def Unbroken (capacity origin : Nat) (f : α → List β) (r : Receiver α) (made : List β) : Prop :=
  ∃ start ≤ r.next, start ≤ max origin (r.log.length - capacity) ∧
    (r.passed.drop start).flatMap f <:+ made

variable {capacity origin : Nat} {f : α → List β} {r r' : Receiver α} {made : List β}

theorem unbroken_next (capacity : Nat) (f : α → List β) (r : Receiver α) (made : List β) :
    r.Unbroken capacity r.next f made := by
  refine ⟨r.next, le_rfl, le_max_left _ _, ?_⟩
  have hnone : r.passed.drop r.next = [] := by
    rw [passed, List.drop_eq_nil_iff, List.length_take]
    omega
  rw [hnone]
  exact List.nil_suffix

namespace Unbroken

theorem send (h : r.Unbroken capacity origin f made) (hvalid : r.Valid) (items : List α) :
    (r.send items).Unbroken capacity origin f made := by
  obtain ⟨start, hnext, hstart, hmade⟩ := h
  refine ⟨start, hnext, ?_, by rwa [send_passed hvalid]⟩
  show start ≤ max origin ((r.log ++ items).length - capacity)
  rw [List.length_append]
  omega

/-- After a gap the receiver goes on with the oldest message kept. -/
theorem gap (hvalid : r.Valid) (hpos : 0 < (r.skipped capacity).length) (hlog : r'.log = r.log)
    (hvalid' : r'.Valid) (hpassed : r'.passed = r.passed ++ r.skipped capacity) :
    r'.Unbroken capacity origin f made := by
  have hlen := passed_length hvalid'
  rw [hpassed, List.length_append, passed_length hvalid] at hlen
  have hskipped : (r.skipped capacity).length ≤ r.missed capacity := List.length_take_le _ _
  obtain ⟨start, hnext, -, hmade⟩ := unbroken_next capacity f r' made
  refine ⟨start, hnext, ?_, hmade⟩
  rw [hlog]
  rw [missed] at hskipped
  omega

theorem message (h : r.Unbroken capacity origin f made) (hvalid : r.Valid)
    (hlog : r'.log = r.log) (hvalid' : r'.Valid) {a : α} (hpassed : r'.passed = r.passed ++ [a]) :
    r'.Unbroken capacity origin f (made ++ f a) := by
  obtain ⟨start, hnext, hstart, before, rfl⟩ := h
  have hlen := passed_length hvalid'
  rw [hpassed, List.length_append, passed_length hvalid, List.length_singleton] at hlen
  refine ⟨start, by omega, by rwa [hlog], before, ?_⟩
  have hle : start ≤ r.passed.length := by rwa [passed_length hvalid]
  rw [hpassed, List.drop_append_of_le_length hle, List.flatMap_append, List.flatMap_singleton,
    List.append_assoc]

/-- Nothing is left. -/
theorem caught_up (h : r.Unbroken capacity origin f made) (hpending : r.pending = []) :
    (r.log.drop (max origin (r.log.length - capacity))).flatMap f <:+ made := by
  obtain ⟨start, -, hstart, hmade⟩ := h
  have hpassed : r.passed = r.log := by
    have hsplit := r.passed_append_pending
    rwa [hpending, List.append_nil] at hsplit
  rw [hpassed] at hmade
  obtain ⟨more, hmore⟩ := Nat.exists_eq_add_of_le hstart
  have hsuffix : ((r.log.drop start).drop more).flatMap f <:+ (r.log.drop start).flatMap f := by
    refine ⟨((r.log.drop start).take more).flatMap f, ?_⟩
    rw [← List.flatMap_append, List.take_append_drop]
  rw [hmore, ← List.drop_drop]
  exact hsuffix.trans hmade

end Unbroken

end Receiver

/-! ## Readers of a relay -/

variable {upper lower : Nat} {f : α → β} {own : β → Bool} {s : Relay α β} {r : Reader β}

/-- What a reader has got, and what has been relayed to it, have no gap since the oldest
message that is still kept. -/
structure Reader.Unbroken (upper lower : Nat) (f : α → β) (own : β → Bool) (s : Relay α β)
    (r : Reader β) : Prop where
  got : r.channel.Unbroken lower 0 (fun b => [b]) r.got
  relayed : s.up.Unbroken upper r.origin (fun a => [f a]) (r.channel.log.filter fun b => !own b)

namespace Reader.Unbroken

/-- The reader is sent messages, and the relay gets on. -/
theorem move (h : r.Unbroken upper lower f own s) (hvalid : r.channel.Valid) {s' : Relay α β}
    {items : List β}
    (hrelayed : s'.up.Unbroken upper r.origin (fun a => [f a])
      ((r.channel.log ++ items).filter fun b => !own b)) :
    Reader.Unbroken upper lower f own s' { r with channel := r.channel.send items } :=
  ⟨h.got.send hvalid items, hrelayed⟩

theorem congr (h : r.Unbroken upper lower f own s) {s' : Relay α β} (hup : s'.up = s.up) :
    r.Unbroken upper lower f own s' := ⟨h.got, by rw [hup]; exact h.relayed⟩

theorem read (h : r.Unbroken upper lower f own s) (hvalid : r.channel.Valid) :
    (r.read lower).Unbroken upper lower f own s := by
  rw [Reader.read]
  cases hrecv : r.channel.recv lower with
  | none => exact h
  | some received =>
    obtain ⟨m, channel⟩ := received
    rcases Receiver.recv_cases hrecv with
      ⟨rfl, hpos, hlog, hvalid', hpassed⟩ | ⟨b, rfl, hlog, hvalid', hpassed⟩
    · exact ⟨.gap hvalid hpos hlog hvalid' hpassed, hlog ▸ h.relayed⟩
    · exact ⟨h.got.message hvalid hlog hvalid' hpassed, hlog ▸ h.relayed⟩

/-- The relay and the reader have caught up. -/
theorem caught_up (h : r.Unbroken upper lower f own s) (hup : s.up.pending = [])
    (hdown : r.channel.pending = []) :
    (s.up.log.drop (max r.origin (s.up.log.length - upper))).map f <:+
        (r.channel.log.filter fun b => !own b) ∧
      r.channel.log.drop (r.channel.log.length - lower) <:+ r.got := by
  have hrelayed := h.relayed.caught_up hup
  have hgot := h.got.caught_up hdown
  rw [← List.map_eq_flatMap] at hrelayed
  rw [Nat.zero_max, List.flatMap_singleton'] at hgot
  exact ⟨hrelayed, hgot⟩

end Reader.Unbroken

theorem Relay.next_unbroken (hsound : s.Sound f own)
    (h : ∀ r ∈ s.readers, r.Unbroken upper lower f own s) (hf : ∀ a, own (f a) = false)
    {i : RelayInput α β} (hi : i.Apart own) :
    ∀ r ∈ (s.next upper lower f i).readers, r.Unbroken upper lower f own (s.next upper lower f i) := by
  intro r hr
  cases i with
  | send a =>
    have hr' := h r hr
    exact ⟨hr'.got, hr'.relayed.send hsound.valid [a]⟩
  | own b =>
    obtain ⟨r₀, hr₀, rfl⟩ := List.mem_map.mp hr
    refine (h r₀ hr₀).move (hsound.readers r₀ hr₀).valid ?_
    have hnone : [b].filter (fun b => !own b) = [] := by
      rw [List.filter_singleton, show own b = true from hi]
      rfl
    rw [List.filter_append, hnone, List.append_nil]
    exact (h r₀ hr₀).relayed
  | connect =>
    rcases List.mem_append.mp hr with hr | hr
    · exact (h r hr).congr rfl
    · rw [List.mem_singleton.mp hr]
      exact ⟨Receiver.unbroken_next _ _ _ _, Receiver.unbroken_next _ _ _ _⟩
  | read k =>
    rw [Relay.next, List.mem_iff_getElem?] at hr
    obtain ⟨n, hn⟩ := hr
    rw [List.getElem?_modify] at hn
    obtain ⟨r₀, hr₀, heq⟩ := Option.map_eq_some_iff.mp hn
    have hmem := List.mem_of_getElem? hr₀
    split at heq
    · rw [← heq]
      exact ((h r₀ hmem).read (hsound.readers r₀ hmem).valid).congr rfl
    · rw [← heq]
      exact (h r₀ hmem).congr rfl
  | relay =>
    rw [Relay.next] at hr ⊢
    cases hrecv : s.up.recv upper with
    | none =>
      rw [hrecv] at hr
      exact h r hr
    | some received =>
      obtain ⟨m, up⟩ := received
      rw [hrecv] at hr
      rcases Receiver.recv_cases hrecv with
        ⟨rfl, hpos, hlog, hvalid, hpassed⟩ | ⟨a, rfl, hlog, hvalid, hpassed⟩
      · exact ⟨(h r hr).got, .gap hsound.valid hpos hlog hvalid hpassed⟩
      · obtain ⟨r₀, hr₀, rfl⟩ := List.mem_map.mp hr
        refine (h r₀ hr₀).move (hsound.readers r₀ hr₀).valid ?_
        have hone : [f a].filter (fun b => !own b) = [f a] := by
          rw [List.filter_singleton, hf a]
          rfl
        rw [List.filter_append, hone]
        exact (h r₀ hr₀).relayed.message hsound.valid hlog hvalid hpassed

end Lib
end Rtpigate
