/-
From the air to APRS-IS, in order.

The packets the task handles are packets of frames the listener has read, and the lines it
writes are lines of packets it has handled: in order, each once, and each unchanged.  Packets
are missed while the task is connecting, but when it has caught up, it has handled all that
are among the newest messages.
-/
import Rtpigate.Lib.CatchUp
import Rtpigate.System

namespace Rtpigate

open Lib Aprsis

variable {F : Type}

def SystemInput.heard [F64 F] (satFreqs : List F) : SystemInput F → Option (RTPPacket F)
  | .frame world fr => Listener.packet satFreqs world fr
  | .telemetry _ | .recv _ _ | .own _ => none

/-- What is on the channel, what has been handled, and what has been written. -/
structure InOrder [F64 F] (c : Config F) (t : Captured F) (is : List (SystemInput F)) (sys : System F)
    (tr : List (Event F)) : Prop where
  valid : sys.channel.Valid
  log : packetsOf sys.channel.log = is.filterMap (SystemInput.heard c.satelliteFrequencies)
  handled : (received tr).Sublist (packetsOf sys.channel.passed)
  newest : sys.channel.Unbroken channelCapacity 0 (fun d => (packetOf d).toList) (received tr)
  written : ((packetWrites tr).map PacketWrite.p).Sublist (received tr)
  lines : ∀ w ∈ packetWrites tr, w.bytes = w.p.forRxigateBytes t.callsign ++ crlf

/-- The events of a step that handles these packets. -/
structure Handles (t : Captured F) (packets : List (RTPPacket F)) (evs : List (Event F)) :
    Prop where
  handled : received evs = packets
  written : ((packetWrites evs).map PacketWrite.p).Sublist packets
  lines : ∀ w ∈ packetWrites evs, w.bytes = w.p.forRxigateBytes t.callsign ++ crlf

theorem handles_none {t : Captured F} {evs : List (Event F)} (h : packetWrites evs = [] ∧ received evs = []) :
    Handles t [] evs := by
  refine ⟨h.2, ?_, fun w hw => ?_⟩
  · rw [h.1]
    exact List.nil_sublist _
  · rw [h.1] at hw
    cases hw

variable [F64 F] {c : Config F} {t : Captured F} {is : List (SystemInput F)} {sys : System F}
  {tr : List (Event F)}

theorem handlePacket_handles (t : Captured F) (clock : GateClock) (outcome : WriteResult)
    (s : State F) (p : RTPPacket F) : Handles t [p] (handlePacket t clock outcome s p).2 := by
  have hexit := handlePacket_exit t clock outcome s p
  generalize handlePacket t clock outcome s p = r at hexit
  cases hexit with
  | ungated | filtered | duplicate | refused =>
    exact ⟨rfl, List.nil_sublist _, fun w hw => by cases hw⟩
  | gated | failed =>
    refine ⟨rfl, List.Sublist.refl _, fun w hw => ?_⟩
    rw [List.mem_singleton.mp hw]

theorem step_own_handles (t : Captured F) (s : State F) {i : Aprsis.Input F}
    (hi : i.isRecv = false) : Handles t [] (step t s i).2 := by
  cases step_cases t s i with
  | packet p clock outcome hrecv | lagged n clock outcome hrecv =>
    rw [hrecv] at hi
    cases hi
  | sample now utc _ _ hstep =>
    rw [hstep]
    exact handles_none ⟨rfl, rfl⟩
  | report world posit outcomes _ _ hstep =>
    rw [hstep]
    exact handles_none (floorTick_quiet t world posit outcomes s).noPacket
  | other hq => exact handles_none hq.noPacket

/-- The channel gets items with the packet of the input. -/
theorem InOrder.send (h : InOrder c t is sys tr) (i : SystemInput F) {items : List (DataItem F)}
    (hitems : packetsOf items = (i.heard c.satelliteFrequencies).toList) :
    InOrder c t (is ++ [i]) { sys with channel := sys.channel.send items } (tr ++ []) := by
  rw [List.append_nil]
  refine ⟨Receiver.send_valid h.valid items, ?_, ?_, h.newest.send h.valid items, h.written,
    h.lines⟩
  · show packetsOf (sys.channel.log ++ items) = _
    rw [packetsOf_append, h.log, hitems, List.filterMap_append]
    cases hheard : i.heard c.satelliteFrequencies <;> simp [hheard]
  · show (received tr).Sublist (packetsOf (sys.channel.send items).passed)
    rw [Receiver.send_passed h.valid]
    exact h.handled

/-- The task has taken `items` off the channel and handles their packets. -/
theorem InOrder.taskStep (h : InOrder c t is sys tr) {i : SystemInput F}
    (hi : i.heard c.satelliteFrequencies = none) {channel : Receiver (DataItem F)}
    (hlog : channel.log = sys.channel.log) (hvalid : channel.Valid) {items : List (DataItem F)}
    (hpassed : channel.passed = sys.channel.passed ++ items) (packets : List (RTPPacket F))
    (hpackets : packets.Sublist (packetsOf items))
    (hnewest : channel.Unbroken channelCapacity 0 (fun d => (packetOf d).toList)
      (received tr ++ packets))
    {a : Aprsis.Input F} (hstep : Handles t packets (step t sys.task a).2) :
    InOrder c t (is ++ [i]) (System.taskStep t { sys with channel := channel } a).1
      (tr ++ (System.taskStep t { sys with channel := channel } a).2) := by
  have hreceived : received (tr ++ (step t sys.task a).2) = received tr ++ packets := by
    rw [received_append, hstep.handled]
  refine ⟨Receiver.send_valid hvalid _, ?_, ?_, ?_, ?_, fun w hw => ?_⟩
  · show packetsOf (channel.log ++ published (step t sys.task a).2) = _
    rw [packetsOf_append, packetsOf_published, List.append_nil, hlog, h.log, List.filterMap_append,
      List.filterMap_cons_none hi, List.filterMap_nil, List.append_nil]
  · show (received (tr ++ (step t sys.task a).2)).Sublist (packetsOf (channel.send _).passed)
    rw [Receiver.send_passed hvalid, hpassed, packetsOf_append, hreceived]
    exact h.handled.append hpackets
  · show Receiver.Unbroken _ _ _ (channel.send _) (received (tr ++ (step t sys.task a).2))
    rw [hreceived]
    exact hnewest.send hvalid _
  · show ((packetWrites (tr ++ (step t sys.task a).2)).map PacketWrite.p).Sublist
      (received (tr ++ (step t sys.task a).2))
    rw [packetWrites_append, List.map_append, hreceived]
    exact h.written.append hstep.written
  · rw [packetWrites_append] at hw
    rcases List.mem_append.mp hw with hw | hw
    · exact h.lines w hw
    · exact hstep.lines w hw

theorem InOrder.next (h : InOrder c t is sys tr) (i : SystemInput F) :
    InOrder c t (is ++ [i]) (sys.next c t i).1 (tr ++ (sys.next c t i).2) := by
  have hidle : i.heard c.satelliteFrequencies = none → InOrder c t (is ++ [i]) sys (tr ++ []) := by
    intro hi
    have hsend : InOrder c t (is ++ [i]) { sys with channel := sys.channel.send [] } (tr ++ []) :=
      h.send i (by rw [hi]; rfl)
    rwa [Receiver.send_nil] at hsend
  cases i with
  | frame world fr =>
    refine h.send _ ?_
    rw [SystemInput.heard]
    cases Listener.packet c.satelliteFrequencies world fr <;> rfl
  | telemetry x => exact h.send _ rfl
  | own a =>
    rw [System.next]
    split
    case isTrue => exact hidle rfl
    case isFalse hown =>
      refine h.taskStep rfl rfl h.valid (List.append_nil _).symm [] (List.nil_sublist _) ?_
        (step_own_handles t sys.task (Bool.not_eq_true _ ▸ hown))
      rw [List.append_nil]
      exact h.newest
  | recv clock outcome =>
    rw [System.next]
    by_cases hphase : sys.task.phase = .inner
    case neg =>
      rw [if_neg hphase]
      exact hidle rfl
    rw [if_pos hphase]
    cases hrecv : sys.channel.recv channelCapacity with
    | none => exact hidle rfl
    | some received =>
      obtain ⟨m, channel⟩ := received
      rcases Receiver.recv_cases hrecv with
        ⟨rfl, hpos, hlog, hvalid, hpassed⟩ | ⟨d, rfl, hlog, hvalid, hpassed⟩
      · refine h.taskStep rfl hlog hvalid hpassed [] (List.nil_sublist _) ?_ ?_
        · rw [List.append_nil]
          exact .gap h.valid hpos hlog hvalid hpassed
        · rw [System.step_recv t hphase]
          exact handles_none ⟨rfl, rfl⟩
      · refine h.taskStep rfl hlog hvalid hpassed (packetOf d).toList ?_
          (h.newest.message h.valid hlog hvalid hpassed) ?_
        · cases d <;> exact List.Sublist.refl _
        · rw [System.step_recv t hphase]
          cases d with
          | pkt p => exact handlePacket_handles t clock outcome sys.task p
          | tlm x => exact handles_none ⟨rfl, rfl⟩

/-- However frames, telemetry, receives, ticks, write failures and reconnects come in between
each other: the lines are those of packets handled, and these are packets of frames heard,
each time in order and each once.  When nothing is left on the channel, the packets among
the last 128 messages are the ones handled last. -/
theorem gate_in_order (c : Config F) (t : Captured F) (row : Option AprsisLifetime)
    (seq : SeqLoad) (is : List (SystemInput F)) :
    let ended := run (System.next c t) (System.start row seq) is
    ((packetWrites ended.2).map PacketWrite.p).Sublist (received ended.2) ∧
      (received ended.2).Sublist (is.filterMap (SystemInput.heard c.satelliteFrequencies)) ∧
      (∀ w ∈ packetWrites ended.2, w.bytes = w.p.forRxigateBytes t.callsign ++ crlf) ∧
      (ended.1.channel.pending = [] →
        packetsOf (ended.1.channel.log.drop (ended.1.channel.log.length - channelCapacity)) <:+
          received ended.2) := by
  intro ended
  have h : InOrder c t is ended.1 ended.2 := by
    refine run_invariant (P := InOrder c t) ?_ (fun is i sys tr h => h.next i) is
    exact ⟨Receiver.subscribe_valid, rfl, List.nil_sublist _, Receiver.unbroken_next _ _ _ _,
      List.nil_sublist _, fun w hw => by cases hw⟩
  refine ⟨h.written, ?_, h.lines, fun hpending => ?_⟩
  · rw [← h.log]
    exact h.handled.trans ((List.take_sublist _ _).filterMap packetOf)
  · have hnewest := h.newest.caught_up hpending
    rw [Nat.zero_max] at hnewest
    rwa [packetsOf, List.filterMap_eq_flatMap_toList]

end Rtpigate
