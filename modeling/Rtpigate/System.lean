/-
The data channel between the tasks.

The listener sends a packet for every frame it maps, and it, the GPS task and the
APRS-IS task itself send telemetry.  The APRS-IS task receives at its own pace, not
at all while it is connecting, and is told how many messages it has missed.
-/
import Rtpigate.Aprsis.Accounting
import Rtpigate.Aprsis.Dedup

namespace Rtpigate

open Lib Aprsis

def channelCapacity : Nat := 128

/-- The APRS-IS task and the data channel as this task sees it. -/
structure System (F : Type) where
  channel : Receiver (DataItem F)
  task : Aprsis.State F

/-- One event of the system: the listener reads a frame, some other task sends
telemetry, the APRS-IS task receives, or something else happens to it. -/
inductive SystemInput (F : Type)
  | frame (world : Listener.FrameWorld F) (fr : AprsFrame F)
  | telemetry (x : AppTelemetry F)
  | recv (clock : GateClock) (outcome : WriteResult)
  | own (i : Aprsis.Input F)

variable {F : Type}

def published (evs : List (Event F)) : List (DataItem F) :=
  evs.filterMap fun
    | .publish x => some (.tlm (.aprsisStatus x))
    | _ => none

/-- The packet of an item. -/
def packetOf : DataItem F → Option (RTPPacket F)
  | .pkt p => some p
  | .tlm _ => none

def packetsOf (items : List (DataItem F)) : List (RTPPacket F) := items.filterMap packetOf

theorem packetsOf_append (a b : List (DataItem F)) :
    packetsOf (a ++ b) = packetsOf a ++ packetsOf b := List.filterMap_append

theorem published_isPkt {evs : List (Event F)} {d : DataItem F} (h : d ∈ published evs) :
    d.isPkt = false := by
  obtain ⟨e, _, he⟩ := List.mem_filterMap.mp h
  cases e with
  | publish x =>
    cases he
    rfl
  | received | write | saveLifetime | saveSeq | sleep => cases he

theorem packetsOf_published (evs : List (Event F)) : packetsOf (published evs) = [] := by
  refine List.filterMap_eq_nil_iff.mpr fun d hd => ?_
  have hnone := published_isPkt hd
  cases d with
  | pkt p => cases hnone
  | tlm t => rfl

def Aprsis.Input.isRecv : Aprsis.Input F → Bool
  | .recv _ _ _ => true
  | _ => false

namespace System

def start (row : Option AprsisLifetime) (seq : SeqLoad) : System F :=
  ⟨Receiver.subscribe, (Aprsis.start row seq).1⟩

section Steps

variable [F64 F]

/-- A step of the task, with its statistics sent. -/
def taskStep (t : Captured F) (sys : System F) (i : Aprsis.Input F) :
    System F × List (Event F) :=
  let stepped := Aprsis.step t sys.task i
  ({ channel := sys.channel.send (published stepped.2), task := stepped.1 }, stepped.2)

def next (c : Config F) (t : Captured F) (sys : System F) (i : SystemInput F) :
    System F × List (Event F) :=
  match i with
  | .frame world fr =>
    let sent := (Listener.packet c.satelliteFrequencies world fr).map DataItem.pkt
    ({ sys with channel := sys.channel.send sent.toList }, [])
  | .telemetry x => ({ sys with channel := sys.channel.send [.tlm x] }, [])
  | .recv clock outcome =>
    if sys.task.phase = .inner then
      match sys.channel.recv channelCapacity with
      | some (m, channel) => taskStep t { sys with channel := channel } (.recv m clock outcome)
      | none => (sys, [])
    else (sys, [])
  | .own i => if i.isRecv then (sys, []) else taskStep t sys i

end Steps

/-! ## Packets before the task -/

def pkts (items : List (DataItem F)) : Nat := items.countP DataItem.isPkt

theorem pkts_append (a b : List (DataItem F)) : pkts (a ++ b) = pkts a + pkts b :=
  List.countP_append

/-- All messages the receive skips are packets, and the counter has room for them. -/
def LagsOnPackets (sys : System F) (i : SystemInput F) : Prop :=
  match i with
  | .recv _ _ =>
    ∀ d ∈ sys.channel.skipped channelCapacity, d.isPkt = true ∧
      sys.task.lifetime.laggedDrops + (sys.channel.skipped channelCapacity).length ≤ u64Max
  | _ => True

instance (sys : System F) (i : SystemInput F) : Decidable (LagsOnPackets sys i) :=
  match i with
  | .recv _ _ => inferInstanceAs (Decidable (∀ _ ∈ _, _))
  | .frame _ _ | .telemetry _ | .own _ => .isTrue trivial

/-- What the task is done with is what it has counted. -/
structure Conserved (s₀ : Aprsis.State F) (sys : System F) : Prop where
  valid : sys.channel.Valid
  counted : ∃ received lagged,
    sys.task.lifetime.rfReceived = s₀.lifetime.rfReceived + received ∧
      sys.task.lifetime.laggedDrops = s₀.lifetime.laggedDrops + lagged ∧
        pkts sys.channel.passed = received + lagged

variable {s₀ : Aprsis.State F} {sys : System F}

theorem Conserved.send (h : Conserved s₀ sys) (items : List (DataItem F)) :
    Conserved s₀ { sys with channel := sys.channel.send items } where
  valid := Receiver.send_valid h.valid items
  counted := by
    show ∃ received lagged, _ ∧ _ ∧ pkts (sys.channel.send items).passed = received + lagged
    rw [Receiver.send_passed h.valid]
    exact h.counted

variable [F64 F] {c : Config F} {t : Captured F}

theorem handlePacket_receives (t : Captured F) (clock : GateClock) (outcome : WriteResult)
    (s : Aprsis.State F) (p : RTPPacket F) :
    (handlePacket t clock outcome s p).1.lifetime.rfReceived = s.lifetime.rfReceived + 1 ∧
      (handlePacket t clock outcome s p).1.lifetime.laggedDrops = s.lifetime.laggedDrops := by
  have hexit := handlePacket_exit t clock outcome s p
  generalize handlePacket t clock outcome s p = r at hexit
  cases hexit with
  | filtered reason => cases reason <;> exact ⟨rfl, rfl⟩
  | ungated | duplicate | refused | gated | failed => exact ⟨rfl, rfl⟩

/-- An input of the task's own handles no packet. -/
theorem step_own (t : Captured F) (s : Aprsis.State F) {i : Aprsis.Input F}
    (hi : i.isRecv = false) :
    (step t s i).1.lifetime = s.lifetime ∧ packetWrites (step t s i).2 = [] := by
  cases step_cases t s i with
  | packet p clock outcome hrecv | lagged n clock outcome hrecv =>
    rw [hrecv] at hi
    cases hi
  | sample now utc _ _ hstep =>
    rw [hstep]
    exact ⟨rfl, rfl⟩
  | report world posit outcomes _ _ hstep =>
    have hq := floorTick_quiet t world posit outcomes s
    rw [hstep]
    exact ⟨hq.lifetime, hq.noPacket.1⟩
  | other hq => exact ⟨hq.lifetime, hq.noPacket.1⟩

theorem step_recv (t : Captured F) {s : Aprsis.State F} (hphase : s.phase = .inner)
    (m : Received (DataItem F)) (clock : GateClock) (outcome : WriteResult) :
    step t s (.recv m clock outcome) = handleMessage t clock outcome m s := by
  simp only [step, hphase]

theorem taskStep_conserved {channel : Receiver (DataItem F)} {i : Aprsis.Input F}
    (hvalid : channel.Valid)
    (hcounted : ∃ received lagged,
      (step t sys.task i).1.lifetime.rfReceived = s₀.lifetime.rfReceived + received ∧
        (step t sys.task i).1.lifetime.laggedDrops = s₀.lifetime.laggedDrops + lagged ∧
          pkts channel.passed = received + lagged) :
    Conserved s₀ (taskStep t { sys with channel := channel } i).1 := by
  have hstepped : Conserved s₀ ⟨channel, (step t sys.task i).1⟩ := ⟨hvalid, hcounted⟩
  exact hstepped.send _

/-- A receive is told of the messages it has missed, takes the next one, or has to wait. -/
inductive RecvCase (c : Config F) (t : Captured F) (sys : System F) (clock : GateClock)
    (outcome : WriteResult) : Prop
  | lagged (channel : Receiver (DataItem F)) (hphase : sys.task.phase = .inner)
      (hpos : 0 < (sys.channel.skipped channelCapacity).length)
      (hlog : channel.log = sys.channel.log) (hvalid : channel.Valid)
      (hpassed : channel.passed = sys.channel.passed ++ sys.channel.skipped channelCapacity)
      (h : sys.next c t (.recv clock outcome) = taskStep t { sys with channel := channel }
        (.recv (.lagged (sys.channel.skipped channelCapacity).length) clock outcome))
  | message (d : DataItem F) (channel : Receiver (DataItem F)) (hphase : sys.task.phase = .inner)
      (hlog : channel.log = sys.channel.log) (hvalid : channel.Valid)
      (hpassed : channel.passed = sys.channel.passed ++ [d])
      (h : sys.next c t (.recv clock outcome) =
        taskStep t { sys with channel := channel } (.recv (.message d) clock outcome))
  | idle (h : sys.next c t (.recv clock outcome) = (sys, []))

theorem next_recv_cases (c : Config F) (t : Captured F) (sys : System F) (clock : GateClock)
    (outcome : WriteResult) : RecvCase c t sys clock outcome := by
  by_cases hphase : sys.task.phase = .inner
  case neg => exact .idle (by rw [next, if_neg hphase])
  cases hrecv : sys.channel.recv channelCapacity with
  | none => exact .idle (by rw [next, if_pos hphase, hrecv])
  | some received =>
    obtain ⟨m, channel⟩ := received
    have hnext : sys.next c t (.recv clock outcome) =
        taskStep t { sys with channel := channel } (.recv m clock outcome) := by
      rw [next, if_pos hphase, hrecv]
    rcases Receiver.recv_cases hrecv with
      ⟨rfl, hpos, hlog, hvalid, hpassed⟩ | ⟨d, rfl, hlog, hvalid, hpassed⟩
    · exact .lagged channel hphase hpos hlog hvalid hpassed hnext
    · exact .message d channel hphase hlog hvalid hpassed hnext

/-- The report of missed messages, when they are packets and the counter has room. -/
theorem lag_conserved (h : Conserved s₀ sys) (hphase : sys.task.phase = .inner)
    {channel : Receiver (DataItem F)} (hvalid : channel.Valid)
    (hpassed : channel.passed = sys.channel.passed ++ sys.channel.skipped channelCapacity)
    (hall : ∀ d ∈ sys.channel.skipped channelCapacity, d.isPkt = true)
    (hroom : sys.task.lifetime.laggedDrops + (sys.channel.skipped channelCapacity).length ≤ u64Max)
    (clock : GateClock) (outcome : WriteResult) :
    Conserved s₀ (taskStep t { sys with channel := channel }
      (.recv (.lagged (sys.channel.skipped channelCapacity).length) clock outcome)).1 := by
  obtain ⟨received, lagged, hr, hl, hp⟩ := h.counted
  have hcount : pkts (sys.channel.skipped channelCapacity) =
      (sys.channel.skipped channelCapacity).length := List.countP_eq_length.mpr hall
  refine taskStep_conserved hvalid
    ⟨received, lagged + (sys.channel.skipped channelCapacity).length, ?_, ?_, ?_⟩
  · rw [step_recv t hphase]
    exact hr
  · rw [step_recv t hphase]
    show min (sys.task.lifetime.laggedDrops + _) u64Max = _
    omega
  · rw [hpassed, pkts_append]
    omega

/-- The next message. -/
theorem message_conserved (h : Conserved s₀ sys) (hphase : sys.task.phase = .inner)
    {channel : Receiver (DataItem F)} (hvalid : channel.Valid) {d : DataItem F}
    (hpassed : channel.passed = sys.channel.passed ++ [d]) (clock : GateClock)
    (outcome : WriteResult) :
    Conserved s₀ (taskStep t { sys with channel := channel }
      (.recv (.message d) clock outcome)).1 := by
  obtain ⟨received, lagged, hr, hl, hp⟩ := h.counted
  cases d with
  | pkt p =>
    obtain ⟨hr', hl'⟩ := handlePacket_receives t clock outcome sys.task p
    refine taskStep_conserved hvalid ⟨received + 1, lagged, ?_, ?_, ?_⟩
    · rw [step_recv t hphase]
      exact hr'.trans (by omega)
    · rw [step_recv t hphase]
      exact hl'.trans hl
    · rw [hpassed, pkts_append]
      show _ + 1 = _
      omega
  | tlm x =>
    refine taskStep_conserved hvalid ⟨received, lagged, ?_, ?_, ?_⟩
    · rw [step_recv t hphase]
      exact hr
    · rw [step_recv t hphase]
      exact hl
    · rw [hpassed, pkts_append]
      exact hp

theorem next_conserved (h : Conserved s₀ sys) {i : SystemInput F} (hlag : LagsOnPackets sys i) :
    Conserved s₀ (sys.next c t i).1 := by
  cases i with
  | frame world fr => exact h.send _
  | telemetry x => exact h.send _
  | own i =>
    show Conserved s₀ (if i.isRecv = true then (sys, []) else taskStep t sys i).1
    split
    · exact h
    · next hown =>
      obtain ⟨received, lagged, hr, hl, hp⟩ := h.counted
      have hsame := (step_own t sys.task (Bool.not_eq_true _ ▸ hown)).1
      rw [← hsame] at hr hl
      exact taskStep_conserved h.valid ⟨received, lagged, hr, hl, hp⟩
  | recv clock outcome =>
    cases next_recv_cases c t sys clock outcome with
    | lagged channel hphase hpos _ hvalid hpassed hnext =>
      obtain ⟨d, hd⟩ := List.exists_mem_of_length_pos hpos
      rw [hnext]
      exact lag_conserved h hphase hvalid hpassed (fun d hd => (hlag d hd).1) (hlag d hd).2 clock
        outcome
    | message d channel hphase _ hvalid hpassed hnext =>
      rw [hnext]
      exact message_conserved h hphase hvalid hpassed clock outcome
    | idle hnext =>
      rw [hnext]
      exact h

/-- While every lag the task is told of skips packets only, the packets sent since it
subscribed are those it received, those it counted as lagged, and those still before
it. -/
theorem packets_conserved (c : Config F) (t : Captured F) (row : Option AprsisLifetime)
    (seq : SeqLoad) (is : List (SystemInput F))
    (hlag : ∀ js i, js ++ [i] <+: is → LagsOnPackets (run (next c t) (start row seq) js).1 i) :
    pkts (run (next c t) (start row seq) is).1.channel.log =
      increase Lifetime.rfReceived (Aprsis.start row seq).1
          (run (next c t) (start row seq) is).1.task +
        increase Lifetime.laggedDrops (Aprsis.start row seq).1
          (run (next c t) (start row seq) is).1.task +
        pkts (run (next c t) (start row seq) is).1.channel.pending := by
  have hstart : Conserved (Aprsis.start row seq).1 (start row seq : System F) :=
    ⟨Receiver.subscribe_valid, 0, 0, rfl, rfl, rfl⟩
  have h := run_guarded (P := Conserved (Aprsis.start row seq).1) hstart
    (fun sys i hok h => next_conserved (c := c) (t := t) h hok) is hlag
  generalize (run (next c t) (start row seq) is).1 = sys at h ⊢
  obtain ⟨received, lagged, hr, hl, hp⟩ := h.counted
  rw [← sys.channel.passed_append_pending, pkts_append, hp, increase, increase]
  omega

/-- A task that gets in touch after 129 packets, is told of the first one and receives
the second one. -/
def latePackets : List (SystemInput ℚ) :=
  List.replicate 129 (.frame Listener.sampleWorld (Listener.sampleFrame "W1AW" [62, 65])) ++
    [.own (.attempt .loggedIn), .recv ⟨0, 0⟩ .done, .recv ⟨0, 0⟩ .done]

theorem packets_conserved_sample :
    pkts (run (next sampleConfig sampleStation) (start none .failed) latePackets).1.channel.log =
      increase Lifetime.rfReceived (Aprsis.start none .failed).1
          (run (next sampleConfig sampleStation) (start none .failed) latePackets).1.task +
        increase Lifetime.laggedDrops (Aprsis.start none .failed).1
          (run (next sampleConfig sampleStation) (start none .failed) latePackets).1.task +
        pkts (run (next sampleConfig sampleStation) (start none .failed)
          latePackets).1.channel.pending :=
  packets_conserved sampleConfig sampleStation none .failed latePackets
    (forall_prefix_of_take (by decide +kernel))

def lateStart : List (SystemInput ℚ) :=
  List.replicate 129 (.telemetry (.gpsStatus "gps_status")) ++ [.own (.attempt .loggedIn), .recv ⟨0, 0⟩ .done]

/-- No packet was sent, and one is counted as lagged. -/
theorem telemetry_counted_lagged :
    pkts (run (next sampleConfig sampleStation) (start none .failed) lateStart).1.channel.log ≠
      increase Lifetime.rfReceived (Aprsis.start none .failed).1
          (run (next sampleConfig sampleStation) (start none .failed) lateStart).1.task +
        increase Lifetime.laggedDrops (Aprsis.start none .failed).1
          (run (next sampleConfig sampleStation) (start none .failed) lateStart).1.task +
        pkts (run (next sampleConfig sampleStation) (start none .failed)
          lateStart).1.channel.pending := by
  decide +kernel

end System

end Rtpigate
