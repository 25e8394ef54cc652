/-
The satellite log over a restart.

The log is on disk as a table under the receive time in microseconds, and a restart
loads it in the order of its keys.  What comes back is what was in memory as far as
the times tell the packets apart, are in order, and nothing was dropped from a packet.
-/
import Rtpigate.Lib.Ordered
import Rtpigate.Lib.Rolling
import Rtpigate.Listener.SatelliteLog

namespace Rtpigate

open Lib

/-! ## The response -/

/-- Which numbers are written as such.  The others are written as `null`. -/
class JsonNumber (F : Type) where
  finite : F → Bool

instance : JsonNumber ℚ := ⟨fun _ => true⟩

variable {F : Type}

def number [JsonNumber F] (x : F) : Option F := if JsonNumber.finite x then some x else none

structure TwistJson (F : Type) where
  cols : Nat
  mask : UInt16
  zones : List UInt8
  centroidDb : Option F
  deriving DecidableEq

/-- The serialized fields of a packet.  The twist is left out when there is none. -/
structure PacketJson (F : Type) where
  receivetime : Int
  raw : String
  info : String
  path : String
  digipeaterPath : List String
  hops : Nat
  ptype : Char
  source : String
  destination : String
  heardDirect : Bool
  heardfrom : String
  wasDigipeated : Bool
  rfonly : Bool
  frequency : Option F
  isSatellite : Bool
  igated : Bool
  infoInvalidBytes : Nat
  objectName : Option String
  latitude : Option F
  longitude : Option F
  altitudeFt : Option F
  speedMph : Option F
  courseDeg : Option Nat
  snrDb : Option F
  twist : Option (TwistJson F)
  deriving DecidableEq

def TwistInfo.serialize [JsonNumber F] (t : TwistInfo F) : TwistJson F where
  cols := t.cols
  mask := t.mask
  zones := t.zones
  centroidDb := number t.centroidDb

def RTPPacket.serialize [JsonNumber F] (p : RTPPacket F) : PacketJson F where
  receivetime := p.receivetime
  raw := p.raw
  info := p.info
  path := p.path
  digipeaterPath := p.digipeaterPath
  hops := p.hops
  ptype := p.ptype
  source := p.source
  destination := p.destination
  heardDirect := p.heardDirect
  heardfrom := p.heardfrom
  wasDigipeated := p.wasDigipeated
  rfonly := p.rfonly
  frequency := number p.frequency
  isSatellite := p.isSatellite
  igated := p.igated
  infoInvalidBytes := p.infoInvalidBytes
  objectName := p.objectName
  latitude := p.latitude.bind number
  longitude := p.longitude.bind number
  altitudeFt := p.altitudeFt.bind number
  speedMph := p.speedMph.bind number
  courseDeg := p.courseDeg
  snrDb := p.snrDb.bind number
  twist := p.twist.map TwistInfo.serialize

def satellitePacketsHandler [JsonNumber F] (log : List (RTPPacket F)) : List (PacketJson F) :=
  log.reverse.map RTPPacket.serialize

/-- The entries of a response within 24 hours. -/
def PacketJson.within (now : Int) (response : List (PacketJson F)) : List (PacketJson F) :=
  response.filter fun e => !decide (Listener.hours 24 < now - e.receivetime)

/-! ## What a row keeps -/

/-- A packet that comes back from its row as it was shown. -/
structure RTPPacket.Restorable [JsonNumber F] (p : RTPPacket F) : Prop where
  wholeMicros : p.receivetime % 1000 = 0
  speedMph : p.speedMph.bind number = none
  courseDeg : p.courseDeg = none
  snrDb : p.snrDb.bind number = none
  twist : p.twist = none

def RTPPacket.restored (instant : Nat) (p : RTPPacket F) : RTPPacket F :=
  (SatPacketRec.fromPacket p).intoPacket instant

theorem RTPPacket.restored_receivetime {p : RTPPacket F} (h : InDates p.receivetime)
    (instant : Nat) : (p.restored instant).receivetime = p.keyMicros * 1000 :=
  fromMicros_toMicros h

theorem RTPPacket.Restorable.receivetime [JsonNumber F] {p : RTPPacket F} (h : p.Restorable) :
    p.keyMicros * 1000 = p.receivetime := by
  have hmod := h.wholeMicros
  show p.receivetime / 1000 * 1000 = p.receivetime
  omega

theorem RTPPacket.Restorable.serialize [JsonNumber F] {p : RTPPacket F} (h : p.Restorable)
    (hp : InDates p.receivetime) (instant : Nat) :
    (p.restored instant).serialize = p.serialize := by
  have htime : (p.restored instant).receivetime = p.receivetime :=
    (RTPPacket.restored_receivetime hp instant).trans h.receivetime
  rw [RTPPacket.serialize, RTPPacket.serialize, htime, h.speedMph, h.courseDeg, h.snrDb, h.twist]
  rfl

/-- A packet shown as one that comes from a row is restorable. -/
theorem RTPPacket.restorable_of_serialize [JsonNumber F] {p q : RTPPacket F} {instant : Nat}
    (hq : InDates q.receivetime) (h : (q.restored instant).serialize = p.serialize) :
    p.Restorable ∧ p.receivetime = q.keyMicros * 1000 := by
  have htime : (q.restored instant).receivetime = p.receivetime :=
    congrArg PacketJson.receivetime h
  rw [RTPPacket.restored_receivetime hq] at htime
  refine ⟨⟨by omega, (congrArg PacketJson.speedMph h).symm, (congrArg PacketJson.courseDeg h).symm,
    (congrArg PacketJson.snrDb h).symm, ?_⟩, htime.symm⟩
  have htwist : none = p.twist.map TwistInfo.serialize := congrArg PacketJson.twist h
  exact Option.map_eq_none_iff.mp htwist.symm

namespace Listener

/-! ## The table -/

/-- What a call does to the satellite table. -/
def Call.satOp : Call F → Option (Rolling (RTPPacket F) Int)
  | .insertSatPacket p => some (.insert p)
  | .deleteSatPackets keys => some (.remove (· ∈ keys))
  | _ => none

def satOps (calls : List (Call F)) : List (Rolling (RTPPacket F) Int) := calls.filterMap Call.satOp

abbrev satReplay (ops : List (Rolling (RTPPacket F) Int)) : Table Int (SatPacketRec F) :=
  Rolling.replay RTPPacket.keyMicros SatPacketRec.fromPacket ops

theorem satReplay_keyed (ops : List (Rolling (RTPPacket F) Int)) :
    Table.Keyed SatPacketRec.keyMicros (satReplay ops) :=
  Rolling.replay_keyed SatPacketRec.fromPacket (fun _ => rfl) ops

/-- Rows in the order of their keys. -/
theorem rows_ordered {m : Table Int (SatPacketRec F)} (hm : Table.Keyed SatPacketRec.keyMicros m) :
    m.rows.Pairwise fun a b => a.keyMicros < b.keyMicros := by
  rw [Table.rows, List.pairwise_map]
  refine m.ordered_keys_toList.imp_of_mem fun {a b} ha hb hab => ?_
  rw [hm a.1 a.2 (Std.ExtTreeMap.mem_toList_iff_getElem?_eq_some.mp ha),
    hm b.1 b.2 (Std.ExtTreeMap.mem_toList_iff_getElem?_eq_some.mp hb)]
  exact Int.compare_eq_lt.mp hab

theorem deleteAll_eq_remove (m : Table Int (SatPacketRec F)) (keys : List Int) :
    Table.deleteAll m keys = Rolling.store RTPPacket.keyMicros SatPacketRec.fromPacket m
      (.remove (· ∈ keys)) := by
  apply Std.ExtTreeMap.ext_getElem?
  intro k
  rw [Rolling.store, Table.getElem?_deleteAll, Table.getElem?_deleteAll]
  simp only [List.mem_filter, Table.mem_keys_iff, decide_eq_true_eq]
  by_cases hk : k ∈ keys
  · rw [if_pos hk]
    cases m[k]? <;> simp [hk]
  · rw [if_neg hk, if_neg fun h => hk h.2]

theorem applyAll_satPackets [F64 F] (d : Disk F) (calls : List (Call F)) :
    (d.applyAll calls).satPackets =
      (satOps calls).foldl (Rolling.store RTPPacket.keyMicros SatPacketRec.fromPacket)
        d.satPackets := by
  induction calls generalizing d with
  | nil => rfl
  | cons c calls ih =>
    show ((d.apply c).applyAll calls).satPackets = _
    rw [ih, satOps, satOps]
    cases c with
    | deleteSatPackets keys =>
      show List.foldl _ (Table.deleteAll d.satPackets keys) _ = _
      rw [deleteAll_eq_remove]
      rfl
    | _ => rfl

/-! ## What comes back -/

theorem eq_of_same_time {log : List (RTPPacket F)} {p q : RTPPacket F}
    (h : log.Pairwise fun a b => a.receivetime < b.receivetime) (hp : p ∈ log) (hq : q ∈ log)
    (htime : q.receivetime = p.receivetime) : q = p := by
  have hnodup : (log.map RTPPacket.receivetime).Nodup :=
    List.pairwise_map.mpr (h.imp fun hab => ne_of_lt hab)
  exact List.inj_on_of_nodup_map hnodup hq hp htime

/-- The packets of a log within 24 hours. -/
def young (now : Int) (log : List (RTPPacket F)) : List (RTPPacket F) :=
  log.filter fun p => !satExpired now p

theorem mem_young {now : Int} {log : List (RTPPacket F)} {p : RTPPacket F} :
    p ∈ young now log ↔ p ∈ log ∧ ¬ hours 24 < now - p.receivetime := by
  rw [young, List.mem_filter, satExpired, Bool.not_eq_true', decide_eq_false_iff_not]

theorem within_handler [JsonNumber F] (now : Int) (log : List (RTPPacket F)) :
    PacketJson.within now (satellitePacketsHandler log) =
      ((young now log).map RTPPacket.serialize).reverse := by
  rw [PacketJson.within, satellitePacketsHandler, List.filter_map, List.filter_reverse,
    List.map_reverse]
  rfl

section Reload

variable {log : List (RTPPacket F)} {ops : List (Rolling (RTPPacket F) Int)}
  (hleft : (Rolling.left RTPPacket.keyMicros ops).Sublist log)
  (hdated : ∀ p ∈ log, InDates p.receivetime) (instant : Nat) (now : Int)

/-- The log a restart loads. -/
def reloaded (instant : Nat) (ops : List (Rolling (RTPPacket F) Int)) : List (RTPPacket F) :=
  (satReplay ops).rows.map (SatPacketRec.intoPacket instant)

theorem mem_reloaded {z : RTPPacket F} : z ∈ reloaded instant ops ↔
    ∃ p, latest RTPPacket.keyMicros p.keyMicros (Rolling.left RTPPacket.keyMicros ops) = some p ∧
      p.restored instant = z := by
  rw [reloaded, List.mem_map]
  constructor
  · intro ⟨r, hr, hz⟩
    rw [Table.mem_rows (satReplay_keyed ops), Rolling.getElem?_replay] at hr
    obtain ⟨p, hp, rfl⟩ := Option.map_eq_some_iff.mp hr
    exact ⟨p, hp, hz⟩
  · intro ⟨p, hp, hz⟩
    refine ⟨SatPacketRec.fromPacket p, ?_, hz⟩
    rw [Table.mem_rows (satReplay_keyed ops), Rolling.getElem?_replay]
    exact Option.map_eq_some_iff.mpr ⟨p, hp, rfl⟩

include hleft hdated

theorem reloaded_ordered :
    (reloaded instant ops).Pairwise fun a b => a.receivetime < b.receivetime := by
  have hrows := rows_ordered (satReplay_keyed ops)
  rw [reloaded, List.pairwise_map]
  have htime : ∀ r ∈ (satReplay ops).rows, (r.intoPacket instant).receivetime =
      r.keyMicros * 1000 := by
    intro r hr
    rw [Table.mem_rows (satReplay_keyed ops), Rolling.getElem?_replay] at hr
    obtain ⟨p, hp, rfl⟩ := Option.map_eq_some_iff.mp hr
    exact RTPPacket.restored_receivetime (hdated p (hleft.subset (latest_mem hp).1)) instant
  refine hrows.imp_of_mem fun {a b} ha hb hab => ?_
  rw [htime a ha, htime b hb]
  omega

/-- The packet of a loaded one: its time is the same in microseconds. -/
theorem source_of_reloaded {z : RTPPacket F} (hz : z ∈ young now (reloaded instant ops)) :
    ∃ q, q ∈ young now log ∧ q ∈ Rolling.left RTPPacket.keyMicros ops ∧ q.restored instant = z := by
  obtain ⟨hmem, hyoung⟩ := mem_young.mp hz
  obtain ⟨q, hq, rfl⟩ := (mem_reloaded instant).mp hmem
  have hqleft := (latest_mem hq).1
  have hqlog := hleft.subset hqleft
  rw [RTPPacket.restored_receivetime (hdated q hqlog)] at hyoung
  refine ⟨q, mem_young.mpr ⟨hqlog, ?_⟩, hqleft, rfl⟩
  have hkey : q.keyMicros = q.receivetime / 1000 := rfl
  omega

variable [JsonNumber F]

/-- Every packet shown within 24 hours stands for one that is in the table. -/
theorem shown_reloaded (h : (young now (reloaded instant ops)).map RTPPacket.serialize =
      (young now log).map RTPPacket.serialize) {p : RTPPacket F} (hp : p ∈ young now log) :
    ∃ q, q ∈ young now log ∧ q ∈ Rolling.left RTPPacket.keyMicros ops ∧ p.Restorable ∧
      p.receivetime = q.keyMicros * 1000 := by
  have hmem : p.serialize ∈ (young now (reloaded instant ops)).map RTPPacket.serialize :=
    h ▸ List.mem_map_of_mem hp
  obtain ⟨z, hz, hser⟩ := List.mem_map.mp hmem
  obtain ⟨q, hq, hqleft, rfl⟩ := source_of_reloaded hleft hdated instant now hz
  have hqdated : InDates q.receivetime := hdated q (mem_young.mp hq).1
  exact ⟨q, hq, hqleft, RTPPacket.restorable_of_serialize hqdated hser⟩

/-- Equal responses show ordered times. -/
theorem ordered_of_reloaded (h : (young now (reloaded instant ops)).map RTPPacket.serialize =
      (young now log).map RTPPacket.serialize) :
    (young now log).Pairwise fun a b => a.receivetime < b.receivetime := by
  have htimes : (young now (reloaded instant ops)).map RTPPacket.receivetime =
      (young now log).map RTPPacket.receivetime := by
    have htime := congrArg (List.map PacketJson.receivetime) h
    rwa [List.map_map, List.map_map] at htime
  rw [← List.pairwise_map (f := RTPPacket.receivetime) (R := (· < ·)), ← htimes, List.pairwise_map]
  exact (reloaded_ordered hleft hdated instant).sublist List.filter_sublist

/-- Of packets with ordered whole times, what the table has come back as they were. -/
theorem young_reloaded
    (hordered : (young now log).Pairwise fun a b => a.receivetime < b.receivetime)
    (hrestorable : ∀ p ∈ young now log, p.Restorable)
    (hinleft : ∀ p ∈ young now log, p ∈ Rolling.left RTPPacket.keyMicros ops) :
    young now (reloaded instant ops) = (young now log).map (RTPPacket.restored instant) := by
  have hloaded : (young now (reloaded instant ops)).Pairwise fun a b =>
      a.receivetime < b.receivetime :=
    (reloaded_ordered hleft hdated instant).sublist List.filter_sublist
  have htime : ∀ p ∈ young now log, (p.restored instant).receivetime = p.receivetime := by
    intro p hp
    rw [RTPPacket.restored_receivetime (hdated p (mem_young.mp hp).1),
      (hrestorable p hp).receivetime]
  refine eq_of_ordered (fun a b => lt_asymm) hloaded (List.pairwise_map.mpr ?_) fun z => ?_
  · refine hordered.imp_of_mem fun {a b} ha hb hab => ?_
    rw [htime a ha, htime b hb]
    exact hab
  rw [List.mem_map]
  constructor
  · intro hz
    obtain ⟨q, hq, -, hqz⟩ := source_of_reloaded hleft hdated instant now hz
    exact ⟨q, hq, hqz⟩
  · intro ⟨p, hp, hz⟩
    have hold := (mem_young.mp hp).2
    obtain ⟨q, hlatest⟩ : ∃ q, latest RTPPacket.keyMicros p.keyMicros
        (Rolling.left RTPPacket.keyMicros ops) = some q := by
      rw [← Option.ne_none_iff_exists', Ne, latest_eq_none_iff, not_not]
      exact List.mem_map_of_mem (hinleft p hp)
    obtain ⟨hqleft, hkey⟩ := latest_mem hlatest
    -- the latest packet of this key is as young, so it is this one
    have hptime := (hrestorable p hp).receivetime
    have hqkey : q.keyMicros = q.receivetime / 1000 := rfl
    have hq : q ∈ young now log := mem_young.mpr ⟨hleft.subset hqleft, by omega⟩
    have hqp : q = p := by
      refine eq_of_same_time hordered hp hq ?_
      rw [← (hrestorable q hq).receivetime, hkey, hptime]
    rw [hqp] at hlatest
    rw [← hz]
    exact mem_young.mpr ⟨(mem_reloaded instant).mpr ⟨p, hlatest, rfl⟩, by rw [htime p hp]; exact hold⟩

theorem reloaded_iff :
    (young now (reloaded instant ops)).map RTPPacket.serialize =
        (young now log).map RTPPacket.serialize ↔
      ((young now log).Pairwise fun a b => a.receivetime < b.receivetime) ∧
        (∀ p ∈ young now log, p.Restorable) ∧
          ∀ p ∈ young now log, p ∈ Rolling.left RTPPacket.keyMicros ops := by
  constructor
  · intro h
    have hshown := fun p hp => shown_reloaded hleft hdated instant now h (p := p) hp
    have hordered := ordered_of_reloaded hleft hdated instant now h
    refine ⟨hordered, fun p hp => ?_, fun p hp => ?_⟩
    · obtain ⟨q, -, -, hrestorable, -⟩ := hshown p hp
      exact hrestorable
    · obtain ⟨q, hq, hqleft, -, htime⟩ := hshown p hp
      obtain ⟨-, -, -, hqrestorable, -⟩ := hshown q hq
      have hqp : q = p :=
        eq_of_same_time hordered hp hq (hqrestorable.receivetime.symm.trans htime.symm)
      exact hqp ▸ hqleft
  · intro ⟨hordered, hrestorable, hinleft⟩
    rw [young_reloaded hleft hdated instant now hordered hrestorable hinleft, List.map_map]
    exact List.map_congr_left fun p hp =>
      (hrestorable p hp).serialize (hdated p (mem_young.mp hp).1) instant

end Reload

/-! ## Runs -/

section Runs

variable [F64 F] [Display3 F] {satFreqs : List F} {historyHours : Nat}

/-- The calls of a run. -/
def callsMade (satFreqs : List F) (historyHours : Nat) : Task F → List (Input F) → List (Call F)
  | _, [] => []
  | s, i :: is =>
    (s.step satFreqs historyHours i).2 ++
      callsMade satFreqs historyHours (s.step satFreqs historyHours i).1 is

theorem foldl_live (s : Task F) (d : Disk F) (is : List (Input F)) :
    is.foldl (live satFreqs historyHours) (s, d) =
      (s.after satFreqs historyHours is, d.applyAll (callsMade satFreqs historyHours s is)) := by
  induction is generalizing s d with
  | nil => rfl
  | cons i is ih =>
    rw [List.foldl_cons, callsMade, Disk.applyAll, List.foldl_append]
    exact ih _ _

omit [Display3 F] in
theorem satOps_tick (s : Task F) (world : TickWorld) :
    satOps (s.tick historyHours world).2 =
      [.remove (· ∈ (s.satPacketLog.takeWhile (satExpired world.now)).map RTPPacket.keyMicros)] :=
  filterMap_tick (fun c h => by cases c <;> first | rfl | cases h) s historyHours world

omit [F64 F] [Display3 F] in
theorem satOps_finalFlush (s : Task F) (orders : Orders) : satOps (s.finalFlush orders) = [] :=
  filterMap_finalFlush (fun c h => by cases c <;> first | rfl | cases h) s orders

/-- The log holds what the table was given and not told to delete, and its packets have
dates. -/
structure Logged (ops : List (Rolling (RTPPacket F) Int)) (log : List (RTPPacket F)) : Prop where
  left : (Rolling.left RTPPacket.keyMicros ops).Sublist log
  dated : ∀ p ∈ log, InDates p.receivetime

theorem Logged.hear {ops : List (Rolling (RTPPacket F) Int)} {s : Task F}
    (h : Logged ops s.satPacketLog) {p : RTPPacket F} (hp : InDates p.receivetime)
    (mapped : MappedPacket F) :
    Logged (ops ++ satOps (Task.packetCalls p)) (s.hear mapped p).satPacketLog := by
  show Logged (ops ++ satOps (Task.packetCalls p))
    (if p.isSatellite then s.satPacketLog ++ [p] else s.satPacketLog)
  cases hsat : p.isSatellite with
  | false =>
    have hops : satOps (Task.packetCalls p) = [] := by
      simp [satOps, Task.packetCalls, hsat, Call.satOp]
    rw [hops, List.append_nil]
    exact h
  | true =>
    have hops : satOps (Task.packetCalls p) = [.insert p] := by
      simp [satOps, Task.packetCalls, hsat, Call.satOp]
    rw [hops, if_pos rfl]
    refine ⟨?_, fun q hq => ?_⟩
    · rw [Rolling.left_concat]
      exact h.left.append (List.Sublist.refl [p])
    · rcases List.mem_append.mp hq with hq | hq
      · exact h.dated q hq
      · exact List.mem_singleton.mp hq ▸ hp

omit [Display3 F] in
/-- What is pruned is gone from the table as well. -/
theorem Logged.tick {ops : List (Rolling (RTPPacket F) Int)} {s : Task F}
    (h : Logged ops s.satPacketLog) (world : TickWorld) :
    Logged (ops ++ satOps (s.tick historyHours world).2)
      (s.tick historyHours world).1.satPacketLog := by
  rw [satOps_tick]
  refine ⟨?_, fun p hp => h.dated p ((List.dropWhile_sublist _).subset hp)⟩
  rw [Rolling.left_concat]
  have hsub := h.left
  rw [← List.takeWhile_append_dropWhile (p := satExpired world.now) (l := s.satPacketLog)] at hsub
  have hfiltered := hsub.filter fun p => !decide
    (p.keyMicros ∈ (s.satPacketLog.takeWhile (satExpired world.now)).map RTPPacket.keyMicros)
  rw [List.filter_append] at hfiltered
  have hnone : ((s.satPacketLog.takeWhile (satExpired world.now)).filter fun p => !decide
      (p.keyMicros ∈ (s.satPacketLog.takeWhile (satExpired world.now)).map
        RTPPacket.keyMicros)) = [] := by
    rw [List.filter_eq_nil_iff]
    intro p hp
    simp only [decide_eq_true (List.mem_map_of_mem hp)]
    decide
  rw [hnone, List.nil_append] at hfiltered
  exact hfiltered.trans List.filter_sublist

theorem Logged.step {ops : List (Rolling (RTPPacket F) Int)} {s : Task F}
    (h : Logged ops s.satPacketLog) {i : Input F} (hi : i.Dated) :
    Logged (ops ++ satOps (s.step satFreqs historyHours i).2)
      (s.step satFreqs historyHours i).1.satPacketLog := by
  cases Task.step_cases satFreqs historyHours s i with
  | skip _ _ _ _ hstep =>
    rw [hstep]
    exact ⟨(List.append_nil ops).symm ▸ h.left, h.dated⟩
  | hear world fr mapped p hframe _ hmap hp hstep =>
    subst hframe
    rw [hstep]
    exact h.hear (packet_dated hi hmap hp) mapped
  | tick world _ hstep =>
    rw [hstep]
    exact h.tick world

theorem Logged.run {ops : List (Rolling (RTPPacket F) Int)} {s : Task F}
    (h : Logged ops s.satPacketLog) (is : List (DatedInput F)) :
    Logged (ops ++ satOps (callsMade satFreqs historyHours s (is.map Subtype.val)))
      (s.after satFreqs historyHours (is.map Subtype.val)).satPacketLog := by
  induction is generalizing ops s with
  | nil => exact (List.append_nil ops).symm ▸ h
  | cons i is ih =>
    have hstep : Logged (ops ++ satOps (s.step satFreqs historyHours i.val).2)
        (s.step satFreqs historyHours i.val).1.satPacketLog := h.step i.property
    have hrest := ih hstep
    rw [List.append_assoc] at hrest
    rw [List.map_cons, callsMade, satOps, List.filterMap_append]
    exact hrest

/-! ## Starts -/

/-- A row whose key is that of a date. -/
abbrev DatedSatRow (F : Type) : Type := { r : SatPacketRec F // InDates (r.keyMicros * 1000) }

def Disk.withSatRows (d : Disk F) (rows : List (DatedSatRow F)) : Disk F :=
  { d with satPackets := Table.upsertAll SatPacketRec.keyMicros ∅ (rows.map Subtype.val) }

omit [F64 F] [Display3 F] in
theorem fromPacket_intoPacket {r : SatPacketRec F} (h : InDates (r.keyMicros * 1000))
    (instant : Nat) : SatPacketRec.fromPacket (r.intoPacket instant) = r := by
  have hkey : toMicros (fromMicros r.keyMicros) = r.keyMicros := by
    rw [fromMicros, if_pos h, toMicros, Int.mul_ediv_cancel _ (by decide)]
  show { r with keyMicros := toMicros (fromMicros r.keyMicros) } = r
  rw [hkey]

omit [F64 F] [Display3 F] in
theorem withSatRows_dated {d : Disk F} {rows : List (DatedSatRow F)} {r : SatPacketRec F}
    (hr : r ∈ (d.withSatRows rows).satPackets.rows) : InDates (r.keyMicros * 1000) := by
  have hkeyed : Table.Keyed SatPacketRec.keyMicros (d.withSatRows rows).satPackets :=
    Table.upsertAll_keyed Table.keyed_empty _
  rcases Table.mem_of_upsertAll ((Table.mem_rows hkeyed).mp hr) with hmem | hempty
  · obtain ⟨r', -, rfl⟩ := List.mem_map.mp hmem
    exact r'.property
  · rw [Std.ExtTreeMap.getElem?_empty] at hempty
    cases hempty

omit [F64 F] [Display3 F] in
/-- The table is what the packets loaded from it would be written as. -/
theorem withSatRows_replay (d : Disk F) (rows : List (DatedSatRow F)) (instant : Nat) :
    satReplay (((d.withSatRows rows).loadSatPackets instant).map .insert) =
      (d.withSatRows rows).satPackets := by
  have hkeyed : Table.Keyed SatPacketRec.keyMicros (d.withSatRows rows).satPackets :=
    Table.upsertAll_keyed Table.keyed_empty _
  rw [satReplay, Rolling.replay, List.foldl_map, Disk.loadSatPackets, List.foldl_map]
  refine Eq.trans ?_ (Table.upsertAll_rows hkeyed)
  refine List.foldl_ext _ _ _ fun t r hr => ?_
  have hback := fromPacket_intoPacket (withSatRows_dated hr) instant
  show t.insert (SatPacketRec.fromPacket (r.intoPacket instant)).keyMicros
    (SatPacketRec.fromPacket (r.intoPacket instant)) = t.insert r.keyMicros r
  rw [hback]

omit [F64 F] [Display3 F] in
theorem boot_logged (d : Disk F) (rows : List (DatedSatRow F)) (instant : Nat) :
    Logged ((Task.boot instant (d.withSatRows rows)).satPacketLog.map .insert)
      (Task.boot instant (d.withSatRows rows)).satPacketLog := by
  refine ⟨(Rolling.left_inserts _).symm ▸ List.Sublist.refl _, fun p hp => ?_⟩
  obtain ⟨r, -, rfl⟩ := List.mem_map.mp hp
  exact fromMicros_dated r.keyMicros

variable [JsonNumber F]

/-- The response after a restart is the one before it, within 24 hours, exactly when the
packets within 24 hours have increasing times in whole microseconds, show no speed, no
course, no signal and no twist, and share no time with a packet pruned since they were
logged. -/
theorem satellite_restart_iff (satFreqs : List F) (historyHours : Nat) (d : Disk F)
    (rows : List (DatedSatRow F)) (started instant : Nat) (is : List (DatedInput F))
    (orders : Option Orders) (now : Int) :
    let disk := d.withSatRows rows
    let s₀ := Task.boot started disk
    let inputs := is.map Subtype.val
    let ran := inputs.foldl (live satFreqs historyHours) (s₀, disk)
    let stopped := ran.2.applyAll (orders.elim [] ran.1.finalFlush)
    let restarted := Task.boot instant stopped
    let ops := s₀.satPacketLog.map .insert ++ satOps (callsMade satFreqs historyHours s₀ inputs)
    PacketJson.within now (satellitePacketsHandler restarted.satPacketLog) =
        PacketJson.within now (satellitePacketsHandler ran.1.satPacketLog) ↔
      ((young now ran.1.satPacketLog).Pairwise fun a b => a.receivetime < b.receivetime) ∧
        (∀ p ∈ young now ran.1.satPacketLog, p.Restorable) ∧
          ∀ p ∈ young now ran.1.satPacketLog, p ∈ Rolling.left RTPPacket.keyMicros ops := by
  intro disk s₀ inputs ran stopped restarted ops
  have hran : ran = _ := foldl_live s₀ disk inputs
  have hlogged : Logged ops ran.1.satPacketLog := by
    rw [hran]
    exact (boot_logged d rows started).run is
  have hflush : satOps (orders.elim [] ran.1.finalFlush) = [] := by
    cases orders with
    | none => rfl
    | some orders => exact satOps_finalFlush ran.1 orders
  have hstopped : stopped.satPackets = satReplay ops := by
    rw [applyAll_satPackets, hflush, hran, List.foldl_nil, applyAll_satPackets]
    show _ = List.foldl _ ∅ (_ ++ _)
    rw [List.foldl_append]
    exact congrArg (fun t => List.foldl _ t _) (withSatRows_replay d rows started).symm
  have hrestarted : restarted.satPacketLog = reloaded instant ops := by
    show stopped.loadSatPackets instant = _
    rw [Disk.loadSatPackets, hstopped, reloaded]
  rw [hrestarted, within_handler, within_handler, List.reverse_inj]
  exact reloaded_iff hlogged.left hlogged.dated instant now

end Runs

/-- A packet whose signal was measured. -/
def measuredFrame : DatedInput ℚ :=
  ⟨.frame sampleWorld { sampleFrame "W1AW" [62, 65] with
      rf := { frequencyHz := some 144390000, snrDb := some 12, slicerMask := none,
              slicerGains := none } }, by
    show InDates 0
    decide⟩

/-- After a restart the signal of a packet is no longer shown. -/
theorem snr_lost :
    ¬ (let disk := Disk.withSatRows ({} : Disk ℚ) []
      let ran := [measuredFrame.val].foldl (live [144.39] 6) (Task.boot 0 disk, disk)
      let restarted := Task.boot 0 ran.2
      PacketJson.within 0 (satellitePacketsHandler restarted.satPacketLog) =
        PacketJson.within 0 (satellitePacketsHandler ran.1.satPacketLog)) := by
  decide +kernel

end Listener
end Rtpigate
