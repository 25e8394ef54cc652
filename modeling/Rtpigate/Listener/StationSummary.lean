/-
What the entry of a station says.

An entry sums up the packets that were filed under its key since it was made.  Some of its
fields are those of the last packet, the position is that of the last packet with both
coordinates, the path to the altitude is that of the first packet at the maximum, and the
rest are counts.  A restart that loses nothing leaves all of it but the time last heard,
which the store keeps in microseconds.
-/
import Rtpigate.Lib.Running
import Rtpigate.Lib.Totals
import Rtpigate.Listener.Slicer
import Rtpigate.Listener.Stop

namespace Rtpigate

open Lib

/-- The numbers among the values, of which the signed zeros are equal. -/
structure Comparable {F : Type} [F64 F] (num : F → Prop) : Prop where
  order : WeakOrder F64.lt num
  max_lt : ∀ a b : F, num a → num b → F64.lt a b = true → F64.max a b = b
  max_gt : ∀ a b : F, num a → num b → F64.lt b a = true → F64.max a b = a
  max_mem : ∀ a b : F, num a → num b → F64.max a b = a ∨ F64.max a b = b

namespace StationEntry

variable {F : Type}

/-- A packet with both coordinates. -/
def located (r : MappedPacket F) : Option (MappedPacket F) :=
  if r.packet.latitude.isSome && r.packet.longitude.isSome then some r else none

/-- A packet with a symbol. -/
def signed (r : MappedPacket F) : Option (MappedPacket F) :=
  if r.symbolTable.isSome then some r else none

/-- What an entry made by `first` says of its packets, the time apart. -/
structure Facts [F64 F] (first : MappedPacket F) (reports : List (MappedPacket F))
    (e : StationEntry F) : Prop where
  callsign : e.callsign = first.packet.stationKey
  transmittedBy : e.transmittedBy =
    (lastSome (fun r => r.packet.transmittedBy) reports).or first.packet.transmittedBy
  position : ∀ r, lastSome located reports = some r →
    e.latitude = r.packet.latitude ∧ e.longitude = r.packet.longitude ∧
      e.positionPath = r.packet.digipeaterPath ∧ e.positionHops = r.packet.hops
  unlocated : lastSome located reports = none →
    e.latitude = none ∧ e.longitude = none ∧
      e.positionPath = first.packet.digipeaterPath ∧ e.positionHops = first.packet.hops
  altitude : ∀ m, e.altitudeFt = some m → ∃ r,
    FirstMax F64.lt (fun r : MappedPacket F => r.packet.altitudeFt) reports r m ∧
      e.altitudePath = r.packet.digipeaterPath ∧ e.altitudeHops = r.packet.hops
  level : e.altitudeFt = none → (∀ r ∈ reports, r.packet.altitudeFt = none) ∧
    e.altitudePath = first.packet.digipeaterPath ∧ e.altitudeHops = first.packet.hops
  symbol : ∀ r, lastSome signed reports = some r →
    e.symbolTable = r.symbolTable ∧ e.symbolCode = r.symbolCode
  unsigned : lastSome signed reports = none → e.symbolTable = none ∧ e.symbolCode = none
  count : e.count = reports.length
  countDirect : e.countDirect = reports.countP fun r => r.packet.heardDirect
  countDigipeated : e.countDigipeated = reports.countP fun r => !r.packet.heardDirect

/-- The fields of the last packet, and the facts of all of them.  After a restart the time
is in whole microseconds. -/
structure Summarises [F64 F] (reports : List (MappedPacket F)) (restarted : Bool)
    (e : StationEntry F) : Prop where
  last : ∃ r, reports.getLast? = some r ∧
    e.lastHeard = (if restarted then Listener.storedTime r.packet.receivetime
      else r.packet.receivetime) ∧
    e.frequency = r.packet.frequency ∧ e.heardDirect = r.packet.heardDirect
  facts : ∃ first, reports.head? = some first ∧ Facts first reports e

/-- The entry as a restart finds it. -/
def stored (e : StationEntry F) : StationEntry F := (StationRec.fromEntry e).intoEntry

theorem stored_intoEntry (r : StationRec F) : r.intoEntry.stored = r.intoEntry := by
  have htime := Listener.storedTime_fromMicros r.lastHeardMicros
  rw [Listener.storedTime] at htime
  simp only [stored, StationRec.fromEntry, StationRec.intoEntry, htime]

section Hear

variable [F64 F]

theorem Facts.ofPacket (r : MappedPacket F) : Facts r [] (.ofPacket r.packet) where
  callsign := rfl
  transmittedBy := rfl
  position _ h := by cases h
  unlocated _ := ⟨rfl, rfl, rfl, rfl⟩
  altitude _ h := by cases h
  level _ := ⟨fun _ h => absurd h List.not_mem_nil, rfl, rfl⟩
  symbol _ h := by cases h
  unsigned _ := ⟨rfl, rfl⟩
  count := rfl
  countDirect := rfl
  countDigipeated := rfl

/-- A packet whose altitude is the first of an entry, or above it. -/
def raises (p : RTPPacket F) (e : StationEntry F) : Bool :=
  p.altitudeFt.any fun alt => e.altitudeFt.all fun prev => F64.lt prev alt

omit [F64 F] in
theorem position_eq (r : MappedPacket F) (e : StationEntry F) :
    e.position r.packet = { e with
      latitude := (located r).elim e.latitude fun r => r.packet.latitude
      longitude := (located r).elim e.longitude fun r => r.packet.longitude
      positionPath := (located r).elim e.positionPath fun r => r.packet.digipeaterPath
      positionHops := (located r).elim e.positionHops fun r => r.packet.hops } := by
  rw [position, located]
  by_cases hloc : (r.packet.latitude.isSome && r.packet.longitude.isSome) = true
  · rw [if_pos hloc, if_pos hloc]
    rfl
  · rw [if_neg hloc, if_neg hloc]
    rfl

theorem altitude_eq (p : RTPPacket F) (e : StationEntry F) :
    e.altitude p = { e with
      altitudeFt := p.altitudeFt.elim e.altitudeFt fun alt =>
        some (e.altitudeFt.elim alt fun prev => F64.max prev alt)
      altitudePath := if raises p e then p.digipeaterPath else e.altitudePath
      altitudeHops := if raises p e then p.hops else e.altitudeHops } := by
  rw [altitude, raises]
  cases p.altitudeFt with
  | none => rfl
  | some alt =>
    cases hprev : e.altitudeFt with
    | none => simp
    | some prev => cases hlt : F64.lt prev alt <;> simp [hprev, hlt]

/-- The fields of an entry behind a packet, one by one. -/
theorem hear_eq (r : MappedPacket F) (e : StationEntry F) :
    hear r.packet r.symbolTable r.symbolCode (some e) =
      { callsign := e.callsign
        transmittedBy := r.packet.transmittedBy.or e.transmittedBy
        lastHeard := r.packet.receivetime
        frequency := r.packet.frequency
        latitude := (located r).elim e.latitude fun r => r.packet.latitude
        longitude := (located r).elim e.longitude fun r => r.packet.longitude
        altitudeFt := r.packet.altitudeFt.elim e.altitudeFt fun alt =>
          some (e.altitudeFt.elim alt fun prev => F64.max prev alt)
        heardDirect := r.packet.heardDirect
        positionPath := (located r).elim e.positionPath fun r => r.packet.digipeaterPath
        positionHops := (located r).elim e.positionHops fun r => r.packet.hops
        altitudePath := if raises r.packet e then r.packet.digipeaterPath else e.altitudePath
        altitudeHops := if raises r.packet e then r.packet.hops else e.altitudeHops
        symbolTable := r.symbolTable.or e.symbolTable
        symbolCode := r.symbolCode.or e.symbolCode
        count := e.count + 1
        countDirect := e.countDirect + r.packet.heardDirect.toNat
        countDigipeated := e.countDigipeated + (!r.packet.heardDirect).toNat } := by
  rw [hear, Option.getD_some, symbol, altitude_eq, position_eq]
  rfl

theorem hear_none (p : RTPPacket F) (symTable symCode : Option Char) :
    hear p symTable symCode none = hear p symTable symCode (some (.ofPacket p)) := rfl

section Step

variable {num : F → Prop} {first r : MappedPacket F} {reports : List (MappedPacket F)}
  {e : StationEntry F}

/-- The altitude of an entry and the path to it behind one more packet. -/
theorem Facts.hear_altitude (hnum : Comparable num) (h : Facts first reports e)
    (hvalues : ∀ q ∈ reports ++ [r], ∀ a ∈ q.packet.altitudeFt, num a) {m : F}
    (hm : (hear r.packet r.symbolTable r.symbolCode (some e)).altitudeFt = some m) :
    ∃ q, FirstMax F64.lt (fun r : MappedPacket F => r.packet.altitudeFt) (reports ++ [r]) q m ∧
      (hear r.packet r.symbolTable r.symbolCode (some e)).altitudePath =
        q.packet.digipeaterPath ∧
      (hear r.packet r.symbolTable r.symbolCode (some e)).altitudeHops = q.packet.hops := by
  have hold : ∀ q ∈ reports, ∀ a ∈ q.packet.altitudeFt, num a :=
    fun q hq => hvalues q (List.mem_append_left _ hq)
  rw [hear_eq] at hm ⊢
  cases halt : r.packet.altitudeFt with
  | none =>
    simp only [halt, Option.elim_none] at hm
    obtain ⟨q, hmax, hpath, hhops⟩ := h.altitude m hm
    have hraises : raises r.packet e = false := by rw [raises, halt]; rfl
    refine ⟨q, hmax.skip halt, ?_⟩
    rw [hraises]
    exact ⟨hpath, hhops⟩
  | some alt =>
    have halts : num alt :=
      hvalues r (List.mem_append_right _ (List.mem_singleton_self r)) alt halt
    cases hprev : e.altitudeFt with
    | none =>
      simp only [halt, hprev, Option.elim_some, Option.elim_none, Option.some.injEq] at hm
      have hraises : raises r.packet e = true := by rw [raises, halt, hprev]; rfl
      refine ⟨r, hm ▸ FirstMax.start hnum.order (h.level hprev).1 halt halts, ?_⟩
      rw [hraises]
      exact ⟨rfl, rfl⟩
    | some prev =>
      simp only [halt, hprev, Option.elim_some, Option.some.injEq] at hm
      obtain ⟨q, hmax, hpath, hhops⟩ := h.altitude prev hprev
      have hprevs := hmax.num_max hold
      have hraises : raises r.packet e = F64.lt prev alt := by rw [raises, halt, hprev]; rfl
      cases hlt : F64.lt prev alt with
      | true =>
        rw [hnum.max_lt prev alt hprevs halts hlt] at hm
        refine ⟨r, hm ▸ hmax.raise hnum.order hold halt halts hlt, ?_⟩
        rw [hraises, hlt]
        exact ⟨rfl, rfl⟩
      | false =>
        subst hm
        refine ⟨q, hmax.keep hnum.order hold halt halts hlt
          (hnum.max_mem prev alt hprevs halts) (hnum.max_gt prev alt hprevs halts), ?_⟩
        rw [hraises, hlt]
        exact ⟨hpath, hhops⟩

theorem Facts.hear_level (h : Facts first reports e)
    (hm : (hear r.packet r.symbolTable r.symbolCode (some e)).altitudeFt = none) :
    (∀ q ∈ reports ++ [r], q.packet.altitudeFt = none) ∧
      (hear r.packet r.symbolTable r.symbolCode (some e)).altitudePath =
        first.packet.digipeaterPath ∧
      (hear r.packet r.symbolTable r.symbolCode (some e)).altitudeHops = first.packet.hops := by
  rw [hear_eq] at hm ⊢
  cases halt : r.packet.altitudeFt with
  | some alt =>
    simp only [halt, Option.elim_some] at hm
    cases hm
  | none =>
    simp only [halt, Option.elim_none] at hm
    obtain ⟨hnone, hpath, hhops⟩ := h.level hm
    have hraises : raises r.packet e = false := by rw [raises, halt]; rfl
    refine ⟨fun q hq => ?_, ?_⟩
    · rcases List.mem_append.mp hq with hq | hq
      · exact hnone q hq
      · rw [List.mem_singleton.mp hq]
        exact halt
    · rw [hraises]
      exact ⟨hpath, hhops⟩

omit [F64 F] in
/-- A packet has both parts of a symbol or none. -/
theorem signed_cases (hsign : r.symbolTable.isSome = r.symbolCode.isSome) :
    (signed r = none ∧ r.symbolTable = none ∧ r.symbolCode = none) ∨
      (signed r = some r ∧ (∀ old, r.symbolTable.or old = r.symbolTable) ∧
        ∀ old, r.symbolCode.or old = r.symbolCode) := by
  rw [signed]
  cases htable : r.symbolTable with
  | none =>
    rw [htable] at hsign
    exact Or.inl ⟨rfl, rfl, Option.isNone_iff_eq_none.mp (by simpa using hsign.symm)⟩
  | some table =>
    rw [htable] at hsign
    obtain ⟨code, hcode⟩ := Option.isSome_iff_exists.mp hsign.symm
    rw [hcode]
    exact Or.inr ⟨rfl, fun _ => rfl, fun _ => rfl⟩

theorem Facts.hear_position (h : Facts first reports e) :
    let e' := hear r.packet r.symbolTable r.symbolCode (some e)
    (∀ q, lastSome located (reports ++ [r]) = some q →
      e'.latitude = q.packet.latitude ∧ e'.longitude = q.packet.longitude ∧
        e'.positionPath = q.packet.digipeaterPath ∧ e'.positionHops = q.packet.hops) ∧
      (lastSome located (reports ++ [r]) = none →
        e'.latitude = none ∧ e'.longitude = none ∧
          e'.positionPath = first.packet.digipeaterPath ∧
          e'.positionHops = first.packet.hops) := by
  rw [hear_eq]
  cases hloc : located r with
  | none =>
    rw [lastSome_concat_none hloc]
    exact ⟨h.position, h.unlocated⟩
  | some q =>
    rw [lastSome_concat_some hloc]
    refine ⟨fun q' hq => ?_, fun hq => by cases hq⟩
    cases hq
    exact ⟨rfl, rfl, rfl, rfl⟩

theorem Facts.hear_symbol (h : Facts first reports e)
    (hsign : r.symbolTable.isSome = r.symbolCode.isSome) :
    let e' := hear r.packet r.symbolTable r.symbolCode (some e)
    (∀ q, lastSome signed (reports ++ [r]) = some q →
      e'.symbolTable = q.symbolTable ∧ e'.symbolCode = q.symbolCode) ∧
      (lastSome signed (reports ++ [r]) = none →
        e'.symbolTable = none ∧ e'.symbolCode = none) := by
  rw [hear_eq]
  rcases signed_cases hsign with ⟨hnone, htable, hcode⟩ | ⟨hsome, htable, hcode⟩
  · rw [lastSome_concat_none hnone, htable, hcode]
    exact ⟨h.symbol, h.unsigned⟩
  · rw [lastSome_concat_some hsome]
    refine ⟨fun q hq => ?_, fun hq => by cases hq⟩
    cases hq
    exact ⟨htable _, hcode _⟩

/-- One more packet. -/
theorem Facts.hear (hnum : Comparable num) (h : Facts first reports e)
    (hvalues : ∀ q ∈ reports ++ [r], ∀ a ∈ q.packet.altitudeFt, num a)
    (hsign : r.symbolTable.isSome = r.symbolCode.isSome) :
    Facts first (reports ++ [r])
      (StationEntry.hear r.packet r.symbolTable r.symbolCode (some e)) := by
  have haltitude := fun m => h.hear_altitude (r := r) hnum hvalues (m := m)
  have hlevel := h.hear_level (r := r)
  obtain ⟨hposition, hunlocated⟩ := h.hear_position (r := r)
  obtain ⟨hsymbol, hunsigned⟩ := h.hear_symbol hsign
  rw [hear_eq] at *
  refine ⟨h.callsign, ?_, hposition, hunlocated, haltitude, hlevel, hsymbol, hunsigned,
    ?_, ?_, ?_⟩
  · rw [lastSome_concat, Option.or_assoc, ← h.transmittedBy]
  · rw [h.count, List.length_append, List.length_singleton]
  · rw [h.countDirect, List.countP_append, List.countP_singleton]
    cases r.packet.heardDirect <;> rfl
  · rw [h.countDigipeated, List.countP_append, List.countP_singleton]
    cases r.packet.heardDirect <;> rfl

/-- The entry of a station behind its first packet. -/
theorem Summarises.start (hnum : Comparable num) (hvalues : ∀ a ∈ r.packet.altitudeFt, num a)
    (hsign : r.symbolTable.isSome = r.symbolCode.isSome) :
    Summarises [r] false (hear r.packet r.symbolTable r.symbolCode none) where
  last := ⟨r, rfl, by rw [hear_none, hear_eq]; exact ⟨rfl, rfl, rfl⟩⟩
  facts := by
    refine ⟨r, rfl, ?_⟩
    rw [hear_none]
    refine (Facts.ofPacket r).hear hnum (fun q hq => ?_) hsign
    rw [List.mem_singleton.mp hq]
    exact hvalues

theorem Summarises.hear {restarted : Bool} (hnum : Comparable num)
    (h : Summarises reports restarted e)
    (hvalues : ∀ q ∈ reports ++ [r], ∀ a ∈ q.packet.altitudeFt, num a)
    (hsign : r.symbolTable.isSome = r.symbolCode.isSome) :
    Summarises (reports ++ [r]) false
      (StationEntry.hear r.packet r.symbolTable r.symbolCode (some e)) where
  last := ⟨r, List.getLast?_concat, by rw [hear_eq]; exact ⟨rfl, rfl, rfl⟩⟩
  facts := by
    obtain ⟨first, hfirst, hfacts⟩ := h.facts
    exact ⟨first, by rw [List.head?_append, hfirst, Option.some_or], hfacts.hear hnum hvalues hsign⟩

end Step

/-- A restart rounds the time. -/
theorem Summarises.stored {reports : List (MappedPacket F)} {restarted : Bool}
    {e : StationEntry F} (h : Summarises reports restarted e) :
    Summarises reports true e.stored where
  last := by
    obtain ⟨r, hr, htime, hfreq, hdirect⟩ := h.last
    refine ⟨r, hr, ?_, hfreq, hdirect⟩
    show Listener.storedTime e.lastHeard = _
    rw [htime]
    cases restarted with
    | false => rfl
    | true => exact Listener.storedTime_fromMicros _
  facts := by
    obtain ⟨first, hfirst, hfacts⟩ := h.facts
    exact ⟨first, hfirst, ⟨hfacts.callsign, hfacts.transmittedBy, hfacts.position,
      hfacts.unlocated, hfacts.altitude, hfacts.level, hfacts.symbol, hfacts.unsigned,
      hfacts.count, hfacts.countDirect, hfacts.countDigipeated⟩⟩

end Hear

end StationEntry

/-! ## Runs of the process -/

namespace Listener

variable {F : Type}

/-- The packets filed under a key since its entry was made, and whether the process has
restarted after the last of them. -/
structure Since (F : Type) where
  reports : List (MappedPacket F)
  restarted : Bool

/-- The entry under a key, in the table of the task or else as the next task finds it. -/
def Process.entry (pr : Process F) (k : String) : Option (StationEntry F) :=
  match pr.task with
  | some (_, s) => s.stationMap[k]?
  | none => (pr.disk.stations[k]?).map StationRec.intoEntry

/-- A start that reads the stations, a step or a shutdown without store errors. -/
def Process.Graceful (pr : Process F) : ProcessInput F → Prop
  | .start _ loads => pr.task.isNone = true ∧ loads.stations = true
  | .step _ ok | .shutdown _ ok => ∀ n, ok n = true
  | .kill => False

/-- A tick by which the entry is too old. -/
def ProcessInput.Evicts (i : ProcessInput F) (e : StationEntry F) : Prop :=
  ∃ world ok, i = .step (.tick world) ok ∧ stationExpired world.now e = true

variable [F64 F]

/-- The packet of a frame as the listener files it, with its symbol. -/
def report (satFreqs : List F) (world : FrameWorld F) (fr : AprsFrame F) :
    Option (MappedPacket F) :=
  (mapFrame world.decodeTextual world.clock fr).map fun mapped =>
    { mapped with packet := flagged satFreqs world.now world.twist mapped.packet }

/-- What is known of the entry under `k` after an input, `none` for an entry from before
the run. -/
def since (k : String) (pr : Process F) (known : Option (Since F)) (i : ProcessInput F) :
    Option (Since F) :=
  match i, pr.task with
  | .step (.frame world fr) _, some (c, _) =>
    match (report c.satFreqs world fr).filter fun r => r.packet.stationKey = k, pr.entry k with
    | none, _ => known
    | some r, none => some { reports := [r], restarted := false }
    | some r, some _ => known.map fun h => { reports := h.reports ++ [r], restarted := false }
  | .shutdown _ _, some _ => known.map fun h => { h with restarted := true }
  | _, _ => known

variable [Display3 F]

def track (k : String) (r : Process F × Option (Since F)) (i : ProcessInput F) :
    Process F × Option (Since F) := (r.1.next i, since k r.1 r.2 i)

def GracefulRun : Process F → List (ProcessInput F) → Prop
  | _, [] => True
  | pr, i :: is => pr.Graceful i ∧ GracefulRun (pr.next i) is

/-! ## One step -/

/-- What is known of an entry is what it says. -/
def Told (num : F → Prop) (k : String) (pr : Process F) (known : Option (Since F)) : Prop :=
  ∀ h ∈ known, ∀ e ∈ pr.entry k, (∀ q ∈ h.reports, ∀ a ∈ q.packet.altitudeFt, num a) →
    StationEntry.Summarises h.reports h.restarted e

omit [Display3 F] in
/-- A payload has both parts of a symbol or none. -/
theorem mapFrame_sign {decodeTextual : List UInt8 → Option (DecodedPacket F)} {clock : MapClock}
    {fr : AprsFrame F} {mapped : MappedPacket F}
    (h : mapFrame decodeTextual clock fr = some mapped) :
    mapped.symbolTable.isSome = mapped.symbolCode.isSome := by
  rw [mapFrame] at h
  split at h
  · cases h
  · cases h
    dsimp only
    split
    · next parsed _ => cases parsed.data <;> rfl
    · rfl

section Step

variable {num : F → Prop} {k : String} {known : Option (Since F)} {d : Disk F} {c : Settings F}
  {s : Task F}

theorem Told.hear (hnum : Comparable num) (h : Told num k ⟨d, some (c, s)⟩ known)
    {world : FrameWorld F} {fr : AprsFrame F} {mapped : MappedPacket F}
    (hmap : mapFrame world.decodeTextual world.clock fr = some mapped) (d' : Disk F)
    (ok : Nat → Bool) :
    Told num k
      ⟨d', some (c, s.hear mapped (flagged c.satFreqs world.now world.twist mapped.packet))⟩
      (since k ⟨d, some (c, s)⟩ known (.step (.frame world fr) ok)) := by
  let p := flagged c.satFreqs world.now world.twist mapped.packet
  let r : MappedPacket F := { mapped with packet := p }
  have hreport : report c.satFreqs world fr = some r := by rw [report, hmap]; rfl
  have hsign : mapped.symbolTable.isSome = mapped.symbolCode.isSome := mapFrame_sign hmap
  intro h' hh' e he hvalues
  have hentry : (s.hear mapped p).stationMap[k]? = some e := he
  have htouch := WriteBack.getElem?_touch p.stationKey
    (StationEntry.hear p mapped.symbolTable mapped.symbolCode) s.stations k
  rw [show (s.hear mapped p).stationMap[k]? = _ from htouch] at hentry
  simp only [since, hreport] at hh'
  by_cases hkey : p.stationKey = k
  · rw [if_pos hkey] at hentry
    have hfiled : (some r).filter (fun r => r.packet.stationKey = k) = some r :=
      Option.filter_eq_some_iff.mpr ⟨rfl, by simpa using hkey⟩
    rw [hfiled] at hh'
    cases hold : s.stationMap[k]? with
    | none =>
      have hbefore : s.stations.mem[k]? = none := hold
      simp only [Process.entry, hold] at hh'
      cases hh'
      rw [hbefore] at hentry
      cases hentry
      exact .start hnum (fun a ha => hvalues r (List.mem_singleton_self r) a ha) hsign
    | some old =>
      have hbefore : s.stations.mem[k]? = some old := hold
      simp only [Process.entry, hold] at hh'
      obtain ⟨before, hknown, rfl⟩ := Option.map_eq_some_iff.mp hh'
      rw [hbefore] at hentry
      cases hentry
      have hvalues' : ∀ q ∈ before.reports, ∀ a ∈ q.packet.altitudeFt, num a :=
        fun q hq => hvalues q (List.mem_append_left _ hq)
      exact (h before hknown old hold hvalues').hear hnum hvalues hsign
  · rw [if_neg hkey] at hentry
    have hother : (some r).filter (fun r => r.packet.stationKey = k) = none :=
      Option.filter_eq_none_iff.mpr fun r' hr' => by cases hr'; simpa using hkey
    rw [hother] at hh'
    exact h h' hh' e hentry hvalues

/-- A step of the task, whatever the store does. -/
theorem Told.step (hnum : Comparable num) {pr : Process F} (h : Told num k pr known)
    (i : Input F) (ok : Nat → Bool) :
    Told num k (pr.next (.step i ok)) (since k pr known (.step i ok)) := by
  obtain ⟨d, task⟩ := pr
  cases task with
  | none => cases i <;> exact h
  | some running =>
    obtain ⟨c, s⟩ := running
    cases Task.step_cases c.satFreqs c.historyHours s i with
    | skip world fr hi hnone hstep =>
      subst hi
      have hreport : report c.satFreqs world fr = none := by
        rw [packet, Option.map_eq_none_iff] at hnone
        rw [report, hnone]
        rfl
      simp only [Process.next, hstep, since, hreport]
      exact h
    | hear world fr mapped p hi _ hmap hp hstep =>
      subst hi hp
      simp only [Process.next, hstep]
      exact h.hear hnum hmap _ ok
    | tick world hi hstep =>
      subst hi
      simp only [Process.next, hstep]
      intro h' hh' e he
      have hentry : (s.stations.evict (stationExpired world.now)).mem[k]? = some e := he
      rw [WriteBack.getElem?_evict] at hentry
      split at hentry
      · cases hentry
      · exact h h' hh' e hentry

/-! ## Restarts -/

/-- Of a key that is not marked the disk has what a restart makes of the memory. -/
structure Filed (num : F → Prop) (k : String) (pr : Process F) (known : Option (Since F)) :
    Prop where
  keyed : Table.Keyed StationRec.callsign pr.disk.stations
  task : ∀ c s, pr.task = some (c, s) → s.Sound ∧ (k ∉ s.dirtyStations →
    (pr.disk.stations[k]?).map StationRec.intoEntry = (s.stationMap[k]?).map StationEntry.stored)
  told : Told num k pr known

/-- A start takes the entries over as they are. -/
theorem Filed.entry_start (h : Filed num k ⟨d, none⟩ known) (settings : Settings F)
    {loads : Loads} (hstations : loads.stations = true) :
    (⟨d, some (settings, loads.seed d)⟩ : Process F).entry k =
      (⟨d, none⟩ : Process F).entry k := by
  have hboot := stationLoading.boot loads.instant d h.keyed k
  show (loads.seed d).stationMap[k]? = (d.stations[k]?).map StationRec.intoEntry
  rw [show (loads.seed d).stationMap = (Task.boot loads.instant d).stationMap by
    rw [Loads.seed, if_pos hstations]; rfl]
  exact hboot

theorem Filed.start (h : Filed num k ⟨d, none⟩ known) (settings : Settings F) (loads : Loads)
    (hstations : loads.stations = true) :
    Filed num k ⟨d, some (settings, loads.seed d)⟩ known := by
  have hloaded : (loads.seed d).stationMap[k]? = (d.stations[k]?).map StationRec.intoEntry :=
    h.entry_start settings hstations
  refine ⟨h.keyed, fun c s hs => ?_, fun h' hh' e he => ?_⟩
  · cases hs
    refine ⟨Task.seed_sound _ _ _ _, fun _ => ?_⟩
    rw [hloaded, Option.map_map]
    exact congrArg (fun f => (d.stations[k]?).map f) (funext fun r =>
      (StationEntry.stored_intoEntry r).symm)
  · exact h.told h' hh' e (hloaded.symm.trans he)

theorem Filed.step (hnum : Comparable num) (h : Filed num k ⟨d, some (c, s)⟩ known) (i : Input F)
    {ok : Nat → Bool} (hok : ∀ n, ok n = true) :
    Filed num k ((⟨d, some (c, s)⟩ : Process F).next (.step i ok))
      (since k ⟨d, some (c, s)⟩ known (.step i ok)) := by
  have htold := h.told.step hnum i ok
  obtain ⟨hsound, hclean⟩ := h.task c s rfl
  refine ⟨keyed_applyAll stationLoading h.keyed _, fun c' s' hs' => ?_, htold⟩
  cases hs'
  refine ⟨hsound.step c.satFreqs c.historyHours i, fun hk => ?_⟩
  show ((d.applyAll (performed ok (s.step c.satFreqs c.historyHours i).2)).stations[k]?).map _ = _
  rw [performed_all hok]
  cases Task.step_cases c.satFreqs c.historyHours s i with
  | skip world fr hi hnone hstep =>
    rw [hstep] at hk ⊢
    exact hclean hk
  | hear world fr mapped p hi _ hmap hp hstep =>
    rw [hstep] at hk ⊢
    have hrows : (d.applyAll (Task.packetCalls p)).stations = d.stations :=
      stationPart.rows_packet (List.Subset.refl _) d
    have hk' : k ∉ (s.stations.touch p.stationKey
      (StationEntry.hear p mapped.symbolTable mapped.symbolCode)).dirty := hk
    rw [WriteBack.mem_dirty_touch, not_or] at hk'
    have htouch := WriteBack.getElem?_touch p.stationKey
      (StationEntry.hear p mapped.symbolTable mapped.symbolCode) s.stations k
    rw [if_neg fun he => hk'.1 he.symm] at htouch
    rw [hrows, show (s.hear mapped p).stationMap[k]? = _ from htouch]
    exact hclean hk'.2
  | tick world hi hstep =>
    rw [hstep]
    have hrows := stationPart.rows_tick hsound c.historyHours world (List.Subset.refl _) d k
    replace hrows : (d.applyAll (s.tick c.historyHours world).2).stations[k]? = _ := hrows
    rw [hrows]
    split
    · rw [Option.map_map]
      rfl
    · next hwrite =>
      rw [stationPart.mem_tick_keys hsound, not_or] at hwrite
      have hmem := stationPart.mem_tick_other hsound c.historyHours world hwrite.1
      rw [show (s.tick c.historyHours world).1.stationMap[k]? = _ from hmem]
      exact hclean hwrite.2

/-- A shutdown without store errors leaves every entry as a restart finds it. -/
theorem Filed.entry_shutdown (h : Filed num k ⟨d, some (c, s)⟩ known) (orders : Orders)
    {ok : Nat → Bool} (hok : ∀ n, ok n = true) :
    (⟨d.applyAll (performed ok (s.finalFlush orders)), none⟩ : Process F).entry k =
      (s.stationMap[k]?).map StationEntry.stored := by
  obtain ⟨hsound, hclean⟩ := h.task c s rfl
  rw [performed_all hok]
  have hrows := rows_finalFlush stationPart hsound orders (List.Subset.refl _) d k
  obtain ⟨dirty, hflush⟩ := stationPart.finalFlush orders s hsound
  replace hrows : (d.applyAll (s.finalFlush orders)).stations[k]? = _ := hrows
  show ((d.applyAll (s.finalFlush orders)).stations[k]?).map StationRec.intoEntry = _
  rw [hrows]
  split
  · rw [Option.map_map]
    rfl
  · next hwrite =>
    rw [hflush, WriteBack.mem_keys_upserts (stationPart.marked s hsound)] at hwrite
    exact hclean hwrite

theorem Filed.shutdown (h : Filed num k ⟨d, some (c, s)⟩ known) (orders : Orders)
    {ok : Nat → Bool} (hok : ∀ n, ok n = true) :
    Filed num k ⟨d.applyAll (performed ok (s.finalFlush orders)), none⟩
      (known.map fun h => { h with restarted := true }) := by
  have hsaved := h.entry_shutdown orders hok
  refine ⟨keyed_applyAll stationLoading h.keyed _, fun _ _ hs => (by cases hs),
    fun h' hh' e he hvalues => ?_⟩
  obtain ⟨before, hknown, rfl⟩ := Option.map_eq_some_iff.mp hh'
  obtain ⟨old, hold, rfl⟩ := Option.map_eq_some_iff.mp (hsaved.symm.trans he)
  exact (h.told before hknown old hold hvalues).stored

theorem Filed.next (hnum : Comparable num) {pr : Process F} (h : Filed num k pr known)
    (i : ProcessInput F) (hi : pr.Graceful i) : Filed num k (pr.next i) (since k pr known i) := by
  obtain ⟨d, task⟩ := pr
  cases i with
  | kill => exact hi.elim
  | start settings loads =>
    cases task with
    | some _ => cases hi.1
    | none => exact h.start settings loads hi.2
  | step i ok =>
    cases task with
    | none => cases i <;> exact h
    | some running => exact h.step hnum i hi
  | shutdown orders ok =>
    cases task with
    | none => exact h
    | some running => exact h.shutdown orders hi

theorem Filed.run (hnum : Comparable num) {pr : Process F} (h : Filed num k pr known)
    (is : List (ProcessInput F)) (his : GracefulRun pr is) :
    Filed num k (is.foldl (track k) (pr, known)).1 (is.foldl (track k) (pr, known)).2 := by
  induction is generalizing pr known with
  | nil => exact h
  | cons i is ih => exact ih (h.next hnum i his.1) his.2

/-! ## Entries stay -/

/-- A step of the task loses an entry to a tick only, whatever the store does. -/
theorem evicts_of_step {pr : Process F} {i : Input F} {ok : Nat → Bool} {e : StationEntry F}
    (he : pr.entry k = some e) (hnone : (pr.next (.step i ok)).entry k = none) :
    (ProcessInput.step i ok).Evicts e := by
  obtain ⟨d, task⟩ := pr
  cases task with
  | none =>
    have hsame : (⟨d, none⟩ : Process F).entry k = none := by cases i <;> exact hnone
    cases he.symm.trans hsame
  | some running =>
    obtain ⟨c, s⟩ := running
    replace he : s.stationMap[k]? = some e := he
    replace hnone : (s.step c.satFreqs c.historyHours i).1.stationMap[k]? = none := hnone
    cases Task.step_cases c.satFreqs c.historyHours s i with
    | skip world fr hi _ hstep =>
      rw [hstep, he] at hnone
      cases hnone
    | hear world fr mapped p hi _ _ _ hstep =>
      have htouch := WriteBack.getElem?_touch p.stationKey
        (StationEntry.hear p mapped.symbolTable mapped.symbolCode) s.stations k
      rw [hstep, show (s.hear mapped p).stationMap[k]? = _ from htouch] at hnone
      split at hnone
      · cases hnone
      · cases he.symm.trans hnone
    | tick world hi hstep =>
      refine ⟨world, ok, congrArg (ProcessInput.step · ok) hi, ?_⟩
      by_contra hyoung
      have hkept : (s.stations.evict (stationExpired world.now)).mem[k]? = some e :=
        WriteBack.getElem?_evict_eq_some.mpr ⟨he, Bool.not_eq_true _ ▸ hyoung⟩
      rw [hstep] at hnone
      cases hkept.symm.trans hnone

/-- Neither does a restart lose one. -/
theorem Filed.evicts {pr : Process F} (h : Filed num k pr known) {i : ProcessInput F}
    (hi : pr.Graceful i) {e : StationEntry F} (he : pr.entry k = some e)
    (hnone : (pr.next i).entry k = none) : i.Evicts e := by
  cases i with
  | kill => exact hi.elim
  | step i ok => exact evicts_of_step he hnone
  | start settings loads =>
    obtain ⟨d, task⟩ := pr
    cases task with
    | some _ => cases hi.1
    | none => cases he.symm.trans ((h.entry_start settings hi.2).symm.trans hnone)
  | shutdown orders ok =>
    obtain ⟨d, task⟩ := pr
    cases task with
    | none => cases he.symm.trans hnone
    | some running =>
      obtain ⟨c, s⟩ := running
      have hsaved := (h.entry_shutdown orders hi).symm.trans hnone
      replace he : s.stationMap[k]? = some e := he
      rw [he] at hsaved
      cases hsaved

theorem GracefulRun.split {pr : Process F} {js is : List (ProcessInput F)}
    (h : GracefulRun pr (js ++ is)) :
    GracefulRun pr js ∧ GracefulRun (js.foldl Process.next pr) is := by
  induction js generalizing pr with
  | nil => exact ⟨trivial, h⟩
  | cons j js ih =>
    obtain ⟨hjs, his⟩ := ih h.2
    exact ⟨⟨h.1, hjs⟩, his⟩

theorem foldl_track (k : String) (pr : Process F) (known : Option (Since F))
    (is : List (ProcessInput F)) :
    (is.foldl (track k) (pr, known)).1 = is.foldl Process.next pr := by
  induction is generalizing pr known with
  | nil => rfl
  | cons i is ih => exact ih (pr.next i) (since k pr known i)

/-- An entry stays through a run without store errors, and through the steps that follow,
until a tick evicts it. -/
theorem Filed.run_evicts (hnum : Comparable num) {pr : Process F} (h : Filed num k pr known)
    {kept : List (ProcessInput F)} (hkept : GracefulRun pr kept)
    (last : List (Input F × (Nat → Bool))) {js : List (ProcessInput F)} {i : ProcessInput F}
    (hpre : js ++ [i] <+: kept ++ last.map fun i => ProcessInput.step i.1 i.2)
    {e : StationEntry F} (he : (js.foldl Process.next pr).entry k = some e)
    (hnone : ((js ++ [i]).foldl Process.next pr).entry k = none) : i.Evicts e := by
  rw [List.foldl_append] at hnone
  have hstep : i ∈ (last.map fun i => ProcessInput.step i.1 i.2) → i.Evicts e := by
    intro hmem
    obtain ⟨⟨i, ok⟩, -, rfl⟩ := List.mem_map.mp hmem
    exact evicts_of_step he hnone
  obtain ⟨rest, hrest⟩ := hpre
  rw [List.append_assoc, List.append_eq_append_iff] at hrest
  rcases hrest with ⟨between, rfl, hlast⟩ | ⟨between, rfl, hlast⟩
  · cases between with
    | nil =>
      refine hstep ?_
      rw [← List.nil_append (last.map _), ← hlast]
      exact List.mem_cons_self
    | cons j between =>
      obtain ⟨rfl, -⟩ := List.cons.inj hlast
      obtain ⟨hjs, hi⟩ := hkept.split
      have hfiled := h.run hnum js hjs
      rw [foldl_track] at hfiled
      exact hfiled.evicts hi.1 he hnone
  · refine hstep ?_
    rw [hlast]
    exact List.mem_append_right _ List.mem_cons_self

theorem Told.run (hnum : Comparable num) {pr : Process F} (h : Told num k pr known)
    (is : List (Input F × (Nat → Bool))) :
    Told num k ((is.map fun i => ProcessInput.step i.1 i.2).foldl (track k) (pr, known)).1
      ((is.map fun i => ProcessInput.step i.1 i.2).foldl (track k) (pr, known)).2 := by
  induction is generalizing pr known with
  | nil => exact h
  | cons i is ih => exact ih (h.step hnum i.1 i.2)

end Step

/-- After a run without store errors, and in the steps of the task that then follow whatever
the store does, an entry made in the run says what its packets say, and an entry is there
until a tick evicts it. -/
theorem station_summarised {num : F → Prop} (hnum : Comparable num) (rows : StoredRows F)
    (k : String) (kept : List (ProcessInput F)) (last : List (Input F × (Nat → Bool)))
    (hkept : GracefulRun ⟨rows.disk, none⟩ kept) :
    let is := kept ++ last.map fun i => ProcessInput.step i.1 i.2
    let ran := is.foldl (track k) (⟨rows.disk, none⟩, none)
    (∀ h ∈ ran.2, ∀ e ∈ ran.1.entry k,
      (∀ r ∈ h.reports, ∀ a ∈ r.packet.altitudeFt, num a) →
        StationEntry.Summarises h.reports h.restarted e) ∧
      ∀ js i, js ++ [i] <+: is →
        ∀ e ∈ (js.foldl Process.next (⟨rows.disk, none⟩ : Process F)).entry k,
          ((js ++ [i]).foldl Process.next (⟨rows.disk, none⟩ : Process F)).entry k = none →
            i.Evicts e := by
  have hstart : Filed num k ⟨rows.disk, none⟩ none :=
    ⟨Table.upsertAll_keyed Table.keyed_empty _, fun _ _ hs => (by cases hs),
      fun _ hh => (by cases hh)⟩
  intro is ran
  refine ⟨?_, fun js i hpre e he => hstart.run_evicts hnum hkept last hpre he⟩
  show Told num k ran.1 ran.2
  rw [show ran = _ from List.foldl_append ..]
  exact ((hstart.run hnum kept hkept).told).run hnum last

/-! ## A station heard before and after a restart -/

theorem rat_comparable : Comparable fun _ : ℚ => True where
  order := {
    irrefl := fun a _ => decide_eq_false (lt_irrefl a)
    trans := fun a b c _ _ _ hab hbc =>
      decide_eq_true ((of_decide_eq_true hab).trans (of_decide_eq_true hbc))
    between := fun a b c _ _ _ hac => by
      rcases lt_or_ge a b with hab | hba
      · exact Or.inl (decide_eq_true hab)
      · exact Or.inr (decide_eq_true (hba.trans_lt (of_decide_eq_true hac))) }
  max_lt _ _ _ _ h := if_pos (of_decide_eq_true h).le
  max_gt _ _ _ _ h := if_neg (of_decide_eq_true h).not_ge
  max_mem a b _ _ := (ite_eq_or_eq (a ≤ b) b a).symm

def emptyRows : StoredRows ℚ := ⟨none, [], [], [], []⟩

def sampleStart : ProcessInput ℚ := .start ⟨[], 6⟩ ⟨true, true, true, true, 0⟩

/-- A position with an altitude. -/
def sampleFix (altitudeFt : ℚ) (ok : Bool) : Input ℚ × (Nat → Bool) :=
  (.frame sampleWorld { sampleFrame "W1AW" [] with
    parsed := some ⟨.position ⟨41, -72, some altitudeFt, '/', '-'⟩ none, none⟩ }, fun _ => ok)

def restartedRun : List (ProcessInput ℚ) :=
  [sampleStart, .step (sampleFix 90 true).1 (sampleFix 90 true).2,
    .step (.tick (sampleTick 0)) fun _ => true, .shutdown (sampleTick 0).orders fun _ => true,
    sampleStart]

theorem station_summarised_restarted :
    let ran := (restartedRun ++ [sampleFix 80 false].map fun i => ProcessInput.step i.1 i.2).foldl
      (track "W1AW") (⟨emptyRows.disk, none⟩, none)
    ran.2.map (·.reports.length) = some 2 ∧
      (ran.1.entry "W1AW").map StationEntry.altitudeFt = some (some 90) ∧
      ∀ h ∈ ran.2, ∀ e ∈ ran.1.entry "W1AW",
        StationEntry.Summarises h.reports h.restarted e := by
  refine ⟨by decide +kernel, by decide +kernel, fun h hh e he => ?_⟩
  exact (station_summarised rat_comparable emptyRows "W1AW" restartedRun [sampleFix 80 false]
    ⟨⟨rfl, rfl⟩, fun _ => rfl, fun _ => rfl, fun _ => rfl, ⟨rfl, rfl⟩, trivial⟩).1 h hh e he
    fun _ _ _ _ => trivial

/-- A frame whose time stamp has no date is heard at the time of the wall clock, here a
nanosecond after the epoch. -/
def undatedFrame : ProcessInput ℚ :=
  .step (.frame { sampleWorld with clock := ⟨1, 0⟩ } { sampleFrame "W1AW" [] with
    capture := { receivedAtMs := 2 ^ 63, ssrc := none } }) fun _ => true

/-- The store has no nanoseconds. -/
theorem restart_rounds_lastHeard :
    let run := [sampleStart, undatedFrame, .shutdown (sampleTick 0).orders fun _ => true,
      sampleStart]
    let ran := run.foldl (track "W1AW") (⟨emptyRows.disk, none⟩, none)
    GracefulRun ⟨emptyRows.disk, none⟩ run ∧
      (ran.2.bind (·.reports.getLast?)).map (·.packet.receivetime) = some 1 ∧
      (ran.1.entry "W1AW").map StationEntry.lastHeard = some 0 := by
  refine ⟨⟨⟨rfl, rfl⟩, fun _ => rfl, fun _ => rfl, ⟨rfl, rfl⟩, trivial⟩, ?_, ?_⟩ <;>
    decide +kernel

end Listener

end Rtpigate
