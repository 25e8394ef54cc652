/-
Duplicate suppression.

The cache is read when a packet is decided on, written when its line has gone out,
and purged on the statistics tick.  While the wall clock does not go back it agrees
with the trace: the young entries are the lines written in the last 30 seconds.

Entries are kept by source and text.  The text renders the octets of the info field
and is the same for many ill-formed fields.
-/
import Rtpigate.Aprsis.Gate

namespace Rtpigate
namespace Aprsis

open Lib Listener

variable {F : Type}

def Input.seconds : Input F → Option Int
  | .recv (.message (.pkt _)) clock _ => some clock.now
  | .telemetryTick now _ => some (epochSecs now)
  | _ => none

def Timely (is : List (Input F)) : Prop := (is.filterMap Input.seconds).Pairwise fun a b => a ≤ b

instance (is : List (Input F)) : Decidable (Timely is) := List.instDecidablePairwise _

def Rendered (is : List (Input F)) : Prop :=
  ∀ p clock outcome, .recv (.message (.pkt p)) clock outcome ∈ is →
    p.info = fromUtf8Lossy p.infoBytes

def gated (tr : List (Event F)) : List (PacketWrite F) :=
  (packetWrites tr).filter fun w => w.result == .done

theorem gated_append (a b : List (Event F)) : gated (a ++ b) = gated a ++ gated b := by
  rw [gated, packetWrites_append, List.filter_append]
  rfl

theorem gated_of_packetWrites_nil {evs : List (Event F)} (h : packetWrites evs = []) :
    gated evs = [] := by
  rw [gated, h]
  rfl

/-- What the cache records of a line. -/
def PacketWrite.record (w : PacketWrite F) : String × Int := (dedupKey w.p, w.clock.now)

theorem timely_of_concat (is : List (Input F)) (i : Input F) (h : Timely (is ++ [i])) :
    Timely is := by
  rw [Timely, List.filterMap_append] at h
  exact (List.pairwise_append.mp h).1

/-- The cache against the lines that went out, and the distance between lines of one
key. -/
structure Deduped (is : List (Input F)) (s : State F) (tr : List (Event F)) : Prop where
  tracks : ∀ now, (∀ x ∈ is.filterMap Input.seconds, x ≤ now) →
    Expiring.Tracks dedupTtlSecs s.dedupCache ((gated tr).map PacketWrite.record) now
  spaced : (gated tr).Pairwise fun a b =>
    dedupKey a.p = dedupKey b.p → a.clock.now + dedupTtlSecs ≤ b.clock.now

theorem timely_last {is : List (Input F)} {i : Input F} {now : Int} (h : Timely (is ++ [i]))
    (hi : i.seconds = some now) : ∀ x ∈ is.filterMap Input.seconds, x ≤ now := by
  intro x hx
  rw [Timely, List.filterMap_append] at h
  refine (List.pairwise_append.mp h).2.2 x hx now ?_
  simp only [List.filterMap_cons, hi, List.filterMap_nil, List.mem_singleton]

theorem Deduped.same {is : List (Input F)} {s s' : State F} {tr evs : List (Event F)}
    (h : Deduped is s tr) (i : Input F) (hcache : s'.dedupCache = s.dedupCache)
    (hw : gated evs = []) : Deduped (is ++ [i]) s' (tr ++ evs) where
  tracks now hnow := by
    rw [gated_append, hw, List.append_nil, hcache]
    refine h.tracks now fun x hx => hnow x ?_
    rw [List.filterMap_append]
    exact List.mem_append_left _ hx
  spaced := by
    rw [gated_append, hw, List.append_nil]
    exact h.spaced

theorem Deduped.purge {is : List (Input F)} {s s' : State F} {tr evs : List (Event F)}
    (h : Deduped is s tr) {i : Input F} {now : Int} (htime : Timely (is ++ [i]))
    (hi : i.seconds = some now) (hcache : s'.dedupCache = s.dedupCache.purge dedupTtlSecs now)
    (hw : gated evs = []) : Deduped (is ++ [i]) s' (tr ++ evs) where
  tracks later hlater := by
    rw [gated_append, hw, List.append_nil, hcache]
    refine Expiring.Tracks.later (h.tracks now (timely_last htime hi)).purge (hlater now ?_)
    rw [List.filterMap_append, List.filterMap_cons, hi]
    exact List.mem_append_right _ List.mem_cons_self
  spaced := by
    rw [gated_append, hw, List.append_nil]
    exact h.spaced

/-- A line that went out, of a key with no young entry. -/
theorem Deduped.gate {is : List (Input F)} {s s' : State F} {tr evs : List (Event F)}
    (h : Deduped is s tr) {i : Input F} {w : PacketWrite F} (htime : Timely (is ++ [i]))
    (hi : i.seconds = some w.clock.now)
    (hfresh : s.dedupCache.fresh dedupTtlSecs w.clock.now (dedupKey w.p) = false)
    (hcache : s'.dedupCache = s.dedupCache.insert (dedupKey w.p) w.clock.now)
    (hw : gated evs = [w]) : Deduped (is ++ [i]) s' (tr ++ evs) where
  tracks later hlater := by
    rw [gated_append, hw, List.map_append, hcache]
    have hnow := h.tracks w.clock.now (timely_last htime hi)
    refine Expiring.Tracks.later (hnow.insert (dedupKey w.p)) (hlater _ ?_)
    rw [List.filterMap_append, List.filterMap_cons, hi]
    exact List.mem_append_right _ List.mem_cons_self
  spaced := by
    rw [gated_append, hw]
    refine List.pairwise_append.mpr ⟨h.spaced, List.pairwise_singleton _ _, ?_⟩
    intro a ha b hb hkey
    rw [List.mem_singleton.mp hb] at hkey ⊢
    have hrecord : (dedupKey w.p, a.clock.now) ∈ (gated tr).map PacketWrite.record :=
      List.mem_map.mpr ⟨a, ha, by rw [PacketWrite.record, hkey]⟩
    exact (h.tracks w.clock.now (timely_last htime hi)).old_of_not_fresh hfresh hrecord

/-- Sources without a colon make the key unambiguous. -/
theorem dedupKey_inj {p q : RTPPacket F} (hp : ':' ∉ p.source.toList) (hq : ':' ∉ q.source.toList)
    (h : dedupKey p = dedupKey q) : p.source = q.source ∧ p.info = q.info := by
  have hlist : p.source.toList ++ ':' :: p.info.toList = q.source.toList ++ ':' :: q.info.toList := by
    have hkey := congrArg String.toList h
    rw [dedupKey, dedupKey, String.toList_append, String.toList_append, String.toList_append,
      String.toList_append, List.append_assoc, List.append_assoc] at hkey
    exact hkey
  obtain ⟨hsource, hinfo⟩ := append_cons_inj hp hq hlist
  exact ⟨String.toList_inj.mp hsource, String.toList_inj.mp hinfo⟩

variable [F64 F] {t : Captured F}

theorem step_deduped {is : List (Input F)} {i : Input F} {s : State F} {tr : List (Event F)}
    (htime : Timely (is ++ [i])) (h : Deduped is s tr) :
    Deduped (is ++ [i]) (step t s i).1 (tr ++ (step t s i).2) := by
  cases step_cases t s i with
  | other hq => exact h.same i hq.dedupCache (gated_of_packetWrites_nil hq.noPacket.1)
  | report world posit outcomes _ _ hstep =>
    rw [hstep]
    have hq := floorTick_quiet t world posit outcomes s
    exact h.same i hq.dedupCache (gated_of_packetWrites_nil hq.noPacket.1)
  | lagged n clock outcome _ _ hstep =>
    rw [hstep]
    exact h.same i rfl rfl
  | sample now utc hi _ hstep =>
    rw [hstep]
    exact h.purge htime (by rw [hi]; rfl) rfl rfl
  | packet p clock outcome hi _ hstep =>
    rw [hstep]
    have hsec : i.seconds = some clock.now := by rw [hi]; rfl
    have hexit := handlePacket_exit t clock outcome s p
    generalize handlePacket t clock outcome s p = r at hexit
    cases hexit with
    | ungated | filtered | duplicate | refused => exact h.same i rfl rfl
    | gated _ _ hfresh _ hdone =>
      exact h.gate (w := ⟨p, clock, p.forRxigateBytes t.callsign ++ crlf, .done⟩) htime hsec hfresh
        rfl rfl
    | failed _ _ _ _ hdone =>
      refine h.same i rfl ?_
      show List.filter _ [_] = []
      rw [List.filter_singleton, beq_false_of_ne hdone]
      rfl

theorem run_deduped (row : Option AprsisLifetime) (seq : SeqLoad) (is : List (Input F))
    (htime : Timely is) :
    Deduped is (run (step t) (start row seq).1 is).1 (run (step t) (start row seq).1 is).2 := by
  refine run_rule (P := Deduped) timely_of_concat ?_ (fun is i s tr => step_deduped) is htime
  have hempty : (start row seq : State F × List (Event F)).1.dedupCache = Expiring.empty := by
    cases row <;> cases seq <;> rfl
  refine ⟨fun now _ => ?_, List.Pairwise.nil⟩
  rw [hempty]
  exact Expiring.tracks_empty

theorem packetWrites_run {s₀ : State F} {is : List (Input F)} {w : PacketWrite F}
    (h : w ∈ packetWrites (run (step t) s₀ is).2) :
    .recv (.message (.pkt w.p)) w.clock w.result ∈ is := by
  obtain ⟨e, he, hew⟩ := List.mem_filterMap.mp h
  obtain ⟨js, i, hpre, hmem⟩ := mem_run he
  have hw : w ∈ packetWrites (step t (run (step t) s₀ js).1 i).2 :=
    List.mem_filterMap.mpr ⟨e, hmem, hew⟩
  have hi : i ∈ is := hpre.subset (List.mem_append_right _ (List.mem_singleton.mpr rfl))
  generalize (run (step t) s₀ js).1 = s at hw
  have hnone : ∀ {r : State F × List (Event F)}, Quiet s r → w ∉ packetWrites r.2 := by
    intro r hq hmem
    rw [hq.noPacket.1] at hmem
    cases hmem
  cases step_cases t s i with
  | packet p clock outcome hrecv _ hstep =>
    rw [hstep] at hw
    obtain ⟨rfl, _⟩ := packetWrites_handlePacket hw
    exact hrecv ▸ hi
  | lagged n clock outcome _ _ hstep =>
    rw [hstep] at hw
    cases hw
  | sample now utc _ _ hstep =>
    rw [hstep] at hw
    cases hw
  | report world posit outcomes _ _ hstep =>
    rw [hstep] at hw
    exact absurd hw (hnone (floorTick_quiet t world posit outcomes s))
  | other hq => exact absurd hw (hnone hq)

/-- Two lines that go out for one source and the same octets are decided on at least
30 seconds apart. -/
theorem duplicates_spaced (row : Option AprsisLifetime) (seq : SeqLoad) (is : List (Input F))
    (htime : Timely is) (hrendered : Rendered is) :
    (gated (run (step t) (start row seq).1 is).2).Pairwise fun a b =>
      a.p.source = b.p.source → a.p.infoBytes = b.p.infoBytes →
        a.clock.now + 30 ≤ b.clock.now := by
  have hinfo : ∀ w ∈ gated (run (step t) (start row seq).1 is).2,
      w.p.info = fromUtf8Lossy w.p.infoBytes := fun w hw =>
    hrendered w.p w.clock w.result (packetWrites_run (List.mem_filter.mp hw).1)
  refine (run_deduped row seq is htime).spaced.imp_of_mem ?_
  intro a b ha hb hspaced hsource hbytes
  apply hspaced
  rw [dedupKey, dedupKey, hsource, hinfo a ha, hinfo b hb, hbytes]

theorem duplicates_spaced_sample :
    (gated (run (step sampleStation) (start none .failed).1
        [.attempt .loggedIn,
          .recv (.message (.pkt (samplePacket "W1AW" [62, 65]))) ⟨0, 0⟩ .done,
          .recv (.message (.pkt (samplePacket "W1AW" [62, 65]))) ⟨0, 20⟩ .done,
          .recv (.message (.pkt (samplePacket "W1AW" [62, 65]))) ⟨0, 40⟩ .done]).2).Pairwise
      fun a b => a.p.source = b.p.source → a.p.infoBytes = b.p.infoBytes →
        a.clock.now + 30 ≤ b.clock.now :=
  duplicates_spaced none .failed _ (by decide) fun p clock outcome h => by
    simp only [List.mem_cons, reduceCtorEq, Input.recv.injEq, Received.message.injEq,
      DataItem.pkt.injEq, List.not_mem_nil, or_false, false_or] at h
    rcases h with ⟨rfl, _⟩ | ⟨rfl, _⟩ | ⟨rfl, _⟩ <;> rfl

/-! ## Suppressed packets -/

theorem step_duplicate {s : State F} {i : Input F}
    (h : s.lifetime.dropsDuplicate < (step t s i).1.lifetime.dropsDuplicate) :
    ∃ p clock outcome, i = .recv (.message (.pkt p)) clock outcome ∧
      s.dedupCache.fresh dedupTtlSecs clock.now (dedupKey p) = true := by
  have hquiet : ∀ {r : State F × List (Event F)}, Quiet s r →
      ¬ s.lifetime.dropsDuplicate < r.1.lifetime.dropsDuplicate := by
    intro r hq
    rw [hq.lifetime]
    exact Nat.lt_irrefl _
  cases step_cases t s i with
  | other hq => exact absurd h (hquiet hq)
  | report world posit outcomes _ _ hstep =>
    rw [hstep] at h
    exact absurd h (hquiet (floorTick_quiet t world posit outcomes s))
  | lagged n clock outcome _ _ hstep | sample now utc _ _ hstep =>
    rw [hstep] at h
    exact absurd h (Nat.lt_irrefl _)
  | packet p clock outcome hi _ hstep =>
    rw [hstep] at h
    have hexit := handlePacket_exit t clock outcome s p
    generalize handlePacket t clock outcome s p = r at h hexit
    cases hexit with
    | duplicate _ _ hfresh => exact ⟨p, clock, outcome, hi, hfresh⟩
    | filtered reason => cases reason <;> exact absurd h (Nat.lt_irrefl _)
    | ungated | refused | gated | failed => exact absurd h (Nat.lt_irrefl _)

/-- A packet counted as a duplicate follows, by less than 30 seconds, a line that went
out for the same source and text.  The two have the same octets if neither text has
lost any. -/
theorem duplicate_gated (row : Option AprsisLifetime) (seq : SeqLoad) (is : List (Input F))
    (i : Input F) (htime : Timely (is ++ [i]))
    (hcount : (run (step t) (start row seq).1 is).1.lifetime.dropsDuplicate <
      (run (step t) (start row seq).1 (is ++ [i])).1.lifetime.dropsDuplicate) :
    ∃ p clock outcome, i = .recv (.message (.pkt p)) clock outcome ∧
      ∃ w ∈ gated (run (step t) (start row seq).1 is).2,
        dedupKey w.p = dedupKey p ∧ w.clock.now ≤ clock.now ∧ clock.now < w.clock.now + 30 ∧
          (':' ∉ w.p.source.toList → ':' ∉ p.source.toList →
            w.p.source = p.source ∧ w.p.info = p.info ∧
              (utf8 w.p.info = w.p.infoBytes → utf8 p.info = p.infoBytes →
                w.p.infoBytes = p.infoBytes)) := by
  rw [run_concat] at hcount
  obtain ⟨p, clock, outcome, hi, hfresh⟩ := step_duplicate hcount
  have hded := run_deduped (t := t) row seq is (timely_of_concat is i htime)
  have hlast := timely_last htime (show i.seconds = some clock.now by rw [hi]; rfl)
  obtain ⟨time, hrecord, hle, hyoung⟩ := (hded.tracks clock.now hlast).recorded_of_fresh hfresh
  obtain ⟨w, hw, hkey⟩ := List.mem_map.mp hrecord
  rw [PacketWrite.record, Prod.mk.injEq] at hkey
  obtain ⟨hkey, rfl⟩ := hkey
  rw [dedupTtlSecs] at hyoung
  refine ⟨p, clock, outcome, hi, w, hw, hkey, hle, by omega, ?_⟩
  intro hwsource hpsource
  obtain ⟨hsource, hinfo⟩ := dedupKey_inj hwsource hpsource hkey
  refine ⟨hsource, hinfo, ?_⟩
  intro hwbytes hpbytes
  rw [← hwbytes, ← hpbytes, hinfo]

def illFormedFirst : List (Input ℚ) :=
  [.attempt .loggedIn, .recv (.message (.pkt (samplePacket "W1AW" [62, 0xff]))) ⟨0, 0⟩ .done]

def illFormedSecond : Input ℚ :=
  .recv (.message (.pkt (samplePacket "W1AW" [62, 0xfe]))) ⟨0, 1⟩ .done

theorem duplicate_gated_sample :
    ∃ p clock outcome, illFormedSecond = .recv (.message (.pkt p)) clock outcome ∧
      ∃ w ∈ gated (run (step sampleStation) (start none .failed).1 illFormedFirst).2,
        dedupKey w.p = dedupKey p ∧ w.clock.now ≤ clock.now ∧ clock.now < w.clock.now + 30 ∧
          (':' ∉ w.p.source.toList → ':' ∉ p.source.toList →
            w.p.source = p.source ∧ w.p.info = p.info ∧
              (utf8 w.p.info = w.p.infoBytes → utf8 p.info = p.infoBytes →
                w.p.infoBytes = p.infoBytes)) :=
  duplicate_gated none .failed illFormedFirst illFormedSecond (by decide) (by decide +kernel)

/-- The second packet counts as a duplicate, but no line with its octets went out. -/
theorem distinct_suppressed :
    Timely (illFormedFirst ++ [illFormedSecond]) ∧
      (run (step sampleStation) (start none .failed).1 illFormedFirst).1.lifetime.dropsDuplicate <
        (run (step sampleStation) (start none .failed).1
          (illFormedFirst ++ [illFormedSecond])).1.lifetime.dropsDuplicate ∧
      ¬ ∃ w ∈ gated (run (step sampleStation) (start none .failed).1 illFormedFirst).2,
        w.p.source = "W1AW" ∧ w.p.infoBytes = [62, 0xfe] ∧ (1 : Int) < w.clock.now + 30 := by
  refine ⟨by decide, by decide +kernel, ?_⟩
  rintro ⟨w, hw, _, hbytes, _⟩
  have hall : (gated (run (step sampleStation) (start none .failed).1 illFormedFirst).2).all
      (fun w => w.p.infoBytes != [62, 0xfe]) = true := by decide +kernel
  have hne := List.all_eq_true.mp hall w hw
  rw [hbytes] at hne
  cases hne

end Aprsis
end Rtpigate
