/-
The page and the backend agree.

What the page has, and what an answer under way will give it, is behind the backend by some
ticks of either stream.  While these ticks are few enough to be shown in the next message of
their stream, that message brings it level.
-/
import Rtpigate.Page
import Rtpigate.Lib.Replica

namespace Rtpigate

open Lib HistoryStore

/-- A message shows the ticks up to its own. -/
theorem Windowed.shown {α ω : Type*} {shows : ω → List α → Prop} {ticks : List α} {sent : List ω}
    (h : Windowed shows ticks sent) {i : Nat} {t : ω} (ht : sent[i]? = some t) :
    i < ticks.length ∧ shows t (span ticks (i + 1 - DataSeries.window) (i + 1)) := by
  have hlt : i < ticks.length := by
    rw [← h.length]
    exact (List.getElem?_eq_some_iff.mp ht).1
  have hshows := h.window i t ht
  rw [rtake_take hlt] at hshows
  exact ⟨hlt, hshows⟩

namespace Page

variable {F : Type}

/-! ## What the page has -/

/-- The ticks of a task, and the bucket that each of them belongs to. -/
structure TickStream (τ : Type) where
  key : τ → Int
  ticks : List τ

/-- The bucket of a key, from its last tick in either stream. -/
abbrev Stamp (τ υ : Type) : Type := Int → Option τ → Option υ → Option StatBucket

def Stamp.swap {τ υ : Type} (stamp : Stamp τ υ) : Stamp υ τ := fun k y x => stamp k x y

section Holding

variable {τ υ : Type} {mine : TickStream τ} {other : TickStream υ} {stamp : Stamp τ υ}
  {clock seen now : Int} {p q : Progress} {i : Nat} {touched : List Int}
  {merge : HistoryStore → HistoryStore} {backend held : HistoryStore}

/-- Inside the retention window the buckets of both are stamped, and `held` is behind in
either stream as `p` and `q` say. -/
def Holding (mine : TickStream τ) (other : TickStream υ) (stamp : Stamp τ υ) (clock : Int)
    (p q : Progress) (backend held : HistoryStore) : Prop :=
  ∃ bm hm bo ho,
    Behind mine.key DataSeries.window mine.ticks p.next p.sent bm hm ∧
    Behind other.key DataSeries.window other.ticks q.next q.sent bo ho ∧
    ∀ k, cutoff clock ≤ k → backend.buckets[k]? = stamp k (bm k) (bo k) ∧
      held.buckets[k]? = stamp k (hm k) (ho k)

/-- What message `i` of a stream does to a store, before it is pruned. -/
structure Merges (mine : TickStream τ) (stamp : Stamp τ υ) (i : Nat) (touched : List Int)
    (merge : HistoryStore → HistoryStore) : Prop where
  touches : ∀ store, Merged store (merge store) touched
  stamped : ∀ store k content y, store.buckets[k]? = stamp k (content k) y →
    (merge store).buckets[k]? = stamp k (merged mine.key
      (span mine.ticks (i + 1 - DataSeries.window) (i + 1)) content k) y

theorem Merges.keyed (h : Merges mine stamp i touched merge)
    (hkeyed : Table.Keyed StatBucket.ts held.buckets) :
    Table.Keyed StatBucket.ts ((merge held).prune seen).1.buckets :=
  prune_keyed ((h.touches held).keyed hkeyed)

theorem Merges.pruned (h : Merges mine stamp i touched merge) (hseen : seen ≤ now) {k : Int}
    (hk : cutoff now ≤ k) {content : Int → Option τ} {y : Option υ}
    (hold : held.buckets[k]? = stamp k (content k) y) :
    ((merge held).prune seen).1.buckets[k]? = stamp k (merged mine.key
      (span mine.ticks (i + 1 - DataSeries.window) (i + 1)) content k) y := by
  rw [getElem?_prune, if_pos ((cutoff_mono hseen).trans hk)]
  exact h.stamped held k content y hold

theorem Holding.swap (h : Holding mine other stamp clock p q backend held) :
    Holding other mine stamp.swap clock q p backend held := by
  obtain ⟨bm, hm, bo, ho, hmine, hother, hstamped⟩ := h
  exact ⟨bo, ho, bm, hm, hother, hmine, hstamped⟩

theorem Holding.self (h : Holding mine other stamp clock p q backend held) :
    Holding mine other stamp clock ⟨p.sent, p.sent⟩ ⟨q.sent, q.sent⟩ backend backend := by
  obtain ⟨bm, hm, bo, ho, hmine, hother, hstamped⟩ := h
  exact ⟨bm, bm, bo, bo, hmine.self, hother.self,
    fun k hk => ⟨(hstamped k hk).1, (hstamped k hk).1⟩⟩

/-- Level in both streams they agree inside the window. -/
theorem Holding.level (h : Holding mine other stamp clock p q backend held)
    (hp : p.next = p.sent) (hq : q.next = q.sent) {k : Int} (hk : cutoff clock ≤ k) :
    held.buckets[k]? = backend.buckets[k]? := by
  obtain ⟨bm, hm, bo, ho, hmine, hother, hstamped⟩ := h
  obtain ⟨hbackend, hheld⟩ := hstamped k hk
  rw [hheld, hbackend, hmine.level hp, hother.level hq]

theorem Holding.miss (h : Holding mine other stamp clock p q backend held)
    (hclock : clock ≤ now) (hseen : seen ≤ now) (hi : p.sent ≤ i)
    (hm : Merges mine stamp i touched merge) :
    Holding mine other stamp now ⟨p.next, i + 1⟩ q ((merge backend).prune seen).1 held := by
  obtain ⟨bm, gm, bo, go, hmine, hother, hstamped⟩ := h
  refine ⟨_, gm, bo, go, hmine.missed hi, hother, fun k hk => ?_⟩
  obtain ⟨hbackend, hheld⟩ := hstamped k ((cutoff_mono hclock).trans hk)
  exact ⟨hm.pruned hseen hk hbackend, hheld⟩

theorem Holding.hear (h : Holding mine other stamp clock p q backend held)
    (hclock : clock ≤ now) (hseen : seen ≤ now) (hi : p.sent ≤ i)
    (hgap : p.next = p.sent ∨ i < p.next + DataSeries.window)
    (hm : Merges mine stamp i touched merge) :
    Holding mine other stamp now ⟨i + 1, i + 1⟩ q ((merge backend).prune seen).1
      ((merge held).prune seen).1 := by
  obtain ⟨bm, gm, bo, go, hmine, hother, hstamped⟩ := h
  refine ⟨_, _, bo, go, hmine.heard_self hi hgap, hother, fun k hk => ?_⟩
  obtain ⟨hbackend, hheld⟩ := hstamped k ((cutoff_mono hclock).trans hk)
  exact ⟨hm.pruned hseen hk hbackend, hm.pruned hseen hk hheld⟩

end Holding

/-! ## What the page gets -/

/-- Inside the window `b` has a bucket wherever `a` has one. -/
def Within (clock : Int) (a b : HistoryStore) : Prop :=
  ∀ k, cutoff clock ≤ k → (a.buckets[k]?).isSome = true → (b.buckets[k]?).isSome = true

/-- What the page has, or has coming. -/
def Seed.Holds {τ υ : Type} (mine : TickStream τ) (other : TickStream υ) (stamp : Stamp τ υ)
    (clock : Int) (p q : Progress) (backend tab : HistoryStore) : Seed → Prop
  | .out =>
    Holding mine other stamp clock ⟨p.sent, p.sent⟩ ⟨q.sent, q.sent⟩ backend backend ∧
      Within clock tab backend
  | .answered buckets =>
    ∃ given : HistoryStore, Table.Keyed StatBucket.ts given.buckets ∧ buckets = given.snapshot ∧
      Holding mine other stamp clock p q backend given ∧ Within clock tab given
  | .applied => Holding mine other stamp clock p q backend tab

section Seed

variable {τ υ : Type} {mine : TickStream τ} {other : TickStream υ} {stamp : Stamp τ υ}
  {clock seen now : Int} {p q : Progress} {i : Nat} {touched : List Int} {seed : Seed}
  {merge : HistoryStore → HistoryStore} {backend tab : HistoryStore} {heardOther : Bool}

theorem Within.later {a b : HistoryStore} (h : Within clock a b) (hclock : clock ≤ now) :
    Within now a b := fun k hk => h k ((cutoff_mono hclock).trans hk)

theorem Within.miss (h : Within clock tab backend) (hclock : clock ≤ now) (hseen : seen ≤ now)
    (hm : Merges mine stamp i touched merge) : Within now tab ((merge backend).prune seen).1 := by
  intro k hk hsome
  rw [getElem?_prune, if_pos ((cutoff_mono hseen).trans hk)]
  exact (hm.touches backend).isSome (h.later hclock k hk hsome)

/-- A merge touches the same keys on both sides. -/
theorem Within.hear (h : Within clock tab backend) (hclock : clock ≤ now) (hseen : seen ≤ now)
    (hm : Merges mine stamp i touched merge) :
    Within now ((merge tab).prune seen).1 ((merge backend).prune seen).1 := by
  intro k hk hsome
  by_cases hkey : k ∈ touched
  · rw [getElem?_prune, if_pos ((cutoff_mono hseen).trans hk)]
    exact (hm.touches backend).present k hkey
  · rw [getElem?_prune, if_pos ((cutoff_mono hseen).trans hk), (hm.touches tab).other k hkey] at hsome
    exact h.miss hclock hseen hm k hk hsome

theorem Seed.Holds.swap (h : seed.Holds mine other stamp clock p q backend tab) :
    seed.Holds other mine stamp.swap clock q p backend tab := by
  cases seed with
  | out => exact ⟨h.1.swap, h.2⟩
  | answered buckets =>
    obtain ⟨given, hkeyed, hgiven, hholding, hwithin⟩ := h
    exact ⟨given, hkeyed, hgiven, hholding.swap, hwithin⟩
  | applied => exact Holding.swap h

theorem Seed.Holds.miss (h : seed.Holds mine other stamp clock p q backend tab)
    (hclock : clock ≤ now) (hseen : seen ≤ now) (hi : p.sent ≤ i)
    (hm : Merges mine stamp i touched merge) :
    seed.Holds mine other stamp now ⟨p.next, i + 1⟩ q ((merge backend).prune seen).1 tab := by
  cases seed with
  | out => exact ⟨(h.1.miss hclock hseen hi hm).self, h.2.miss hclock hseen hm⟩
  | answered buckets =>
    obtain ⟨given, hkeyed, hgiven, hholding, hwithin⟩ := h
    exact ⟨given, hkeyed, hgiven, hholding.miss hclock hseen hi hm, hwithin.later hclock⟩
  | applied => exact Holding.miss h hclock hseen hi hm

theorem Seed.Holds.hear (h : seed.Holds mine other stamp clock p q backend tab)
    (hclock : clock ≤ now) (hseen : seen ≤ now) (hi : p.sent ≤ i)
    (hadmits : seed.Admits heardOther p i) (hm : Merges mine stamp i touched merge) :
    seed.Holds mine other stamp now ⟨i + 1, i + 1⟩ q ((merge backend).prune seen).1
      ((merge tab).prune seen).1 := by
  cases seed with
  | out => exact ⟨(h.1.miss hclock hseen hi hm).self, h.2.hear hclock hseen hm⟩
  | answered buckets => exact hadmits.elim
  | applied => exact Holding.hear h hclock hseen hi hadmits hm

/-- The backend answers with what it has. -/
theorem Seed.Holds.answer (h : Seed.out.Holds mine other stamp clock p q backend tab)
    (hkeyed : Table.Keyed StatBucket.ts backend.buckets) :
    (Seed.answered backend.snapshot).Holds mine other stamp clock ⟨p.sent, p.sent⟩
      ⟨q.sent, q.sent⟩ backend tab :=
  ⟨backend, hkeyed, rfl, h.1, h.2⟩

theorem getElem?_seedActivityHistory {given : HistoryStore}
    (hkeyed : Table.Keyed StatBucket.ts given.buckets) (b : Buckets) (k : Int) :
    (seedActivityHistory given.snapshot b)[k]? = (given.buckets[k]?).or b[k]? := by
  have hrows : ∀ r ∈ Table.rows given.buckets, given.buckets[StatBucket.ts r]? = some r :=
    fun r hr => (Table.mem_rows hkeyed).mp hr
  rw [seedActivityHistory, snapshot,
    Table.getElem?_upsertAll (g := fun k => given.buckets[k]?) hrows]
  split
  · next hk =>
    obtain ⟨r, hr, rfl⟩ := List.mem_map.mp hk
    rw [hrows r hr, Option.some_or]
  · next hk =>
    cases hgiven : given.buckets[k]? with
    | none => exact Option.none_or.symm
    | some r =>
      have hts : r.ts = k := hkeyed k r hgiven
      rw [← hts] at hgiven
      exact absurd (hts ▸ List.mem_map_of_mem ((Table.mem_rows hkeyed).mpr hgiven)) hk

/-- Inside the window the answer overwrites all that the page has. -/
theorem Seed.Holds.apply {buckets : List StatBucket}
    (h : (Seed.answered buckets).Holds mine other stamp clock p q backend tab) :
    Seed.applied.Holds mine other stamp clock p q backend
      ⟨seedActivityHistory buckets tab.buckets⟩ := by
  obtain ⟨given, hkeyed, rfl, ⟨bm, hm, bo, ho, hmine, hother, hstamped⟩, hwithin⟩ := h
  refine ⟨bm, hm, bo, ho, hmine, hother, fun k hk => ⟨(hstamped k hk).1, ?_⟩⟩
  rw [← (hstamped k hk).2]
  show (seedActivityHistory given.snapshot tab.buckets)[k]? = _
  rw [getElem?_seedActivityHistory hkeyed]
  cases hgiven : given.buckets[k]? with
  | some b => rfl
  | none =>
    cases htab : tab.buckets[k]? with
    | none => rfl
    | some b =>
      have hsome := hwithin k hk (by rw [htab]; rfl)
      rw [hgiven] at hsome
      cases hsome

end Seed

/-! ## The invariant -/

/-- The page beside its backend.  With a message of either stream it has all that the
backend has. -/
structure Agreeing {τ υ : Type} (mine : TickStream τ) (other : TickStream υ) (stamp : Stamp τ υ)
    (clock : Int) (p q : Progress) (heardMine heardOther : Bool) (seed : Seed)
    (backend tab : HistoryStore) : Prop where
  backendKeyed : Table.Keyed StatBucket.ts backend.buckets
  tabKeyed : Table.Keyed StatBucket.ts tab.buckets
  mineLevel : heardMine = true → p.next = p.sent
  otherLevel : heardOther = true → q.next = q.sent
  both : heardMine = true → heardOther = true → seed = .applied ∧
    ∀ k, ¬ cutoff clock ≤ k → tab.buckets[k]? = backend.buckets[k]?
  seed : seed.Holds mine other stamp clock p q backend tab

section Agreeing

variable {τ υ : Type} {mine : TickStream τ} {other : TickStream υ} {stamp : Stamp τ υ}
  {clock seen : Int} {p q : Progress} {i : Nat} {touched : List Int} {seed : Seed}
  {merge : HistoryStore → HistoryStore} {backend tab : HistoryStore} {heardMine heardOther : Bool}

theorem Agreeing.swap
    (h : Agreeing mine other stamp clock p q heardMine heardOther seed backend tab) :
    Agreeing other mine stamp.swap clock q p heardOther heardMine seed backend tab :=
  ⟨h.backendKeyed, h.tabKeyed, h.otherLevel, h.mineLevel,
    fun ho hm => h.both hm ho, h.seed.swap⟩

theorem Agreeing.agrees
    (h : Agreeing mine other stamp clock p q heardMine heardOther seed backend tab)
    (hm : heardMine = true) (ho : heardOther = true) : tab.buckets = backend.buckets := by
  obtain ⟨happlied, hbelow⟩ := h.both hm ho
  have hseed := h.seed
  rw [happlied] at hseed
  apply Std.ExtTreeMap.ext_getElem?
  intro k
  by_cases hk : cutoff clock ≤ k
  · exact Holding.level hseed (h.mineLevel hm) (h.otherLevel ho) hk
  · exact hbelow k hk

/-- The page gets the message that the backend has merged. -/
theorem Agreeing.hear
    (h : Agreeing mine other stamp clock p q heardMine heardOther seed backend tab)
    (htime : (heardMine = true ∧ heardOther = true) ∨ clock ≤ seen) (hi : p.sent ≤ i)
    (hadmits : seed.Admits heardOther p i) (hm : Merges mine stamp i touched merge) :
    Agreeing mine other stamp (max clock seen) ⟨i + 1, i + 1⟩ q true heardOther seed
      ((merge backend).prune seen).1 ((merge tab).prune seen).1 where
  backendKeyed := hm.keyed h.backendKeyed
  tabKeyed := hm.keyed h.tabKeyed
  mineLevel _ := rfl
  otherLevel := h.otherLevel
  both _ ho := by
    rw [ho] at hadmits
    refine ⟨hadmits.applied, fun k hk => ?_⟩
    rcases htime with ⟨hmine, hother⟩ | hclock
    · have hsame : tab = backend := congrArg HistoryStore.mk (h.agrees hmine hother)
      rw [hsame]
    · rw [max_eq_right hclock] at hk
      rw [getElem?_prune, getElem?_prune, if_neg hk, if_neg hk]
  seed := h.seed.hear (le_max_left _ _) (le_max_right _ _) hi hadmits hm

/-- The page does not get it. -/
theorem Agreeing.miss
    (h : Agreeing mine other stamp clock p q heardMine heardOther seed backend tab)
    (hi : p.sent ≤ i) (hm : Merges mine stamp i touched merge) :
    Agreeing mine other stamp (max clock seen) ⟨p.next, i + 1⟩ q false heardOther seed
      ((merge backend).prune seen).1 tab where
  backendKeyed := hm.keyed h.backendKeyed
  tabKeyed := h.tabKeyed
  mineLevel hmine := by cases hmine
  otherLevel := h.otherLevel
  both hmine := by cases hmine
  seed := h.seed.miss (le_max_left _ _) (le_max_right _ _) hi hm

theorem Agreeing.answer
    (h : Agreeing mine other stamp clock p q heardMine heardOther .out backend tab) :
    Agreeing mine other stamp clock ⟨p.sent, p.sent⟩ ⟨q.sent, q.sent⟩ heardMine heardOther
      (.answered backend.snapshot) backend tab where
  backendKeyed := h.backendKeyed
  tabKeyed := h.tabKeyed
  mineLevel _ := rfl
  otherLevel _ := rfl
  both hm ho := by cases (h.both hm ho).1
  seed := h.seed.answer h.backendKeyed

theorem Agreeing.apply {buckets : List StatBucket}
    (h : Agreeing mine other stamp clock p q heardMine heardOther (.answered buckets) backend
      tab) :
    Agreeing mine other stamp clock p q heardMine heardOther .applied backend
      ⟨seedActivityHistory buckets tab.buckets⟩ where
  backendKeyed := h.backendKeyed
  tabKeyed := Table.upsertAll_keyed h.tabKeyed buckets
  mineLevel := h.mineLevel
  otherLevel := h.otherLevel
  both hm ho := by cases (h.both hm ho).1
  seed := h.seed.apply

/-- With a new connection the page has heard nothing yet. -/
theorem Agreeing.opened
    (h : Agreeing mine other stamp clock p q heardMine heardOther seed backend tab) :
    Agreeing mine other stamp clock p q false false seed backend tab where
  backendKeyed := h.backendKeyed
  tabKeyed := h.tabKeyed
  mineLevel hm := by cases hm
  otherLevel ho := by cases ho
  both hm := by cases hm
  seed := h.seed

end Agreeing

def Tab.store (tab : Tab) : HistoryStore := ⟨tab.activityBuckets⟩

namespace Site

section Inv

variable {ticks : List Listener.Tick} {statTicks : List Aprsis.Tick} {old : Int → Option StatBucket}
  {s : Site} {i j : Nat} {seen : Int} {lost : Bool}

/-- The buckets from before, stamped with the ticks of the run. -/
def stampOver (old : Int → Option StatBucket) : Stamp Listener.Tick Aprsis.Tick :=
  fun k => stamped k (old k)

def Inv (ticks : List Listener.Tick) (statTicks : List Aprsis.Tick)
    (old : Int → Option StatBucket) (s : Site) : Prop :=
  Agreeing ⟨Listener.Tick.key, ticks⟩ ⟨Aprsis.Tick.key, statTicks⟩ (stampOver old) s.clock
    s.packets s.aprsis s.tab.heardPacket s.tab.heardAprsis s.tab.seed s.backend s.tab.store

theorem start_inv (rows : List StatBucket) :
    (start rows).Inv ticks statTicks (fun k => (fromBuckets rows).buckets[k]?) where
  backendKeyed := Table.upsertAll_keyed Table.keyed_empty rows
  tabKeyed := Table.keyed_empty
  mineLevel h := by cases h
  otherLevel h := by cases h
  both h := by cases h
  seed := by
    refine ⟨⟨fun _ => none, fun _ => none, fun _ => none, fun _ => none, behind_nil, behind_nil,
      fun k _ => ⟨rfl, rfl⟩⟩, fun k _ hk => ?_⟩
    have hempty : (start rows).tab.store.buckets[k]? = none := Std.ExtTreeMap.getElem?_empty
    rw [hempty] at hk
    cases hk

theorem packet_merges {t : PacketTelemetry F}
    (ht : t.Shows (span ticks (i + 1 - DataSeries.window) (i + 1))) :
    Merges ⟨Listener.Tick.key, ticks⟩ (stampOver old) i (updateFromPacket t ⟨∅⟩).2
      fun store => (store.updateFromPacket t).1 where
  touches store := updateFromPacket_merged t store
  stamped store k content y hold := by
    rw [getElem?_updateFromPacket ht, hold]
    exact stamped_packet k (old k) (content k) y _

theorem aprsis_merges {t : AprsisTelemetry F}
    (ht : t.Shows (span statTicks (j + 1 - DataSeries.window) (j + 1))) :
    Merges ⟨Aprsis.Tick.key, statTicks⟩ (stampOver old).swap j (updateFromAprsis t ⟨∅⟩).2
      fun store => (store.updateFromAprsis t).1 where
  touches store := updateFromAprsis_merged t store
  stamped store k content y hold := by
    rw [getElem?_updateFromAprsis ht, hold]
    exact stamped_aprsis k (old k) y (content k) _

theorem packet_inv (h : s.Inv ticks statTicks old) (hi : s.packets.sent ≤ i)
    {t : PacketTelemetry F} (ht : t.Shows (span ticks (i + 1 - DataSeries.window) (i + 1)))
    (hready : (s.tab.connected && !lost) = true → s.InTime seen ∧
      (∀ x ∈ span ticks (i + 1 - DataSeries.window) (i + 1), 0 ≤ x.now) ∧
        s.tab.seed.Admits s.tab.heardAprsis s.packets i) :
    (s.packet seen lost i t).Inv ticks statTicks old := by
  unfold packet
  split
  · next hhear =>
    obtain ⟨⟨hepoch, htime⟩, hticks, hadmits⟩ := hready hhear
    have htab : onPacketStatistics seen t s.tab.store.buckets =
        ((s.tab.store.updateFromPacket t).1.prune seen).1.buckets :=
      onPacketStatistics_eq hepoch ht hticks h.tabKeyed
    have hagree := h.hear htime hi hadmits (packet_merges ht)
    show Agreeing _ _ _ _ _ _ _ _ _ _ ⟨onPacketStatistics seen t s.tab.store.buckets⟩
    rw [htab]
    exact hagree
  · exact h.miss hi (packet_merges ht)

theorem aprsisMessage_inv (h : s.Inv ticks statTicks old) (hj : s.aprsis.sent ≤ j)
    {t : AprsisTelemetry F} (ht : t.Shows (span statTicks (j + 1 - DataSeries.window) (j + 1)))
    (hready : (s.tab.connected && !lost) = true → s.InTime seen ∧
      (∀ x ∈ span statTicks (j + 1 - DataSeries.window) (j + 1), 0 ≤ x.now) ∧
        s.tab.seed.Admits s.tab.heardPacket s.aprsis j) :
    (s.aprsisMessage seen lost j t).Inv ticks statTicks old := by
  unfold aprsisMessage
  split
  · next hhear =>
    obtain ⟨⟨hepoch, htime⟩, hticks, hadmits⟩ := hready hhear
    have htab : onAprsisStatistics seen t s.tab.store.buckets =
        ((s.tab.store.updateFromAprsis t).1.prune seen).1.buckets :=
      onAprsisStatistics_eq hepoch ht hticks h.tabKeyed
    have hagree := (h.swap.hear (htime.imp And.symm id) hj hadmits (aprsis_merges ht)).swap
    show Agreeing _ _ _ _ _ _ _ _ _ _ ⟨onAprsisStatistics seen t s.tab.store.buckets⟩
    rw [htab]
    exact hagree
  · exact (h.swap.miss hj (aprsis_merges ht)).swap

theorem answer_inv (h : s.Inv ticks statTicks old) : s.answer.Inv ticks statTicks old := by
  unfold answer
  split
  · next hout =>
    unfold Inv at h
    rw [hout] at h
    exact h.answer
  · exact h

theorem seeded_inv (h : s.Inv ticks statTicks old) : s.seeded.Inv ticks statTicks old := by
  unfold seeded
  split
  · next buckets hanswered =>
    unfold Inv at h
    rw [hanswered] at h
    exact h.apply
  · exact h

theorem step_inv (F : Type) [F64 F] (h : s.Inv ticks statTicks old) {input : SiteInput}
    (hclean : s.Clean ticks statTicks input) :
    (step F ticks statTicks s input).Inv ticks statTicks old := by
  cases input with
  | packet skipped seen lost =>
    simp only [step]
    cases ht : (Listener.published (F := F) ticks)[s.packets.sent + skipped]? with
    | none => exact h
    | some t =>
      obtain ⟨hlt, hshows⟩ := (Listener.published_windowed ticks).shown ht
      have hready := hclean hlt
      rw [rtake_take hlt] at hready
      exact packet_inv h (Nat.le_add_right _ _) hshows hready
  | aprsis skipped seen lost =>
    simp only [step]
    cases ht : (Aprsis.published (F := F) statTicks)[s.aprsis.sent + skipped]? with
    | none => exact h
    | some t =>
      obtain ⟨hlt, hshows⟩ := (Aprsis.published_windowed statTicks).shown ht
      have hready := hclean hlt
      rw [rtake_take hlt] at hready
      exact aprsisMessage_inv h (Nat.le_add_right _ _) hshows hready
  | opened => exact h.opened
  | failed => exact h
  | answer => exact answer_inv h
  | seed => exact seeded_inv h

end Inv

section Runs

variable (F : Type) [F64 F] (ticks : List Listener.Tick) (statTicks : List Aprsis.Tick)
  (rows : List StatBucket)

theorem reach_concat (is : List SiteInput) (i : SiteInput) :
    reach F ticks statTicks rows (is ++ [i]) =
      step F ticks statTicks (reach F ticks statTicks rows is) i := List.foldl_concat ..

/-- In a run of clean steps the page agrees with the backend whenever it has had a message of
either stream. -/
theorem activity_agrees (is : List SiteInput)
    (hclean : ∀ js i, js ++ [i] <+: is →
      (reach F ticks statTicks rows js).Clean ticks statTicks i) :
    ∀ js, js <+: is →
      let s := reach F ticks statTicks rows js
      s.tab.heardPacket = true → s.tab.heardAprsis = true →
        s.tab.activityBuckets = s.backend.buckets := by
  have hinv : ∀ js, js <+: is → (reach F ticks statTicks rows js).Inv ticks statTicks
      fun k => (fromBuckets rows).buckets[k]? := by
    intro js
    induction js using List.reverseRecOn with
    | nil => exact fun _ => start_inv rows
    | append_singleton js i ih =>
      intro hpre
      rw [reach_concat]
      exact step_inv F (ih ((List.prefix_append js [i]).trans hpre)) (hclean js i hpre)
  intro js hpre _ hpacket haprsis
  exact (hinv js hpre).agrees hpacket haprsis

end Runs

/-- The page takes the history behind the first tick, loses the second and hears the
third. -/
def cleanInputs : List SiteInput :=
  [.packet 0 1 false, .answer, .opened, .seed, .failed, .packet 0 2 false, .opened,
    .aprsis 0 3 false, .packet 0 17 false]

theorem activity_agrees_sample :
    let s := reach ℚ healTicks healStatTicks [] cleanInputs
    s.tab.activityBuckets = s.backend.buckets :=
  activity_agrees ℚ healTicks healStatTicks [] cleanInputs
    (forall_prefix_of_take (by decide +kernel)) cleanInputs List.prefix_rfl (by decide +kernel)
    (by decide +kernel)

/-! ## Away for too long -/

section Away

variable {ticks : List Listener.Tick} {statTicks : List Aprsis.Tick} {s : Site} {seen k : Int}
  {i : Nat} {t : PacketTelemetry F}

theorem packet_backend (lost : Bool) :
    (s.packet seen lost i t).backend = ((s.backend.updateFromPacket t).1.prune seen).1 := by
  unfold packet
  split <;> rfl

/-- A bucket inside the window stays. -/
theorem isSome_packet (hk : cutoff seen ≤ k) (lost : Bool)
    (h : (s.backend.buckets[k]?).isSome = true) :
    ((s.packet seen lost i t).backend.buckets[k]?).isSome = true := by
  rw [packet_backend, getElem?_prune, if_pos hk]
  exact (updateFromPacket_merged t s.backend).isSome h

theorem isSome_aprsisMessage (hk : cutoff seen ≤ k) (lost : Bool) (j : Nat)
    (t : AprsisTelemetry F) (h : (s.backend.buckets[k]?).isSome = true) :
    ((s.aprsisMessage seen lost j t).backend.buckets[k]?).isSome = true := by
  have hbackend : (s.aprsisMessage seen lost j t).backend =
      ((s.backend.updateFromAprsis t).1.prune seen).1 := by
    unfold aprsisMessage
    split <;> rfl
  rw [hbackend, getElem?_prune, if_pos hk]
  exact (updateFromAprsis_merged t s.backend).isSome h

end Away

/-- One packet in each of 103 ticks, 15 seconds apart. -/
def awayTicks : List Listener.Tick :=
  (List.range 103).map fun i => ⟨15 * i * 10 ^ 9, 0, { totalPackets := 1, heardDirect := 1 }⟩

def awayStatTicks : List Aprsis.Tick := [⟨1530 * 10 ^ 9, 0, {}⟩]

/-- The page has its answer, and loses its connection. -/
def awayStart : Site :=
  reach ℚ awayTicks awayStatTicks [] [.answer, .seed, .opened, .failed]

def awayStep (s : Site) (i : Nat) : Site :=
  step ℚ awayTicks awayStatTicks s (.packet 0 (15 * i) false)

theorem awayStep_eq {s : Site} {n : Nat} (hsent : s.packets.sent = n) (hn : n < 103) :
    ∃ t : PacketTelemetry ℚ, t.Shows (span awayTicks (n + 1 - 100) (n + 1)) ∧
      awayStep s n = s.packet (15 * n) false n t := by
  have hsentAll := Listener.published_windowed (F := ℚ) awayTicks
  obtain ⟨t, ht⟩ := hsentAll.sent (show n < awayTicks.length from hn)
  refine ⟨t, (hsentAll.shown ht).2, ?_⟩
  simp only [awayStep, step, Nat.add_zero, hsent, ht]

/-- The backend has the first bucket, and the page has nothing. -/
theorem away_missed (n : Nat) (hn : n ≤ 103) :
    let s := (List.range n).foldl awayStep awayStart
    s.tab.activityBuckets = ∅ ∧ s.tab.connected = false ∧ s.packets.sent = n ∧
      s.aprsis.sent = 0 ∧ (0 < n → (s.backend.buckets[(0 : Int)]?).isSome = true) := by
  induction n with
  | zero => exact ⟨rfl, rfl, rfl, rfl, fun h => absurd h (Nat.lt_irrefl 0)⟩
  | succ n ih =>
    obtain ⟨hbuckets, hdown, hsent, hstat, hfirst⟩ := ih (by omega)
    rw [List.range_succ, List.foldl_concat]
    generalize (List.range n).foldl awayStep awayStart = s at hbuckets hdown hsent hstat hfirst
    obtain ⟨t, ht, heq⟩ := awayStep_eq hsent (by omega)
    have hk : cutoff (15 * n) ≤ 0 := by
      unfold cutoff bucketKey bucketSecs retentionSecs
      omega
    have hmiss : (s.tab.connected && !false) ≠ true := by
      rw [hdown]
      decide
    rw [heq]
    refine ⟨?_, ?_, ?_, ?_, fun _ => ?_⟩
    · rw [packet, if_neg hmiss]
      exact hbuckets
    · rw [packet, if_neg hmiss]
      exact hdown
    · rw [packet, if_neg hmiss]
    · rw [packet, if_neg hmiss]
      exact hstat
    · by_cases hn0 : n = 0
      · subst hn0
        have hlatest : (latest Listener.Tick.key 0 (span awayTicks (0 + 1 - 100) (0 + 1))).isSome =
            true := by
          decide +kernel
        obtain ⟨x, hx⟩ := Option.isSome_iff_exists.mp hlatest
        rw [packet_backend, getElem?_prune, if_pos hk, getElem?_updateFromPacket ht, hx]
        rfl
      · exact isSome_packet hk false (hfirst (by omega))

theorem away_cutoff : cutoff 1530 ≤ 0 := by decide

/-- The last hundred ticks leave the first bucket out. -/
theorem away_heard {s : Site} (hempty : s.tab.activityBuckets = ∅) (hup : s.tab.connected = true)
    {t : PacketTelemetry ℚ} (ht : t.Shows (span awayTicks (102 + 1 - 100) (102 + 1))) :
    let s' := s.packet 1530 false 102 t
    s'.tab.heardPacket = true ∧ s'.tab.connected = true ∧ s'.aprsis = s.aprsis ∧
      Table.Keyed StatBucket.ts s'.tab.activityBuckets ∧
      s'.tab.activityBuckets[(0 : Int)]? = none := by
  have hhear : (s.tab.connected && !false) = true := by
    rw [hup]
    rfl
  have hticks : ∀ x ∈ span awayTicks (102 + 1 - 100) (102 + 1), 0 ≤ x.now := by decide +kernel
  have hlatest : latest Listener.Tick.key 0 (span awayTicks (102 + 1 - 100) (102 + 1)) = none := by
    decide +kernel
  have htab : onPacketStatistics 1530 t s.tab.activityBuckets =
      (((⟨∅⟩ : HistoryStore).updateFromPacket t).1.prune 1530).1.buckets := by
    rw [hempty]
    exact onPacketStatistics_eq (by decide) ht hticks
      (show Table.Keyed StatBucket.ts (⟨∅⟩ : HistoryStore).buckets from Table.keyed_empty)
  have hpacket : s.packet 1530 false 102 t = _ := if_pos hhear
  simp only [hpacket, htab]
  refine ⟨trivial, hup, trivial,
    prune_keyed ((updateFromPacket_merged t ⟨∅⟩).keyed Table.keyed_empty), ?_⟩
  rw [getElem?_prune, if_pos away_cutoff, getElem?_updateFromPacket ht, hlatest]
  exact Std.ExtTreeMap.getElem?_empty

theorem away_heardAprsis {s : Site} (hup : s.tab.connected = true)
    (hkeyed : Table.Keyed StatBucket.ts s.tab.activityBuckets)
    (hnone : s.tab.activityBuckets[(0 : Int)]? = none) {t : AprsisTelemetry ℚ}
    (ht : t.Shows (span awayStatTicks (0 + 1 - 100) (0 + 1))) :
    let s' := s.aprsisMessage 1530 false 0 t
    s'.tab.heardAprsis = true ∧ s'.tab.heardPacket = s.tab.heardPacket ∧
      s'.tab.activityBuckets[(0 : Int)]? = none := by
  have hhear : (s.tab.connected && !false) = true := by
    rw [hup]
    rfl
  have hticks : ∀ x ∈ span awayStatTicks (0 + 1 - 100) (0 + 1), 0 ≤ x.now := by decide +kernel
  have hlatest : latest Aprsis.Tick.key 0 (span awayStatTicks (0 + 1 - 100) (0 + 1)) = none := by
    decide +kernel
  have htab : onAprsisStatistics 1530 t s.tab.activityBuckets =
      ((s.tab.store.updateFromAprsis t).1.prune 1530).1.buckets :=
    onAprsisStatistics_eq (by decide) ht hticks
      (show Table.Keyed StatBucket.ts s.tab.store.buckets from hkeyed)
  have hmessage : s.aprsisMessage 1530 false 0 t = _ := if_pos hhear
  simp only [hmessage, htab]
  refine ⟨trivial, trivial, ?_⟩
  rw [getElem?_prune, if_pos away_cutoff, getElem?_updateFromAprsis ht, hlatest]
  exact hnone

def awayInputs : List SiteInput :=
  [.answer, .seed, .opened, .failed] ++ (List.range 102).map fun i => .packet 0 (15 * i) false

theorem reach_away (back : List SiteInput) :
    reach ℚ awayTicks awayStatTicks [] (awayInputs ++ back) =
      back.foldl (step ℚ awayTicks awayStatTicks)
        ((List.range 102).foldl awayStep awayStart) := by
  rw [reach, awayInputs, List.foldl_append, List.foldl_append, List.foldl_map]
  rfl

/-- The first messages after the connection has come back. -/
theorem away_back {s : Site} (hempty : s.tab.activityBuckets = ∅) (hup : s.tab.connected = true)
    (hsent : s.packets.sent = 102) (hstat : s.aprsis.sent = 0)
    (hfirst : (s.backend.buckets[(0 : Int)]?).isSome = true) :
    let s' := step ℚ awayTicks awayStatTicks
      (step ℚ awayTicks awayStatTicks s (.packet 0 1530 false)) (.aprsis 0 1530 false)
    s'.tab.heardPacket = true ∧ s'.tab.heardAprsis = true ∧
      s'.tab.activityBuckets ≠ s'.backend.buckets := by
  have htime : (15 * ((102 : Nat) : Int)) = 1530 := by norm_num
  obtain ⟨t, ht, heq⟩ := awayStep_eq hsent (by omega)
  rw [awayStep, htime] at heq
  obtain ⟨hpacket, hup', haprsis, hkeyed, hnone⟩ := away_heard hempty hup ht
  have hkept : ((s.packet 1530 false 102 t).backend.buckets[(0 : Int)]?).isSome = true :=
    isSome_packet away_cutoff false hfirst
  rw [heq]
  generalize s.packet 1530 false 102 t = heard at hpacket hup' haprsis hkeyed hnone hkept ⊢
  have hsentAll := Aprsis.published_windowed (F := ℚ) awayStatTicks
  obtain ⟨t', ht'⟩ := hsentAll.sent (show 0 < awayStatTicks.length by decide)
  have hshows := (hsentAll.shown ht').2
  have hstep : step ℚ awayTicks awayStatTicks heard (.aprsis 0 1530 false) =
      heard.aprsisMessage 1530 false 0 t' := by
    simp only [step, Nat.add_zero, haprsis, hstat, ht']
  obtain ⟨haprsis', hpacket', hnone'⟩ := away_heardAprsis hup' hkeyed hnone hshows
  have hkept' := isSome_aprsisMessage away_cutoff false 0 t' hkept
  intro s'
  have hs' : s' = heard.aprsisMessage 1530 false 0 t' := hstep
  rw [hs']
  refine ⟨hpacket'.trans hpacket, haprsis', fun hsame => ?_⟩
  rw [← hsame, hnone'] at hkept'
  cases hkept'

/-- After half an hour without a connection a message of either stream comes in, and a bucket
is missing. -/
theorem away_too_long :
    let s := reach ℚ awayTicks awayStatTicks []
      (awayInputs ++ [.opened, .packet 0 1530 false, .aprsis 0 1530 false])
    s.tab.heardPacket = true ∧ s.tab.heardAprsis = true ∧
      s.tab.activityBuckets ≠ s.backend.buckets := by
  obtain ⟨hempty, -, hsent, hstat, hfirst⟩ := away_missed 102 (by omega)
  rw [reach_away, List.foldl_cons, List.foldl_cons, List.foldl_cons, List.foldl_nil]
  generalize (List.range 102).foldl awayStep awayStart = missed at hempty hsent hstat hfirst ⊢
  have hopened : step ℚ awayTicks awayStatTicks missed .opened =
      { missed with
        tab := { missed.tab with
          connected := true, heardPacket := false, heardAprsis := false } } := rfl
  rw [hopened]
  exact away_back hempty rfl hsent hstat (hfirst (by omega))

end Site

end Page

end Rtpigate
