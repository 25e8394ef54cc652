/-
The activity buckets of the page.

The page keeps buckets like those of the backend.  It takes all of them once when it is
loaded, and then merges the messages that reach it while it is connected.  Each
message shows the last hundred ticks of its task, so a page that has missed more than
these does not get the others again.
-/
import Rtpigate.Heal

namespace Rtpigate

open Lib HistoryStore

namespace Page

/-! ## The page's store -/

def activityRetainSecs : Int := 24 * 60 * 60

/-- The remainder has the sign of the dividend. -/
def floorBucket (epochSecs size : Int) : Int := epochSecs - epochSecs.tmod size

abbrev Buckets : Type := Table Int StatBucket

def mergeSeriesIntoBuckets (set : StatBucket → Nat → StatBucket) (series : DataSeries)
    (activityBuckets : Buckets) : Buckets :=
  series.data.foldl (fun buckets pt =>
    let ts := floorBucket (epochSecs pt.timestamp) bucketSecs
    buckets.alter ts fun b => some (set (b.getD { ts := ts }) pt.value)) activityBuckets

def pruneActivityBuckets (now : Int) (activityBuckets : Buckets) : Buckets :=
  let cutoff := floorBucket now bucketSecs - activityRetainSecs
  Table.deleteAll activityBuckets (activityBuckets.keys.filter fun k =>
    (activityBuckets[k]?).any fun b => b.ts < cutoff)

/-- What the answer to the request for the history does. -/
def seedActivityHistory (buckets : List StatBucket) (activityBuckets : Buckets) : Buckets :=
  Table.upsertAll StatBucket.ts activityBuckets buckets

variable {F : Type}

def onPacketStatistics (now : Int) (data : PacketTelemetry F) (b : Buckets) : Buckets :=
  let b := mergeSeriesIntoBuckets (fun b v => { b with total := v }) data.totalPackets b
  let b := mergeSeriesIntoBuckets (fun b v => { b with direct := v }) data.heardDirect b
  let b := mergeSeriesIntoBuckets (fun b v => { b with digipeated := v }) data.digipeated b
  let b := mergeSeriesIntoBuckets (fun b v => { b with errors := v }) data.decodeErrors b
  pruneActivityBuckets now b

def onAprsisStatistics (now : Int) (data : AprsisTelemetry F) (b : Buckets) : Buckets :=
  let b := mergeSeriesIntoBuckets (fun b v => { b with igated := v }) data.packetsIgated b
  let b := mergeSeriesIntoBuckets (fun b v => { b with dropped := v }) data.packetsDropped b
  let b := mergeSeriesIntoBuckets (fun b v => { b with rfReceived := v }) data.rfReceived b
  let b := mergeSeriesIntoBuckets (fun b v => { b with reconnects := v }) data.reconnects b
  pruneActivityBuckets now b

/-! ## From 1970 on it is the store of the backend -/

theorem floorBucket_eq {secs : Int} (h : 0 ≤ secs) :
    floorBucket secs bucketSecs = bucketKey secs := by
  rw [floorBucket, bucketKey, Int.tmod_eq_emod_of_nonneg h]

theorem mergeSeriesIntoBuckets_eq {set : StatBucket → Nat → StatBucket} {series : DataSeries}
    (h : ∀ p ∈ series.data, 0 ≤ p.timestamp) (r : HistoryStore × List Int) :
    mergeSeriesIntoBuckets set series r.1.buckets = (mergeSeries series set r).1.buckets := by
  show mergeSeriesIntoBuckets set series r.1.buckets =
    (series.data.foldl (mergePoint set) r.1).buckets
  unfold mergeSeriesIntoBuckets
  generalize series.data = data at h
  generalize r.1 = store
  induction data generalizing store with
  | nil => rfl
  | cons p data ih =>
    have hkey : floorBucket (epochSecs p.timestamp) bucketSecs = pointKey p :=
      floorBucket_eq (Int.ediv_nonneg (h p List.mem_cons_self) (by decide))
    rw [List.foldl_cons, List.foldl_cons, ← ih (fun q hq => h q (List.mem_cons_of_mem p hq)),
      hkey]
    rfl

theorem pruneActivityBuckets_eq {now : Int} (h : 0 ≤ now) {store : HistoryStore}
    (hkeyed : Table.Keyed StatBucket.ts store.buckets) :
    pruneActivityBuckets now store.buckets = (store.prune now).1.buckets := by
  have hcutoff : floorBucket now bucketSecs - activityRetainSecs = cutoff now := by
    rw [floorBucket_eq h]
    rfl
  apply Std.ExtTreeMap.ext_getElem?
  intro k
  rw [pruneActivityBuckets, hcutoff, Table.getElem?_deleteAll, getElem?_prune]
  have hmem : k ∈ (store.buckets.keys.filter fun k =>
      (store.buckets[k]?).any fun b => b.ts < cutoff now) ↔
      k < cutoff now ∧ (store.buckets[k]?).isSome = true := by
    rw [List.mem_filter, Table.mem_keys_iff]
    cases hb : store.buckets[k]? with
    | none => simp
    | some b => simp [hkeyed k b hb]
  by_cases hk : cutoff now ≤ k
  · rw [if_pos hk, if_neg fun hdel => absurd (hmem.mp hdel).1 (Int.not_lt.mpr hk)]
  · rw [if_neg hk]
    split
    · rfl
    · next hdel =>
      rw [hmem, not_and, Bool.not_eq_true, Option.isSome_eq_false_iff,
        Option.isNone_iff_eq_none] at hdel
      exact hdel (Int.not_le.mp hk)

theorem shown_since_epoch {α : Type*} {ticks : List α} {now : α → Int} {value : α → Nat}
    {series : DataSeries} (hdata : series.data = ticks.map fun x => ⟨now x, value x⟩)
    (h : ∀ x ∈ ticks, 0 ≤ now x) : ∀ p ∈ series.data, 0 ≤ p.timestamp := by
  intro p hp
  rw [hdata] at hp
  obtain ⟨x, hx, rfl⟩ := List.mem_map.mp hp
  exact h x hx

theorem onPacketStatistics_eq {now : Int} (h : 0 ≤ now) {t : PacketTelemetry F}
    {ticks : List Listener.Tick} (ht : t.Shows ticks) (hticks : ∀ x ∈ ticks, 0 ≤ x.now)
    {store : HistoryStore} (hkeyed : Table.Keyed StatBucket.ts store.buckets) :
    onPacketStatistics now t store.buckets =
      ((store.updateFromPacket t).1.prune now).1.buckets := by
  have hstart : store.buckets = ((store, []) : HistoryStore × List Int).1.buckets := rfl
  simp only [onPacketStatistics]
  rw [hstart, mergeSeriesIntoBuckets_eq (shown_since_epoch ht.packets hticks),
    mergeSeriesIntoBuckets_eq (shown_since_epoch ht.heardDirect hticks),
    mergeSeriesIntoBuckets_eq (shown_since_epoch ht.digipeated hticks),
    mergeSeriesIntoBuckets_eq (shown_since_epoch ht.decodeErrors hticks)]
  exact pruneActivityBuckets_eq h ((updateFromPacket_merged t store).keyed hkeyed)

theorem onAprsisStatistics_eq {now : Int} (h : 0 ≤ now) {t : AprsisTelemetry F}
    {ticks : List Aprsis.Tick} (ht : t.Shows ticks) (hticks : ∀ x ∈ ticks, 0 ≤ x.now)
    {store : HistoryStore} (hkeyed : Table.Keyed StatBucket.ts store.buckets) :
    onAprsisStatistics now t store.buckets =
      ((store.updateFromAprsis t).1.prune now).1.buckets := by
  have hstart : store.buckets = ((store, []) : HistoryStore × List Int).1.buckets := rfl
  simp only [onAprsisStatistics]
  rw [hstart, mergeSeriesIntoBuckets_eq (shown_since_epoch ht.igated hticks),
    mergeSeriesIntoBuckets_eq (shown_since_epoch ht.dropped hticks),
    mergeSeriesIntoBuckets_eq (shown_since_epoch ht.rfReceived hticks),
    mergeSeriesIntoBuckets_eq (shown_since_epoch ht.reconnect hticks)]
  exact pruneActivityBuckets_eq h ((updateFromAprsis_merged t store).keyed hkeyed)

/-! ## The page and its backend -/

/-- The history, which the page asks for once. -/
inductive Seed
  | out
  | answered (buckets : List StatBucket)
  | applied
  deriving DecidableEq

/-- The page in a tab.  `heardPacket` and `heardAprsis` say that it has the last message of
the stream, and has got one since its connection was opened. -/
structure Tab where
  activityBuckets : Buckets := ∅
  connected : Bool := false
  seed : Seed := .out
  heardPacket : Bool := false
  heardAprsis : Bool := false

/-- The next message of a stream is number `sent` or a later one.  What the page has, or
gets with the answer, is from the time when it was `next`. -/
structure Progress where
  next : Nat := 0
  sent : Nat := 0

structure Site where
  backend : HistoryStore
  tab : Tab := {}
  packets : Progress := {}
  aprsis : Progress := {}
  /-- The latest second the clock has shown, to the backend and to the page. -/
  clock : Int := 0

/-- A message comes through to the backend, behind some that do not, and goes on to the page
unless it is lost; the connection opens or fails; the backend answers, and the answer
arrives. -/
inductive SiteInput
  | packet (skipped : Nat) (seen : Int) (lost : Bool)
  | aprsis (skipped : Nat) (seen : Int) (lost : Bool)
  | opened
  | failed
  | answer
  | seed

namespace Site

/-- The site when the backend starts with what it has stored. -/
def start (rows : List StatBucket) : Site where
  backend := fromBuckets rows

def packet (seen : Int) (lost : Bool) (i : Nat) (t : PacketTelemetry F) (s : Site) : Site :=
  let backend := ((s.backend.updateFromPacket t).1.prune seen).1
  if s.tab.connected && !lost then
    { s with
      backend := backend, packets := ⟨i + 1, i + 1⟩, clock := max s.clock seen
      tab := { s.tab with
        activityBuckets := onPacketStatistics seen t s.tab.activityBuckets, heardPacket := true } }
  else
    { s with
      backend := backend, packets := ⟨s.packets.next, i + 1⟩, clock := max s.clock seen
      tab := { s.tab with heardPacket := false } }

def aprsisMessage (seen : Int) (lost : Bool) (j : Nat) (t : AprsisTelemetry F) (s : Site) : Site :=
  let backend := ((s.backend.updateFromAprsis t).1.prune seen).1
  if s.tab.connected && !lost then
    { s with
      backend := backend, aprsis := ⟨j + 1, j + 1⟩, clock := max s.clock seen
      tab := { s.tab with
        activityBuckets := onAprsisStatistics seen t s.tab.activityBuckets, heardAprsis := true } }
  else
    { s with
      backend := backend, aprsis := ⟨s.aprsis.next, j + 1⟩, clock := max s.clock seen
      tab := { s.tab with heardAprsis := false } }

/-- The answer is taken once. -/
def answer (s : Site) : Site :=
  match s.tab.seed with
  | .out =>
    { s with
      tab := { s.tab with seed := .answered s.backend.snapshot }
      packets := ⟨s.packets.sent, s.packets.sent⟩
      aprsis := ⟨s.aprsis.sent, s.aprsis.sent⟩ }
  | _ => s

def seeded (s : Site) : Site :=
  match s.tab.seed with
  | .answered buckets =>
    { s with
      tab := { s.tab with
        seed := .applied
        activityBuckets := seedActivityHistory buckets s.tab.activityBuckets } }
  | _ => s

variable (F) [F64 F] (ticks : List Listener.Tick) (statTicks : List Aprsis.Tick)

def step (s : Site) : SiteInput → Site
  | .packet skipped seen lost =>
    let i := s.packets.sent + skipped
    match (Listener.published (F := F) ticks)[i]? with
    | some t => s.packet seen lost i t
    | none => s
  | .aprsis skipped seen lost =>
    let j := s.aprsis.sent + skipped
    match (Aprsis.published (F := F) statTicks)[j]? with
    | some t => s.aprsisMessage seen lost j t
    | none => s
  | .opened =>
    { s with tab := { s.tab with connected := true, heardPacket := false, heardAprsis := false } }
  | .failed => { s with tab := { s.tab with connected := false } }
  | .answer => s.answer
  | .seed => s.seeded

/-- The state after some inputs. -/
def reach (rows : List StatBucket) (is : List SiteInput) : Site :=
  is.foldl (step F ticks statTicks) (start rows)

end Site

/-- Whether a message may reach the page as its request stands.  Before an answer it has a
message of one stream at most, none goes on with the answer under way, and then no more than
a window is ever missing. -/
def Seed.Admits (other : Bool) (p : Progress) (i : Nat) : Seed → Prop
  | .out => other = false
  | .answered _ => False
  | .applied => p.next = p.sent ∨ i < p.next + DataSeries.window

instance Seed.Admits.decidable (other : Bool) (p : Progress) (i : Nat) :
    (seed : Seed) → Decidable (seed.Admits other p i)
  | .out => inferInstanceAs (Decidable (other = false))
  | .answered _ => inferInstanceAs (Decidable False)
  | .applied => inferInstanceAs (Decidable (_ ∨ _))

theorem Seed.Admits.applied {p : Progress} {i : Nat} {seed : Seed} (h : seed.Admits true p i) :
    seed = .applied := by
  cases seed with
  | out => cases h
  | answered buckets => exact h.elim
  | applied => rfl

/-- A page that has not heard both streams may have buckets that a later clock has pruned in
the backend. -/
def Site.InTime (s : Site) (seen : Int) : Prop :=
  0 ≤ seen ∧ ((s.tab.heardPacket = true ∧ s.tab.heardAprsis = true) ∨ s.clock ≤ seen)

instance Site.InTime.decidable (s : Site) (seen : Int) : Decidable (s.InTime seen) :=
  inferInstanceAs (Decidable (_ ∧ _))

/-- A message that reaches the page shows times from 1970 on, and the page is ready for it. -/
def Site.Clean (ticks : List Listener.Tick) (statTicks : List Aprsis.Tick) (s : Site) :
    SiteInput → Prop
  | .packet skipped seen lost =>
    let i := s.packets.sent + skipped
    i < ticks.length → (s.tab.connected && !lost) = true → s.InTime seen ∧
      (∀ x ∈ (ticks.take (i + 1)).rtake DataSeries.window, 0 ≤ x.now) ∧
        s.tab.seed.Admits s.tab.heardAprsis s.packets i
  | .aprsis skipped seen lost =>
    let j := s.aprsis.sent + skipped
    j < statTicks.length → (s.tab.connected && !lost) = true → s.InTime seen ∧
      (∀ x ∈ (statTicks.take (j + 1)).rtake DataSeries.window, 0 ≤ x.now) ∧
        s.tab.seed.Admits s.tab.heardPacket s.aprsis j
  | .opened | .failed | .answer | .seed => True

instance Site.Clean.decidable (ticks : List Listener.Tick) (statTicks : List Aprsis.Tick)
    (s : Site) : (i : SiteInput) → Decidable (s.Clean ticks statTicks i)
  | .packet _ _ _ => inferInstanceAs (Decidable (_ → _))
  | .aprsis _ _ _ => inferInstanceAs (Decidable (_ → _))
  | .opened | .failed | .answer | .seed => inferInstanceAs (Decidable True)

end Page

end Rtpigate
