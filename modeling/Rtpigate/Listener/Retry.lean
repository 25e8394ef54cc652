/-
Writes that fail.

A tick clears the marks of the keys it writes whether the writes succeed or not, and
forgets the keys it evicts.  A row whose write has failed is written again only when
its key is heard again, or when its entry expires.
-/
import Rtpigate.Listener.Parts

namespace Rtpigate
namespace Listener

open Lib

variable {F : Type}

/-! ## Calls that fail -/

/-- The calls whose numbers are among those that succeed. -/
def performed (ok : Nat → Bool) (calls : List (Call F)) : List (Call F) :=
  (calls.zipIdx.filter fun c => ok c.2).map Prod.fst

def failed (ok : Nat → Bool) (calls : List (Call F)) : List (Call F) :=
  (calls.zipIdx.filter fun c => !ok c.2).map Prod.fst

theorem performed_subset (ok : Nat → Bool) (calls : List (Call F)) : performed ok calls ⊆ calls := by
  intro c hc
  obtain ⟨⟨c', n⟩, hmem, rfl⟩ := List.mem_map.mp hc
  exact List.fst_mem_of_mem_zipIdx (List.mem_of_mem_filter hmem)

theorem performed_all {ok : Nat → Bool} (hok : ∀ n, ok n = true) (calls : List (Call F)) :
    performed ok calls = calls := by
  rw [performed, List.filter_eq_self.mpr fun c _ => hok c.2, List.zipIdx_map_fst]

theorem performed_or_failed {ok : Nat → Bool} {calls : List (Call F)} {c : Call F}
    (hc : c ∈ calls) : c ∈ performed ok calls ∨ c ∈ failed ok calls := by
  obtain ⟨n, hget⟩ := List.mem_iff_getElem?.mp hc
  have hn : (c, n) ∈ calls.zipIdx := List.mk_mem_zipIdx_iff_getElem?.mpr hget
  by_cases hok : ok n = true
  · exact Or.inl (List.mem_map.mpr ⟨(c, n), List.mem_filter.mpr ⟨hn, hok⟩, rfl⟩)
  · refine Or.inr (List.mem_map.mpr ⟨(c, n), List.mem_filter.mpr ⟨hn, ?_⟩, rfl⟩)
    rw [Bool.not_eq_true] at hok
    rw [hok]
    rfl

/-- A step, and whether its call of each number succeeds. -/
structure Attempt (F : Type) where
  input : Input F
  ok : Nat → Bool

variable [F64 F] [Display3 F] (satFreqs : List F) (historyHours : Nat)

/-- The keys a step brings back into its hands: it hears them or evicts them. -/
def renewed (s : Task F) : Input F → List TableKey
  | .frame world fr => (packet satFreqs world fr).elim [] heardKeys
  | .tick world => evictedKeys world.now s

/-- A later step renews the key.  The last one is a tick. -/
def Later (key : TableKey) (last : TickWorld) : Task F → List (Attempt F) → Prop
  | s, [] => key ∈ evictedKeys last.now s
  | s, a :: as =>
    key ∈ renewed satFreqs s a.input ∨
      Later key last (s.step satFreqs historyHours a.input).1 as

/-- Every key whose write fails is renewed later. -/
def Retried (last : TickWorld) : Task F → List (Attempt F) → Prop
  | _, [] => True
  | s, a :: as =>
    (∀ key ∈ (failed a.ok (s.step satFreqs historyHours a.input).2).filterMap Call.target,
      Later satFreqs historyHours key last (s.step satFreqs historyHours a.input).1 as) ∧
    Retried last (s.step satFreqs historyHours a.input).1 as

instance Later.decidable (key : TableKey) (last : TickWorld) :
    (s : Task F) → (as : List (Attempt F)) →
      Decidable (Later satFreqs historyHours key last s as)
  | s, [] => inferInstanceAs (Decidable (key ∈ evictedKeys last.now s))
  | s, a :: as =>
    have := Later.decidable key last (s.step satFreqs historyHours a.input).1 as
    inferInstanceAs (Decidable (key ∈ renewed satFreqs s a.input ∨
      Later satFreqs historyHours key last (s.step satFreqs historyHours a.input).1 as))

instance Retried.decidable (last : TickWorld) :
    (s : Task F) → (as : List (Attempt F)) → Decidable (Retried satFreqs historyHours last s as)
  | _, [] => inferInstanceAs (Decidable True)
  | s, a :: as =>
    have := Retried.decidable last (s.step satFreqs historyHours a.input).1 as
    inferInstanceAs (Decidable
      ((∀ key ∈ (failed a.ok (s.step satFreqs historyHours a.input).2).filterMap Call.target,
        Later satFreqs historyHours key last (s.step satFreqs historyHours a.input).1 as) ∧
      Retried satFreqs historyHours last (s.step satFreqs historyHours a.input).1 as))

def Attempt.next (r : Task F × Disk F) (a : Attempt F) : Task F × Disk F :=
  let stepped := r.1.step satFreqs historyHours a.input
  (stepped.1, r.2.applyAll (performed a.ok stepped.2))

/-! ## One table -/

section Part

variable {satFreqs historyHours} {V R : Type} (part : Part F V R) {s : Task F} {d : Disk F}
  {last : TickWorld} {as : List (Attempt F)}

/-- Each row is that of the memory, or will be written. -/
def Part.Settles (satFreqs : List F) (historyHours : Nat) (last : TickWorld) (s : Task F)
    (d : Disk F) (as : List (Attempt F)) : Prop :=
  ∀ k, (part.rows d)[k]? = ((part.cache s).mem[k]?).map (part.row k) ∨
    k ∈ (part.cache s).dirty ∨ Later satFreqs historyHours (part.tableKey k) last s as

theorem Part.Settles.hear {a : Attempt F} {world : FrameWorld F} {fr : AprsFrame F}
    {mapped : MappedPacket F} {p : RTPPacket F} {calls : List (Call F)}
    (h : part.Settles satFreqs historyHours last s d (a :: as)) (ha : a.input = .frame world fr)
    (hp : packet satFreqs world fr = some p)
    (hstep : s.step satFreqs historyHours a.input = (s.hear mapped p, Task.packetCalls p))
    (hcalls : calls ⊆ Task.packetCalls p) :
    part.Settles satFreqs historyHours last (s.hear mapped p) (d.applyAll calls) as := by
  intro k
  obtain ⟨f, hf⟩ := part.hear mapped p s
  rw [part.rows_packet hcalls, hf, WriteBack.getElem?_touch, WriteBack.mem_dirty_touch]
  by_cases hk : part.heard p = k
  · exact Or.inr (Or.inl (Or.inl hk.symm))
  · rw [if_neg hk]
    rcases h k with hagree | hdirty | hlater
    · exact Or.inl hagree
    · exact Or.inr (Or.inl (Or.inr hdirty))
    · rw [Later, hstep] at hlater
      refine Or.inr (Or.inr (hlater.resolve_left ?_))
      rw [ha]
      show part.tableKey k ∉ (packet satFreqs world fr).elim [] heardKeys
      rw [hp]
      exact fun hmem => hk ((part.heard_iff k p).mp hmem).symm

theorem Part.Settles.skip {a : Attempt F} {world : FrameWorld F} {fr : AprsFrame F}
    (h : part.Settles satFreqs historyHours last s d (a :: as)) (ha : a.input = .frame world fr)
    (hp : packet satFreqs world fr = none)
    (hstep : s.step satFreqs historyHours a.input = (s, [])) :
    part.Settles satFreqs historyHours last s d as := by
  intro k
  rcases h k with hagree | hdirty | hlater
  · exact Or.inl hagree
  · exact Or.inr (Or.inl hdirty)
  · rw [Later, hstep, ha] at hlater
    refine Or.inr (Or.inr (hlater.resolve_left ?_))
    show part.tableKey k ∉ (packet satFreqs world fr).elim [] heardKeys
    rw [hp]
    exact List.not_mem_nil

theorem Part.Settles.tick {a : Attempt F} {world : TickWorld}
    (h : part.Settles satFreqs historyHours last s d (a :: as)) (hs : s.Sound)
    (ha : a.input = .tick world)
    (hretried : ∀ key ∈ (failed a.ok (s.tick historyHours world).2).filterMap Call.target,
      Later satFreqs historyHours key last (s.tick historyHours world).1 as) :
    part.Settles satFreqs historyHours last (s.tick historyHours world).1
      (d.applyAll (performed a.ok (s.tick historyHours world).2)) as := by
  intro k
  rw [part.rows_tick hs historyHours world (performed_subset _ _)]
  by_cases hdone : k ∈ ((performed a.ok (s.tick historyHours world).2).filterMap
      part.write).map Write.key
  · rw [if_pos hdone]
    exact Or.inl rfl
  rw [if_neg hdone]
  by_cases hwrite : k ∈ ((s.tick historyHours world).2.filterMap part.write).map Write.key
  · -- the write of this key has failed
    obtain ⟨w, hw, rfl⟩ := List.mem_map.mp hwrite
    obtain ⟨c, hc, hcw⟩ := List.mem_filterMap.mp hw
    refine Or.inr (Or.inr (hretried _ (List.mem_filterMap.mpr ⟨c, ?_, part.target c w hcw⟩)))
    refine (performed_or_failed hc).resolve_left fun hperformed => hdone ?_
    exact List.mem_map_of_mem (List.mem_filterMap.mpr ⟨c, hperformed, hcw⟩)
  · rw [part.mem_tick_keys hs, not_or] at hwrite
    obtain ⟨hkept, hclean⟩ := hwrite
    rw [part.mem_tick_other hs historyHours world hkept]
    rcases h k with hagree | hdirty | hlater
    · exact Or.inl hagree
    · exact absurd hdirty hclean
    · rw [Later, ha] at hlater
      refine Or.inr (Or.inr (hlater.resolve_left fun hmem => hkept ?_))
      exact (part.evicted_iff k world.now s).mp hmem

/-- A tick whose writes all succeed settles the rest. -/
theorem Part.Settles.close (h : part.Settles satFreqs historyHours last s d []) (hs : s.Sound)
    (k : String) :
    (part.rows (d.applyAll (s.tick historyHours last).2))[k]? =
      ((part.cache (s.tick historyHours last).1).mem[k]?).map (part.row k) := by
  rw [part.rows_tick hs historyHours last (List.Subset.refl _)]
  split
  · rfl
  · next hwrite =>
    rw [part.mem_tick_keys hs, not_or] at hwrite
    obtain ⟨hkept, hclean⟩ := hwrite
    rw [part.mem_tick_other hs historyHours last hkept]
    rcases h k with hagree | hdirty | hlater
    · exact hagree
    · exact absurd hdirty hclean
    · exact absurd ((part.evicted_iff k last.now s).mp hlater) hkept

theorem Part.settles_foldl (h : part.Settles satFreqs historyHours last s d as) (hs : s.Sound)
    (hretried : Retried satFreqs historyHours last s as) :
    part.Settles satFreqs historyHours last (as.foldl (Attempt.next satFreqs historyHours) (s, d)).1
        (as.foldl (Attempt.next satFreqs historyHours) (s, d)).2 [] ∧
      (as.foldl (Attempt.next satFreqs historyHours) (s, d)).1.Sound := by
  induction as generalizing s d with
  | nil => exact ⟨h, hs⟩
  | cons a as ih =>
    obtain ⟨hfailed, hretried⟩ := hretried
    refine ih ?_ (hs.step satFreqs historyHours a.input) hretried
    show part.Settles satFreqs historyHours last (s.step satFreqs historyHours a.input).1
      (d.applyAll (performed a.ok (s.step satFreqs historyHours a.input).2)) as
    cases Task.step_cases satFreqs historyHours s a.input with
    | skip world fr ha hp hstep =>
      rw [hstep]
      exact h.skip part ha hp hstep
    | hear world fr mapped p ha hp _ _ hstep =>
      rw [hstep]
      exact h.hear part ha hp hstep (performed_subset _ _)
    | tick world ha hstep =>
      rw [hstep] at hfailed ⊢
      exact h.tick part hs ha hfailed

end Part

/-! ## Both tables -/

/-- The persisted tables are those in memory. -/
def Agrees (s : Task F) (d : Disk F) : Prop :=
  d.stations = s.stationMap.map (fun _ e => .fromEntry e) ∧
    d.freqs = s.freqCounts.map FreqRec.fromEntry

/-- A store that agrees with the memory. -/
def Disk.withTables (d : Disk F) (s : Task F) : Disk F :=
  { d with
    stations := s.stationMap.map fun _ e => .fromEntry e
    freqs := s.freqCounts.map FreqRec.fromEntry }

/-- When every key whose write fails is heard again or evicted later, a tick whose
writes all succeed leaves the tables of the memory on disk. -/
theorem retried_agrees (lifetime : Option PacketLifetime)
    (stations : Option (List (StationEntry F))) (freqs : Option (List (String × FreqEntry)))
    (satPackets : Option (List (RTPPacket F))) (d : Disk F) (as : List (Attempt F))
    (last : TickWorld)
    (hretried : Retried satFreqs historyHours last
      (Task.seed lifetime stations freqs satPackets) as) :
    let s := Task.seed lifetime stations freqs satPackets
    let ran := as.foldl (Attempt.next satFreqs historyHours) (s, d.withTables s)
    let ticked := ran.1.tick historyHours last
    Agrees ticked.1 (ran.2.applyAll ticked.2) := by
  intro s ran ticked
  have hs : s.Sound := Task.seed_sound lifetime stations freqs satPackets
  have hstations : stationPart.Settles satFreqs historyHours last s (d.withTables s) as :=
    fun k => Or.inl Std.ExtTreeMap.getElem?_map
  have hfreqs : freqPart.Settles satFreqs historyHours last s (d.withTables s) as :=
    fun k => Or.inl Std.ExtTreeMap.getElem?_map
  obtain ⟨hstations, hsound⟩ := stationPart.settles_foldl hstations hs hretried
  obtain ⟨hfreqs, -⟩ := freqPart.settles_foldl hfreqs hs hretried
  constructor
  · apply Std.ExtTreeMap.ext_getElem?
    intro k
    rw [Std.ExtTreeMap.getElem?_map]
    exact hstations.close stationPart hsound k
  · apply Std.ExtTreeMap.ext_getElem?
    intro k
    rw [Std.ExtTreeMap.getElem?_map]
    exact hfreqs.close freqPart hsound k

def sampleTick (now : Int) : TickWorld :=
  ⟨now, now, now, ⟨.same _, .same _, .same _, .same _⟩⟩

def heardOnce : Attempt ℚ :=
  ⟨.frame sampleWorld (sampleFrame "W1AW" [62, 65]), fun _ => true⟩

/-- The second call of this tick, which writes the station, fails. -/
def failingTick : Attempt ℚ := ⟨.tick (sampleTick 0), fun n => n != 1⟩

theorem retried_agrees_sample :
    let s := Task.seed none none none none
    let ran := [heardOnce, failingTick, heardOnce].foldl (Attempt.next [] 6)
      (s, Disk.withTables {} s)
    let ticked := ran.1.tick 6 (sampleTick 0)
    Agrees ticked.1 (ran.2.applyAll ticked.2) :=
  retried_agrees [] 6 none none none none {} [heardOnce, failingTick, heardOnce] (sampleTick 0)
    (by decide +kernel)

/-- A station that is not heard again is not written again. -/
theorem failed_write_lost :
    ¬ (let s := Task.seed none none none none
      let ran := [heardOnce, failingTick].foldl (Attempt.next [] 6) (s, Disk.withTables {} s)
      let ticked := ran.1.tick 6 (sampleTick 0)
      Agrees ticked.1 (ran.2.applyAll ticked.2)) := by
  intro h
  have hrow := congrArg (fun m => m["W1AW"]?) h.1
  revert hrow
  decide +kernel

end Listener
end Rtpigate
