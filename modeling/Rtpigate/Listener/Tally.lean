/-
The loops over the slicer mask.

A frame comes with a mask of sixteen bits, one for each slicer that has recovered it, and
the loops that read it run over as many slicers as the ladder has gains.  The shift that
picks the bit of a slicer is the place where the two lengths meet: from sixteen on a build
with overflow checks panics, and any other takes the bit of an earlier slicer.
-/
import Rtpigate.Listener.Slicer

namespace Rtpigate
namespace Listener

open Lib

/-- `1 << s`.  `none` is a panic. -/
def slicerBit (overflowChecks : Bool) (s : Nat) : Option UInt16 :=
  if overflowChecks = true ∧ 16 ≤ s then none else some (1 <<< UInt16.ofNat s)

/-- `counts[s] += 1`. -/
def bump (counts : List Nat) (s : Nat) : Option (List Nat) :=
  if s < counts.length then some (counts.modify s (· + 1)) else none

/-- Twist zone of a gain: 0 for pre-emphasis, 1 for flat, 2 for de-emphasis. -/
def slicerZone {F : Type} [F64 F] (g : F) : UInt8 :=
  if F64.lt g 0.8 then 0 else if F64.lt g 1.25 then 1 else 2

namespace Slicers

variable {F : Type}

/-- One turn of the tally loop, over the counts of the interval and the lifetime. -/
def tallyTurn (overflowChecks : Bool) (slicerMask : UInt16) (counts : List Nat × List Nat)
    (s : Nat) : Option (List Nat × List Nat) := do
  let bit ← slicerBit overflowChecks s
  if slicerMask &&& bit ≠ 0 then
    let interval ← bump counts.1 s
    let hits ← bump counts.2 s
    some (interval, hits)
  else some counts

def tallyLoop (overflowChecks : Bool) (slicerMask : UInt16) (s : Slicers F) :
    Option (Slicers F) := do
  let counts ← (List.range s.count).foldlM (tallyTurn overflowChecks slicerMask)
    (s.interval, s.lifetimeHits)
  some { s with interval := counts.1, lifetimeHits := counts.2 }

section Twist

variable [F64 F]

def slicerZones (s : Slicers F) : List UInt8 := s.gains.map slicerZone

/-- Twist of each slicer in dB. -/
def slicerDb (log10 : F → F) (s : Slicers F) : List F := s.gains.map fun x => 20.0 * log10 x

def twistTurn (overflowChecks : Bool) (slicerMask : UInt16) (acc : F × Nat) (slicer : F × Nat) :
    Option (F × Nat) := do
  let bit ← slicerBit overflowChecks slicer.2
  some (if slicerMask &&& bit ≠ 0 then (acc.1 + slicer.1, acc.2 + 1) else acc)

/-- The twist of a packet, with the mean over the slicers that have recovered it. -/
def twistLoop (overflowChecks : Bool) (log10 : F → F) (slicerMask : UInt16) (s : Slicers F) :
    Option (Option (TwistInfo F)) :=
  if slicerMask ≠ 0 ∧ 0 < s.count then do
    let mean ← (s.slicerDb log10).zipIdx.foldlM (twistTurn overflowChecks slicerMask) (0.0, 0)
    some (some {
      cols := s.count
      mask := slicerMask
      zones := s.slicerZones
      centroidDb := if 0 < mean.2 then mean.1 / (mean.2 : F) else 0.0 })
  else some none

/-- A frame with its loops: the slicers after it, and the packet of a mapped frame. -/
def frameLoop (overflowChecks : Bool) (log10 : F → F) (satFreqs : List F) (world : FrameWorld F)
    (fr : AprsFrame F) (s : Slicers F) : Option (Slicers F × Option (RTPPacket F)) :=
  let learned := s.learn fr.rf.slicerGains
  match mapFrame world.decodeTextual world.clock fr with
  | none => some (learned, none)
  | some mapped => do
    let twist ← learned.twistLoop overflowChecks log10 mapped.packet.slicerMask
    let tallied ← learned.tallyLoop overflowChecks mapped.packet.slicerMask
    some (tallied, some (flagged satFreqs world.now twist mapped.packet))

def stepLoop (overflowChecks : Bool) (log10 : F → F) (satFreqs : List F) (s : Slicers F) :
    Input F → Option (Slicers F)
  | .frame world fr => (s.frameLoop overflowChecks log10 satFreqs world fr).map Prod.fst
  | .tick world => some (s.tick world.theTime)

end Twist

/-! ## Bits -/

theorem and_shift_ne_zero (slicerMask : UInt16) (s : Nat) :
    slicerMask &&& (1 <<< UInt16.ofNat s) ≠ 0 ↔ slicerMask.toNat.testBit (s % 16) = true := by
  have hbit : ((1 : UInt16) <<< UInt16.ofNat s).toNat = 2 ^ (s % 16) := by
    have hlt : 2 ^ (s % 16) < 2 ^ 16 :=
      Nat.pow_lt_pow_right (by omega) (Nat.mod_lt _ (by omega))
    have hmod : s % 2 ^ 16 % 16 = s % 16 := by omega
    rw [UInt16.toNat_shiftLeft, UInt16.toNat_ofNat', hmod, UInt16.toNat_one, Nat.one_shiftLeft,
      Nat.mod_eq_of_lt hlt]
  rw [← UInt16.toNat_inj.ne, UInt16.toNat_and, hbit, Nat.and_two_pow, UInt16.toNat_zero]
  cases slicerMask.toNat.testBit (s % 16) <;> simp

/-- The counts with one more for each slicer whose bit is set. -/
def credited (bit : Nat → Bool) (counts : List Nat) : List Nat :=
  counts.mapIdx fun s n => n + (bit s).toNat

theorem getElem?_credited (bit : Nat → Bool) (counts : List Nat) (k : Nat) :
    (credited bit counts)[k]? = (counts[k]?).map fun n => n + (bit k).toNat :=
  List.getElem?_mapIdx

theorem credited_congr {f g : Nat → Bool} {counts : List Nat}
    (h : ∀ k < counts.length, f k = g k) : credited f counts = credited g counts := by
  refine List.ext_getElem? fun k => ?_
  rw [getElem?_credited, getElem?_credited]
  by_cases hk : k < counts.length
  · rw [h k hk]
  · rw [List.getElem?_eq_none (by omega)]
    rfl

theorem tallied_succ (slicerMask : UInt16) (count : Nat) (counts : List Nat) :
    tallied slicerMask (count + 1) counts =
      if slicerMask.toNat.testBit (count % 16) = true then
        (tallied slicerMask count counts).modify count (· + 1)
      else tallied slicerMask count counts := by
  rw [tallied, List.range_succ, List.foldl_concat, ← tallied]
  simp only [and_shift_ne_zero]

/-- The loop credits the slicers it has come to, each by its bit modulo 16. -/
theorem tallied_eq (slicerMask : UInt16) (count : Nat) (counts : List Nat) :
    tallied slicerMask count counts =
      credited (fun s => decide (s < count) && slicerMask.toNat.testBit (s % 16)) counts := by
  induction count with
  | zero =>
    refine List.ext_getElem? fun k => ?_
    rw [getElem?_credited]
    simp [tallied]
  | succ count ih =>
    rw [tallied_succ, ih]
    refine List.ext_getElem? fun k => ?_
    rw [getElem?_credited]
    by_cases hk : count = k
    · subst hk
      split
      · next hbit =>
        rw [List.getElem?_modify_eq, getElem?_credited]
        simp [hbit]
      · next hbit =>
        rw [getElem?_credited]
        simp [hbit]
    · have hlt : decide (k < count + 1) = decide (k < count) :=
        decide_eq_decide.mpr (by omega)
      rw [hlt]
      split
      · rw [List.getElem?_modify_ne _ _ hk, getElem?_credited]
      · rw [getElem?_credited]

/-! ## Turns that do not panic -/

theorem foldlM_isSome {α β : Type*} {f : β → α → Option β} {l : List α}
    (h : ∀ a ∈ l, ∀ b, (f b a).isSome = true) (b : β) : (l.foldlM f b).isSome = true := by
  induction l generalizing b with
  | nil => rfl
  | cons a l ih =>
    obtain ⟨b', hb'⟩ := Option.isSome_iff_exists.mp (h a List.mem_cons_self b)
    rw [List.foldlM_cons, hb']
    exact ih (fun a' ha' => h a' (List.mem_cons_of_mem a ha')) b'

theorem foldlM_eq_none {α β : Type*} {f : β → α → Option β} {l : List α} {a : α} (ha : a ∈ l)
    (h : ∀ b, f b a = none) (b : β) : l.foldlM f b = none := by
  induction l generalizing b with
  | nil => cases ha
  | cons a' l ih =>
    rw [List.foldlM_cons]
    rcases List.mem_cons.mp ha with rfl | hmem
    · rw [h b]
      rfl
    · cases f b a' with
      | none => rfl
      | some b' => exact ih hmem b'

theorem slicerBit_safe {overflowChecks : Bool} {s : Nat} (h : overflowChecks = true → s < 16) :
    slicerBit overflowChecks s = some (1 <<< UInt16.ofNat s) := by
  rw [slicerBit, if_neg]
  rintro ⟨hchecks, hlarge⟩
  exact absurd (h hchecks) (Nat.not_lt.mpr hlarge)

theorem bump_eq {counts : List Nat} {s : Nat} (h : s < counts.length) :
    bump counts s = some (counts.modify s (· + 1)) := by
  rw [bump, if_pos h]

theorem tallyTurn_eq {overflowChecks : Bool} {s : Nat} (h : overflowChecks = true → s < 16)
    (slicerMask : UInt16) {interval hits : List Nat} (hinterval : s < interval.length)
    (hhits : s < hits.length) :
    tallyTurn overflowChecks slicerMask (interval, hits) s =
      some (if slicerMask.toNat.testBit (s % 16) = true then
        (interval.modify s (· + 1), hits.modify s (· + 1)) else (interval, hits)) := by
  rw [tallyTurn, slicerBit_safe h, bump_eq hinterval, bump_eq hhits]
  by_cases hbit : slicerMask.toNat.testBit (s % 16) = true
  · rw [if_pos hbit]
    exact if_pos ((and_shift_ne_zero slicerMask s).mpr hbit)
  · rw [if_neg hbit]
    exact if_neg (mt (and_shift_ne_zero slicerMask s).mp hbit)

/-- With a counter for each slicer the loop does what it does without its checks. -/
theorem foldlM_tallyTurn {overflowChecks : Bool} {count : Nat}
    (hsafe : overflowChecks = true → count ≤ 16) (slicerMask : UInt16) {interval hits : List Nat}
    (hinterval : count ≤ interval.length) (hhits : count ≤ hits.length) :
    (List.range count).foldlM (tallyTurn overflowChecks slicerMask) (interval, hits) =
      some (tallied slicerMask count interval, tallied slicerMask count hits) := by
  induction count with
  | zero => rfl
  | succ count ih =>
    have hloop := ih (fun hchecks => (Nat.le_succ count).trans (hsafe hchecks)) (by omega)
      (by omega)
    have hturn : tallyTurn overflowChecks slicerMask
        (tallied slicerMask count interval, tallied slicerMask count hits) count = _ :=
      tallyTurn_eq hsafe slicerMask (by rw [length_tallied]; omega)
        (by rw [length_tallied]; omega)
    rw [List.range_succ, List.foldlM_append, hloop, tallied_succ, tallied_succ]
    simp only [Option.bind_eq_bind, Option.bind_some, List.foldlM_cons, hturn, List.foldlM_nil]
    split <;> rfl

/-! ## One step -/

/-- A gain and two counters for each slicer. -/
structure Fits (s : Slicers F) : Prop where
  gains : s.gains.length = s.count
  interval : s.interval.length = s.count
  hits : s.lifetimeHits.length = s.count

theorem Fits.learn {s : Slicers F} (h : s.Fits) (slicerGains : Option (List F)) :
    (s.learn slicerGains).Fits := by
  rw [Slicers.learn]
  split
  · split
    · split
      · next hlen => exact ⟨rfl, List.length_replicate, hlen⟩
      · exact ⟨rfl, List.length_replicate, List.length_replicate⟩
    · exact ⟨rfl, List.length_replicate, List.length_replicate⟩
  · exact h

theorem Fits.tally {s : Slicers F} (h : s.Fits) (slicerMask : UInt16) :
    (s.tally slicerMask).Fits :=
  ⟨h.gains, (length_tallied _ _ _).trans h.interval, (length_tallied _ _ _).trans h.hits⟩

theorem Fits.tick {s : Slicers F} (h : s.Fits) (theTime : Int) : (s.tick theTime).Fits :=
  ⟨h.gains, (List.length_map _).trans h.interval, h.hits⟩

theorem tallyLoop_eq {overflowChecks : Bool} {s : Slicers F} (h : s.Fits)
    (hsafe : overflowChecks = true → s.count ≤ 16) (slicerMask : UInt16) :
    s.tallyLoop overflowChecks slicerMask = some (s.tally slicerMask) := by
  rw [tallyLoop, foldlM_tallyTurn hsafe slicerMask h.interval.ge h.hits.ge]
  rfl

/-- Bits below sixteen are those of the mask as a number. -/
theorem tally_credited {s : Slicers F} (h : s.Fits) (hcount : s.count ≤ 16)
    (slicerMask : UInt16) :
    s.tally slicerMask = { s with
      interval := credited slicerMask.toNat.testBit s.interval
      lifetimeHits := credited slicerMask.toNat.testBit s.lifetimeHits } := by
  have hbits : ∀ {counts : List Nat}, counts.length = s.count →
      tallied slicerMask s.count counts = credited slicerMask.toNat.testBit counts := by
    intro counts hlen
    rw [tallied_eq]
    refine credited_congr fun k hk => ?_
    rw [decide_eq_true (by omega), Bool.true_and, Nat.mod_eq_of_lt (by omega)]
  rw [tally, hbits h.interval, hbits h.hits]

section Twist

variable [F64 F] {overflowChecks : Bool} (log10 : F → F) (satFreqs : List F)

theorem twistLoop_isSome {s : Slicers F} (h : s.Fits)
    (hsafe : overflowChecks = true → s.count ≤ 16) (slicerMask : UInt16) :
    (s.twistLoop overflowChecks log10 slicerMask).isSome = true := by
  have hturns : ((s.slicerDb log10).zipIdx.foldlM (twistTurn overflowChecks slicerMask)
      (0.0, 0)).isSome = true := by
    refine foldlM_isSome (fun slicer hmem acc => ?_) _
    have hlt := List.snd_lt_of_mem_zipIdx hmem
    rw [slicerDb, List.length_map, h.gains] at hlt
    rw [twistTurn, slicerBit_safe fun hchecks => by have := hsafe hchecks; omega]
    rfl
  obtain ⟨mean, hmean⟩ := Option.isSome_iff_exists.mp hturns
  rw [twistLoop]
  split
  · rw [hmean]
    rfl
  · rfl

/-- With overflow checks a bank of seventeen is too large for the loop. -/
theorem twistLoop_panics {s : Slicers F} (h : s.Fits) (hcount : 16 < s.count)
    {slicerMask : UInt16} (hmask : slicerMask ≠ 0) :
    s.twistLoop true log10 slicerMask = none := by
  have hlen : 16 < (s.slicerDb log10).length := by
    rw [slicerDb, List.length_map, h.gains]
    exact hcount
  have hmem : ((s.slicerDb log10)[16], 16) ∈ (s.slicerDb log10).zipIdx := by
    rw [List.mem_zipIdx_iff_getElem?]
    exact List.getElem?_eq_getElem hlen
  have hpanic : ∀ acc, twistTurn true slicerMask acc ((s.slicerDb log10)[16], 16) = none :=
    fun _ => rfl
  rw [twistLoop, if_pos ⟨hmask, Nat.zero_lt_of_lt hcount⟩, foldlM_eq_none hmem hpanic]
  rfl

/-- Where the loops do not panic they do what the listener does without them. -/
theorem frameLoop_eq {s : Slicers F} {world : FrameWorld F} {fr : AprsFrame F}
    (h : (s.learn fr.rf.slicerGains).Fits)
    (hsafe : overflowChecks = true → (s.learn fr.rf.slicerGains).count ≤ 16) :
    s.stepLoop overflowChecks log10 satFreqs (.frame world fr) = some (s.frame world fr) := by
  rw [stepLoop, frameLoop, Slicers.frame]
  cases mapFrame world.decodeTextual world.clock fr with
  | none => rfl
  | some mapped =>
    obtain ⟨twist, htwist⟩ :=
      Option.isSome_iff_exists.mp (twistLoop_isSome log10 h hsafe mapped.packet.slicerMask)
    simp only [htwist, tallyLoop_eq h hsafe, Option.bind_eq_bind, Option.bind_some,
      Option.map_some]

theorem frame_mapped {s : Slicers F} {world : FrameWorld F} {fr : AprsFrame F}
    {mapped : MappedPacket F} (hmap : mapFrame world.decodeTextual world.clock fr = some mapped) :
    s.frame world fr = (s.learn fr.rf.slicerGains).tally mapped.packet.slicerMask := by
  rw [Slicers.frame, hmap]

theorem frameLoop_panics {s : Slicers F} {world : FrameWorld F} {fr : AprsFrame F}
    {mapped : MappedPacket F} (hmap : mapFrame world.decodeTextual world.clock fr = some mapped)
    (h : (s.learn fr.rf.slicerGains).Fits) (hcount : 16 < (s.learn fr.rf.slicerGains).count)
    (hmask : mapped.packet.slicerMask ≠ 0) :
    s.stepLoop true log10 satFreqs (.frame world fr) = none := by
  rw [stepLoop, frameLoop, hmap]
  simp only [twistLoop_panics log10 h hcount hmask, Option.bind_eq_bind, Option.bind_none,
    Option.map_none]

/-- A step does not panic, and a mapped frame counts for the slicers whose bits are set. -/
structure Exact (overflowChecks : Bool) (s : Slicers F) (i : Input F) : Prop where
  safe : (s.stepLoop overflowChecks log10 satFreqs i).isSome = true
  counted : ∀ world fr mapped, i = .frame world fr →
    mapFrame world.decodeTextual world.clock fr = some mapped →
      (s.learn fr.rf.slicerGains).Fits ∧
        s.stepLoop overflowChecks log10 satFreqs i = some { s.learn fr.rf.slicerGains with
          interval := credited mapped.packet.slicerMask.toNat.testBit
            (s.learn fr.rf.slicerGains).interval
          lifetimeHits := credited mapped.packet.slicerMask.toNat.testBit
            (s.learn fr.rf.slicerGains).lifetimeHits }

/-- Every step of a run is exact. -/
def RunExact (overflowChecks : Bool) : Slicers F → List (Input F) → Prop
  | _, [] => True
  | s, i :: is => Exact log10 satFreqs overflowChecks s i ∧
      ∀ s', s.stepLoop overflowChecks log10 satFreqs i = some s' → RunExact overflowChecks s' is

end Twist

/-! ## Runs -/

def inputLadder? : Input F → Option (List F)
  | .frame _ fr => fr.rf.slicerGains.filter (!·.isEmpty)
  | .tick _ => none

/-- The ladder that a run learns. -/
def firstLadder (is : List (Input F)) : Option (List F) := is.findSome? inputLadder?

/-- How many slicers the bank has, or will have in the run to come. -/
def bank (s : Slicers F) (is : List (Input F)) : Nat :=
  if s.count = 0 then (firstLadder is).elim 0 List.length else s.count

theorem learn_count (s : Slicers F) (slicerGains : Option (List F)) :
    (s.learn slicerGains).count =
      if s.count = 0 then (slicerGains.filter (!·.isEmpty)).elim 0 List.length else s.count := by
  rw [Slicers.learn]
  split
  · next g hcount hladder =>
    rw [if_pos hcount, hladder]
    split
    · split <;> rfl
    · rfl
  · next hother =>
    split
    · next hcount =>
      cases hladder : slicerGains.filter (!·.isEmpty) with
      | none => exact hcount
      | some g => exact absurd hladder (hother g hcount)
    · rfl

theorem learn_count_le_bank (s : Slicers F) (world : FrameWorld F) (fr : AprsFrame F)
    (is : List (Input F)) :
    (s.learn fr.rf.slicerGains).count ≤ s.bank (.frame world fr :: is) := by
  rw [learn_count, bank, firstLadder, List.findSome?_cons, inputLadder?]
  split
  · cases fr.rf.slicerGains.filter (!·.isEmpty) with
    | none => exact Nat.zero_le _
    | some g => exact Nat.le_refl _
  · exact Nat.le_refl _

/-- Once the ladder is learned the bank stays. -/
theorem bank_frame {s s' : Slicers F} {world : FrameWorld F} {fr : AprsFrame F}
    (hcount : s'.count = (s.learn fr.rf.slicerGains).count) (is : List (Input F)) :
    s'.bank is = s.bank (.frame world fr :: is) := by
  rw [bank, bank, hcount, learn_count, firstLadder, firstLadder, List.findSome?_cons, inputLadder?]
  by_cases hzero : s.count = 0
  · rw [if_pos hzero]
    cases hladder : fr.rf.slicerGains.filter (!·.isEmpty) with
    | none => simp [hzero]
    | some g =>
      have hne : g.length ≠ 0 := by
        have hg := (Option.filter_eq_some_iff.mp hladder).2
        simpa using hg
      simp [hzero, hne]
  · simp [hzero]

section Exactness

variable [F64 F] (overflowChecks : Bool) (log10 : F → F) (satFreqs : List F)

/-- A bank of sixteen at most has a bit for each of its slicers. -/
theorem exact_of_bank {s : Slicers F} {i : Input F} {is : List (Input F)} (h : s.Fits)
    (hbank : s.bank (i :: is) ≤ 16) :
    Exact log10 satFreqs overflowChecks s i ∧
      ∀ s', s.stepLoop overflowChecks log10 satFreqs i = some s' →
        s'.Fits ∧ s'.bank is = s.bank (i :: is) := by
  cases i with
  | tick world =>
    refine ⟨⟨rfl, fun _ _ _ hi => by cases hi⟩, fun s' hs' => ?_⟩
    cases hs'
    exact ⟨h.tick world.theTime, rfl⟩
  | frame world fr =>
    have hlearn := h.learn fr.rf.slicerGains
    have hcount := (learn_count_le_bank s world fr is).trans hbank
    have hstep : s.stepLoop overflowChecks log10 satFreqs (.frame world fr) =
        some (s.frame world fr) := frameLoop_eq log10 satFreqs hlearn fun _ => hcount
    have hnext : (s.frame world fr).Fits ∧
        (s.frame world fr).count = (s.learn fr.rf.slicerGains).count := by
      rw [Slicers.frame]
      split
      · exact ⟨hlearn, rfl⟩
      · exact ⟨hlearn.tally _, rfl⟩
    refine ⟨⟨hstep ▸ rfl, ?_⟩, fun s' hs' => ?_⟩
    · intro world' fr' mapped hi hmap
      cases hi
      rw [hstep, frame_mapped hmap, tally_credited hlearn hcount]
      exact ⟨hlearn, rfl⟩
    · rw [hstep] at hs'
      cases hs'
      exact ⟨hnext.1, bank_frame hnext.2 is⟩

theorem run_exact {s : Slicers F} {is : List (Input F)} (h : s.Fits) (hbank : s.bank is ≤ 16) :
    RunExact log10 satFreqs overflowChecks s is := by
  induction is generalizing s with
  | nil => trivial
  | cons i is ih =>
    obtain ⟨hexact, hnext⟩ := exact_of_bank overflowChecks log10 satFreqs h hbank
    refine ⟨hexact, fun s' hs' => ?_⟩
    obtain ⟨hfits, hsame⟩ := hnext s' hs'
    exact ih hfits (hsame ▸ hbank)

/-- A frame with a ladder, recovered by the first slicer. -/
def firstSlicerFrame (g : List F) : AprsFrame F where
  capture := { receivedAtMs := 0, ssrc := none }
  rf := { frequencyHz := none, snrDb := none, slicerMask := some 1, slicerGains := some g }
  ax25 := []
  ax25Meta := some {
    source := "", destination := "", via := [], heardDirect := true, heardFrom := ""
    dti := none, infoOffset := none, infoInvalidBytes := 0 }
  parsed := none

def firstSlicerInput (g : List F) : Input F :=
  .frame { clock := ⟨0, 0⟩, now := 0, twist := none, decodeTextual := fun _ => none }
    (firstSlicerFrame g)

omit [F64 F] in
theorem filter_ladder {g : List F} (hg : g ≠ []) : (some g).filter (!·.isEmpty) = some g :=
  Option.filter_eq_some_iff.mpr ⟨rfl, by simpa using hg⟩

omit [F64 F] in
theorem learn_fresh {g : List F} (hg : g ≠ []) :
    ({} : Slicers F).learn (some g) =
      { count := g.length, gains := g, interval := List.replicate g.length 0,
        lifetimeHits := List.replicate g.length 0 } := by
  rw [Slicers.learn, filter_ladder hg]
  rfl

/-- The seventeenth slicer has the bit of the first one, or none at all. -/
theorem wide_not_exact {g : List F} (h : 16 < g.length) :
    ¬ RunExact log10 satFreqs overflowChecks {} [firstSlicerInput g] := by
  rintro ⟨⟨hsafe, hcounted⟩, -⟩
  have hg : g ≠ [] := by
    rintro rfl
    cases h
  have hlearn : ({} : Slicers F).learn (firstSlicerFrame g).rf.slicerGains = _ := learn_fresh hg
  have hfits : (({} : Slicers F).learn (firstSlicerFrame g).rf.slicerGains).Fits :=
    Fits.learn ⟨rfl, rfl, rfl⟩ _
  cases overflowChecks with
  | true =>
    have hpanic : ({} : Slicers F).stepLoop true log10 satFreqs (firstSlicerInput g) = none :=
      frameLoop_panics log10 satFreqs rfl hfits (hlearn ▸ h) (by decide : (1 : UInt16) ≠ 0)
    rw [hpanic] at hsafe
    cases hsafe
  | false =>
    have hstep : ({} : Slicers F).stepLoop false log10 satFreqs (firstSlicerInput g) = _ :=
      (frameLoop_eq log10 satFreqs hfits fun hchecks => by cases hchecks).trans
        (congrArg some (frame_mapped rfl))
    have hhits := congrArg (Option.map Slicers.lifetimeHits)
      (hstep.symm.trans (hcounted _ _ _ rfl rfl).2)
    rw [Option.map_some, Option.map_some, Option.some.injEq, hlearn] at hhits
    replace hhits : tallied 1 g.length (List.replicate g.length 0) =
        credited (1 : UInt16).toNat.testBit (List.replicate g.length 0) := hhits
    have hwrapped := congrArg (fun counts => counts[16]?) hhits
    simp only [tallied_eq, getElem?_credited, List.getElem?_replicate, h, decide_true,
      Bool.true_and] at hwrapped
    exact absurd hwrapped (by decide)

/-- The loops of the runs that learn a ladder, or none, are exact in a build exactly if it
has sixteen gains at most. -/
theorem slicer_tallies_iff (g : Option (List F)) :
    (∀ (r : Option RestoredSlicer) (is : List (Input F)), firstLadder is = g →
        RunExact log10 satFreqs overflowChecks { restored := r } is) ↔
      g.elim 0 List.length ≤ 16 := by
  constructor
  · intro hruns
    by_contra hwide
    cases g with
    | none => exact hwide (Nat.zero_le 16)
    | some g =>
      replace hwide : ¬ g.length ≤ 16 := hwide
      have hg : g ≠ [] := by
        rintro rfl
        exact hwide (Nat.zero_le 16)
      have hladder : firstLadder [firstSlicerInput g] = some g := by
        have hinput : inputLadder? (firstSlicerInput g) = some g := filter_ladder hg
        rw [firstLadder, List.findSome?_cons, hinput]
      exact wide_not_exact overflowChecks log10 satFreqs (by omega) (hruns none _ hladder)
  · intro hsmall r is hladder
    refine run_exact overflowChecks log10 satFreqs ⟨rfl, rfl, rfl⟩ ?_
    show (firstLadder is).elim 0 List.length ≤ 16
    rw [hladder]
    exact hsmall

end Exactness

/-- Seventeen slicers, of which the first has recovered the frame.  The logarithm of the
gains is 0. -/
theorem seventeenth_slicer :
    firstLadder [firstSlicerInput (List.replicate 17 (1 : ℚ))] = some (List.replicate 17 1) ∧
      ({} : Slicers ℚ).stepLoop true (fun _ => 0) []
        (firstSlicerInput (List.replicate 17 1)) = none ∧
      (({} : Slicers ℚ).stepLoop false (fun _ => 0) []
        (firstSlicerInput (List.replicate 17 1))).map Slicers.lifetimeHits =
          some ([1] ++ List.replicate 15 0 ++ [1]) ∧
      ∀ overflowChecks, ¬ RunExact (fun _ : ℚ => 0) [] overflowChecks {}
        [firstSlicerInput (List.replicate 17 1)] := by
  refine ⟨by decide +kernel, rfl, by decide +kernel, fun overflowChecks => ?_⟩
  exact wide_not_exact overflowChecks _ _ (by decide)

end Slicers

end Listener
end Rtpigate
