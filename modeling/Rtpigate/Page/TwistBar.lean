/-
The twist bar of a packet.

The listener sends a packet with the mask of the slicers that have decoded it, the twist zone
of every slicer and the mean twist, and the page draws a cell for each slicer.  The listener
reads the mask in sixteen bits and the page in thirty-two, so that they agree on the cells
only while no slicer of the mask comes round a second time.  A mean that is no number comes as
`null`, and then there is no bar, and no row for the packet.
-/
import Rtpigate.Listener.SatelliteRestart
import Rtpigate.Listener.StoredPackets

namespace Rtpigate
namespace Page

open Lib Listener

/-- What a bar says of itself. -/
structure TwistTitle (F : Type) where
  db : F
  dir : String
  minIdx : Int
  maxIdx : Int
  cols : Nat
  litCount : Nat

/-- The cells with the classes of those that are lit, and the title. -/
structure TwistBar (F : Type) where
  cells : List (Option String)
  title : Option (TwistTitle F)

/-- The variables of the loop. -/
structure TwistCells where
  cells : List (Option String) := []
  litCount : Nat := 0
  minIdx : Int := -1
  maxIdx : Int := -1

inductive Zone
  | preemph
  | flat
  | deemph
  deriving DecidableEq, Repr

/-- The classes of the zones 0, 1 and 2. -/
def twistZoneClass : List String := ["twist-pre", "twist-flat", "twist-de"]

def Zone.twistClass : Zone → String
  | .preemph => "twist-pre"
  | .flat => "twist-flat"
  | .deemph => "twist-de"

/-- `(mask & (1 << i)) !== 0`.  The shift takes its amount modulo 32. -/
def litCell (mask : UInt16) (i : Nat) : Bool := mask.toUInt32 &&& (1 <<< UInt32.ofNat i) ≠ 0

variable {F : Type}

def cellClass (twist : TwistJson F) (i : Nat) : String :=
  twistZoneClass[((twist.zones[i]?).getD 1).toNat]?.getD "twist-flat"

def twistCell (twist : TwistJson F) (acc : TwistCells) (i : Nat) : TwistCells :=
  if litCell twist.mask i then
    { cells := acc.cells ++ [some (cellClass twist i)]
      litCount := acc.litCount + 1
      minIdx := if acc.minIdx < 0 then i else acc.minIdx
      maxIdx := i }
  else { acc with cells := acc.cells ++ [none] }

variable [F64 F]

/-- The zone of the waterfall. -/
def pageSlicerZone (g : F) : Zone :=
  if F64.lt g 0.8 then .preemph else if F64.lt g 1.25 then .flat else .deemph

def twistDir (db : F) : String :=
  if F64.lt db (-1.9) then "space louder / pre-emph"
  else if F64.lt 1.9 db then "mark louder / de-emph"
  else "balanced / flat"

/-- The bar, `none` if `db.toFixed` throws. -/
def buildTwistBar (twist : TwistJson F) : Option (TwistBar F) :=
  let drawn := (List.range twist.cols).foldl (twistCell twist) {}
  if 0 < drawn.litCount then
    twist.centroidDb.map fun db =>
      { cells := drawn.cells
        title := some { db := db, dir := twistDir db, minIdx := drawn.minIdx,
                        maxIdx := drawn.maxIdx, cols := twist.cols, litCount := drawn.litCount } }
  else some { cells := drawn.cells, title := none }

/-! ## What a bar shows -/

/-- The slicers of a ladder that have decoded a frame, with their gains. -/
def decoders (mask : UInt16) (gains : List F) : List (F × Nat) :=
  gains.zipIdx.filter fun g => mask.toNat.testBit g.2

/-- The mean twist of some slicers in dB. -/
def meanTwist (log10 : F → F) (slicers : List (F × Nat)) : F :=
  (slicers.foldl (fun sum g => sum + 20.0 * log10 g.1) 0.0) / (slicers.length : F)

/-- A cell for each slicer of the ladder, lit with the zone of its gain if it has decoded the
frame; and if there are any such, their mean twist, their number, the first and the last. -/
structure TwistBar.Shows (log10 : F → F) (mask : UInt16) (gains : List F) (bar : TwistBar F) :
    Prop where
  cells : bar.cells = gains.zipIdx.map fun g =>
    if mask.toNat.testBit g.2 then some (pageSlicerZone g.1).twistClass else none
  untold : decoders mask gains = [] → bar.title = none
  told : ∀ first ∈ (decoders mask gains).head?, ∀ last ∈ (decoders mask gains).getLast?,
    bar.title = some
      { db := meanTwist log10 (decoders mask gains)
        dir := twistDir (meanTwist log10 (decoders mask gains))
        minIdx := first.2, maxIdx := last.2, cols := gains.length
        litCount := (decoders mask gains).length }

/-! ## The loop of the page -/

theorem litCell_iff (mask : UInt16) (i : Nat) :
    litCell mask i = true ↔ mask.toNat.testBit (i % 32) = true := by
  have hbit : ((1 : UInt32) <<< UInt32.ofNat i).toNat = 2 ^ (i % 32) := by
    have hlt : 2 ^ (i % 32) < 2 ^ 32 :=
      Nat.pow_lt_pow_right (by omega) (Nat.mod_lt _ (by omega))
    have hmod : i % 2 ^ 32 % 32 = i % 32 := by omega
    rw [UInt32.toNat_shiftLeft, UInt32.toNat_ofNat', hmod, UInt32.toNat_one, Nat.one_shiftLeft,
      Nat.mod_eq_of_lt hlt]
  rw [litCell, decide_eq_true_eq, ← UInt32.toNat_inj.ne, UInt32.toNat_and, hbit, Nat.and_two_pow,
    UInt16.toNat_toUInt32, UInt32.toNat_zero]
  cases mask.toNat.testBit (i % 32) <;> simp

/-- The cells that are lit so far. -/
def litSlicers (mask : UInt16) (n : Nat) : List Nat := (List.range n).filter (litCell mask)

omit [F64 F] in
/-- The loop after `n` turns. -/
theorem foldl_twistCell (twist : TwistJson F) (n : Nat) :
    (List.range n).foldl (twistCell twist) {} =
      { cells := (List.range n).map fun i =>
          if litCell twist.mask i then some (cellClass twist i) else none
        litCount := (litSlicers twist.mask n).length
        minIdx := (litSlicers twist.mask n).head?.elim (-1) (fun i => i)
        maxIdx := (litSlicers twist.mask n).getLast?.elim (-1) (fun i => i) } := by
  induction n with
  | zero => rfl
  | succ n ih =>
    rw [List.range_succ, List.foldl_concat, ih, twistCell, litSlicers, litSlicers,
      List.range_succ, List.filter_append, List.map_append]
    by_cases hlit : litCell twist.mask n = true
    · rw [if_pos hlit]
      cases hhead : (List.range n).filter (litCell twist.mask) with
      | nil => simp [hlit]
      | cons i rest =>
        have hpos : ¬ ((i : Int) < 0) := by omega
        have hlast : (i :: (rest ++ [n])).getLast? = some n := by
          rw [← List.cons_append, List.getLast?_concat]
        simp [hlit, hpos, hlast]
    · rw [if_neg hlit]
      simp [hlit]

theorem buildTwistBar_cells {twist : TwistJson F} {bar : TwistBar F}
    (h : bar ∈ buildTwistBar twist) :
    bar.cells = (List.range twist.cols).map fun i =>
      if litCell twist.mask i then some (cellClass twist i) else none := by
  rw [Option.mem_def, buildTwistBar, foldl_twistCell] at h
  split at h
  · obtain ⟨db, -, rfl⟩ := Option.map_eq_some_iff.mp h
    rfl
  · cases h
    rfl

/-! ## The loops of the listener -/

theorem foldlM_eq_some {α β : Type*} {f : β → α → Option β} {g : β → α → β} {l : List α}
    (h : ∀ a ∈ l, ∀ b, f b a = some (g b a)) (b : β) : l.foldlM f b = some (l.foldl g b) := by
  induction l generalizing b with
  | nil => rfl
  | cons a l ih =>
    rw [List.foldlM_cons, h a List.mem_cons_self b]
    exact ih (fun a' ha' => h a' (List.mem_cons_of_mem a ha')) _

omit [F64 F] in
/-- A loop that has come to its end has not met a slicer without a bit. -/
theorem safe_of_tallyLoop {overflowChecks : Bool} {s s' : Slicers F} {slicerMask : UInt16}
    (h : s.tallyLoop overflowChecks slicerMask = some s') :
    overflowChecks = true → s.count ≤ 16 := by
  rintro rfl
  by_contra hcount
  have hmem : 16 ∈ List.range s.count := List.mem_range.mpr (by omega)
  have hpanic : ∀ counts, Slicers.tallyTurn true slicerMask counts 16 = none := fun _ => rfl
  rw [Slicers.tallyLoop, Slicers.foldlM_eq_none hmem hpanic] at h
  cases h

theorem runLoop_fits {overflowChecks : Bool} {log10 : F → F} {satFreqs : List F} {s₀ s : Slicers F}
    (h₀ : s₀.Fits) {is : List (Input F)}
    (h : s₀.runLoop overflowChecks log10 satFreqs is = some s) : s.Fits := by
  induction is generalizing s₀ with
  | nil =>
    cases h
    exact h₀
  | cons i is ih =>
    rw [Slicers.runLoop, List.foldlM_cons] at h
    obtain ⟨s₁, hstep, hrest⟩ := Option.bind_eq_some_iff.mp h
    refine ih ?_ hrest
    cases i with
    | tick world =>
      cases hstep
      exact h₀.tick world.theTime
    | frame world fr =>
      have hlearned := h₀.learn fr.rf.slicerGains
      rw [Slicers.stepLoop, Slicers.frameLoop] at hstep
      cases hmap : mapFrame world.decodeTextual world.clock fr with
      | none =>
        simp only [hmap, Option.map_some] at hstep
        cases hstep
        exact hlearned
      | some mapped =>
        simp only [hmap] at hstep
        obtain ⟨⟨s', p⟩, hloops, rfl⟩ := Option.map_eq_some_iff.mp hstep
        obtain ⟨twist, -, hloop⟩ := Option.bind_eq_some_iff.mp hloops
        obtain ⟨tallied, htallied, hlast⟩ := Option.bind_eq_some_iff.mp hloop
        cases hlast
        rw [Slicers.tallyLoop_eq hlearned (safe_of_tallyLoop htallied)] at htallied
        cases htallied
        exact hlearned.tally _

/-- The sum and the number of the slicers that have decoded a frame. -/
theorem foldlM_twistTurn {overflowChecks : Bool} {log10 : F → F} {s : Slicers F} (h : s.Fits)
    (hcount : s.count ≤ 16) (slicerMask : UInt16) :
    (s.slicerDb log10).zipIdx.foldlM (Slicers.twistTurn overflowChecks slicerMask) (0.0, 0) =
      some ((decoders slicerMask s.gains).foldl (fun sum g => sum + 20.0 * log10 g.1) 0.0,
        (decoders slicerMask s.gains).length) := by
  have hturn : ∀ g ∈ (s.slicerDb log10).zipIdx, ∀ acc : F × Nat,
      Slicers.twistTurn overflowChecks slicerMask acc g =
        some (if slicerMask.toNat.testBit g.2 = true then (acc.1 + g.1, acc.2 + 1) else acc) := by
    intro g hg acc
    have hlt := List.snd_lt_of_mem_zipIdx hg
    rw [Slicers.slicerDb, List.length_map, h.gains] at hlt
    rw [Slicers.twistTurn, Slicers.slicerBit_safe fun _ => by omega]
    have hbit := Slicers.and_shift_ne_zero slicerMask g.2
    rw [Nat.mod_eq_of_lt (by omega)] at hbit
    simp only [Option.bind_eq_bind, Option.bind_some, hbit]
  have hpair : ∀ (slicers : List (F × Nat)) (sum : F) (n : Nat),
      slicers.foldl (fun acc g => (acc.1 + 20.0 * log10 g.1, acc.2 + 1)) (sum, n) =
        (slicers.foldl (fun sum g => sum + 20.0 * log10 g.1) sum, n + slicers.length) := by
    intro slicers
    induction slicers with
    | nil => exact fun _ _ => rfl
    | cons g slicers ih =>
      intro sum n
      rw [List.foldl_cons, ih, List.foldl_cons, List.length_cons]
      congr 1
      omega
  rw [foldlM_eq_some hturn, Slicers.slicerDb, List.zipIdx_map, List.foldl_map, decoders]
  have hall := hpair (s.gains.zipIdx.filter fun g => slicerMask.toNat.testBit g.2) 0.0 0
  rw [List.foldl_filter, Nat.zero_add] at hall
  rw [← hall]
  rfl

/-- The twist of a packet is the one of the bank that has tallied it. -/
theorem frameLoop_twist {overflowChecks : Bool} {log10 : F → F} {satFreqs : List F}
    {s s' : Slicers F} {world : FrameWorld F} {fr : AprsFrame F} {p : RTPPacket F}
    {t : TwistInfo F} (hfits : s.Fits)
    (hframe : s.frameLoop overflowChecks log10 satFreqs world fr = some (s', some p))
    (ht : p.twist = some t) :
    s' = (s.learn fr.rf.slicerGains).tally t.mask ∧
      t.cols = s'.count ∧ t.zones = s'.gains.map slicerZone ∧
      ∃ mean, (s'.slicerDb log10).zipIdx.foldlM (Slicers.twistTurn overflowChecks t.mask) (0.0, 0) =
        some mean ∧ t.centroidDb = if 0 < mean.2 then mean.1 / (mean.2 : F) else 0.0 := by
  have hlearned := hfits.learn fr.rf.slicerGains
  rw [Slicers.frameLoop] at hframe
  cases hmap : mapFrame world.decodeTextual world.clock fr with
  | none =>
    rw [hmap] at hframe
    cases hframe
  | some mapped =>
    simp only [hmap] at hframe
    obtain ⟨twist, htwist, hloop⟩ := Option.bind_eq_some_iff.mp hframe
    obtain ⟨tallied, htallied, hlast⟩ := Option.bind_eq_some_iff.mp hloop
    cases hlast
    rw [Slicers.tallyLoop_eq hlearned (safe_of_tallyLoop htallied)] at htallied
    cases htallied
    replace ht : twist = some t := ht
    rw [ht, Slicers.twistLoop] at htwist
    split at htwist
    · obtain ⟨mean, hmean, hlast⟩ := Option.bind_eq_some_iff.mp htwist
      cases hlast
      exact ⟨rfl, rfl, rfl, mean, hmean, rfl⟩
    · cases htwist

omit [F64 F] in
theorem isSome_cell {twist : TwistJson F} {i : Nat} (hi : i < twist.cols) :
    ((((List.range twist.cols).map fun i =>
      if litCell twist.mask i then some (cellClass twist i) else none)[i]?).join.isSome = true) ↔
      twist.mask.toNat.testBit (i % 32) = true := by
  rw [List.getElem?_map, List.getElem?_range hi, ← litCell_iff]
  by_cases hlit : litCell twist.mask i = true <;> simp [hlit]

omit [F64 F] in
/-- Sixteen bits and thirty-two tell the same as long as no bit comes round. -/
theorem bits_agree_iff (mask : UInt16) (n : Nat) :
    (∀ i < n, (mask.toNat.testBit (i % 32) = true ↔ mask.toNat.testBit (i % 16) = true)) ↔
      ∀ i, mask.toNat.testBit i = true → n ≤ i + 16 := by
  have hhigh : ∀ i, 16 ≤ i → mask.toNat.testBit i = false := fun i hi =>
    Nat.testBit_lt_two_pow (Nat.lt_of_lt_of_le mask.toNat_lt (Nat.pow_le_pow_right (by omega) hi))
  constructor
  · intro h i hbit
    by_contra hn
    have hi : i < 16 := by
      by_contra hi
      rw [hhigh i (by omega)] at hbit
      cases hbit
    have hagree := h (i + 16) (by omega)
    rw [hhigh ((i + 16) % 32) (by omega), show (i + 16) % 16 = i by omega] at hagree
    exact absurd (hagree.mpr hbit) (by decide)
  · intro h i hi
    by_cases hlow : i % 32 < 16
    · rw [show i % 32 = i % 16 by omega]
    · rw [hhigh (i % 32) (by omega)]
      constructor
      · intro hbit
        cases hbit
      · intro hbit
        have hle := h (i % 16) hbit
        omega

/-- A bank of sixteen at most is drawn as it is. -/
theorem buildTwistBar_shows [JsonNumber F] {log10 : F → F} {gains : List F} {t : TwistInfo F}
    (hcols : t.cols = gains.length) (hcount : gains.length ≤ 16)
    (hzones : t.zones = gains.map slicerZone)
    (hmean : decoders t.mask gains ≠ [] →
      t.centroidDb = meanTwist log10 (decoders t.mask gains)) :
    (∀ bar ∈ buildTwistBar t.serialize, bar.Shows log10 t.mask gains) ∧
      (buildTwistBar t.serialize = none ↔ decoders t.mask gains ≠ [] ∧
        JsonNumber.finite (meanTwist log10 (decoders t.mask gains)) = false) := by
  have hlit : ∀ i < gains.length, litCell t.mask i = t.mask.toNat.testBit i := by
    intro i hi
    have hiff := litCell_iff t.mask i
    rw [Nat.mod_eq_of_lt (by omega)] at hiff
    exact Bool.eq_iff_iff.mpr hiff
  have hrange : List.range gains.length = gains.zipIdx.map Prod.snd := by
    rw [List.zipIdx_map_snd, List.range_eq_range']
  have hslicers : litSlicers t.mask t.cols = (decoders t.mask gains).map Prod.snd := by
    rw [litSlicers, hcols, hrange, List.filter_map, decoders]
    congr 1
    refine List.filter_congr fun g hg => ?_
    have hlt := List.snd_lt_of_mem_zipIdx hg
    exact hlit g.2 hlt
  have hcells : (List.range t.cols).map (fun i =>
      if litCell t.mask i then some (cellClass t.serialize i) else none) = gains.zipIdx.map fun g =>
        if t.mask.toNat.testBit g.2 then some (pageSlicerZone g.1).twistClass else none := by
    rw [hcols, hrange, List.map_map]
    refine List.map_congr_left fun g hg => ?_
    have hlt := List.snd_lt_of_mem_zipIdx hg
    have hget : gains[g.2]? = some g.1 := List.mem_zipIdx_iff_getElem?.mp hg
    have hclass : cellClass t.serialize g.2 = (pageSlicerZone g.1).twistClass := by
      rw [cellClass, TwistInfo.serialize, hzones, List.getElem?_map, hget, Option.map_some,
        Option.getD_some, slicerZone, pageSlicerZone]
      split
      · rfl
      · split <;> rfl
    show (if litCell t.mask g.2 = true then some (cellClass t.serialize g.2) else none) = _
    rw [hlit g.2 hlt, hclass]
  have hloop := foldl_twistCell t.serialize t.cols
  rw [show t.serialize.mask = t.mask from rfl, hcells, hslicers, List.length_map] at hloop
  rw [buildTwistBar, show t.serialize.cols = t.cols from rfl, hloop]
  by_cases hne : decoders t.mask gains = []
  · rw [if_neg (by simp [hne])]
    refine ⟨fun bar hbar => ?_, ?_⟩
    · cases hbar
      refine ⟨rfl, fun _ => rfl, fun first hfirst => ?_⟩
      rw [hne] at hfirst
      cases hfirst
    · simp [hne]
  · have hdb : t.serialize.centroidDb = number (meanTwist log10 (decoders t.mask gains)) := by
      rw [TwistInfo.serialize, hmean hne]
    rw [if_pos (List.length_pos_iff.mpr hne), hdb, number]
    by_cases hfinite : JsonNumber.finite (meanTwist log10 (decoders t.mask gains)) = true
    · rw [if_pos hfinite, Option.map_some]
      refine ⟨fun bar hbar => ?_, ?_⟩
      · cases hbar
        refine ⟨rfl, fun hnil => absurd hnil hne, fun first hfirst last hlast => ?_⟩
        rw [List.head?_map, List.getLast?_map, Option.mem_def.mp hfirst,
          Option.mem_def.mp hlast, hcols]
        rfl
      · simp [hfinite]
    · rw [if_neg hfinite]
      refine ⟨fun bar hbar => ?_, ?_⟩
      · cases hbar
      · simp [hne, hfinite]

/-- In any run, the bar of a packet has a cell for each slicer of the bank.  Those lit are the
slicers that were tallied for the packet exactly if no slicer of the mask has another one
sixteen places further; and a bank of sixteen at most is shown as it is, unless the mean twist
of its slicers is no number. -/
theorem twist_bar [JsonNumber F] {overflowChecks : Bool} {log10 : F → F} {satFreqs : List F}
    {r : Option RestoredSlicer} {is : List (Input F)} {s s' : Slicers F} {world : FrameWorld F}
    {fr : AprsFrame F} {p : RTPPacket F} {t : TwistInfo F}
    (hrun : ({ restored := r } : Slicers F).runLoop overflowChecks log10 satFreqs is = some s)
    (hframe : s.frameLoop overflowChecks log10 satFreqs world fr = some (s', some p))
    (ht : p.twist = some t) :
    (∀ bar ∈ buildTwistBar t.serialize, bar.cells.length = s'.count ∧
      ((∀ i < s'.count, (bar.cells[i]?.join.isSome = true ↔
          s'.lifetimeHits[i]? = (s.learn fr.rf.slicerGains).lifetimeHits[i]?.map (· + 1))) ↔
        ∀ i, t.mask.toNat.testBit i = true → s'.count ≤ i + 16)) ∧
      (s'.count ≤ 16 →
        (∀ bar ∈ buildTwistBar t.serialize, bar.Shows log10 t.mask s'.gains) ∧
        (buildTwistBar t.serialize = none ↔ decoders t.mask s'.gains ≠ [] ∧
          JsonNumber.finite (meanTwist log10 (decoders t.mask s'.gains)) = false)) := by
  have hfits : s.Fits := runLoop_fits ⟨rfl, rfl, rfl⟩ hrun
  have hlearned := hfits.learn fr.rf.slicerGains
  obtain ⟨rfl, hcols, hzones, mean, hmean, hcentroid⟩ := frameLoop_twist hfits hframe ht
  generalize s.learn fr.rf.slicerGains = learned at hlearned hcols hzones hmean hcentroid ⊢
  have htallied := hlearned.tally t.mask
  refine ⟨fun bar hbar => ?_, fun hcount => buildTwistBar_shows ?_ ?_ hzones fun hne => ?_⟩
  · have hcells := buildTwistBar_cells hbar
    have hwire : t.serialize.cols = t.cols ∧ t.serialize.mask = t.mask := ⟨rfl, rfl⟩
    refine ⟨?_, ?_⟩
    · rw [hcells, List.length_map, List.length_range, hwire.1, hcols]
    · rw [← bits_agree_iff]
      refine forall_congr' fun i => forall_congr' fun hi => ?_
      have hlit : bar.cells[i]?.join.isSome = true ↔ t.mask.toNat.testBit (i % 32) = true := by
        have hcol : i < t.serialize.cols := Nat.lt_of_lt_of_eq hi (hwire.1.trans hcols).symm
        rw [hcells, isSome_cell hcol, hwire.2]
      have hhits : i < learned.lifetimeHits.length := by
        rw [hlearned.hits]
        exact hi
      have hcredit : (learned.tally t.mask).lifetimeHits[i]? =
          learned.lifetimeHits[i]?.map (· + 1) ↔ t.mask.toNat.testBit (i % 16) = true := by
        show (Slicers.tallied t.mask learned.count learned.lifetimeHits)[i]? = _ ↔ _
        rw [Slicers.tallied_eq, Slicers.getElem?_credited, List.getElem?_eq_getElem hhits]
        rw [hlearned.hits] at hhits
        cases t.mask.toNat.testBit (i % 16) <;> simp [hhits]
      rw [hlit, hcredit]
  · rw [hcols, htallied.gains]
  · rw [htallied.gains]
    exact hcount
  · rw [foldlM_twistTurn htallied hcount] at hmean
    cases hmean
    rw [hcentroid, if_pos (List.length_pos_iff.mpr hne)]
    rfl

/-- The first of two slicers has decoded a frame. -/
theorem twist_bar_decade :
    ∃ (s' : Slicers ℚ) (p : RTPPacket ℚ) (t : TwistInfo ℚ) (bar : TwistBar ℚ),
      ({} : Slicers ℚ).frameLoop false decadeLog []
        { clock := ⟨0, 0⟩, now := 0, twist := none, decodeTextual := fun _ => none }
        (Slicers.firstSlicerFrame [1, 10]) = some (s', some p) ∧
      p.twist = some t ∧ buildTwistBar t.serialize = some bar ∧ bar.cells.length = 2 ∧
      bar.Shows decadeLog t.mask [1, 10] := by
  obtain ⟨s', p, t, hframe, ht, hcount, hgains⟩ : ∃ s' p t, ({} : Slicers ℚ).frameLoop false
      decadeLog [] { clock := ⟨0, 0⟩, now := 0, twist := none, decodeTextual := fun _ => none }
      (Slicers.firstSlicerFrame [1, 10]) = some (s', some p) ∧ p.twist = some t ∧
        s'.count = 2 ∧ s'.gains = [1, 10] := ⟨_, _, _, rfl, rfl, rfl, rfl⟩
  have hrun : ({ restored := none } : Slicers ℚ).runLoop false decadeLog [] [] = some {} := rfl
  have h := twist_bar hrun hframe ht
  rw [hcount, hgains] at h
  obtain ⟨hshows, hnone⟩ := h.2 (by decide)
  cases hbar : buildTwistBar t.serialize with
  | none => exact absurd (hnone.mp hbar).2 Bool.noConfusion
  | some bar => exact ⟨s', p, t, bar, hframe, ht, hbar, (h.1 bar hbar).1, hshows bar hbar⟩

end Page
end Rtpigate
