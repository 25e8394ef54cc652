/-
The activity chart.

The chart shows the buckets of the page in wider slots, of a minute or of an hour.  The
window ends with the slot of the current time.  A slot is looked up by its exact start,
so the floors of the buckets and the starts of the slots have to be multiples of the same
width.
-/
import Rtpigate.Lib.Slots
import Rtpigate.Page

namespace Rtpigate
namespace Page

open Lib

structure RangeConfig where
  windowSecs : Nat
  bucketSecs : Nat
  deriving DecidableEq, Repr

def hourly : RangeConfig := ⟨24 * 3600, 3600⟩

/-- `RANGE_CONFIG`. -/
def rangeConfig : String → Option RangeConfig
  | "1m" => some ⟨60 * 60, 60⟩
  | "1h" => some hourly
  | _ => none

/-- `Math.round` of a quotient. -/
def roundDiv (num den : Nat) : Nat := (2 * num + den) / (2 * den)

/-- The slots on display, `size` seconds each. -/
structure DisplayWindow where
  size : Nat
  count : Nat
  nowEnd : Int
  start : Int

/-- `now` is in milliseconds. -/
def RangeConfig.window (cfg : RangeConfig) (now : Int) : DisplayWindow :=
  let size := cfg.bucketSecs
  let count := roundDiv cfg.windowSecs size
  let nowEnd := floorBucket (now / 1000) size
  { size := size, count := count, nowEnd := nowEnd, start := nowEnd - (count - 1) * size }

def displayWindow (range : String) (now : Int) : DisplayWindow :=
  ((rangeConfig range).getD hourly).window now

structure DisplaySlot where
  total : Nat := 0
  direct : Nat := 0
  igated : Nat := 0
  rf : Nat := 0
  deriving DecidableEq, Repr

def DisplaySlot.add (s : DisplaySlot) (rb : StatBucket) : DisplaySlot where
  total := s.total + rb.total
  direct := s.direct + rb.direct
  igated := s.igated + rb.igated
  rf := s.rf + rb.rfReceived

structure DisplaySeries (F : Type) where
  labels : List String
  direct : List Nat
  total : List Nat
  pct : List (Option F)

def fillSlots (w : DisplayWindow) (buckets : List StatBucket) : Table Int DisplaySlot :=
  buckets.foldl (fun slots rb =>
    if rb.ts < w.start then slots
    else slots.alter (floorBucket rb.ts w.size) fun s => some ((s.getD {}).add rb)) ∅

section Series

variable {F : Type} [F64 F]

/-- Percent of the received packets that were gated, to one decimal. -/
def igatedPct (s : DisplaySlot) : Option F :=
  if 0 < s.rf then some (F64.round ((s.igated : F) / (s.rf : F) * 1000.0) / 10.0) else none

def DisplayWindow.slotStart (w : DisplayWindow) (i : Nat) : Int := w.start + i * w.size

/-- `formatClock` shows the local time of the browser. -/
def buildDisplaySeries (formatClock : Int → String) (range : String) (now : Int)
    (activityBuckets : Buckets) : DisplaySeries F :=
  let w := displayWindow range now
  let slots := fillSlots w (Table.rows activityBuckets)
  let shown := (List.range w.count).map fun i => slots[w.slotStart i]?
  { labels := (List.range w.count).map fun i => formatClock (w.slotStart i)
    direct := shown.map fun s => s.elim 0 DisplaySlot.direct
    total := shown.map fun s => s.elim 0 DisplaySlot.total
    pct := shown.map fun s => s.elim none igatedPct }

end Series

/-! ## Slots -/

/-- Behind the start of the window and before the end of the current slot. -/
def DisplayWindow.Shows (w : DisplayWindow) (b : StatBucket) : Prop :=
  w.start ≤ b.ts ∧ b.ts < w.nowEnd + w.size

/-- In the time of slot `i`. -/
def DisplayWindow.InSlot (w : DisplayWindow) (i : Nat) (b : StatBucket) : Prop :=
  w.slotStart i ≤ b.ts ∧ b.ts < w.slotStart (i + 1)

instance (w : DisplayWindow) (b : StatBucket) : Decidable (w.Shows b) :=
  inferInstanceAs (Decidable (_ ∧ _))

instance (w : DisplayWindow) (i : Nat) (b : StatBucket) : Decidable (w.InSlot i b) :=
  inferInstanceAs (Decidable (_ ∧ _))

/-- Slots of some width, back to back up to the current one. -/
structure DisplayWindow.Aligned (w : DisplayWindow) : Prop where
  size : 0 < w.size
  count : 0 < w.count
  start : (w.size : Int) ∣ w.start
  nowEnd : w.slotStart (w.count - 1) = w.nowEnd

theorem floorBucket_dvd (secs size : Int) : size ∣ floorBucket secs size := by
  rw [floorBucket, Int.tmod_def, sub_sub_cancel]
  exact dvd_mul_right size _

/-- A range has slots, and they have a width. -/
def RangeConfig.Sound (cfg : RangeConfig) : Prop :=
  0 < cfg.bucketSecs ∧ 0 < roundDiv cfg.windowSecs cfg.bucketSecs

theorem rangeConfig_sound (range : String) : ((rangeConfig range).getD hourly).Sound := by
  unfold rangeConfig RangeConfig.Sound
  split <;> decide

theorem RangeConfig.Sound.aligned {cfg : RangeConfig} (h : cfg.Sound) (now : Int) :
    (cfg.window now).Aligned where
  size := h.1
  count := h.2
  start := dvd_sub (floorBucket_dvd _ _) (dvd_mul_left _ _)
  nowEnd := by
    have hcount : 0 < (cfg.window now).count := h.2
    have hpred : (((cfg.window now).count - 1 : Nat) : Int) = (cfg.window now).count - 1 := by
      omega
    rw [DisplayWindow.slotStart, hpred]
    exact sub_add_cancel _ _

theorem displayWindow_aligned (range : String) (now : Int) :
    (displayWindow range now).Aligned := (rangeConfig_sound range).aligned now

section Slots

variable {w : DisplayWindow}

theorem slotStart_mono {i j : Nat} (hij : i ≤ j) : w.slotStart i ≤ w.slotStart j := by
  have hsize : (0 : Int) ≤ w.size := Int.natCast_nonneg _
  have hle : (i : Int) ≤ j := by exact_mod_cast hij
  exact Int.add_le_add_left (mul_le_mul_of_nonneg_right hle hsize) _

variable (h : w.Aligned)

include h

/-- A slot takes the buckets whose floor is its start. -/
theorem inSlot_iff {b : StatBucket} (hts : 0 ≤ b.ts) (i : Nat) :
    w.InSlot i b ↔ floorBucket b.ts w.size = w.slotStart i := by
  obtain ⟨n, hn⟩ := h.start
  have hsize : (0 : Int) < w.size := by exact_mod_cast h.size
  have hmod : b.ts.tmod w.size = b.ts % w.size := Int.tmod_eq_emod_of_nonneg hts
  have hlow := Int.emod_nonneg b.ts hsize.ne'
  have hhigh := Int.emod_lt_of_pos b.ts hsize
  have hdiv := Int.mul_ediv_add_emod b.ts w.size
  have hstart : w.slotStart i = w.size * (n + i) := by
    rw [DisplayWindow.slotStart, hn]
    ring
  have hnext : w.slotStart (i + 1) = w.size * (n + i) + w.size := by
    rw [DisplayWindow.slotStart, hn]
    push_cast
    ring
  rw [DisplayWindow.InSlot, floorBucket, hmod, hstart, hnext]
  constructor
  · rintro ⟨hfrom, hto⟩
    have hq : b.ts / w.size = n + i := by
      apply Int.le_antisymm
      · exact Int.le_of_lt_add_one (Int.ediv_lt_of_lt_mul hsize (by linarith))
      · exact Int.le_ediv_of_mul_le hsize (by linarith)
    rw [← hq]
    linarith
  · intro hfloor
    exact ⟨by linarith, by linarith⟩

theorem slotStart_injective {i j : Nat} (heq : w.slotStart i = w.slotStart j) : i = j := by
  have hsize : (w.size : Int) ≠ 0 := by exact_mod_cast h.size.ne'
  have hmul : (i : Int) * w.size = j * w.size := add_left_cancel heq
  exact_mod_cast mul_right_cancel₀ hsize hmul

theorem slotStart_count : w.slotStart w.count = w.nowEnd + w.size := by
  have hcount := h.count
  have hpred : ((w.count - 1 : Nat) : Int) = w.count - 1 := by omega
  have hlast := h.nowEnd
  rw [DisplayWindow.slotStart, hpred] at hlast
  rw [DisplayWindow.slotStart, ← hlast]
  ring

/-- What is shown is in one of the slots. -/
theorem shows_iff {b : StatBucket} : w.Shows b ↔ ∃ i < w.count, w.InSlot i b := by
  have hsize : (0 : Int) < w.size := by exact_mod_cast h.size
  constructor
  · rintro ⟨hfrom, hto⟩
    rw [← slotStart_count h, DisplayWindow.slotStart] at hto
    obtain ⟨i, hi⟩ := Int.eq_ofNat_of_zero_le
      (Int.ediv_nonneg (sub_nonneg.mpr hfrom) hsize.le)
    have hdiv := Int.mul_ediv_add_emod (b.ts - w.start) w.size
    have hlow := Int.emod_nonneg (b.ts - w.start) hsize.ne'
    have hhigh := Int.emod_lt_of_pos (b.ts - w.start) hsize
    have hlt : (b.ts - w.start) / w.size < w.count :=
      Int.ediv_lt_of_lt_mul hsize (by linarith)
    rw [hi] at hdiv hlt
    refine ⟨i, by exact_mod_cast hlt, ?_, ?_⟩
    · rw [DisplayWindow.slotStart]
      linarith
    · rw [DisplayWindow.slotStart]
      push_cast
      linarith
  · rintro ⟨i, hi, hfrom, hto⟩
    refine ⟨?_, ?_⟩
    · have hzero : w.slotStart 0 = w.start := by
        rw [DisplayWindow.slotStart, Nat.cast_zero, zero_mul, add_zero]
      rw [← hzero]
      exact (slotStart_mono (Nat.zero_le i)).trans hfrom
    · rw [← slotStart_count h]
      exact hto.trans_le (slotStart_mono hi)

theorem inSlot_unique {b : StatBucket} (hts : 0 ≤ b.ts) {i j : Nat} (hi : w.InSlot i b)
    (hj : w.InSlot j b) : i = j :=
  slotStart_injective h (((inSlot_iff h hts i).mp hi).symm.trans ((inSlot_iff h hts j).mp hj))

end Slots

/-! ## What is added up -/

/-- The sums of some buckets. -/
def DisplaySlot.sum (bs : List StatBucket) : DisplaySlot where
  total := (bs.map StatBucket.total).sum
  direct := (bs.map StatBucket.direct).sum
  igated := (bs.map StatBucket.igated).sum
  rf := (bs.map StatBucket.rfReceived).sum

theorem DisplaySlot.sum_concat (bs : List StatBucket) (b : StatBucket) :
    DisplaySlot.sum (bs ++ [b]) = (DisplaySlot.sum bs).add b := by
  simp only [DisplaySlot.sum, DisplaySlot.add, List.map_append, List.sum_append, List.map_cons,
    List.map_nil, List.sum_singleton]

/-- A slot that is not there counts as one of zeros. -/
theorem getElem?_fillSlots (w : DisplayWindow) (buckets : List StatBucket) (k : Int) :
    ((fillSlots w buckets)[k]?).getD {} =
      DisplaySlot.sum (buckets.filter fun b =>
        w.start ≤ b.ts ∧ floorBucket b.ts w.size = k) := by
  induction buckets using List.reverseRecOn with
  | nil =>
    rw [fillSlots, List.foldl_nil, Std.ExtTreeMap.getElem?_empty]
    rfl
  | append_singleton buckets b ih =>
    rw [fillSlots, List.foldl_concat, ← fillSlots, List.filter_append, List.filter_singleton]
    by_cases hstart : b.ts < w.start
    · rw [if_pos hstart, ih]
      simp [not_le.mpr hstart]
    · rw [if_neg hstart, Std.ExtTreeMap.getElem?_alter]
      simp only [Std.LawfulEqOrd.compare_eq_iff_eq]
      by_cases hk : floorBucket b.ts w.size = k
      · rw [if_pos hk, hk, Option.getD_some, ih]
        simp [not_lt.mp hstart, DisplaySlot.sum_concat]
      · rw [if_neg hk, ih]
        simp [hk]

/-- The chart shows every bucket of the window once, in slots that are back to back. -/
structure Conserves {F : Type} [F64 F] (formatClock : Int → String) (w : DisplayWindow)
    (buckets : List StatBucket) (d : DisplaySeries F) : Prop where
  once : ∀ b ∈ buckets, w.Shows b → ∃! i, i < w.count ∧ w.InSlot i b
  others : ∀ b ∈ buckets, ¬ w.Shows b → ∀ i < w.count, ¬ w.InSlot i b
  labels : d.labels = (List.range w.count).map fun i => formatClock (w.slotStart i)
  last : w.slotStart (w.count - 1) = w.nowEnd
  total : d.total = (List.range w.count).map fun i =>
    ((buckets.filter (w.InSlot i)).map StatBucket.total).sum
  direct : d.direct = (List.range w.count).map fun i =>
    ((buckets.filter (w.InSlot i)).map StatBucket.direct).sum
  pct : d.pct = (List.range w.count).map fun i =>
    igatedPct (DisplaySlot.sum (buckets.filter (w.InSlot i)))
  totals : d.total.sum = ((buckets.filter w.Shows).map StatBucket.total).sum
  directs : d.direct.sum = ((buckets.filter w.Shows).map StatBucket.direct).sum

section Sums

variable {w : DisplayWindow} (h : w.Aligned) {buckets : List StatBucket}
  (hts : ∀ b ∈ buckets, 0 ≤ b.ts)

include h hts

theorem filter_inSlot (i : Nat) :
    buckets.filter (fun b => w.start ≤ b.ts ∧ floorBucket b.ts w.size = w.slotStart i) =
      buckets.filter (w.InSlot i) := by
  refine List.filter_congr fun b hb => ?_
  have hiff := inSlot_iff h (hts b hb) i
  refine decide_eq_decide.mpr ⟨fun hfloor => hiff.mpr hfloor.2, fun hin => ⟨?_, hiff.mp hin⟩⟩
  exact (le_add_of_nonneg_right (by positivity)).trans hin.1

theorem elim_slot {α : Type} {f : DisplaySlot → α} {z : α} (hz : f {} = z) (i : Nat) :
    ((fillSlots w buckets)[w.slotStart i]?).elim z f =
      f (DisplaySlot.sum (buckets.filter (w.InSlot i))) := by
  rw [← filter_inSlot h hts, ← getElem?_fillSlots, ← hz]
  generalize (fillSlots w buckets)[w.slotStart i]? = s
  cases s <;> rfl

/-- Adding up the slots gives the buckets of the window. -/
theorem sum_slots (value : StatBucket → Nat) :
    ((List.range w.count).map fun i => ((buckets.filter (w.InSlot i)).map value).sum).sum =
      ((buckets.filter w.Shows).map value).sum := by
  have hnd : ((List.range w.count).map w.slotStart).Nodup :=
    List.nodup_range.map fun i j => slotStart_injective h
  have hslot : ∀ i, ((buckets.filter (w.InSlot i)).map value).sum =
      slotSum (fun b => floorBucket b.ts w.size) value buckets (w.slotStart i) := by
    intro i
    rw [slotSum]
    congr 2
    exact List.filter_congr fun b hb => decide_eq_decide.mpr (inSlot_iff h (hts b hb) i)
  have hshown : buckets.filter w.Shows =
      buckets.filter fun b => floorBucket b.ts w.size ∈ (List.range w.count).map w.slotStart := by
    refine List.filter_congr fun b hb => decide_eq_decide.mpr ?_
    rw [shows_iff h, List.mem_map]
    simp only [List.mem_range]
    refine exists_congr fun i => and_congr_right fun _ => ?_
    rw [inSlot_iff h (hts b hb) i, eq_comm]
  rw [List.map_congr_left fun i _ => hslot i, hshown, ← sum_slotSum hnd, List.map_map]
  rfl

end Sums

/-- Every bucket of the window is counted in one slot of the chart, and no other bucket is
counted. -/
theorem buildDisplaySeries_conserves {F : Type} [F64 F] (formatClock : Int → String)
    (range : String) (now : Int) (activityBuckets : Buckets)
    (hts : ∀ b ∈ Table.rows activityBuckets, 0 ≤ b.ts) :
    Conserves formatClock (displayWindow range now) (Table.rows activityBuckets)
      (buildDisplaySeries (F := F) formatClock range now activityBuckets) := by
  have h := displayWindow_aligned range now
  have hrows : ∀ {α : Type} {f : DisplaySlot → α} {z : α}, f {} = z →
      ((List.range (displayWindow range now).count).map fun i =>
        (fillSlots (displayWindow range now) (Table.rows activityBuckets))[
          (displayWindow range now).slotStart i]?).map (fun s => s.elim z f) =
        (List.range (displayWindow range now).count).map fun i =>
          f (DisplaySlot.sum ((Table.rows activityBuckets).filter
            ((displayWindow range now).InSlot i))) := by
    intro α f z hz
    rw [List.map_map]
    exact List.map_congr_left fun i _ => elim_slot h hts hz i
  refine ⟨?_, ?_, rfl, h.nowEnd, hrows rfl, hrows rfl, hrows rfl, ?_, ?_⟩
  · intro b hb hshow
    obtain ⟨i, hi, hin⟩ := (shows_iff h).mp hshow
    exact ⟨i, ⟨hi, hin⟩, fun j hj => inSlot_unique h (hts b hb) hj.2 hin⟩
  · intro b _ hhidden i hi hin
    exact hhidden ((shows_iff h).mpr ⟨i, hi, hin⟩)
  · exact (congrArg List.sum (hrows (f := DisplaySlot.total) (z := 0) rfl)).trans
      (sum_slots h hts StatBucket.total)
  · exact (congrArg List.sum (hrows (f := DisplaySlot.direct) (z := 0) rfl)).trans
      (sum_slots h hts StatBucket.direct)

/-- A bucket before the window, two in its first slot, and one in the current slot. -/
def sampleBuckets : Buckets :=
  Table.upsertAll StatBucket.ts ∅
    [{ ts := 3645, total := 8 }, { ts := 3660, total := 3, direct := 1 },
      { ts := 3705, total := 2, direct := 2 }, { ts := 7200, total := 1 }]

theorem buildDisplaySeries_conserves_sampleBuckets :
    Conserves toString (displayWindow "1m" 7215000) (Table.rows sampleBuckets)
        (buildDisplaySeries (F := ℚ) toString "1m" 7215000 sampleBuckets) ∧
      (buildDisplaySeries (F := ℚ) toString "1m" 7215000 sampleBuckets).total.sum = 6 := by
  have h := buildDisplaySeries_conserves (F := ℚ) toString "1m" 7215000 sampleBuckets
    (by decide +kernel)
  refine ⟨h, ?_⟩
  rw [h.totals]
  decide +kernel

end Page
end Rtpigate
