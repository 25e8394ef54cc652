/-
When a key was last heard.

A tick takes out of the two tables what was not heard for a while.  Whatever ticks there were
before, what it leaves are the keys whose last packet is young enough, unless one of the
others was ahead of it.
-/
import Rtpigate.Lib.Totals
import Rtpigate.Listener.Parts

namespace Rtpigate
namespace Listener

open Lib

section Stamps

variable {F : Type} [F64 F] (satFreqs : List F) (heard : RTPPacket F → String)

/-- The time of the packet of an input, if it is filed under `k`. -/
def Input.stamp (k : String) : Input F → Option Int
  | .frame world fr =>
    ((packet satFreqs world fr).filter fun p => heard p = k).map RTPPacket.receivetime
  | .tick _ => none

/-- When `k` was last heard in a run, or else what is stored of it. -/
def lastStamp (stored : Option Int) (k : String) (is : List (Input F)) : Option Int :=
  ((is.filterMap (Input.stamp satFreqs heard k)).getLast?).or stored

variable {satFreqs heard}

theorem lastStamp_concat (stored : Option Int) (k : String) (is : List (Input F)) (i : Input F) :
    lastStamp satFreqs heard stored k (is ++ [i]) =
      (i.stamp satFreqs heard k).or (lastStamp satFreqs heard stored k is) := by
  rw [lastStamp, lastStamp, List.filterMap_append]
  cases hi : i.stamp satFreqs heard k with
  | none =>
    rw [List.filterMap_cons_none hi, List.filterMap_nil, List.append_nil]
    rfl
  | some t =>
    rw [List.filterMap_cons_some hi, List.filterMap_nil, List.getLast?_concat]
    rfl

end Stamps

/-! ## The tables -/

variable {F V R : Type} [F64 F] [Display3 F]

/-- The entries have the time of their last packet, and are dropped when it is too far
back. -/
structure Part.Dated (part : Part F V R) (lastHeard : V → Int) (window : Int) : Prop where
  expired : ∀ now e, part.expired now e = !decide (now - lastHeard e < window)
  hear : ∀ mapped p (s : Task F),
    ((part.cache (s.hear mapped p)).mem[part.heard p]?).map lastHeard = some p.receivetime

/-- A tick keeps the entries that are young enough. -/
theorem Part.Dated.getElem?_tick {part : Part F V R} {lastHeard : V → Int} {window : Int}
    (h : part.Dated lastHeard window) {s : Task F} (hsound : s.Sound) (historyHours : Nat)
    (world : TickWorld) (k : String) (e : V) :
    (part.cache (s.tick historyHours world).1).mem[k]? = some e ↔
      (part.cache s).mem[k]? = some e ∧ world.now - lastHeard e < window := by
  rw [(part.tick historyHours world s hsound).1]
  show ((part.cache s).evict (part.expired world.now)).mem[k]? = some e ↔ _
  rw [WriteBack.getElem?_evict_eq_some, h.expired, Bool.not_eq_false', decide_eq_true_eq]

section Run

variable {part : Part F V R} {lastHeard : V → Int} {window : Int} {satFreqs : List F}
  {s₀ s : Task F} {is : List (Input F)}

/-- An entry has the time at which its key was last heard.  A key that was heard and has no
entry was too far back for one of the ticks. -/
structure Current (part : Part F V R) (lastHeard : V → Int) (window : Int) (satFreqs : List F)
    (s₀ : Task F) (is : List (Input F)) (s : Task F) : Prop where
  known : ∀ (k : String) e, (part.cache s).mem[k]? = some e →
    lastStamp satFreqs part.heard (((part.cache s₀).mem[k]?).map lastHeard) k is =
      some (lastHeard e)
  gone : ∀ (k : String), (part.cache s).mem[k]? = none →
    ∀ t ∈ lastStamp satFreqs part.heard (((part.cache s₀).mem[k]?).map lastHeard) k is,
      ∃ world, .tick world ∈ is ∧ window ≤ world.now - t

theorem Current.hear (hdated : part.Dated lastHeard window)
    (h : Current part lastHeard window satFreqs s₀ is s) {world : FrameWorld F}
    {fr : AprsFrame F} {p : RTPPacket F} (hsome : packet satFreqs world fr = some p)
    (mapped : MappedPacket F) :
    Current part lastHeard window satFreqs s₀ (is ++ [.frame world fr]) (s.hear mapped p) := by
  obtain ⟨f, hcache⟩ := part.hear mapped p s
  have hheard := hdated.hear mapped p s
  -- The packet is the last one of its own key, and no packet of the others.
  have hsame : ∀ {k}, part.heard p = k →
      Input.stamp satFreqs part.heard k (.frame world fr) = some p.receivetime := by
    intro k hk
    rw [Input.stamp, hsome, Option.filter_some, if_pos (decide_eq_true hk)]
    rfl
  have hother : ∀ {k}, part.heard p ≠ k →
      Input.stamp satFreqs part.heard k (.frame world fr) = none ∧
        (part.cache (s.hear mapped p)).mem[k]? = (part.cache s).mem[k]? := by
    intro k hk
    rw [Input.stamp, hsome, Option.filter_some, if_neg (by simpa using hk), hcache,
      WriteBack.getElem?_touch, if_neg hk]
    exact ⟨rfl, rfl⟩
  constructor
  · intro k e he
    rw [lastStamp_concat]
    by_cases hk : part.heard p = k
    · rw [hsame hk]
      rw [hk, he] at hheard
      exact hheard.symm
    · rw [(hother hk).1]
      rw [(hother hk).2] at he
      exact h.known k e he
  · intro k hnone t ht
    rw [lastStamp_concat] at ht
    by_cases hk : part.heard p = k
    · rw [hk, hnone] at hheard
      cases hheard
    · rw [(hother hk).1] at ht
      rw [(hother hk).2] at hnone
      obtain ⟨world', hmem, hold⟩ := h.gone k hnone t ht
      exact ⟨world', List.mem_append_left _ hmem, hold⟩

theorem Current.tick (hdated : part.Dated lastHeard window) (hsound : s.Sound)
    (h : Current part lastHeard window satFreqs s₀ is s) (historyHours : Nat)
    (world : TickWorld) :
    Current part lastHeard window satFreqs s₀ (is ++ [.tick world])
      (s.tick historyHours world).1 := by
  have hkept := hdated.getElem?_tick hsound historyHours world
  constructor
  · intro k e he
    rw [lastStamp_concat]
    exact h.known k e ((hkept k e).mp he).1
  · intro k hnone t ht
    rw [lastStamp_concat] at ht
    cases hbefore : (part.cache s).mem[k]? with
    | none =>
      obtain ⟨world', hmem', hold⟩ := h.gone k hbefore t ht
      exact ⟨world', List.mem_append_left _ hmem', hold⟩
    | some e =>
      refine ⟨world, List.mem_append_right _ List.mem_cons_self, ?_⟩
      obtain rfl : lastHeard e = t := Option.some.inj ((h.known k e hbefore).symm.trans ht)
      by_contra hyoung
      cases hnone.symm.trans ((hkept k e).mpr ⟨hbefore, not_le.mp hyoung⟩)

theorem Current.step (hdated : part.Dated lastHeard window) (hsound : s.Sound)
    (h : Current part lastHeard window satFreqs s₀ is s) (historyHours : Nat) (i : Input F) :
    Current part lastHeard window satFreqs s₀ (is ++ [i])
      (s.step satFreqs historyHours i).1 := by
  cases Task.step_cases satFreqs historyHours s i with
  | skip world fr hi hnone hstep =>
    subst hi
    rw [hstep]
    have hstamp : ∀ k, Input.stamp satFreqs part.heard k (.frame world fr) = none := by
      intro k
      rw [Input.stamp, hnone]
      rfl
    constructor
    · intro k e he
      rw [lastStamp_concat, hstamp]
      exact h.known k e he
    · intro k hnone t ht
      rw [lastStamp_concat, hstamp] at ht
      obtain ⟨world', hmem, hold⟩ := h.gone k hnone t ht
      exact ⟨world', List.mem_append_left _ hmem, hold⟩
  | hear world fr mapped p hi hsome _ _ hstep =>
    subst hi
    rw [hstep]
    exact h.hear hdated hsome mapped
  | tick world hi hstep =>
    subst hi
    rw [hstep]
    exact h.tick hdated hsound historyHours world

end Run

end Listener
end Rtpigate
