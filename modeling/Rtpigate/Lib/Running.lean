/-
What is known of a growing list.

A reader that is shown the items one by one may keep the last value that any item had, or
the highest value and the first item that reached it.  The order on the values need not be
total: values of which neither is less count as equal.
-/
import Mathlib

namespace Rtpigate
namespace Lib

variable {α β V : Type*}

/-! ## The last value -/

def lastSome (f : α → Option β) (items : List α) : Option β := (items.filterMap f).getLast?

section LastSome

variable {f : α → Option β} {items : List α} {a : α}

theorem lastSome_concat : lastSome f (items ++ [a]) = (f a).or (lastSome f items) := by
  rw [lastSome, List.filterMap_append, List.getLast?_append]
  cases h : f a with
  | none => rw [List.filterMap_cons_none h]; rfl
  | some b => rw [List.filterMap_cons_some h]; rfl

theorem lastSome_concat_none (h : f a = none) : lastSome f (items ++ [a]) = lastSome f items := by
  rw [lastSome_concat, h, Option.none_or]

theorem lastSome_concat_some {b : β} (h : f a = some b) :
    lastSome f (items ++ [a]) = some b := by
  rw [lastSome_concat, h, Option.some_or]

end LastSome

/-! ## The first maximum -/

/-- Of the values in `num` none is less than itself, and what is between two of them is
above the one or below the other. -/
structure WeakOrder (lt : V → V → Bool) (num : V → Prop) : Prop where
  irrefl : ∀ a, num a → lt a a = false
  trans : ∀ a b c, num a → num b → num c → lt a b = true → lt b c = true → lt a c = true
  between : ∀ a b c, num a → num b → num c → lt a c = true → lt a b = true ∨ lt b c = true

section WeakOrder

variable {lt : V → V → Bool} {num : V → Prop} (ho : WeakOrder lt num) {a b c : V}

include ho

theorem WeakOrder.asymm (ha : num a) (hb : num b) (h : lt a b = true) : lt b a = false := by
  by_contra hback
  rw [Bool.not_eq_false] at hback
  have hself := ho.trans a b a ha hb ha h hback
  rw [ho.irrefl a ha] at hself
  cases hself

theorem WeakOrder.not_lt_trans (ha : num a) (hb : num b) (hc : num c) (hab : lt a b = false)
    (hbc : lt b c = false) : lt a c = false := by
  by_contra hlt
  rw [Bool.not_eq_false] at hlt
  rcases ho.between a b c ha hb hc hlt with h | h
  · rw [hab] at h
    cases h
  · rw [hbc] at h
    cases h

end WeakOrder

/-- `m` is the highest value of the items, and `a` the first that has reached it. -/
structure FirstMax (lt : V → V → Bool) (value : α → Option V) (items : List α) (a : α) (m : V) :
    Prop where
  reached : ∃ before after v, items = before ++ a :: after ∧ value a = some v ∧
    (∀ b ∈ before, ∀ w ∈ value b, lt w v = true) ∧ lt v m = false ∧ lt m v = false
  highest : ∀ b ∈ items, ∀ w ∈ value b, lt m w = false
  among : ∃ b ∈ items, value b = some m

section FirstMax

variable {lt : V → V → Bool} {num : V → Prop} {value : α → Option V} {items : List α}
  {a x : α} {m v : V}

theorem FirstMax.num_max (h : FirstMax lt value items a m)
    (hnum : ∀ b ∈ items, ∀ w ∈ value b, num w) : num m := by
  obtain ⟨b, hb, hm⟩ := h.among
  exact hnum b hb m hm

theorem FirstMax.start (ho : WeakOrder lt num) (hnone : ∀ b ∈ items, value b = none)
    (hv : value x = some v) (hnum : num v) : FirstMax lt value (items ++ [x]) x v := by
  refine ⟨⟨items, [], v, rfl, hv, fun b hb w hw => ?_, ho.irrefl v hnum, ho.irrefl v hnum⟩,
    fun b hb w hw => ?_, x, List.mem_append_right _ (List.mem_singleton_self x), hv⟩
  · rw [hnone b hb] at hw
    cases hw
  · rcases List.mem_append.mp hb with hb | hb
    · rw [hnone b hb] at hw
      cases hw
    · rw [List.mem_singleton.mp hb, hv] at hw
      cases hw
      exact ho.irrefl v hnum

/-- An item without a value. -/
theorem FirstMax.skip (h : FirstMax lt value items a m) (hx : value x = none) :
    FirstMax lt value (items ++ [x]) a m := by
  obtain ⟨⟨before, after, w, hsplit, hw, hbefore, hle, hge⟩, hhighest, b, hb, hm⟩ := h
  refine ⟨⟨before, after ++ [x], w, ?_, hw, hbefore, hle, hge⟩, fun c hc u hu => ?_, b,
    List.mem_append_left _ hb, hm⟩
  · rw [hsplit, List.append_assoc, List.cons_append]
  · rcases List.mem_append.mp hc with hc | hc
    · exact hhighest c hc u hu
    · rw [List.mem_singleton.mp hc, hx] at hu
      cases hu

/-- A higher value. -/
theorem FirstMax.raise (ho : WeakOrder lt num) (h : FirstMax lt value items a m)
    (hnum : ∀ b ∈ items, ∀ w ∈ value b, num w) (hx : value x = some v) (hv : num v)
    (hlt : lt m v = true) : FirstMax lt value (items ++ [x]) x v := by
  have hm := h.num_max hnum
  have hbelow : ∀ b ∈ items, ∀ w ∈ value b, lt w v = true := by
    intro b hb w hw
    rcases ho.between m w v hm (hnum b hb w hw) hv hlt with hup | hdown
    · rw [h.highest b hb w hw] at hup
      cases hup
    · exact hdown
  refine ⟨⟨items, [], v, rfl, hx, hbelow, ho.irrefl v hv, ho.irrefl v hv⟩, fun b hb w hw => ?_,
    x, List.mem_append_right _ (List.mem_singleton_self x), hx⟩
  rcases List.mem_append.mp hb with hb | hb
  · exact ho.asymm (hnum b hb w hw) hv (hbelow b hb w hw)
  · rw [List.mem_singleton.mp hb, hx] at hw
    cases hw
    exact ho.irrefl v hv

/-- A value that is not higher, where the maximum may be taken from either of two equal
ones. -/
theorem FirstMax.keep (ho : WeakOrder lt num) (h : FirstMax lt value items a m)
    (hnum : ∀ b ∈ items, ∀ w ∈ value b, num w) (hx : value x = some v) (hv : num v)
    (hle : lt m v = false) {m' : V} (hpick : m' = m ∨ m' = v) (hlow : lt v m = true → m' = m) :
    FirstMax lt value (items ++ [x]) a m' := by
  have hm := h.num_max hnum
  -- the new maximum is equal to the old one
  have hsame : num m' ∧ lt m m' = false ∧ lt m' m = false := by
    rcases hpick with rfl | rfl
    · exact ⟨hm, ho.irrefl _ hm, ho.irrefl _ hm⟩
    · refine ⟨hv, hle, ?_⟩
      by_contra hdown
      rw [Bool.not_eq_false] at hdown
      have heq := hlow hdown
      rw [heq, ho.irrefl m hm] at hdown
      cases hdown
  obtain ⟨hm', hup, hdown⟩ := hsame
  have hclose : ∀ {w : V}, num w → lt m w = false → lt m' w = false :=
    fun hw hmw => ho.not_lt_trans hm' hm hw hdown hmw
  obtain ⟨⟨before, after, w, hsplit, hw, hbefore, hwm, hmw⟩, hhighest, b, hb, hbm⟩ := h
  have hwnum : num w := hnum a (hsplit ▸ List.mem_append_right _ List.mem_cons_self) w hw
  refine ⟨⟨before, after ++ [x], w, ?_, hw, hbefore, ho.not_lt_trans hwnum hm hm' hwm hup,
    hclose hwnum hmw⟩, fun c hc u hu => ?_, ?_⟩
  · rw [hsplit, List.append_assoc, List.cons_append]
  · rcases List.mem_append.mp hc with hc | hc
    · exact hclose (hnum c hc u hu) (hhighest c hc u hu)
    · rw [List.mem_singleton.mp hc, hx] at hu
      cases hu
      exact hclose hv hle
  · rcases hpick with rfl | rfl
    · exact ⟨b, List.mem_append_left _ hb, hbm⟩
    · exact ⟨x, List.mem_append_right _ (List.mem_singleton_self x), hx⟩

end FirstMax

end Lib
end Rtpigate
