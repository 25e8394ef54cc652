/-
The passcode of a callsign.

The APRS-IS hash takes the characters of the callsign in pairs, the first of a pair into
the high byte and the second into the low one.  The loop of the code takes them one by
one, and tells the two by the parity of the index.
-/
import Rtpigate.Config

namespace Rtpigate

def IsAscii (s : String) : Prop := ∀ c ∈ s.toList, c.toNat < 128

instance (s : String) : Decidable (IsAscii s) :=
  decidable_of_iff (s.toList.all fun c => c.toNat < 128) (by simp [IsAscii])

/-- An uppercase mapping, which on ASCII is the usual one. -/
structure Uppercase where
  map : Char → List Char
  map_ascii : ∀ c, c.toNat < 128 → map c = [c.toUpper]

/-! ## The pairwise hash -/

def pairHash : Nat → List Char → Nat
  | hash, [] => hash
  | hash, [a] => hash ^^^ (a.toNat <<< 8)
  | hash, a :: b :: cs => pairHash (hash ^^^ (a.toNat <<< 8) ^^^ b.toNat) cs

/-- The part of a callsign before its SSID, in upper case. -/
def baseCall (callsign : String) : List Char :=
  (callsign.toList.takeWhile fun c => c ≠ '-').map Char.toUpper

/-- The passcode as APRS-IS defines it. -/
def referencePasscode (callsign : String) : Nat := pairHash 0x73E2 (baseCall callsign) &&& 0x7FFF

theorem referencePasscode_le (callsign : String) : referencePasscode callsign ≤ 0x7FFF :=
  Nat.and_le_right

/-! ## The loop -/

theorem utf8Size_ascii {c : Char} (h : c.toNat < 128) : c.utf8Size = 1 := by
  have hval : c.val ≤ 0x7F := by
    rw [UInt32.le_iff_toNat_le]
    have hc : c.val.toNat < 128 := h
    exact Nat.le_of_lt_succ hc
  unfold Char.utf8Size
  exact if_pos hval

/-- The loop ends at the first hyphen. -/
theorem passcodeLoop_takeWhile (i : Nat) (cs : List Char) (hash : Nat) :
    passcodeLoop i cs hash = passcodeLoop i (cs.takeWhile fun c => c ≠ '-') hash := by
  induction cs generalizing i hash with
  | nil => rfl
  | cons c cs ih =>
    by_cases hc : c = '-'
    · rw [passcodeLoop, if_pos hc, List.takeWhile_cons_of_neg (by simpa using hc), passcodeLoop]
    · rw [passcodeLoop, if_neg hc, List.takeWhile_cons_of_pos (by simpa using hc), passcodeLoop,
        if_neg hc]
      exact ih _ _

/-- From an even index on the loop takes whole pairs. -/
theorem passcodeLoop_eq_pairHash {cs : List Char} (hascii : ∀ c ∈ cs, c.toNat < 128)
    (hbase : '-' ∉ cs) {i : Nat} (hi : i % 2 = 0) (hash : Nat) :
    passcodeLoop i cs hash = pairHash hash cs := by
  fun_induction pairHash hash cs generalizing i with
  | case1 hash => rfl
  | case2 hash a =>
    have ha : a ≠ '-' := fun he => hbase (he ▸ List.mem_singleton_self a)
    rw [passcodeLoop, if_neg ha, if_pos hi, passcodeLoop]
  | case3 hash a b cs ih =>
    have ha : a ≠ '-' := fun he => hbase (he ▸ List.mem_cons_self)
    have hb : b ≠ '-' := fun he => hbase (he ▸ List.mem_cons_of_mem a List.mem_cons_self)
    have hsizeA := utf8Size_ascii (hascii a List.mem_cons_self)
    have hsizeB := utf8Size_ascii (hascii b (List.mem_cons_of_mem a List.mem_cons_self))
    have hodd : ¬ (i + 1) % 2 = 0 := by omega
    rw [passcodeLoop, if_neg ha, if_pos hi, hsizeA, passcodeLoop, if_neg hb, if_neg hodd, hsizeB,
      Nat.shiftLeft_zero]
    exact ih (fun c hc => hascii c (List.mem_cons_of_mem a (List.mem_cons_of_mem b hc)))
      (fun hc => hbase (List.mem_cons_of_mem a (List.mem_cons_of_mem b hc))) (by omega)

theorem toUpper_facts : ∀ n < 128, (Char.ofNat n).toUpper.toNat < 128 ∧
    ((Char.ofNat n).toUpper = '-' ↔ Char.ofNat n = '-') := by
  decide

theorem toUpper_ascii {c : Char} (h : c.toNat < 128) :
    c.toUpper.toNat < 128 ∧ (c.toUpper = '-' ↔ c = '-') := by
  have hfacts := toUpper_facts c.toNat h
  rwa [Char.ofNat_toNat] at hfacts

theorem flatMap_uppercase (upper : Uppercase) {cs : List Char} (h : ∀ c ∈ cs, c.toNat < 128) :
    cs.flatMap upper.map = cs.map Char.toUpper := by
  induction cs with
  | nil => rfl
  | cons c cs ih =>
    rw [List.flatMap_cons, upper.map_ascii c (h c List.mem_cons_self),
      ih fun c' hc' => h c' (List.mem_cons_of_mem c hc')]
    rfl

/-- Upper case moves no hyphen. -/
theorem takeWhile_toUpper {cs : List Char} (h : ∀ c ∈ cs, c.toNat < 128) :
    (cs.map Char.toUpper).takeWhile (fun c => c ≠ '-') =
      (cs.takeWhile fun c => c ≠ '-').map Char.toUpper := by
  rw [List.takeWhile_map]
  congr 1
  induction cs with
  | nil => rfl
  | cons c cs ih =>
    have hhyphen := (toUpper_ascii (h c List.mem_cons_self)).2
    have htail := ih fun c' hc' => h c' (List.mem_cons_of_mem c hc')
    rw [List.takeWhile_cons, List.takeWhile_cons, htail]
    simp only [Function.comp_apply, ne_eq, hhyphen]

theorem passcode_eq_reference (upper : Uppercase) {callsign : String} (h : IsAscii callsign) :
    passcode upper.map callsign = referencePasscode callsign := by
  have hupper : ∀ c ∈ baseCall callsign, c.toNat < 128 ∧ c ≠ '-' := by
    intro c hc
    obtain ⟨d, hd, rfl⟩ := List.mem_map.mp hc
    have hne := List.mem_takeWhile_imp hd
    have hmem := (List.takeWhile_prefix _).subset hd
    obtain ⟨hlt, hhyphen⟩ := toUpper_ascii (h d hmem)
    exact ⟨hlt, fun he => by simp [hhyphen.mp he] at hne⟩
  rw [passcode, referencePasscode, flatMap_uppercase upper h, passcodeLoop_takeWhile,
    takeWhile_toUpper h]
  rw [show (callsign.toList.takeWhile fun c => c ≠ '-').map Char.toUpper = baseCall callsign
    from rfl, passcodeLoop_eq_pairHash (fun c hc => (hupper c hc).1)
      (fun hc => (hupper _ hc).2 rfl) rfl]

/-! ## The passcode of a configuration -/

/-- The passcode is that of the pairwise hash.  It has fifteen bits, and neither the case
of a letter nor what follows the first hyphen changes it. -/
theorem computePasscode_reference {F : Type} (upper : Uppercase) (c : Config F)
    {callsign : String} (hc : c.station.callsign = some callsign) (hascii : IsAscii callsign) :
    c.computePasscode upper.map = referencePasscode callsign ∧
      (0 ≤ c.computePasscode upper.map ∧ c.computePasscode upper.map ≤ 32767) ∧
        ∀ (c' : Config F) (callsign' : String), c'.station.callsign = some callsign' →
          IsAscii callsign' → baseCall callsign' = baseCall callsign →
            c'.computePasscode upper.map = c.computePasscode upper.map := by
  have hcompute : ∀ (c : Config F) {callsign : String}, c.station.callsign = some callsign →
      IsAscii callsign → c.computePasscode upper.map = referencePasscode callsign := by
    intro c callsign hc hascii
    rw [Config.computePasscode, hc]
    exact passcode_eq_reference upper hascii
  have hvalue := hcompute c hc hascii
  have hle := referencePasscode_le callsign
  refine ⟨hvalue, ?_, ?_⟩
  · rw [hvalue]
    omega
  · intro c' callsign' hc' hascii' hbase
    rw [hvalue, hcompute c' hc' hascii', referencePasscode, referencePasscode, hbase]

def asciiUppercase : Uppercase := ⟨asciiUpper, fun _ _ => rfl⟩

/-- A callsign with an SSID, in lower case, has the passcode of the bare one. -/
theorem computePasscode_reference_n0call :
    sampleConfig.computePasscode asciiUppercase.map = 13023 ∧
      ({ sampleConfig with station := { callsign := some "n0call-9", name := none } } :
        Config ℚ).computePasscode asciiUppercase.map = 13023 := by
  have hcall : sampleConfig.station.callsign = some "N0CALL" := rfl
  obtain ⟨hvalue, -, hsame⟩ :=
    computePasscode_reference asciiUppercase sampleConfig hcall (by decide +kernel)
  have hknown : referencePasscode "N0CALL" = 13023 := by decide +kernel
  rw [hknown] at hvalue
  exact ⟨hvalue, (hsame _ "n0call-9" rfl (by decide +kernel) (by decide +kernel)).trans hvalue⟩

end Rtpigate
