/-
Octets and the text they render to.

`utf8` is the encoding of a string, `fromUtf8Lossy` the decoding that never
fails: every maximal ill-formed prefix becomes one replacement character.  Both
directions leave ASCII alone, which is all that most arguments about a text
protocol need.  `Renders` states that once, as a relation between an octet
string and a text, and the encoder and the decoder are two instances of it.
-/
import Mathlib

namespace Rtpigate
namespace Lib

def utf8 (s : String) : List UInt8 := s.toList.flatMap String.utf8EncodeChar

theorem utf8_append (s t : String) : utf8 (s ++ t) = utf8 s ++ utf8 t := by
  rw [utf8, String.toList_append, List.flatMap_append]
  rfl

/-- U+FFFD, which stands for an ill-formed octet sequence. -/
def replacement : Char := '\uFFFD'

/-- Length of the character a leading octet announces, 0 for an octet that
starts none. -/
def utf8CharWidth (b : UInt8) : Nat :=
  if b < 0x80 then 1
  else if 0xC2 ≤ b ∧ b ≤ 0xDF then 2
  else if 0xE0 ≤ b ∧ b ≤ 0xEF then 3
  else if 0xF0 ≤ b ∧ b ≤ 0xF4 then 4
  else 0

def isContinuation (b : UInt8) : Bool := 0x80 ≤ b ∧ b ≤ 0xBF

/-- Second octets that a three-octet leader accepts: neither an overlong form
nor a surrogate. -/
def second3 (b c : UInt8) : Bool :=
  if b = 0xE0 then 0xA0 ≤ c ∧ c ≤ 0xBF
  else if b = 0xED then 0x80 ≤ c ∧ c ≤ 0x9F
  else isContinuation c

/-- Second octets that a four-octet leader accepts: neither an overlong form nor
a code point past U+10FFFF. -/
def second4 (b c : UInt8) : Bool :=
  if b = 0xF0 then 0x90 ≤ c ∧ c ≤ 0xBF
  else if b = 0xF4 then 0x80 ≤ c ∧ c ≤ 0x8F
  else isContinuation c

def lead2 (b c : UInt8) : Char × Nat :=
  if !isContinuation c then (replacement, 0)
  else (Char.ofNat (b.toNat % 32 * 64 + c.toNat % 64), 1)

def lead3 (b c d : UInt8) : Char × Nat :=
  if !second3 b c then (replacement, 0)
  else if !isContinuation d then (replacement, 1)
  else (Char.ofNat (b.toNat % 16 * 4096 + c.toNat % 64 * 64 + d.toNat % 64), 2)

def lead4 (b c d e : UInt8) : Char × Nat :=
  if !second4 b c then (replacement, 0)
  else if !isContinuation d then (replacement, 1)
  else if !isContinuation e then (replacement, 2)
  else (Char.ofNat (b.toNat % 8 * 262144 + c.toNat % 64 * 4096 + d.toNat % 64 * 64
    + e.toNat % 64), 3)

/-- The character that starts at octet `b`, and how many octets of `rest` it
takes.  A missing octet reads as 0, which continues nothing. -/
def decodeLead (b : UInt8) (rest : List UInt8) : Char × Nat :=
  match utf8CharWidth b with
  | 1 => (Char.ofNat b.toNat, 0)
  | 2 => lead2 b (rest.getD 0 0)
  | 3 => lead3 b (rest.getD 0 0) (rest.getD 1 0)
  | 4 => lead4 b (rest.getD 0 0) (rest.getD 1 0) (rest.getD 2 0)
  | _ => (replacement, 0)

def lossyChars : Nat → List UInt8 → List Char
  | 0, _ => []
  | _, [] => []
  | n + 1, b :: rest =>
    (decodeLead b rest).1 :: lossyChars n (rest.drop (decodeLead b rest).2)

/-- Decode octets that need not be UTF-8.  No character takes less than an
octet, so the length bounds the number of characters. -/
def fromUtf8Lossy (bytes : List UInt8) : String :=
  String.ofList (lossyChars bytes.length bytes)

/-! ## Rendering -/

/-- `Renders bs cs`: the text `cs` shows every ASCII octet of `bs` as itself, and
every maximal group of other octets it reads together as one non-ASCII
character. -/
inductive Renders : List UInt8 → List Char → Prop
  | nil : Renders [] []
  | ascii {b : UInt8} {bs : List UInt8} {cs : List Char} :
      b < 0x80 → Renders bs cs → Renders (b :: bs) (Char.ofNat b.toNat :: cs)
  | wide {chunk bs : List UInt8} {c : Char} {cs : List Char} :
      chunk ≠ [] → (∀ b ∈ chunk, 0x80 ≤ b) → 0x80 ≤ c.toNat →
      Renders bs cs → Renders (chunk ++ bs) (c :: cs)

theorem toNat_charOfNat {n : Nat} (h : n.isValidChar) : (Char.ofNat n).toNat = n := by
  rw [Char.toNat_ofNat, if_pos h]

theorem toNat_charOfNat_byte (b : UInt8) : (Char.ofNat b.toNat).toNat = b.toNat :=
  toNat_charOfNat (Or.inl (by have := b.toNat_lt; omega))

theorem replacement_wide : 0x80 ≤ replacement.toNat := by decide

theorem decodeLead_ascii {b : UInt8} (hb : b < 0x80) (rest : List UInt8) :
    decodeLead b rest = (Char.ofNat b.toNat, 0) := by
  simp [decodeLead, utf8CharWidth, hb]

theorem isContinuation_iff (b : UInt8) :
    isContinuation b = true ↔ 0x80 ≤ b.toNat ∧ b.toNat ≤ 0xBF := by
  simp [isContinuation, UInt8.le_iff_toNat_le]

/-- Two leaders narrow the range of the second octet, each at one end. -/
theorem second_bounds {b c x y lo hi : UInt8} (hxy : x ≠ y) (hlo : 0x80 ≤ lo) (hhi : hi ≤ 0xBF)
    (h : (if b = x then decide (lo ≤ c ∧ c ≤ 0xBF) else if b = y then decide (0x80 ≤ c ∧ c ≤ hi)
      else isContinuation c) = true) :
    0x80 ≤ c.toNat ∧ c.toNat ≤ 0xBF ∧ (b = x → lo.toNat ≤ c.toNat) ∧
      (b = y → c.toNat ≤ hi.toNat) := by
  have hlow : (0x80 : UInt8).toNat = 0x80 := rfl
  have hhigh : (0xBF : UInt8).toNat = 0xBF := rfl
  rw [UInt8.le_iff_toNat_le] at hlo hhi
  split at h
  · next hb =>
    rw [decide_eq_true_eq, UInt8.le_iff_toNat_le, UInt8.le_iff_toNat_le] at h
    exact ⟨by omega, by omega, fun _ => h.1, fun e => absurd (hb.symm.trans e) hxy⟩
  · next hne =>
    split at h
    · rw [decide_eq_true_eq, UInt8.le_iff_toNat_le, UInt8.le_iff_toNat_le] at h
      exact ⟨by omega, by omega, fun e => absurd e hne, fun _ => h.2⟩
    · next hne' =>
      rw [isContinuation_iff] at h
      exact ⟨h.1, h.2, fun e => absurd e hne, fun e => absurd e hne'⟩

theorem second3_bounds {b c : UInt8} (h : second3 b c = true) :
    0x80 ≤ c.toNat ∧ c.toNat ≤ 0xBF ∧ (b = 0xE0 → 0xA0 ≤ c.toNat) ∧
      (b = 0xED → c.toNat ≤ 0x9F) :=
  second_bounds (by decide) (by decide) (by decide) h

theorem second4_bounds {b c : UInt8} (h : second4 b c = true) :
    0x80 ≤ c.toNat ∧ c.toNat ≤ 0xBF ∧ (b = 0xF0 → 0x90 ≤ c.toNat) ∧
      (b = 0xF4 → c.toNat ≤ 0x8F) :=
  second_bounds (by decide) (by decide) (by decide) h

theorem utf8CharWidth_cases {b : UInt8} (hb : 0x80 ≤ b) :
    utf8CharWidth b = 0 ∨
      (utf8CharWidth b = 2 ∧ 0xC2 ≤ b.toNat ∧ b.toNat ≤ 0xDF) ∨
      (utf8CharWidth b = 3 ∧ 0xE0 ≤ b.toNat ∧ b.toNat ≤ 0xEF) ∨
      (utf8CharWidth b = 4 ∧ 0xF0 ≤ b.toNat ∧ b.toNat ≤ 0xF4) := by
  simp only [UInt8.le_iff_toNat_le] at hb
  unfold utf8CharWidth
  simp only [UInt8.lt_iff_toNat_lt, UInt8.le_iff_toNat_le]
  split
  · next h => simp at h hb; omega
  · split
    · next h => simp at h ⊢; omega
    · split
      · next h => simp at h ⊢; omega
      · split
        · next h => simp at h ⊢; omega
        · exact Or.inl rfl

theorem wide_of_scalar {n : Nat} (hlo : 0x80 ≤ n) (h : n < 0xD800 ∨ (0xDFFF < n ∧ n < 0x110000)) :
    0x80 ≤ (Char.ofNat n).toNat := by
  rw [toNat_charOfNat h]
  exact hlo

theorem lead2_wide {b c : UInt8} (hlo : 0xC2 ≤ b.toNat) (hhi : b.toNat ≤ 0xDF) :
    0x80 ≤ (lead2 b c).1.toNat ∧ (lead2 b c).2 ≤ 1 ∧ (0 < (lead2 b c).2 → 0x80 ≤ c.toNat) := by
  unfold lead2
  by_cases hc : isContinuation c = true
  · have hc' := (isContinuation_iff c).mp hc
    simp only [hc, Bool.not_true, Bool.false_eq_true, if_false]
    exact ⟨wide_of_scalar (by omega) (by omega), by omega, fun _ => hc'.1⟩
  · simp [hc, replacement_wide]

theorem lead3_wide {b c d : UInt8} (hlo : 0xE0 ≤ b.toNat) (hhi : b.toNat ≤ 0xEF) :
    0x80 ≤ (lead3 b c d).1.toNat ∧ (lead3 b c d).2 ≤ 2 ∧
      (0 < (lead3 b c d).2 → 0x80 ≤ c.toNat) ∧ (1 < (lead3 b c d).2 → 0x80 ≤ d.toNat) := by
  unfold lead3
  by_cases hc : second3 b c = true
  · obtain ⟨hc1, hc2, hE0, hED⟩ := second3_bounds hc
    by_cases hd : isContinuation d = true
    · have hd' := (isContinuation_iff d).mp hd
      simp only [hc, hd, Bool.not_true, Bool.false_eq_true, if_false]
      refine ⟨wide_of_scalar ?_ ?_, by omega, fun _ => hc1, fun _ => hd'.1⟩
      -- an overlong form needs a leader E0 with a second octet below A0
      · rcases (by omega : b.toNat = 0xE0 ∨ 0xE0 < b.toNat) with h | h
        · have := hE0 (UInt8.toNat_inj.mp h)
          omega
        · omega
      · rcases (by omega : b.toNat < 0xED ∨ b.toNat = 0xED ∨ 0xED < b.toNat) with h | h | h
        · omega
        · have := hED (UInt8.toNat_inj.mp h)
          omega
        · omega
    · simp [hc, hd, replacement_wide, hc1]
  · simp [hc, replacement_wide]

theorem lead4_wide {b c d e : UInt8} (hlo : 0xF0 ≤ b.toNat) (hhi : b.toNat ≤ 0xF4) :
    0x80 ≤ (lead4 b c d e).1.toNat ∧ (lead4 b c d e).2 ≤ 3 ∧
      (0 < (lead4 b c d e).2 → 0x80 ≤ c.toNat) ∧ (1 < (lead4 b c d e).2 → 0x80 ≤ d.toNat) ∧
      (2 < (lead4 b c d e).2 → 0x80 ≤ e.toNat) := by
  unfold lead4
  by_cases hc : second4 b c = true
  · obtain ⟨hc1, hc2, hF0, hF4⟩ := second4_bounds hc
    by_cases hd : isContinuation d = true
    · have hd' := (isContinuation_iff d).mp hd
      by_cases he : isContinuation e = true
      · have he' := (isContinuation_iff e).mp he
        simp only [hc, hd, he, Bool.not_true, Bool.false_eq_true, if_false]
        refine ⟨wide_of_scalar ?_ (Or.inr ?_), by omega, fun _ => hc1, fun _ => hd'.1,
          fun _ => he'.1⟩
        · rcases (by omega : b.toNat = 0xF0 ∨ 0xF0 < b.toNat) with h | h
          · have := hF0 (UInt8.toNat_inj.mp h)
            omega
          · omega
        · rcases (by omega : b.toNat = 0xF0 ∨ (0xF0 < b.toNat ∧ b.toNat < 0xF4) ∨
              b.toNat = 0xF4) with h | h | h
          · have := hF0 (UInt8.toNat_inj.mp h)
            omega
          · omega
          · have := hF4 (UInt8.toNat_inj.mp h)
            omega
      · simp [hc, hd, he, replacement_wide, hc1, hd'.1]
    · simp [hc, hd, replacement_wide, hc1]
  · simp [hc, replacement_wide]

/-- A non-ASCII octet starts a non-ASCII character, and takes non-ASCII octets
only. -/
theorem decodeLead_wide {b : UInt8} (hb : 0x80 ≤ b) (rest : List UInt8) :
    0x80 ≤ (decodeLead b rest).1.toNat ∧
      ∀ i < (decodeLead b rest).2, 0x80 ≤ (rest.getD i 0).toNat := by
  rcases utf8CharWidth_cases hb with h | ⟨h, hlo, hhi⟩ | ⟨h, hlo, hhi⟩ | ⟨h, hlo, hhi⟩
  · simp [decodeLead, h, replacement_wide]
  · obtain ⟨hw, hn, h0⟩ := lead2_wide (c := rest.getD 0 0) hlo hhi
    simp only [decodeLead, h]
    refine ⟨hw, fun i hi => ?_⟩
    obtain rfl : i = 0 := by omega
    exact h0 hi
  · obtain ⟨hw, hn, h0, h1⟩ := lead3_wide (c := rest.getD 0 0) (d := rest.getD 1 0) hlo hhi
    simp only [decodeLead, h]
    refine ⟨hw, fun i hi => ?_⟩
    rcases (by omega : i = 0 ∨ i = 1) with rfl | rfl
    · exact h0 hi
    · exact h1 hi
  · obtain ⟨hw, hn, h0, h1, h2⟩ :=
      lead4_wide (c := rest.getD 0 0) (d := rest.getD 1 0) (e := rest.getD 2 0) hlo hhi
    simp only [decodeLead, h]
    refine ⟨hw, fun i hi => ?_⟩
    rcases (by omega : i = 0 ∨ i = 1 ∨ i = 2) with rfl | rfl | rfl
    · exact h0 hi
    · exact h1 hi
    · exact h2 hi

theorem mem_take_getD {l : List UInt8} {n : Nat} {x : UInt8} (hx : x ∈ l.take n) :
    ∃ i < n, x = l.getD i 0 := by
  obtain ⟨i, hi, rfl⟩ := List.mem_take_iff_getElem.mp hx
  exact ⟨i, by omega, by rw [List.getD_eq_getElem _ _ (by omega)]⟩

theorem lossyChars_renders : ∀ (n : Nat) (bs : List UInt8), bs.length ≤ n →
    Renders bs (lossyChars n bs) := by
  intro n
  induction n with
  | zero =>
    intro bs h
    rw [List.eq_nil_of_length_eq_zero (by omega : bs.length = 0)]
    exact Renders.nil
  | succ n ih =>
    intro bs h
    cases bs with
    | nil => exact Renders.nil
    | cons b rest =>
      rw [List.length_cons] at h
      rw [lossyChars]
      by_cases hb : b < 0x80
      · rw [decodeLead_ascii hb, List.drop_zero]
        exact Renders.ascii hb (ih rest (by omega))
      · have hb' : 0x80 ≤ b := by
          rw [UInt8.lt_iff_toNat_lt] at hb
          rw [UInt8.le_iff_toNat_le]
          omega
        obtain ⟨hchar, htake⟩ := decodeLead_wide hb' rest
        have hrest := ih (rest.drop (decodeLead b rest).2) (by rw [List.length_drop]; omega)
        have hchunk : ∀ x ∈ b :: rest.take (decodeLead b rest).2, 0x80 ≤ x := by
          intro x hx
          rcases List.mem_cons.mp hx with rfl | hx
          · exact hb'
          · obtain ⟨i, hi, rfl⟩ := mem_take_getD hx
            rw [UInt8.le_iff_toNat_le]
            exact htake i hi
        have hw := Renders.wide (List.cons_ne_nil _ _) hchunk hchar hrest
        rwa [List.cons_append, List.take_append_drop] at hw

/-- The lossy decoding shows every ASCII octet as itself. -/
theorem fromUtf8Lossy_renders (bs : List UInt8) : Renders bs (fromUtf8Lossy bs).toList := by
  rw [fromUtf8Lossy, String.toList_ofList]
  exact lossyChars_renders bs.length bs (Nat.le_refl _)

theorem utf8EncodeChar_cases (c : Char) :
    (c.toNat < 0x80 ∧ String.utf8EncodeChar c = [UInt8.ofNat c.toNat]) ∨
      (0x80 ≤ c.toNat ∧ String.utf8EncodeChar c ≠ [] ∧
        ∀ b ∈ String.utf8EncodeChar c, 0x80 ≤ b) := by
  have hv : c.val.toNat = c.toNat := rfl
  by_cases h1 : c.toNat ≤ 127
  · exact Or.inl ⟨by omega, by simp [String.utf8EncodeChar, hv, h1]⟩
  · refine Or.inr ⟨by omega, ?_, ?_⟩
    · simp only [String.utf8EncodeChar, hv, h1, if_false]
      split_ifs <;> simp
    · simp only [String.utf8EncodeChar, hv, h1, if_false]
      split_ifs <;> simp [UInt8.le_iff_toNat_le] <;> omega

theorem utf8_renders (s : String) : Renders (utf8 s) s.toList := by
  unfold utf8
  induction s.toList with
  | nil => exact Renders.nil
  | cons c cs ih =>
    rw [List.flatMap_cons]
    rcases utf8EncodeChar_cases c with ⟨hc, he⟩ | ⟨hc, hne, hw⟩
    · have hn : (UInt8.ofNat c.toNat).toNat = c.toNat := by
        rw [UInt8.toNat_ofNat']
        omega
      have hb : UInt8.ofNat c.toNat < 0x80 := by
        rw [UInt8.lt_iff_toNat_lt, hn]
        exact hc
      have h := Renders.ascii hb ih
      rw [hn, Char.ofNat_toNat] at h
      rwa [he]
    · exact Renders.wide hne hw hc ih

namespace Renders

theorem of_cons_ascii {b : UInt8} {bs : List UInt8} {cs : List Char} (hb : b < 0x80)
    (h : Renders (b :: bs) cs) : ∃ cs', cs = Char.ofNat b.toNat :: cs' ∧ Renders bs cs' := by
  generalize hl : b :: bs = l at h
  cases h with
  | nil => cases hl
  | ascii _ h =>
    cases hl
    exact ⟨_, rfl, h⟩
  | @wide chunk _ _ _ hne hw _ _ =>
    cases chunk with
    | nil => exact absurd rfl hne
    | cons x xs =>
      have hx := hw x List.mem_cons_self
      rw [List.cons_append, List.cons.injEq] at hl
      rw [← hl.1, UInt8.le_iff_toNat_le] at hx
      rw [UInt8.lt_iff_toNat_lt] at hb
      omega

theorem of_append_ascii {w bs : List UInt8} {cs : List Char} (hw : ∀ b ∈ w, b < 0x80)
    (h : Renders (w ++ bs) cs) :
    ∃ cs', cs = w.map (fun b => Char.ofNat b.toNat) ++ cs' ∧ Renders bs cs' := by
  induction w generalizing cs with
  | nil => exact ⟨cs, rfl, h⟩
  | cons b w ih =>
    obtain ⟨cs₁, rfl, h₁⟩ := of_cons_ascii (hw b List.mem_cons_self) h
    obtain ⟨cs₂, rfl, h₂⟩ := ih (fun x hx => hw x (List.mem_cons_of_mem _ hx)) h₁
    exact ⟨cs₂, rfl, h₂⟩

/-- An ASCII run inside the octets is shown verbatim inside the text. -/
theorem infix_ascii {bs w : List UInt8} {cs : List Char} (h : Renders bs cs)
    (hw : ∀ b ∈ w, b < 0x80) (hin : w <:+: bs) :
    w.map (fun b => Char.ofNat b.toNat) <:+: cs := by
  induction h with
  | nil =>
    obtain rfl := List.eq_nil_of_infix_nil hin
    exact List.nil_infix
  | @ascii b bs cs hb h ih =>
    rcases List.infix_cons_iff.mp hin with hp | hin
    · obtain ⟨t, ht⟩ := hp
      have hr : Renders (w ++ t) (Char.ofNat b.toNat :: cs) := ht ▸ Renders.ascii hb h
      obtain ⟨cs', hcs, _⟩ := of_append_ascii hw hr
      rw [hcs]
      exact (List.prefix_append _ _).isInfix
    · exact (ih hin).trans (List.suffix_cons _ _).isInfix
  | @wide chunk bs c cs hne hch hc h ih =>
    suffices hbs : w <:+: bs from (ih hbs).trans (List.suffix_cons _ _).isInfix
    -- the run cannot meet the chunk, since it holds no octet of it
    clear hne
    induction chunk with
    | nil => exact hin
    | cons x chunk ihc =>
      rcases List.infix_cons_iff.mp hin with hp | hin
      · cases w with
        | nil => exact List.nil_infix
        | cons y w =>
          obtain ⟨t, ht⟩ := hp
          rw [List.cons_append, List.cons.injEq] at ht
          have hy := hw y List.mem_cons_self
          have hx := hch x List.mem_cons_self
          rw [← ht.1, UInt8.le_iff_toNat_le] at hx
          rw [UInt8.lt_iff_toNat_lt] at hy
          omega
      · exact ihc (fun b hb => hch b (List.mem_cons_of_mem _ hb)) hin

end Renders

/-! ## Properties of octets and of characters that agree -/

/-- `p` holds of the ASCII octets whose character satisfies `q`, and neither
holds outside ASCII. -/
structure AsciiClass (p : UInt8 → Bool) (q : Char → Bool) : Prop where
  agree : ∀ b : UInt8, b < 0x80 → p b = q (Char.ofNat b.toNat)
  octet : ∀ b : UInt8, 0x80 ≤ b → p b = false
  char : ∀ c : Char, 0x80 ≤ c.toNat → q c = false

/-- One ASCII character. -/
theorem AsciiClass.single {b : UInt8} (hb : b < 0x80) :
    AsciiClass (fun x => x == b) (fun c => c == Char.ofNat b.toNat) where
  agree x _ := by
    rw [Bool.eq_iff_iff, beq_iff_eq, beq_iff_eq, ← Char.toNat_inj, toNat_charOfNat_byte,
      toNat_charOfNat_byte, UInt8.toNat_inj]
  octet x hx := by
    rw [Bool.eq_false_iff]
    intro h
    rw [beq_iff_eq.mp h] at hx
    exact absurd hb (UInt8.not_lt.mpr hx)
  char c hc := by
    rw [Bool.eq_false_iff]
    intro h
    rw [beq_iff_eq.mp h, toNat_charOfNat_byte] at hc
    rw [UInt8.lt_iff_toNat_lt] at hb
    exact absurd hb (Nat.not_lt.mpr hc)

theorem AsciiClass.or {p p' : UInt8 → Bool} {q q' : Char → Bool} (h : AsciiClass p q)
    (h' : AsciiClass p' q') : AsciiClass (fun b => p b || p' b) (fun c => q c || q' c) where
  agree b hb := by rw [h.agree b hb, h'.agree b hb]
  octet b hb := by rw [h.octet b hb, h'.octet b hb, Bool.or_false]
  char c hc := by rw [h.char c hc, h'.char c hc, Bool.or_false]

namespace Renders

variable {p : UInt8 → Bool} {q : Char → Bool} {bs : List UInt8} {cs : List Char}

theorem any_eq (hpq : AsciiClass p q) (h : Renders bs cs) : bs.any p = cs.any q := by
  induction h with
  | nil => rfl
  | ascii hb _ ih => rw [List.any_cons, List.any_cons, hpq.agree _ hb, ih]
  | wide _ hch hc _ ih =>
    rw [List.any_append, List.any_cons, hpq.char _ hc, ih,
      List.any_eq_false.mpr fun b hb => by rw [hpq.octet b (hch b hb)]; decide]

theorem all_eq (hpq : AsciiClass p q) (h : Renders bs cs) :
    (∀ b ∈ bs, p b = true) ↔ ∀ c ∈ cs, q c = true := by
  induction h with
  | nil => simp
  | ascii hb _ ih => rw [List.forall_mem_cons, List.forall_mem_cons, hpq.agree _ hb, ih]
  | @wide chunk _ c _ hne hch hc _ _ =>
    obtain ⟨x, hx⟩ := List.exists_mem_of_ne_nil chunk hne
    constructor
    · intro hall
      have := hall x (List.mem_append_left _ hx)
      rw [hpq.octet x (hch x hx)] at this
      cases this
    · intro hall
      have := hall c List.mem_cons_self
      rw [hpq.char c hc] at this
      cases this

end Renders

/-! ## Decoding an encoding -/

theorem toNat_octet {n : Nat} (h : n < 256) : (UInt8.ofNat n).toNat = n := by
  rw [UInt8.toNat_ofNat']
  omega

theorem utf8CharWidth_of_toNat {b : UInt8} (hb : 0xC2 ≤ b.toNat) (hb' : b.toNat ≤ 0xF4) :
    utf8CharWidth b = if b.toNat ≤ 0xDF then 2 else if b.toNat ≤ 0xEF then 3 else 4 := by
  simp only [utf8CharWidth, UInt8.lt_iff_toNat_lt, UInt8.le_iff_toNat_le, UInt8.reduceToNat]
  split_ifs <;> omega

theorem isContinuation_octet {n : Nat} : isContinuation (UInt8.ofNat (n % 64 + 0x80)) = true := by
  rw [isContinuation_iff, toNat_octet (by omega)]
  omega

theorem second3_octets {n : Nat} (hlo : 0x800 ≤ n) (hhi : n < 0x10000)
    (h : n < 0xD800 ∨ 0xDFFF < n) :
    second3 (UInt8.ofNat (n / 4096 % 16 + 0xE0)) (UInt8.ofNat (n / 64 % 64 + 0x80)) = true := by
  have hb := toNat_octet (by omega : n / 4096 % 16 + 0xE0 < 256)
  have hc := toNat_octet (by omega : n / 64 % 64 + 0x80 < 256)
  simp only [second3, isContinuation, UInt8.le_iff_toNat_le, ← UInt8.toNat_inj, hb, hc,
    UInt8.reduceToNat]
  split_ifs <;> simp only [decide_eq_true_eq] <;> omega

theorem second4_octets {n : Nat} (hlo : 0x10000 ≤ n) (hhi : n < 0x110000) :
    second4 (UInt8.ofNat (n / 262144 % 8 + 0xF0)) (UInt8.ofNat (n / 4096 % 64 + 0x80)) = true := by
  have hb := toNat_octet (by omega : n / 262144 % 8 + 0xF0 < 256)
  have hc := toNat_octet (by omega : n / 4096 % 64 + 0x80 < 256)
  simp only [second4, isContinuation, UInt8.le_iff_toNat_le, ← UInt8.toNat_inj, hb, hc,
    UInt8.reduceToNat]
  split_ifs <;> simp only [decide_eq_true_eq] <;> omega

theorem decodeLead_two {n : Nat} (hlo : 0x7F < n) (hhi : n ≤ 0x7FF) (rest : List UInt8) :
    decodeLead (UInt8.ofNat (n / 64 % 32 + 0xC0)) (UInt8.ofNat (n % 64 + 0x80) :: rest) =
      (Char.ofNat n, 1) := by
  have hb := toNat_octet (by omega : n / 64 % 32 + 0xC0 < 256)
  have hb1 := toNat_octet (by omega : n % 64 + 0x80 < 256)
  have hw := utf8CharWidth_of_toNat (by rw [hb]; omega) (by rw [hb]; omega)
  rw [if_pos (by rw [hb]; omega)] at hw
  have hsum : (n / 64 % 32 + 0xC0) % 32 * 64 + (n % 64 + 0x80) % 64 = n := by omega
  simp only [decodeLead, hw, lead2, List.getD_cons_zero, isContinuation_octet, hb, hb1, hsum]
  rfl

theorem decodeLead_three {n : Nat} (hlo : 0x7FF < n) (hhi : n ≤ 0xFFFF)
    (h : n < 0xD800 ∨ 0xDFFF < n) (rest : List UInt8) :
    decodeLead (UInt8.ofNat (n / 4096 % 16 + 0xE0))
        (UInt8.ofNat (n / 64 % 64 + 0x80) :: UInt8.ofNat (n % 64 + 0x80) :: rest) =
      (Char.ofNat n, 2) := by
  have hb := toNat_octet (by omega : n / 4096 % 16 + 0xE0 < 256)
  have hb1 := toNat_octet (by omega : n / 64 % 64 + 0x80 < 256)
  have hb2 := toNat_octet (by omega : n % 64 + 0x80 < 256)
  have hw := utf8CharWidth_of_toNat (by rw [hb]; omega) (by rw [hb]; omega)
  rw [if_neg (by rw [hb]; omega), if_pos (by rw [hb]; omega)] at hw
  have hsecond := second3_octets (by omega : 0x800 ≤ n) (by omega) h
  have hsum : (n / 4096 % 16 + 0xE0) % 16 * 4096 + (n / 64 % 64 + 0x80) % 64 * 64 +
      (n % 64 + 0x80) % 64 = n := by omega
  simp only [decodeLead, hw, lead3, List.getD_cons_zero, List.getD_cons_succ, hsecond,
    isContinuation_octet, hb, hb1, hb2, hsum]
  rfl

theorem decodeLead_four {n : Nat} (hlo : 0xFFFF < n) (hhi : n < 0x110000) (rest : List UInt8) :
    decodeLead (UInt8.ofNat (n / 262144 % 8 + 0xF0))
        (UInt8.ofNat (n / 4096 % 64 + 0x80) :: UInt8.ofNat (n / 64 % 64 + 0x80) ::
          UInt8.ofNat (n % 64 + 0x80) :: rest) =
      (Char.ofNat n, 3) := by
  have hb := toNat_octet (by omega : n / 262144 % 8 + 0xF0 < 256)
  have hb1 := toNat_octet (by omega : n / 4096 % 64 + 0x80 < 256)
  have hb2 := toNat_octet (by omega : n / 64 % 64 + 0x80 < 256)
  have hb3 := toNat_octet (by omega : n % 64 + 0x80 < 256)
  have hw := utf8CharWidth_of_toNat (by rw [hb]; omega) (by rw [hb]; omega)
  rw [if_neg (by rw [hb]; omega), if_neg (by rw [hb]; omega)] at hw
  have hsecond := second4_octets (by omega : 0x10000 ≤ n) hhi
  have hsum : (n / 262144 % 8 + 0xF0) % 8 * 262144 + (n / 4096 % 64 + 0x80) % 64 * 4096 +
      (n / 64 % 64 + 0x80) % 64 * 64 + (n % 64 + 0x80) % 64 = n := by omega
  simp only [decodeLead, hw, lead4, List.getD_cons_zero, List.getD_cons_succ, hsecond,
    isContinuation_octet, hb, hb1, hb2, hb3, hsum]
  rfl

/-- The octets of a character read back as that character, whatever follows. -/
theorem decodeLead_utf8EncodeChar (c : Char) :
    ∃ b tl, String.utf8EncodeChar c = b :: tl ∧
      ∀ rest, decodeLead b (tl ++ rest) = (c, tl.length) := by
  have hv : c.val.toNat = c.toNat := rfl
  have hvalid : c.toNat < 0xD800 ∨ 0xDFFF < c.toNat ∧ c.toNat < 0x110000 := c.valid
  have hc : Char.ofNat c.toNat = c := Char.ofNat_toNat c
  by_cases h1 : c.toNat ≤ 0x7F
  · refine ⟨UInt8.ofNat c.toNat, [], by simp [String.utf8EncodeChar, hv, h1], fun rest => ?_⟩
    have hn := toNat_octet (by omega : c.toNat < 256)
    rw [decodeLead_ascii (by rw [UInt8.lt_iff_toNat_lt, hn]; show _ < 128; omega), hn, hc]
    rfl
  by_cases h2 : c.toNat ≤ 0x7FF
  · refine ⟨UInt8.ofNat (c.toNat / 64 % 32 + 0xC0), [UInt8.ofNat (c.toNat % 64 + 0x80)],
      by simp [String.utf8EncodeChar, hv, h1, h2], fun rest => ?_⟩
    exact (decodeLead_two (by omega) h2 rest).trans (by rw [hc]; rfl)
  by_cases h3 : c.toNat ≤ 0xFFFF
  · refine ⟨UInt8.ofNat (c.toNat / 4096 % 16 + 0xE0),
      [UInt8.ofNat (c.toNat / 64 % 64 + 0x80), UInt8.ofNat (c.toNat % 64 + 0x80)],
      by simp [String.utf8EncodeChar, hv, h1, h2, h3], fun rest => ?_⟩
    exact (decodeLead_three (by omega) h3 (by omega) rest).trans (by rw [hc]; rfl)
  · refine ⟨UInt8.ofNat (c.toNat / 262144 % 8 + 0xF0),
      [UInt8.ofNat (c.toNat / 4096 % 64 + 0x80), UInt8.ofNat (c.toNat / 64 % 64 + 0x80),
        UInt8.ofNat (c.toNat % 64 + 0x80)],
      by simp [String.utf8EncodeChar, hv, h1, h2, h3], fun rest => ?_⟩
    exact (decodeLead_four (by omega) (by omega) rest).trans (by rw [hc]; rfl)

theorem lossyChars_of_le {n m : Nat} {bs : List UInt8} (hn : bs.length ≤ n) (hm : bs.length ≤ m) :
    lossyChars n bs = lossyChars m bs := by
  induction n generalizing m bs with
  | zero =>
    rw [List.eq_nil_of_length_eq_zero (by omega : bs.length = 0)]
    cases m <;> rfl
  | succ n ih =>
    cases bs with
    | nil => cases m <;> rfl
    | cons b rest =>
      rw [List.length_cons] at hn hm
      obtain ⟨m, rfl⟩ : ∃ k, m = k + 1 := ⟨m - 1, by omega⟩
      have hdrop : (rest.drop (decodeLead b rest).2).length ≤ rest.length := by
        rw [List.length_drop]
        omega
      exact congrArg (List.cons _) (ih (by omega) (by omega))

theorem lossyChars_encode (cs : List Char) (bs : List UInt8) {n : Nat}
    (hn : (cs.flatMap String.utf8EncodeChar ++ bs).length ≤ n) :
    lossyChars n (cs.flatMap String.utf8EncodeChar ++ bs) = cs ++ lossyChars bs.length bs := by
  induction cs generalizing n with
  | nil => exact lossyChars_of_le hn (Nat.le_refl _)
  | cons c cs ih =>
    obtain ⟨b, tl, henc, hlead⟩ := decodeLead_utf8EncodeChar c
    rw [List.flatMap_cons, henc, List.append_assoc, List.cons_append] at hn ⊢
    rw [List.length_cons, List.length_append] at hn
    obtain ⟨n, rfl⟩ : ∃ k, n = k + 1 := ⟨n - 1, by omega⟩
    rw [lossyChars, hlead, List.drop_left, ih (by omega)]
    rfl

/-- Decoding leaves a text in front of the octets as it is. -/
theorem fromUtf8Lossy_utf8_append (s : String) (bs : List UInt8) :
    fromUtf8Lossy (utf8 s ++ bs) = s ++ fromUtf8Lossy bs := by
  rw [fromUtf8Lossy, utf8, lossyChars_encode s.toList bs (Nat.le_refl _), String.ofList_append,
    String.ofList_toList]
  rfl

end Lib
end Rtpigate
