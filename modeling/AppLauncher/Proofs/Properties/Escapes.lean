import AppLauncher.Proofs.Properties.Signs
import Mathlib.Data.List.Induction

/-!
# Escapes by number

Behind a backslash and a `u` a text gives the number of a character in four digits of base 16.  A
reader takes up to four characters there and has them read as a number.  If they are the four
digits of a character (`IsNumeral`), it gives this character, and if they are no number at all, the
escape stays as it is written (`byNumber_of_isNumeral`, `byNumber_eq_self`).

The reader of numbers is not one for digits only, though: it takes a plus sign, and it does not ask
for four digits.  Characters that it reads as a number for one of these reasons are loose
(`IsLoose`), and they are all that can go wrong (`unescape_number_iff`).
-/

namespace AppLauncher.Properties

open Text

/-! ### Digits of base 16 -/

/-- The digits of base 16, by their values. -/
def hexDigits : List Char := "0123456789abcdef".toList

/-- A digit of base 16, in lower or upper case. -/
def isHexDigit (c : Char) : Bool := c.toLower ∈ hexDigits

/-- The value of a digit of base 16. -/
def hexValue (c : Char) : Nat := hexDigits.idxOf c.toLower

/-- The number that some digits of base 16 are written for. -/
def hexNumber (digits : List Char) : Nat := digits.foldl (fun n c => n * 16 + hexValue c) 0

/-- A digit is a character of one byte. -/
lemma toNat_lt_of_isHexDigit {c : Char} (h : isHexDigit c) : c.toNat < 0x80 := by
  have hlower : hexDigits.all (·.toNat < 0x80) = true := by decide
  have hsmall := of_decide_eq_true (List.all_eq_true.mp hlower _ (of_decide_eq_true h))
  unfold Char.toLower at hsmall
  split at hsmall
  · rename_i hupper
    have hle : c.toNat ≤ 'Z'.toNat := UInt32.le_iff_toNat_le.mp hupper.2
    exact Nat.lt_of_le_of_lt hle (by decide)
  · exact hsmall

/-- A digit of base 16 is read with its value, and nothing else is read as a digit. -/
lemma digit?_sixteen (c : Char) :
    digit? 16 c = if isHexDigit c then some (hexValue c) else none := by
  by_cases hsmall : c.toNat < 0x80
  · have htable : ∀ n < 0x80, digit? 16 (Char.ofNat n) =
        if isHexDigit (Char.ofNat n) then some (hexValue (Char.ofNat n)) else none := by
      decide +kernel
    have hentry := htable c.toNat hsmall
    rwa [Char.ofNat_toNat] at hentry
  · rw [if_neg fun h => hsmall (toNat_lt_of_isHexDigit h)]
    have h₀ : ¬ (0x30 ≤ c.toNat ∧ c.toNat ≤ 0x39) := by omega
    have h₁ : ¬ (0x41 ≤ c.toNat ∧ c.toNat ≤ 0x46) := by omega
    have h₂ : ¬ (0x61 ≤ c.toNat ∧ c.toNat ≤ 0x66) := by omega
    simp only [digit?, if_neg h₀, if_neg h₁, if_neg h₂, Option.filter_none]

/-- The value of a digit is less than 16. -/
lemma hexValue_lt {c : Char} (h : isHexDigit c) : hexValue c < 16 :=
  List.idxOf_lt_length_iff.mpr (of_decide_eq_true h)

/-- A plus sign is no digit. -/
lemma isHexDigit_plus : isHexDigit '+' = false := by decide

/-- Digits are read after a number, and nothing else is. -/
lemma digitsFrom?_sixteen (n : Nat) (cs : List Char) :
    digitsFrom? 16 n cs =
      if cs.all isHexDigit then some (cs.foldl (fun n c => n * 16 + hexValue c) n) else none := by
  induction cs generalizing n with
  | nil => rfl
  | cons c cs ih =>
    rw [digitsFrom?, digit?_sixteen, List.all_cons, List.foldl_cons]
    cases hc : isHexDigit c with
    | false => rfl
    | true => exact ih _

/-- A run of digits is read as its number, and nothing else is. -/
lemma digits?_sixteen (cs : List Char) :
    digits? 16 cs = if cs ≠ [] ∧ cs.all isHexDigit then some (hexNumber cs) else none := by
  cases cs with
  | nil => rfl
  | cons c cs =>
    have hread := digitsFrom?_sixteen 0 (c :: cs)
    simpa only [digits?, List.isEmpty_cons, Bool.false_eq_true, if_false, ne_eq, reduceCtorEq,
      not_false_eq_true, true_and, hexNumber] using hread

/-- As many digits give a number below the power of 16 for them. -/
lemma hexNumber_lt {digits : List Char} (h : digits.all isHexDigit) :
    hexNumber digits < Nat.pow 16 digits.length := by
  induction digits using List.reverseRecOn with
  | nil => exact Nat.one_pos
  | append_singleton digits c ih =>
    simp only [List.all_append, List.all_cons, List.all_nil, Bool.and_true, Bool.and_eq_true] at h
    have hfront := ih h.1
    have hvalue := hexValue_lt h.2
    have hnumber : hexNumber (digits ++ [c]) = hexNumber digits * 16 + hexValue c := by
      unfold hexNumber
      rw [List.foldl_append, List.foldl_cons, List.foldl_nil]
    have hpower : Nat.pow 16 (digits ++ [c]).length = Nat.pow 16 digits.length * 16 := by
      rw [List.length_append]
      rfl
    omega

/-- At most `n` digits give a number below the power of 16 for `n` digits. -/
lemma hexNumber_lt_of_length {digits : List Char} {n : Nat} (h : digits.all isHexDigit)
    (hlength : digits.length ≤ n) : hexNumber digits < Nat.pow 16 n :=
  Nat.lt_of_lt_of_le (hexNumber_lt h) (Nat.pow_le_pow_right (by decide) hlength)

/-! ### Numbers of characters -/

/-- Four digits of base 16 that are the number of a character. -/
structure IsNumeral (cs : List Char) : Prop where
  length : cs.length = 4
  digits : cs.all isHexDigit
  valid : (hexNumber cs).isValidChar

/-- Digits of base 16, but fewer than four of them. -/
structure IsShort (cs : List Char) : Prop where
  ne_nil : cs ≠ []
  digits : cs.all isHexDigit
  length : cs.length < 4

/-- What is read as a number although it is not four digits of base 16. -/
def IsLoose (cs : List Char) : Prop :=
  ∃ digits, IsShort digits ∧ (cs = digits ∨ cs = '+' :: digits)

instance (cs : List Char) : Decidable (IsNumeral cs) :=
  decidable_of_iff (cs.length = 4 ∧ cs.all isHexDigit ∧ (hexNumber cs).isValidChar)
    ⟨fun h => ⟨h.1, h.2.1, h.2.2⟩, fun h => ⟨h.length, h.digits, h.valid⟩⟩

instance (cs : List Char) : Decidable (IsShort cs) :=
  decidable_of_iff (cs ≠ [] ∧ cs.all isHexDigit ∧ cs.length < 4)
    ⟨fun h => ⟨h.1, h.2.1, h.2.2⟩, fun h => ⟨h.ne_nil, h.digits, h.length⟩⟩

/-- What an escape by number should stand for: the character that its four digits are the number
of, and otherwise the escape as it is written. -/
def meantByNumber (cs : List Char) : List Char :=
  if IsNumeral cs then [Char.ofNat (hexNumber cs)] else '\\' :: 'u' :: cs

/-- What is loose is no numeral. -/
lemma IsLoose.not_isNumeral {cs : List Char} (h : IsLoose cs) : ¬ IsNumeral cs := by
  rintro ⟨hlength, hdigits, -⟩
  obtain ⟨digits, hshort, rfl | rfl⟩ := h
  · exact Nat.ne_of_lt hshort.length hlength
  · rw [List.all_cons, isHexDigit_plus] at hdigits
    cases hdigits

/-- Fewer than four digits are always the number of a character. -/
lemma IsShort.isValidChar {cs : List Char} (h : IsShort cs) : (hexNumber cs).isValidChar := by
  have hlt := hexNumber_lt_of_length h.digits (Nat.le_of_lt_succ h.length)
  exact .inl (Nat.lt_trans hlt (by decide))

/-! ### What an escape by number gives -/

/-- The digits of a number that may have a plus sign. -/
def withoutPlus : List Char → List Char
  | '+' :: digits => digits
  | cs => cs

/-- At most a plus sign is left out. -/
lemma eq_or_eq_plus_cons (cs : List Char) : cs = withoutPlus cs ∨ cs = '+' :: withoutPlus cs := by
  unfold withoutPlus
  split
  · exact .inr rfl
  · exact .inl rfl

/-- Without a plus sign nothing is left out. -/
lemma withoutPlus_eq_self {cs : List Char} (h : ∀ digits, cs ≠ '+' :: digits) :
    withoutPlus cs = cs :=
  ((eq_or_eq_plus_cons cs).resolve_right (h _)).symm

/-- Digits have no plus sign. -/
lemma withoutPlus_of_digits {digits : List Char} (h : digits.all isHexDigit) :
    withoutPlus digits = digits := by
  refine withoutPlus_eq_self fun rest heq => ?_
  rw [heq, List.all_cons, isHexDigit_plus] at h
  cases h

/-- At most four characters are read as a number if they are digits, which may have a plus sign. -/
lemma unsigned?_sixteen {cs : List Char} (hlength : cs.length ≤ 4) :
    unsigned? 16 (wordBound 32) cs =
      if withoutPlus cs ≠ [] ∧ (withoutPlus cs).all isHexDigit then
        some (hexNumber (withoutPlus cs)) else none := by
  have hread : unsigned? 16 (wordBound 32) cs =
      (digits? 16 (withoutPlus cs)).filter (· < wordBound 32) := by
    unfold unsigned?
    split
    · rfl
    · rename_i hplus
      rw [withoutPlus_eq_self hplus]
  rw [hread, digits?_sixteen]
  split
  · rename_i hdigits
    have hshorter : (withoutPlus cs).length ≤ 4 := by
      rcases eq_or_eq_plus_cons cs with heq | heq
      · rwa [← heq]
      · rw [heq, List.length_cons] at hlength
        exact Nat.le_of_succ_le hlength
    have hlt := hexNumber_lt_of_length hdigits.2 hshorter
    have hbound : hexNumber (withoutPlus cs) < wordBound 32 := Nat.lt_trans hlt (by decide)
    exact Option.filter_some_pos (decide_eq_true hbound)
  · rfl

/-- An escape gives the character of the number that is read, if there is one. -/
lemma byNumber_of_digits {cs digits : List Char} (hlength : cs.length ≤ 4)
    (hplus : withoutPlus cs = digits) (hne : digits ≠ []) (hdigits : digits.all isHexDigit)
    (hvalid : (hexNumber digits).isValidChar) : byNumber cs = [Char.ofNat (hexNumber digits)] := by
  unfold byNumber
  rw [unsigned?_sixteen hlength, hplus, if_pos ⟨hne, hdigits⟩, Option.bind_some, scalar?,
    if_pos hvalid]

/-- Four digits of base 16 give the character that they are the number of. -/
lemma byNumber_of_isNumeral {cs : List Char} (h : IsNumeral cs) :
    byNumber cs = [Char.ofNat (hexNumber cs)] := by
  have hne : cs ≠ [] := List.ne_nil_of_length_pos (h.length ▸ Nat.succ_pos 3)
  exact byNumber_of_digits (Nat.le_of_eq h.length) (withoutPlus_of_digits h.digits) hne h.digits
    h.valid

/-- Fewer than four digits give a character all the same, with and without a plus sign. -/
lemma byNumber_of_isShort {digits : List Char} (h : IsShort digits) {cs : List Char}
    (hcs : cs = digits ∨ cs = '+' :: digits) : byNumber cs = [Char.ofNat (hexNumber digits)] := by
  rcases hcs with rfl | rfl
  · exact byNumber_of_digits (Nat.le_of_lt h.length) (withoutPlus_of_digits h.digits) h.ne_nil
      h.digits
      h.isValidChar
  · exact byNumber_of_digits h.length rfl h.ne_nil h.digits h.isValidChar

/-- Anything else stays as it is written. -/
lemma byNumber_eq_self {cs : List Char} (hlength : cs.length ≤ 4) (hnumeral : ¬ IsNumeral cs)
    (hloose : ¬ IsLoose cs) : byNumber cs = '\\' :: 'u' :: cs := by
  unfold byNumber
  rw [unsigned?_sixteen hlength]
  split
  · rename_i c hread
    exfalso
    split at hread
    · rename_i hdigits
      -- digits that are read: fewer than four of them are loose, and four of them have no plus sign
      by_cases hfew : (withoutPlus cs).length < 4
      · exact hloose ⟨_, ⟨hdigits.1, hdigits.2, hfew⟩, eq_or_eq_plus_cons cs⟩
      · rcases eq_or_eq_plus_cons cs with heq | heq
        · rw [← heq] at hdigits hfew hread
          rw [Option.bind_some, scalar?] at hread
          split at hread
          · rename_i hvalid
            exact hnumeral ⟨by omega, hdigits.2, hvalid⟩
          · cases hread
        · rw [heq, List.length_cons] at hlength
          omega
    · cases hread
  · rfl

/-- An escape by number stands for what it should exactly if it is not loose. -/
lemma byNumber_eq_meantByNumber_iff {cs : List Char} (hlength : cs.length ≤ 4) :
    byNumber cs = meantByNumber cs ↔ ¬ IsLoose cs := by
  unfold meantByNumber
  constructor
  · rintro heq ⟨digits, hshort, hcs⟩
    have hnumeral := IsLoose.not_isNumeral ⟨digits, hshort, hcs⟩
    rw [if_neg hnumeral, byNumber_of_isShort hshort hcs] at heq
    exact List.cons_ne_nil _ _ (List.cons.inj heq).2.symm
  · intro hloose
    split
    · rename_i hnumeral
      exact byNumber_of_isNumeral hnumeral
    · rename_i hnumeral
      exact byNumber_eq_self hlength hnumeral hloose

/-! ### Escapes in a text -/

/-- A text that ends with no part of an escape: a backslash behind it begins one. -/
inductive Whole : List Char → Prop
  | nil : Whole []
  | plain {c : Char} {cs : List Char} (hc : c ≠ '\\') : Whole cs → Whole (c :: cs)
  | marked {c : Char} {cs : List Char} (hc : c ≠ 'u') : Whole cs → Whole ('\\' :: c :: cs)
  | number (a b c d : Char) {cs : List Char} :
      Whole cs → Whole ('\\' :: 'u' :: a :: b :: c :: d :: cs)

/-- A backslash marks the character behind it, unless a number is announced. -/
lemma unescape_marked {c : Char} (hc : c ≠ 'u') (rest : List Char) :
    unescape ('\\' :: c :: rest) = escaped c :: unescape rest := by
  rw [unescape.eq_def]
  split <;> grind

/-- What is read behind a whole text does not depend on it. -/
lemma Whole.unescape_append {before : List Char} (h : Whole before) (rest : List Char) :
    unescape (before ++ rest) = unescape before ++ unescape rest := by
  induction h with
  | nil => rfl
  | plain hc _ ih =>
    rw [List.cons_append, unescape_cons hc, unescape_cons hc, ih]
    rfl
  | marked hc _ ih =>
    rw [List.cons_append, List.cons_append, unescape_marked hc, unescape_marked hc, ih]
    rfl
  | number a b c d _ ih =>
    simp only [List.cons_append, unescape, ih, List.append_assoc]

/-- Up to four characters belong to an escape by number. -/
lemma unescape_number (rest : List Char) :
    unescape ('\\' :: 'u' :: rest) = byNumber (rest.take 4) ++ unescape (rest.drop 4) := by
  match rest with
  | [] => rfl
  | [a] => exact (List.append_nil _).symm
  | [a, b] => exact (List.append_nil _).symm
  | [a, b, c] => exact (List.append_nil _).symm
  | a :: b :: c :: d :: rest => rfl

/-- An escape by number in a text is read as it is meant, and the text goes on behind it, exactly if
the up to four characters of the escape are not loose.  If they are, it is read as the character of
the number without its plus sign and without the digits that it lacks. -/
theorem unescape_number_iff {before : List Char} (h : Whole before) (rest : List Char) :
    (unescape (before ++ '\\' :: 'u' :: rest) =
        unescape before ++ (meantByNumber (rest.take 4) ++ unescape (rest.drop 4)) ↔
      ¬ IsLoose (rest.take 4)) ∧
    ∀ digits, IsShort digits → (rest.take 4 = digits ∨ rest.take 4 = '+' :: digits) →
      unescape (before ++ '\\' :: 'u' :: rest) =
        unescape before ++ Char.ofNat (hexNumber digits) :: unescape (rest.drop 4) := by
  have hlength : (rest.take 4).length ≤ 4 := List.length_take_le 4 rest
  rw [h.unescape_append, unescape_number]
  constructor
  · rw [List.append_cancel_left_eq, List.append_cancel_right_eq]
    exact byNumber_eq_meantByNumber_iff hlength
  · intro digits hshort hcs
    rw [byNumber_of_isShort hshort hcs]
    rfl

/-- Behind an escaped backslash and an escape that stays as it is written, four digits give their
character, and so do three digits with a plus sign. -/
theorem unescape_number_iff_sample :
    Whole "\\\\u\\u+0g1".toList ∧ ¬ IsLoose "00e9".toList ∧ IsShort "041".toList ∧
    unescape "\\\\u\\u+0g1\\u00e9!".toList = "\\u\\u+0g1é!".toList ∧
    unescape "\\\\u\\u+0g1\\u+041!".toList = "\\u\\u+0g1A!".toList := by
  have hwhole : Whole "\\\\u\\u+0g1".toList :=
    .marked (by decide) (.plain (by decide) (.number '+' '0' 'g' '1' .nil))
  have hloose : ¬ IsLoose "00e9".toList := fun h => h.not_isNumeral (by decide)
  have hshort : IsShort "041".toList := by decide
  have hmeant := (unescape_number_iff hwhole "00e9!".toList).1.mpr hloose
  have hread := (unescape_number_iff hwhole "+041!".toList).2 _ hshort (.inr rfl)
  exact ⟨hwhole, hloose, hshort, hmeant.trans (by decide), hread.trans (by decide)⟩

/-- A plus sign with three digits, and two digits at the end of a text, are read as a character,
though neither are four digits. -/
theorem unescape_loose_number :
    unescape "\\u+041".toList = ['A'] ∧ meantByNumber "+041".toList = "\\u+041".toList ∧
    unescape "\\u41".toList = ['A'] ∧ meantByNumber "41".toList = "\\u41".toList := by
  decide +kernel

end AppLauncher.Properties
