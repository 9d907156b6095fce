import AppLauncher.Proofs.Text.Utf8
import AppLauncher.Tar.Header
import Mathlib.Data.List.TakeWhile
import Mathlib.Tactic.Ring

/-!
# Numbers in headers of tar streams

A number in a header is written in octal digits, as many as its field has room for, and what is left
of the field holds NUL bytes or blanks.  A size that needs more digits is written in base 256
instead, after a byte with its top bit set.  The readers take a field apart in several steps: they
cut it at the first NUL byte, read it as text, trim the text, and read its digits.  The main
statements are `octal?_octalField` and `number?_sizeField`: what is written is read.
-/

namespace AppLauncher

/-! ### Reading digits -/

namespace Text

/-- Digits are read from left to right. -/
lemma digitsFrom?_append (base value : Nat) (cs ds : List Char) :
    digitsFrom? base value (cs ++ ds) =
      (digitsFrom? base value cs).bind fun value => digitsFrom? base value ds := by
  induction cs generalizing value with
  | nil => rfl
  | cons c cs ih =>
    rw [List.cons_append, digitsFrom?, digitsFrom?]
    cases digit? base c with
    | none => rfl
    | some d => exact ih (value * base + d)

/-- Trimming takes the blanks after a text, and nothing from a text without blanks. -/
lemma trim_append_blanks {cs blanks : List Char} (hcs : cs ≠ [])
    (hnot : ∀ c ∈ cs, isBlank c = false) (hblanks : ∀ c ∈ blanks, isBlank c = true) :
    trim (cs ++ blanks) = cs := by
  have hstart : trimStart (cs ++ blanks) = cs ++ blanks := by
    obtain ⟨c, rest, rfl⟩ := List.exists_cons_of_ne_nil hcs
    have hc : isBlank c = false := hnot c List.mem_cons_self
    simp [trimStart, hc]
  have hend : (cs ++ blanks).reverse.dropWhile isBlank = cs.reverse := by
    obtain ⟨last, before, hreverse⟩ :=
      List.exists_cons_of_ne_nil (fun h => hcs (List.reverse_eq_nil_iff.mp h))
    have hlast : isBlank last = false :=
      hnot last (List.mem_reverse.mp (hreverse ▸ List.mem_cons_self))
    rw [List.reverse_append, List.dropWhile_append_of_pos (by simpa using hblanks), hreverse,
      List.dropWhile_cons_of_neg (by simp [hlast])]
  unfold trim
  rw [hstart, trimEnd, hend, List.reverse_reverse]

end Text

namespace Tar

/-! ### Octal digits -/

/-- The last octal digits of a number, as many as there is room for. -/
def octalDigits : Nat → Nat → List UInt8
  | 0, _ => []
  | width + 1, n => octalDigits width (n / 8) ++ [(48 + n % 8).toUInt8]

/-- The bytes of text with one byte for each character. -/
def asciiChar (b : UInt8) : Char := Char.ofNat b.toNat

@[simp] lemma length_octalDigits (width n : Nat) : (octalDigits width n).length = width := by
  induction width generalizing n with
  | zero => rfl
  | succ width ih => simp [octalDigits, ih]

/-- An octal digit is one of eight bytes. -/
lemma exists_of_mem_octalDigits {width n : Nat} {b : UInt8} (h : b ∈ octalDigits width n) :
    ∃ d < 8, b = (48 + d).toUInt8 := by
  induction width generalizing n with
  | zero => cases h
  | succ width ih =>
    rcases List.mem_append.mp h with hinit | hlast
    · exact ih hinit
    · exact ⟨n % 8, by omega, List.mem_singleton.mp hlast⟩

/-- What the readers have to know about the bytes of octal digits. -/
lemma octalDigit_facts : ∀ d < 8, (48 + d).toUInt8.toNat < 0x80 ∧ (48 + d).toUInt8 ≠ 0 ∧
    Text.isBlank (asciiChar (48 + d).toUInt8) = false ∧ asciiChar (48 + d).toUInt8 ≠ '+' ∧
    Text.digit? 8 (asciiChar (48 + d).toUInt8) = some d := by
  decide

/-- Digits read after a value give the value and the part of the number there is room for. -/
lemma digitsFrom?_octalDigits (value width n : Nat) :
    Text.digitsFrom? 8 value ((octalDigits width n).map asciiChar) =
      some (value * 8 ^ width + n % 8 ^ width) := by
  induction width generalizing n with
  | zero => simp [octalDigits, Text.digitsFrom?, Nat.mod_one]
  | succ width ih =>
    obtain ⟨-, -, -, -, hdigit⟩ := octalDigit_facts (n % 8) (by omega)
    have hvalue : (value * 8 ^ width + n / 8 % 8 ^ width) * 8 + n % 8 =
        value * 8 ^ (width + 1) + n % 8 ^ (width + 1) := by
      rw [Nat.pow_succ', Nat.mod_mul]
      ring
    rw [octalDigits, List.map_append, Text.digitsFrom?_append, ih]
    simp only [List.map_cons, List.map_nil, Option.bind_some, Text.digitsFrom?, hdigit]
    rw [hvalue]

/-! ### Fields of numbers -/

/-- What follows the digits in the field of a number: NUL bytes and blanks, up to a given number of
them. -/
structure Ending (limit : Nat) where
  bytes : List UInt8
  length_le : bytes.length ≤ limit
  blank : ∀ b ∈ bytes, b = 0x00 ∨ b = 0x20

/-- A number in octal digits, as the field of a header holds it. -/
def octalField (width : Nat) {limit : Nat} (ending : Ending limit) (n : Nat) : List UInt8 :=
  octalDigits (width - ending.bytes.length) n ++ ending.bytes

/-- A field is as long as it has to be. -/
lemma length_octalField {width limit : Nat} (ending : Ending limit) (h : limit ≤ width) (n : Nat) :
    (octalField width ending n).length = width := by
  have hle := ending.length_le
  simp only [octalField, List.length_append, length_octalDigits]
  omega

/-- Up to the first NUL byte, a field holds the digits and blanks. -/
lemma untilNul_octalField (width : Nat) {limit : Nat} (ending : Ending limit) (n : Nat) :
    ∃ blanks : List UInt8, (∀ b ∈ blanks, b = 0x20) ∧
      untilNul (octalField width ending n) =
        octalDigits (width - ending.bytes.length) n ++ blanks := by
  refine ⟨untilNul ending.bytes, fun b hb => ?_, ?_⟩
  · have hne : b ≠ 0 := by simpa using List.mem_takeWhile_imp hb
    rcases ending.blank b ((List.takeWhile_prefix _).subset hb) with rfl | rfl
    · exact absurd rfl hne
    · rfl
  · unfold untilNul octalField
    rw [List.takeWhile_append_of_pos]
    intro b hb
    obtain ⟨d, hd, rfl⟩ := exists_of_mem_octalDigits hb
    simpa using (octalDigit_facts d hd).2.1

/-- Octal digits are characters of their own, and the text of them is trimmed of what follows. -/
lemma trim_decode_octalDigits {width n : Nat} (hwidth : 0 < width) {blanks : List UInt8}
    (hblanks : ∀ b ∈ blanks, b = 0x20) :
    Text.trim (Text.Utf8.decode (octalDigits width n ++ blanks)) =
      (octalDigits width n).map asciiChar := by
  have hascii : ∀ b ∈ octalDigits width n ++ blanks, b.toNat < 0x80 := by
    intro b hb
    rcases List.mem_append.mp hb with hdigit | hblank
    · obtain ⟨d, hd, rfl⟩ := exists_of_mem_octalDigits hdigit
      exact (octalDigit_facts d hd).1
    · rw [hblanks b hblank]
      decide
  have hne : (octalDigits width n).map asciiChar ≠ [] := by
    intro hnil
    have hlength := congrArg List.length hnil
    rw [List.length_map, length_octalDigits, List.length_nil] at hlength
    omega
  rw [Text.Utf8.decode_ascii hascii, List.map_append]
  apply Text.trim_append_blanks hne
  · intro c hc
    obtain ⟨b, hb, rfl⟩ := List.mem_map.mp hc
    obtain ⟨d, hd, rfl⟩ := exists_of_mem_octalDigits hb
    exact (octalDigit_facts d hd).2.2.1
  · intro c hc
    obtain ⟨b, hb, rfl⟩ := List.mem_map.mp hc
    rw [hblanks b hb]
    decide

/-- A number is read from its octal digits, if there are enough of them. -/
lemma unsigned?_octalDigits {width n bound : Nat} (hwidth : 0 < width) (hfits : n < 8 ^ width)
    (hbound : n < bound) :
    Text.unsigned? 8 bound ((octalDigits width n).map asciiChar) = some n := by
  have hempty : ((octalDigits width n).map asciiChar).isEmpty = false := by
    rw [List.isEmpty_eq_false_iff]
    intro hnil
    have hlength := congrArg List.length hnil
    rw [List.length_map, length_octalDigits, List.length_nil] at hlength
    omega
  have hread : Text.digits? 8 ((octalDigits width n).map asciiChar) = some n := by
    unfold Text.digits?
    rw [hempty, if_neg Bool.false_ne_true, digitsFrom?_octalDigits, Nat.mod_eq_of_lt hfits,
      Nat.zero_mul, Nat.zero_add]
  unfold Text.unsigned?
  -- digits are not taken for a sign
  split
  · rename_i rest hplus
    have hmem : '+' ∈ (octalDigits width n).map asciiChar := hplus ▸ List.mem_cons_self
    obtain ⟨b, hb, hchar⟩ := List.mem_map.mp hmem
    obtain ⟨d, hd, rfl⟩ := exists_of_mem_octalDigits hb
    exact absurd hchar (octalDigit_facts d hd).2.2.2.1
  · dsimp only
    rw [hread]
    simp [hbound]

/-- A number in octal digits is read, if the field has room for it. -/
lemma octal?_octalField {width limit n : Nat} (ending : Ending limit) (hroom : limit < width)
    (hfits : n < 8 ^ (width - limit)) (hbound : n < sizeBound) :
    octal? (octalField width ending n) = some n := by
  obtain ⟨blanks, hblanks, huntil⟩ := untilNul_octalField width ending n
  have hle := ending.length_le
  have hwidth : 0 < width - ending.bytes.length := by omega
  have hdigits : n < 8 ^ (width - ending.bytes.length) :=
    Nat.lt_of_lt_of_le hfits (Nat.pow_le_pow_right (by decide) (by omega))
  unfold octal?
  rw [huntil, trim_decode_octalDigits hwidth hblanks, unsigned?_octalDigits hwidth hdigits hbound]

/-- A field in octal digits starts with a digit, so it does not look like one in base 256. -/
lemma head?_octalField {width limit : Nat} (ending : Ending limit) (hroom : limit < width)
    (n : Nat) : ∃ b, (octalField width ending n).head? = some b ∧ b.toNat < 0x80 := by
  have hle := ending.length_le
  have hne : octalDigits (width - ending.bytes.length) n ≠ [] := by
    intro hnil
    have hlength := congrArg List.length hnil
    rw [length_octalDigits, List.length_nil] at hlength
    omega
  obtain ⟨b, rest, hdigits⟩ := List.exists_cons_of_ne_nil hne
  have hmem : b ∈ octalDigits (width - ending.bytes.length) n := hdigits ▸ List.mem_cons_self
  obtain ⟨d, hd, rfl⟩ := exists_of_mem_octalDigits hmem
  refine ⟨_, ?_, (octalDigit_facts d hd).1⟩
  rw [octalField, hdigits]
  rfl

/-! ### Sizes -/

/-- A number as the given count of bytes, most significant byte first. -/
def bigEndianBytes : Nat → Nat → List UInt8
  | 0, _ => []
  | count + 1, n => bigEndianBytes count (n / 256) ++ [UInt8.ofNat (n % 256)]

@[simp] lemma length_bigEndianBytes (count n : Nat) : (bigEndianBytes count n).length = count := by
  induction count generalizing n with
  | zero => rfl
  | succ count ih => simp [bigEndianBytes, ih]

/-- A number is read from as many bytes as it takes. -/
lemma bigEndian_bigEndianBytes {count n : Nat} (h : n < 256 ^ count) :
    bigEndian (bigEndianBytes count n) = n := by
  induction count generalizing n with
  | zero =>
    have hn : n = 0 := by simpa using h
    rw [hn]
    rfl
  | succ count ih =>
    have hinit : n / 256 < 256 ^ count := by
      rw [Nat.div_lt_iff_lt_mul (by decide), ← Nat.pow_succ]
      exact h
    have hlast : (UInt8.ofNat (n % 256)).toNat = n % 256 := by
      rw [UInt8.toNat_ofNat']
      omega
    have happend : bigEndian (bigEndianBytes (count + 1) n) =
        bigEndian (bigEndianBytes count (n / 256)) * 256 + (UInt8.ofNat (n % 256)).toNat := by
      simp [bigEndian, bigEndianBytes]
    rw [happend, ih hinit, hlast]
    omega

/-- The field of a size: in octal digits below 8 GiB, and in base 256 from there on. -/
def sizeField (ending : Ending 1) (n : Nat) : List UInt8 :=
  if n < 8 ^ 11 then octalField 12 ending n else [0x80, 0, 0, 0] ++ bigEndianBytes 8 n

/-- The field of a size has twelve bytes. -/
@[simp] lemma length_sizeField (ending : Ending 1) (n : Nat) :
    (sizeField ending n).length = 12 := by
  unfold sizeField
  split
  · exact length_octalField ending (by decide) n
  · simp

/-- A size is read from its field. -/
lemma number?_sizeField (ending : Ending 1) {n : Nat} (h : n < sizeBound) :
    number? (sizeField ending n) = some n := by
  unfold sizeField
  split
  · rename_i hoctal
    have hread : octal? (octalField 12 ending n) = some n :=
      octal?_octalField ending (by decide) hoctal h
    obtain ⟨b, hhead, hascii⟩ : ∃ b, (octalField 12 ending n).head? = some b ∧ b.toNat < 0x80 :=
      head?_octalField ending (by decide) n
    have hlow : ¬b ≥ 0x80 := by
      rw [ge_iff_le, UInt8.le_iff_toNat_le]
      show ¬0x80 ≤ _
      omega
    unfold number?
    rw [hhead, hread]
    exact if_neg hlow
  · have hdrop : ([0x80, 0, 0, 0] ++ bigEndianBytes 8 n).drop
        (([0x80, 0, 0, 0] ++ bigEndianBytes 8 n).length - 8) = bigEndianBytes 8 n := by
      rw [List.length_append, length_bigEndianBytes]
      rfl
    have hfits : n < 256 ^ 8 := h
    unfold number?
    show (if (0x80 : UInt8) ≥ 0x80 then some (bigEndian _) else _) = _
    rw [if_pos (by decide), hdrop, bigEndian_bigEndianBytes hfits]

end Tar

end AppLauncher
