import AppLauncher.Proofs.Properties.Joining

/-!
# The signs of a properties text

A key or a value is written sign by sign: a character stands for itself, or an escape stands for it.
Three readers go over such a text, and each has to agree with the writer about what a backslash
means.  For the one that joins lines a sign is a piece of a line (`Sign.isPiece`), for the one that
cuts off the key a sign is part of the key (`Sign.cutKey_chars`), and the last one reads a sign as
the character that it stands for (`Sign.unescape_chars`).
-/

namespace AppLauncher.Properties

open Text

/-! ### Signs -/

/-- The characters that are written with a backslash in front. -/
def isMarked (c : Char) : Bool :=
  c = '\\' || c = ' ' || c = '=' || c = ':' || c = '#' || c = '!'

/-- The characters that are written as a backslash and a letter. -/
inductive Control where
  | tab
  | lineFeed
  | carriageReturn
  | formFeed
deriving DecidableEq, Repr

namespace Control

/-- The character that is meant. -/
def char : Control → Char
  | tab => '\t'
  | lineFeed => '\n'
  | carriageReturn => '\r'
  | formFeed => '\x0c'

/-- The letter that it is written with. -/
def letter : Control → Char
  | tab => 't'
  | lineFeed => 'n'
  | carriageReturn => 'r'
  | formFeed => 'f'

end Control

/-- A digit of base 16 with the given value. -/
def hexDigit (isUpper : Bool) (value : Nat) : Char :=
  Char.ofNat (if value < 10 then 0x30 + value else (if isUpper then 0x37 else 0x57) + value)

/-- A character as it is written. -/
inductive Sign where
  /-- A character that means nothing to a reader and is not blank stands for itself. -/
  | plain (c : Char) (unmarked : isMarked c = false) (visible : isBlank c = false)
  | marked (c : Char) (marked : isMarked c = true)
  | control (control : Control)
  /-- Every character whose number has four digits of base 16 can be written by its number. -/
  | number (c : Char) (short : c.toNat < 0x10000) (isUpper : Fin 4 → Bool)

namespace Sign

/-- The character that a sign stands for. -/
def char : Sign → Char
  | plain c _ _ => c
  | marked c _ => c
  | control k => k.char
  | number c _ _ => c

/-- The digits of the number of a character. -/
def digits (c : Char) (isUpper : Fin 4 → Bool) : List Char :=
  [hexDigit (isUpper 0) (c.toNat / 0x1000), hexDigit (isUpper 1) (c.toNat / 0x100 % 0x10),
    hexDigit (isUpper 2) (c.toNat / 0x10 % 0x10), hexDigit (isUpper 3) (c.toNat % 0x10)]

/-- The characters of a sign. -/
def chars : Sign → List Char
  | plain c _ _ => [c]
  | marked c _ => ['\\', c]
  | control k => ['\\', k.letter]
  | number c _ isUpper => '\\' :: 'u' :: digits c isUpper

/-- Every character has a sign. -/
lemma exists_char_eq (c : Char) : ∃ sign : Sign, sign.char = c := by
  cases hmarked : isMarked c with
  | true => exact ⟨marked c hmarked, rfl⟩
  | false =>
    cases hblank : isBlank c with
    | false => exact ⟨plain c hmarked hblank, rfl⟩
    | true =>
      have hshort : c.toNat < 0x10000 := by
        simp only [isBlank, Bool.or_eq_true, Bool.and_eq_true, decide_eq_true_eq, beq_iff_eq]
          at hblank
        omega
      exact ⟨number c hshort fun _ => false, rfl⟩

/-! ### Reading signs -/

/-- A digit of base 16 is read with its value. -/
lemma digit?_hexDigit (isUpper : Bool) (value : Nat) (h : value < 0x10) :
    digit? 16 (hexDigit isUpper value) = some value := by
  revert isUpper value
  decide

/-- A digit of base 16 means nothing else to a reader. -/
lemma hexDigit_notMem (isUpper : Bool) {value : Nat} (h : value < 0x10) :
    hexDigit isUpper value ∉ ['+', '\\', '\n', '\r', '=', ':', ' ', '\t', '\x0c'] := by
  revert isUpper value
  decide

/-- The digits of a number are digits. -/
lemma exists_of_mem_digits {c d : Char} {isUpper : Fin 4 → Bool} (hc : c.toNat < 0x10000)
    (h : d ∈ digits c isUpper) : ∃ u, ∃ value < 0x10, d = hexDigit u value := by
  simp only [digits, List.mem_cons, List.not_mem_nil, or_false] at h
  rcases h with rfl | rfl | rfl | rfl
  · exact ⟨_, _, by omega, rfl⟩
  · exact ⟨_, _, Nat.mod_lt _ (by decide), rfl⟩
  · exact ⟨_, _, Nat.mod_lt _ (by decide), rfl⟩
  · exact ⟨_, _, Nat.mod_lt _ (by decide), rfl⟩

/-- The digits of a number mean nothing else to a reader. -/
lemma ne_of_mem_digits {c d : Char} {isUpper : Fin 4 → Bool} (hc : c.toNat < 0x10000)
    (h : d ∈ digits c isUpper) : d ∉ ['+', '\\', '\n', '\r', '=', ':', ' ', '\t', '\x0c'] := by
  obtain ⟨u, value, hvalue, rfl⟩ := exists_of_mem_digits hc h
  exact hexDigit_notMem u hvalue

/-- The digits of a number are read as the number. -/
lemma digits?_digits {c : Char} (hc : c.toNat < 0x10000) (isUpper : Fin 4 → Bool) :
    digits? 16 (digits c isUpper) = some c.toNat := by
  have h₀ := digit?_hexDigit (isUpper 0) (c.toNat / 0x1000) (by omega)
  have h₁ := digit?_hexDigit (isUpper 1) (c.toNat / 0x100 % 0x10) (by omega)
  have h₂ := digit?_hexDigit (isUpper 2) (c.toNat / 0x10 % 0x10) (by omega)
  have h₃ := digit?_hexDigit (isUpper 3) (c.toNat % 0x10) (by omega)
  have hvalue : (((0 * 16 + c.toNat / 0x1000) * 16 + c.toNat / 0x100 % 0x10) * 16 +
      c.toNat / 0x10 % 0x10) * 16 + c.toNat % 0x10 = c.toNat := by omega
  simp only [digits, digits?, List.isEmpty_cons, Bool.false_eq_true, if_false, digitsFrom?,
    h₀, h₁, h₂, h₃, Option.bind_some, hvalue]

/-- The number of a character is read as the character. -/
lemma byNumber_digits {c : Char} (hc : c.toNat < 0x10000) (isUpper : Fin 4 → Bool) :
    byNumber (digits c isUpper) = [c] := by
  have hvalid : c.toNat.isValidChar := c.valid
  have hscalar : scalar? c.toNat = some c := by
    unfold scalar?
    rw [if_pos hvalid, Char.ofNat_toNat]
  have hbound : c.toNat < wordBound 32 := Nat.lt_trans hc (by decide)
  have hunsigned : unsigned? 16 (wordBound 32) (digits c isUpper) = some c.toNat := by
    unfold unsigned?
    split
    · rename_i rest heq
      have hplus : '+' ∈ digits c isUpper := heq ▸ List.mem_cons_self
      exact absurd (by decide) (ne_of_mem_digits hc hplus)
    · dsimp only
      rw [digits?_digits hc]
      simp [hbound]
  unfold byNumber
  rw [hunsigned, Option.bind_some, hscalar]

/-- A character that stands for itself is no backslash. -/
lemma ne_backslash {c : Char} (h : isMarked c = false) : c ≠ '\\' := by
  rintro rfl
  revert h
  decide

/-- What a reader sees of a character behind a backslash. -/
lemma isMarked_facts {c : Char} (h : isMarked c = true) :
    OnOneLine ['\\', c] ∧ continues ['\\', c] = false ∧
      ∀ rest, unescape ('\\' :: c :: rest) = c :: unescape rest := by
  simp only [isMarked, Bool.or_eq_true, decide_eq_true_eq] at h
  rcases h with ((((rfl | rfl) | rfl) | rfl) | rfl) | rfl <;>
    exact ⟨by decide, by decide, fun rest => rfl⟩

/-- A sign starts with a character that begins an entry. -/
lemma exists_cons (sign : Sign) :
    ∃ c cs, sign.chars = c :: cs ∧ isBlank c = false ∧ isIgnored [c] = false := by
  cases sign with
  | plain c unmarked visible =>
    refine ⟨c, [], rfl, visible, ?_⟩
    simp only [isMarked, Bool.or_eq_false_iff] at unmarked
    simp only [isIgnored, unmarked, Bool.or_self]
  | marked c marked => exact ⟨'\\', [c], rfl, by decide, by decide⟩
  | control k => exact ⟨'\\', [k.letter], rfl, by decide, by decide⟩
  | number c short isUpper => exact ⟨'\\', _, rfl, by decide, by decide⟩

/-- A sign is solid, whatever follows. -/
lemma solid_append (sign : Sign) (rest : List Char) : Solid (sign.chars ++ rest) := by
  obtain ⟨c, cs, hchars, hc, -⟩ := sign.exists_cons
  exact Solid.append ⟨c, cs, hchars, hc⟩ rest

/-- A sign stands on one line. -/
lemma onOneLine_chars (sign : Sign) : OnOneLine sign.chars := by
  cases sign with
  | plain c unmarked visible =>
    constructor
    · intro h
      rw [← List.mem_singleton.mp h] at visible
      revert visible
      decide
    · intro h
      rw [← List.mem_singleton.mp h] at visible
      revert visible
      decide
  | marked c marked => exact (isMarked_facts marked).1
  | control k => cases k <;> decide
  | number c short isUpper =>
    have hescape : OnOneLine ['\\', 'u'] := by decide
    exact hescape.append ⟨fun h => ne_of_mem_digits short h (by decide),
      fun h => ne_of_mem_digits short h (by decide)⟩

/-- A line does not go on after a sign. -/
lemma continues_chars (sign : Sign) : continues sign.chars = false := by
  cases sign with
  | plain c unmarked visible => exact continues_concat [] (ne_backslash unmarked)
  | marked c marked => exact (isMarked_facts marked).2.1
  | control k => cases k <;> decide
  | number c short isUpper =>
    have hlast : hexDigit (isUpper 3) (c.toNat % 0x10) ∈ digits c isUpper := by simp [digits]
    refine continues_concat ['\\', 'u', _, _, _] fun heq => ?_
    rw [heq] at hlast
    exact ne_of_mem_digits short hlast (by decide)

/-- A sign is a piece of a line. -/
lemma isPiece (sign : Sign) : IsPiece sign.chars := by
  obtain ⟨c, cs, hchars, hc, -⟩ := sign.exists_cons
  exact ⟨hchars ▸ flush_cons_iff.mpr hc, sign.onOneLine_chars, sign.continues_chars⟩

end Sign

/-- A text goes on with a character that begins no escape. -/
lemma unescape_cons {c : Char} (hc : c ≠ '\\') (rest : List Char) :
    unescape (c :: rest) = c :: unescape rest := by
  rw [unescape.eq_def]
  split <;> simp_all

/-- A key ends in front of a separator or a gap, and goes on with any other character that begins
no escape. -/
lemma cutKey_cons {c : Char} (hc : c ≠ '\\') (rest : List Char) :
    cutKey (c :: rest) = if isSeparator c || isGap c then ([], c :: rest)
      else (c :: (cutKey rest).1, (cutKey rest).2) := by
  rw [cutKey.eq_def]
  split <;> simp_all

/-- A key goes on with characters that neither end it nor begin an escape. -/
lemma cutKey_append {cs : List Char}
    (h : ∀ c ∈ cs, c ≠ '\\' ∧ (isSeparator c || isGap c) = false) (rest : List Char) :
    cutKey (cs ++ rest) = (cs ++ (cutKey rest).1, (cutKey rest).2) := by
  induction cs with
  | nil => rfl
  | cons c cs ih =>
    obtain ⟨hc, hend⟩ := h c List.mem_cons_self
    rw [List.cons_append, cutKey_cons hc, hend, ih fun d hd => h d (List.mem_cons_of_mem c hd)]
    rfl

namespace Sign

/-- A sign is part of the key that it stands in. -/
lemma cutKey_chars (sign : Sign) (rest : List Char) :
    cutKey (sign.chars ++ rest) = (sign.chars ++ (cutKey rest).1, (cutKey rest).2) := by
  cases sign with
  | plain c unmarked visible =>
    refine cutKey_append (fun d hd => ?_) rest
    obtain rfl := List.mem_singleton.mp hd
    have hgap : isGap d = false := by
      cases hgap : isGap d with
      | false => rfl
      | true => rw [(isGap_facts hgap).1] at visible; cases visible
    simp only [isMarked, Bool.or_eq_false_iff] at unmarked
    refine ⟨ne_backslash (by simp only [isMarked, unmarked, Bool.or_self]), ?_⟩
    simp only [isSeparator, unmarked, hgap, Bool.or_self]
  | marked c marked => rfl
  | control k => rfl
  | number c short isUpper =>
    have hplain : ∀ d ∈ digits c isUpper, d ≠ '\\' ∧ (isSeparator d || isGap d) = false := by
      intro d hd
      have hne := ne_of_mem_digits short hd
      simp only [List.mem_cons, not_or] at hne
      simp [isSeparator, isGap, hne]
    show cutKey ('\\' :: 'u' :: (digits c isUpper ++ rest)) = _
    rw [cutKey, cutKey_append hplain]
    rfl

/-- A sign is read as the character that it stands for. -/
lemma unescape_chars (sign : Sign) (rest : List Char) :
    unescape (sign.chars ++ rest) = sign.char :: unescape rest := by
  cases sign with
  | plain c unmarked visible => exact unescape_cons (ne_backslash unmarked) rest
  | marked c marked => exact (isMarked_facts marked).2.2 rest
  | control k => cases k <;> rfl
  | number c short isUpper =>
    show byNumber (digits c isUpper) ++ unescape rest = _
    rw [byNumber_digits short]
    rfl

end Sign

end AppLauncher.Properties
