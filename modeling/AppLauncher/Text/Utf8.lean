/-!
# UTF-8

Writing text as UTF-8 and reading bytes that may not be UTF-8. Reading never fails: each maximal
part of the bytes that begins a well-formed sequence without completing it, and each byte that
begins none, is read as one replacement character.
-/

namespace AppLauncher.Text.Utf8

/-- The character that stands for bytes which are no UTF-8. -/
def replacement : Char := '\uFFFD'

/-- A begun sequence: how many bytes are still due, the range that the next one has to lie in, and
the bits read so far. -/
structure Begun where
  due : Nat
  low : UInt8
  high : UInt8
  bits : Nat
deriving DecidableEq, Repr

/-- What a byte means where a character has to begin. -/
inductive Lead where
  | char (c : Char)
  | begun (state : Begun)
  | stray
deriving DecidableEq, Repr

/-- Reads the first byte of a character. The ranges of the second byte leave out overlong forms,
surrogates and numbers above the last code point. -/
def lead (b : UInt8) : Lead :=
  let n := b.toNat
  if n < 0x80 then .char (Char.ofNat n)
  else if n < 0xC2 then .stray
  else if n < 0xE0 then .begun ⟨1, 0x80, 0xBF, n % 0x20⟩
  else if n = 0xE0 then .begun ⟨2, 0xA0, 0xBF, 0⟩
  else if n = 0xED then .begun ⟨2, 0x80, 0x9F, 0xD⟩
  else if n < 0xF0 then .begun ⟨2, 0x80, 0xBF, n % 0x10⟩
  else if n = 0xF0 then .begun ⟨3, 0x90, 0xBF, 0⟩
  else if n < 0xF4 then .begun ⟨3, 0x80, 0xBF, n % 0x08⟩
  else if n = 0xF4 then .begun ⟨3, 0x80, 0x8F, 4⟩
  else .stray

/-- Reads a byte where a character has to begin: the characters that are complete now, and the
sequence that is begun. -/
def first (b : UInt8) : List Char × Option Begun :=
  match lead b with
  | .char c => ([c], none)
  | .begun state => ([], some state)
  | .stray => ([replacement], none)

/-- Reads one byte: the characters that are complete now, and the sequence that is begun. -/
def step : Option Begun → UInt8 → List Char × Option Begun
  | none, b => first b
  | some state, b =>
    if state.low ≤ b ∧ b ≤ state.high then
      let bits := state.bits * 0x40 + b.toNat % 0x40
      if state.due = 1 then ([Char.ofNat bits], none)
      else ([], some ⟨state.due - 1, 0x80, 0xBF, bits⟩)
    else
      let (cs, next) := first b
      (replacement :: cs, next)

/-- Reads bytes after a begun sequence. -/
def decodeFrom : Option Begun → List UInt8 → List Char
  | none, [] => []
  | some _, [] => [replacement]
  | state, b :: bs =>
    let (cs, next) := step state b
    cs ++ decodeFrom next bs

/-- Reads bytes as UTF-8. -/
def decode (bytes : List UInt8) : List Char := decodeFrom none bytes

/-- Writes text as UTF-8. -/
def encode (cs : List Char) : List UInt8 := cs.flatMap String.utf8EncodeChar

end AppLauncher.Text.Utf8
