import AppLauncher.Config.Value
import AppLauncher.Metadata.Properties

/-!
# Reading JSON

A configuration file is one JSON value. Numbers are whole numbers of 64 bits where they can be and
doubles otherwise; a double is computed from at most the significant digits that 64 bits hold and a
power of ten. Nesting is limited.
-/

namespace AppLauncher.Config.Json

/-- The number of values that may be nested in each other. -/
def maxDepth : Nat := 127

/-- The bound of significant digits, which are held in a word of 64 bits. -/
def significandBound : Nat := Text.wordBound 64

/-- Whether a character may stand between the parts of a text. -/
def isSpace (c : Char) : Bool := c = ' ' || c = '\n' || c = '\t' || c = '\r'

/-- A text without the space at its start. -/
def skip (cs : List Char) : List Char := cs.dropWhile isSpace

/-! ### Numbers -/

/-- The significant digits of a number as far as a word holds them, and the power of ten that they
are multiplied by. -/
structure Parts where
  significand : Nat
  exponent : Int
deriving DecidableEq, Repr

/-- Adds a digit behind the significant ones, if the word still holds it. -/
def Parts.push? (p : Parts) (c : Char) : Option Nat :=
  let next := p.significand * 10 + (c.toNat - '0'.toNat)
  if next < significandBound then some next else none

/-- Adds the digits before the point. From the first one that does not fit on, each digit counts as
a factor of ten. -/
def Parts.addWhole (p : Parts) : List Char → Parts
  | [] => p
  | c :: cs =>
    match p.push? c with
    | some significand => addWhole { p with significand } cs
    | none => { p with exponent := p.exponent + (c :: cs).length }

/-- Adds the digits behind the point, up to the first one that does not fit. -/
def Parts.addFraction (p : Parts) : List Char → Parts
  | [] => p
  | c :: cs =>
    match p.push? c with
    | some significand => addFraction ⟨significand, p.exponent - 1⟩ cs
    | none => p

/-- A power of ten that a double can hold. -/
def power (n : Nat) : Float := Float.ofScientific 1 false n

/-- The largest exponent of a power of ten that a double can hold. -/
def maxPower : Nat := 308

/-- Divides by a power of ten, in several steps if one does not suffice. -/
def divide (x : Float) (n : Nat) : Nat → Float
  | 0 => 0
  | steps + 1 =>
    if n ≤ maxPower then x / power n
    else if x == 0 then x
    else divide (x / power maxPower) (n - maxPower) steps

/-- The double of a number, unless it is too large. -/
def Parts.float? (p : Parts) : Option Float :=
  let x := Float.ofNat p.significand
  if p.exponent < 0 then some (divide x p.exponent.natAbs 4)
  else if p.exponent.natAbs ≤ maxPower then
    let y := x * power p.exponent.natAbs
    if y.isInf then none else some y
  else if p.significand = 0 then some x
  else none

/-- The bound of written exponents. -/
def exponentBound : Nat := Text.wordBound 31

/-- Reads an exponent behind its letter: its sign and its size. -/
def exponent? (cs : List Char) : Option (Bool × Nat × List Char) :=
  let (positive, cs) := match cs with
    | '+' :: rest => (true, rest)
    | '-' :: rest => (false, rest)
    | _ => (true, cs)
  (Text.digits? 10 (cs.takeWhile Char.isDigit)).map fun n =>
    (positive, n, cs.dropWhile Char.isDigit)

/-- The double of a number with a written exponent. An exponent out of bounds makes a number zero
or too large. -/
def Parts.scaled? (p : Parts) (positive : Bool) (n : Nat) : Option Float :=
  if n < exponentBound then
    let exponent : Int := if positive then p.exponent + n else p.exponent - n
    let low : Int := -exponentBound
    let high : Int := exponentBound - 1
    Parts.float? ⟨p.significand, min high (max low exponent)⟩
  else if p.significand ≠ 0 ∧ positive then none
  else some 0

/-- The bound of whole numbers, which are held in a word of 64 bits with a sign. -/
def integerBound : Nat := Text.wordBound 63

/-- A number without point and exponent. -/
def whole (negative : Bool) (p : Parts) : Option Value :=
  if p.exponent = 0 then
    let n := p.significand
    if negative then
      some (if 0 < n ∧ n ≤ integerBound then .integer (-n) else .float (-Float.ofNat n))
    else some (if n < integerBound then .integer n else .float (Float.ofNat n))
  else p.float?.map fun x => .float (if negative then -x else x)

/-- Reads a number behind its sign. -/
def number? (negative : Bool) (cs : List Char) : Option (Value × List Char) := do
  let digits := cs.takeWhile Char.isDigit
  let rest := cs.dropWhile Char.isDigit
  if digits = [] ∨ (digits.head? = some '0' ∧ digits.length ≠ 1) then none
  let p := Parts.addWhole ⟨0, 0⟩ digits
  let (p, isWhole, rest) ← match rest with
    | '.' :: rest =>
      let fraction := rest.takeWhile Char.isDigit
      if fraction = [] then none
      else some (p.addFraction fraction, false, rest.dropWhile Char.isDigit)
    | _ => some (p, true, rest)
  let float (x : Float) : Value := .float (if negative then -x else x)
  match rest with
  | c :: exponent =>
    if c = 'e' ∨ c = 'E' then do
      let (positive, n, rest) ← exponent? exponent
      return (float (← p.scaled? positive n), rest)
    else if isWhole then return (← whole negative p, rest)
    else return (float (← p.float?), rest)
  | [] =>
    if isWhole then return (← whole negative p, rest)
    else return (float (← p.float?), rest)

/-! ### Texts -/

/-- Reads four hexadecimal digits. -/
def hex? : List Char → Option (Nat × List Char)
  | a :: b :: c :: d :: rest => (Text.digits? 16 [a, b, c, d]).map fun n => (n, rest)
  | _ => none

/-- Reads a character given by number, behind its `\u`. A high surrogate needs a low one behind
it. -/
def unicode? (cs : List Char) : Option (Char × List Char) := do
  let (n, rest) ← hex? cs
  if 0xD800 ≤ n ∧ n ≤ 0xDBFF then
    match rest with
    | '\\' :: 'u' :: rest =>
      let (m, rest) ← hex? rest
      if 0xDC00 ≤ m ∧ m ≤ 0xDFFF then
        return (Char.ofNat (0x10000 + (n - 0xD800) * 0x400 + (m - 0xDC00)), rest)
      else none
    | _ => none
  else return (← Properties.scalar? n, rest)

/-- The character that an escape of two characters stands for. -/
def escaped? : Char → Option Char
  | '"' => some '"'
  | '\\' => some '\\'
  | '/' => some '/'
  | 'b' => some '\x08'
  | 'f' => some '\x0c'
  | 'n' => some '\n'
  | 'r' => some '\r'
  | 't' => some '\t'
  | _ => none

/-- Reads a text behind its opening quote. The number bounds its length. -/
def text? : Nat → List Char → Option (List Char × List Char)
  | 0, _ => none
  | _, [] => none
  | _ + 1, '"' :: rest => some ([], rest)
  | bound + 1, '\\' :: 'u' :: rest => do
    let (c, rest) ← unicode? rest
    let (text, rest) ← text? bound rest
    return (c :: text, rest)
  | bound + 1, '\\' :: c :: rest => do
    let c ← escaped? c
    let (text, rest) ← text? bound rest
    return (c :: text, rest)
  | bound + 1, c :: rest => do
    if c.toNat < 0x20 ∨ c = '\\' then none
    let (text, rest) ← text? bound rest
    return (c :: text, rest)

/-! ### Values -/

mutual

/-- Reads a value. The first number bounds how many parts are left to read, the second how many
values may still be nested. -/
def value? : Nat → Nat → List Char → Option (Value × List Char)
  | 0, _, _ => none
  | bound + 1, depth, cs =>
    match skip cs with
    | 'n' :: 'u' :: 'l' :: 'l' :: rest => some (.null, rest)
    | 't' :: 'r' :: 'u' :: 'e' :: rest => some (.bool true, rest)
    | 'f' :: 'a' :: 'l' :: 's' :: 'e' :: rest => some (.bool false, rest)
    | '"' :: rest => do
      let (text, rest) ← text? (bound + 1) rest
      return (.text (String.ofList text), rest)
    | '[' :: rest =>
      match depth with
      | 0 => none
      | depth + 1 =>
        match skip rest with
        | ']' :: rest => some (.list [], rest)
        | rest => (items? bound depth rest).map fun (items, rest) => (.list items, rest)
    | '\x7b' :: rest =>
      match depth with
      | 0 => none
      | depth + 1 =>
        match skip rest with
        | '\x7d' :: rest => some (.table [], rest)
        | rest => (entries? bound depth [] rest).map fun (entries, rest) => (.table entries, rest)
    | '-' :: rest => number? true rest
    | cs => number? false cs

/-- Reads the items of a list up to the closing bracket. -/
def items? : Nat → Nat → List Char → Option (List Value × List Char)
  | 0, _, _ => none
  | bound + 1, depth, cs => do
    let (item, rest) ← value? bound depth cs
    match skip rest with
    | ',' :: rest => do
      let (items, rest) ← items? bound depth rest
      return (item :: items, rest)
    | ']' :: rest => return ([item], rest)
    | _ => none

/-- Reads the entries of a table up to the closing brace, after those read already. A later entry of
a key replaces an earlier one. -/
def entries? : Nat → Nat → List (String × Value) → List Char →
    Option (List (String × Value) × List Char)
  | 0, _, _, _ => none
  | bound + 1, depth, before, cs => do
    match skip cs with
    | '"' :: rest => do
      let (key, rest) ← text? (bound + 1) rest
      match skip rest with
      | ':' :: rest => do
        let (value, rest) ← value? bound depth rest
        let entries := Value.setEntry (String.ofList key) value before
        match skip rest with
        | ',' :: rest => entries? bound depth entries rest
        | '\x7d' :: rest => return (entries, rest)
        | _ => none
      | _ => none
    | _ => none

end

/-- Reads a text that is one value. Every part takes at least one character, so the length of the
text bounds their number. -/
def parse? (cs : List Char) : Option Value :=
  match value? (cs.length + 1) maxDepth cs with
  | some (value, rest) => if skip rest = [] then some value else none
  | none => none

end AppLauncher.Config.Json
