import AppLauncher.Text.Number
import AppLauncher.Text.Utf8

/-!
# Extended attributes

The data of an extended header is a list of records `LENGTH KEY=VALUE`, each ended by a line feed;
the length counts the whole record. The list ends at an empty line.
-/

namespace AppLauncher.Tar.Pax

/-- A record of the list. -/
structure Attribute where
  key : List UInt8
  value : List UInt8
deriving DecidableEq, Repr

/-- The pieces of bytes between the occurrences of a separator. -/
def split (sep : UInt8) : List UInt8 → List (List UInt8)
  | [] => [[]]
  | b :: bs =>
    if b = sep then [] :: split sep bs
    else match split sep bs with
      | [] => [[b]]
      | piece :: pieces => (b :: piece) :: pieces

/-- The bytes before and after the first occurrence of a separator. -/
def cut? (sep : UInt8) (bytes : List UInt8) : Option (List UInt8 × List UInt8) :=
  match bytes.dropWhile (· ≠ sep) with
  | [] => none
  | _ :: after => some (bytes.takeWhile (· ≠ sep), after)

/-- Reads a record without its line feed. -/
def attribute? (line : List UInt8) : Option Attribute := do
  let (length, body) ← cut? 0x20 line
  let length ← Text.unsigned? 10 (Text.wordBound 64) (Text.Utf8.decode length)
  if length = line.length + 1 then
    let (key, value) ← cut? 0x3D body
    some ⟨key, value⟩
  else none

/-- The lines of the list, up to the first empty one. -/
def records (data : List UInt8) : List (List UInt8) := (split 0x0A data).takeWhile (· ≠ [])

/-- The bytes of an ASCII key. -/
def keyBytes (s : String) : List UInt8 := Text.Utf8.encode s.toList

/-- The name of the next member: the first such attribute, records out of form being skipped. -/
def path? (data : List UInt8) : Option (List UInt8) :=
  (((records data).filterMap attribute?).find? fun a => a.key = keyBytes "path").map (·.value)

/-- Reads records up to the first `size` or the first one out of form. -/
def sizeIn? : List (List UInt8) → Option Nat
  | [] => none
  | line :: rest =>
    match attribute? line with
    | none => none
    | some a =>
      if a.key = keyBytes "size" then
        Text.unsigned? 10 (Text.wordBound 64) (Text.Utf8.decode a.value)
      else sizeIn? rest

/-- The size of the data of the next member, looked for up to the first record out of form. -/
def size? (data : List UInt8) : Option Nat := sizeIn? (records data)

end AppLauncher.Tar.Pax
