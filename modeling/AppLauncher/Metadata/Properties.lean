import AppLauncher.Text.Blank
import AppLauncher.Text.Number
import AppLauncher.Text.Pieces

/-!
# Properties

The text format of key and value pairs. A backslash at the end of a line joins it to the next one,
lines that begin with `#` or `!` are comments, a key ends at the first separator or gap that is not
escaped, and escapes stand for characters that would otherwise mean something.
-/

namespace AppLauncher.Properties

/-- Whether a character separates a key from its value. -/
def isSeparator (c : Char) : Bool := c = '=' || c = ':'

/-- Whether a character may stand around a separator. -/
def isGap (c : Char) : Bool := c = ' ' || c = '\t' || c = '\x0c'

/-! ### Logical lines -/

/-- Whether a line goes on in the next one: it ends with an odd number of backslashes. -/
def continues (line : List Char) : Bool := (line.reverse.takeWhile (· = '\\')).length % 2 = 1

/-- Whether a line that begins an entry has none: it is empty or a comment. -/
def isIgnored : List Char → Bool
  | [] => true
  | c :: _ => c = '#' || c = '!'

/-- Joins lines, given what has been read of a line that goes on. The blanks at the start of each
line do not count. -/
def joinFrom : Option (List Char) → List (List Char) → List (List Char)
  | none, [] => []
  | some begun, [] => [begun]
  | none, line :: lines =>
    let line := Text.trimStart line
    if isIgnored line then joinFrom none lines
    else if continues line then joinFrom (some line.dropLast) lines
    else line :: joinFrom none lines
  | some begun, line :: lines =>
    let line := Text.trimStart line
    if continues line then joinFrom (some (begun ++ line.dropLast)) lines
    else (begun ++ line) :: joinFrom none lines

/-! ### Entries -/

/-- Cuts a logical line at the end of its key. -/
def cutKey : List Char → List Char × List Char
  | [] => ([], [])
  | ['\\'] => (['\\'], [])
  | '\\' :: c :: rest =>
    let (key, after) := cutKey rest
    ('\\' :: c :: key, after)
  | c :: rest =>
    if isSeparator c || isGap c then ([], c :: rest)
    else
      let (key, after) := cutKey rest
      (c :: key, after)

/-- What follows a key, without the separator and the gaps around it. -/
def dropSeparator (after : List Char) : List Char :=
  match after.dropWhile isGap with
  | c :: rest => if isSeparator c then rest.dropWhile isGap else c :: rest
  | [] => []

/-- The character that an escape of two characters stands for. -/
def escaped (c : Char) : Char :=
  match c with
  | 't' => '\t'
  | 'n' => '\n'
  | 'r' => '\r'
  | 'f' => '\x0c'
  | c => c

/-- The character with a number, if there is one. -/
def scalar? (n : Nat) : Option Char := if n.isValidChar then some (Char.ofNat n) else none

/-- What an escape by number stands for: the character of the number, or the escape as it is
written when its digits give none. -/
def byNumber (digits : List Char) : List Char :=
  match (Text.unsigned? 16 (Text.wordBound 32) digits).bind scalar? with
  | some c => [c]
  | none => '\\' :: 'u' :: digits

/-- The text that a written key or value stands for. -/
def unescape : List Char → List Char
  | [] => []
  | ['\\'] => []
  | '\\' :: 'u' :: a :: b :: c :: d :: rest => byNumber [a, b, c, d] ++ unescape rest
  | '\\' :: 'u' :: rest => byNumber rest
  | '\\' :: c :: rest => escaped c :: unescape rest
  | c :: rest => c :: unescape rest

/-- The entry of a logical line. -/
def entryOf (line : List Char) : String × String :=
  let (key, after) := cutKey line
  (String.ofList (unescape key), String.ofList (unescape (dropSeparator after)))

/-- The entries of a text, in order. -/
def parse (text : List Char) : List (String × String) :=
  (joinFrom none (Text.lines text)).map entryOf

end AppLauncher.Properties
