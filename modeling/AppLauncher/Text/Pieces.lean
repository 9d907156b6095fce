/-!
# Cutting text

Splitting text at a character, cutting lines, and dropping characters from the end. Joining the
pieces with the separator gives the text back (`intercalate_split`).
-/

namespace AppLauncher.Text

/-- The pieces of a text between the occurrences of a separator; there is always at least one. -/
def split (sep : Char) : List Char → List (List Char)
  | [] => [[]]
  | c :: cs =>
    if c = sep then [] :: split sep cs
    else match split sep cs with
      | [] => [[c]]
      | piece :: pieces => (c :: piece) :: pieces

theorem split_ne_nil (sep : Char) (cs : List Char) : split sep cs ≠ [] := by
  cases cs with
  | nil => simp [split]
  | cons c cs =>
    by_cases h : c = sep
    · simp [split, h]
    · simp only [split, h, if_false]
      split <;> simp

/-- Joining the pieces with the separator gives the text back. -/
theorem intercalate_split (sep : Char) (cs : List Char) :
    [sep].intercalate (split sep cs) = cs := by
  induction cs with
  | nil => simp [split, List.intercalate]
  | cons c cs ih =>
    by_cases h : c = sep
    · subst h
      cases hs : split c cs with
      | nil => exact absurd hs (split_ne_nil c cs)
      | cons p ps =>
        rw [hs] at ih
        simpa [split, hs, List.intercalate] using ih
    · cases hs : split sep cs with
      | nil => exact absurd hs (split_ne_nil sep cs)
      | cons p ps => cases ps <;> simp_all [split, List.intercalate]

/-- A line without the carriage return that may stand before its line feed. -/
def dropReturn (line : List Char) : List Char :=
  if line.getLast? = some '\r' then line.dropLast else line

/-- The lines of a text: each ends at a line feed, or at a carriage return and a line feed, which
are not part of it. A last line without a line feed is kept as it is, and an empty one is no
line. -/
def lines (cs : List Char) : List (List Char) :=
  let pieces := split '\n' cs
  let last := pieces.getLast?.getD []
  pieces.dropLast.map dropReturn ++ if last.isEmpty then [] else [last]

/-- The text before and the text after the first occurrence of a character. -/
def splitFirst (sep : Char) : List Char → Option (List Char × List Char)
  | [] => none
  | c :: cs =>
    if c = sep then some ([], cs)
    else (splitFirst sep cs).map fun (before, after) => (c :: before, after)

/-- The text before and the text after the last occurrence of a character. -/
def splitLast (sep : Char) : List Char → Option (List Char × List Char)
  | [] => none
  | c :: cs =>
    match splitLast sep cs with
    | some (before, after) => some (c :: before, after)
    | none => if c = sep then some ([], cs) else none

/-- The text without the run of a character at its end. -/
def dropTrailing (c : Char) (cs : List Char) : List Char :=
  (cs.reverse.dropWhile (· = c)).reverse

/-- The text with one character in place of another. -/
def replaceChar (old new : Char) (cs : List Char) : List Char :=
  cs.map fun c => if c = old then new else c

/-- What follows a given text at the start of another. -/
def afterStart? : List Char → List Char → Option (List Char)
  | [], cs => some cs
  | _ :: _, [] => none
  | p :: ps, c :: cs => if p = c then afterStart? ps cs else none

/-- A function on characters lifted to strings. -/
def mapString (f : List Char → List Char) (s : String) : String := String.ofList (f s.toList)

/-- The string without the slashes at its end. -/
def dropSlashes (s : String) : String := mapString (dropTrailing '/') s

/-- The string with its dots replaced by slashes. -/
def dotsToSlashes (s : String) : String := mapString (replaceChar '.' '/') s

/-- The part of a dotted name before its last dot. -/
def beforeLastDot? (s : String) : Option String :=
  (splitLast '.' s.toList).map fun (before, _) => String.ofList before

/-- Whether a string ends with a slash. -/
def endsWithSlash (s : String) : Bool := s.toList.getLast? = some '/'

end AppLauncher.Text
