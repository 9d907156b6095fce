/-!
# Comparison without regard to ASCII case

Only the letters `A` to `Z` have a second case here; all other characters are equal to themselves
alone.
-/

namespace AppLauncher.Text

/-- The text with its ASCII letters in lower case. -/
def foldCase (s : String) : List Char := s.toList.map Char.toLower

/-- Equality of strings up to the case of ASCII letters. -/
def sameIgnoringCase (a b : String) : Bool := foldCase a == foldCase b

@[simp] theorem sameIgnoringCase_iff {a b : String} :
    sameIgnoringCase a b = true ↔ foldCase a = foldCase b := by
  simp [sameIgnoringCase]

end AppLauncher.Text
