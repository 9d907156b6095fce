import AppLauncher.Text.Blank
import Mathlib.Tactic.Common

/-!
# How a line starts

What a reader of lines strips or splits away: a text on one line has no line ends (`OnOneLine`), and
a text that is flush with the margin has no blanks at its start (`Flush`).  A text that is flush and
not empty keeps its first character, whatever blanks are stripped in front of it (`Solid`).
-/

namespace AppLauncher.Text

/-- A text without line ends. -/
def OnOneLine (cs : List Char) : Prop := '\n' ∉ cs ∧ '\r' ∉ cs

instance : DecidablePred OnOneLine := fun _ => inferInstanceAs (Decidable (_ ∧ _))

/-- A part of a text on one line is on one line. -/
lemma OnOneLine.of_subset {cs ds : List Char} (h : OnOneLine cs) (hsub : ds ⊆ cs) :
    OnOneLine ds :=
  ⟨fun hfeed => h.1 (hsub hfeed), fun hreturn => h.2 (hsub hreturn)⟩

/-- Texts on one line stay so one after the other. -/
lemma OnOneLine.append {cs ds : List Char} (hcs : OnOneLine cs) (hds : OnOneLine ds) :
    OnOneLine (cs ++ ds) := by
  constructor
  · simpa using ⟨hcs.1, hds.1⟩
  · simpa using ⟨hcs.2, hds.2⟩

/-- A text that does not start with a blank. -/
def Flush (cs : List Char) : Prop := trimStart cs = cs

instance : DecidablePred Flush := fun _ => inferInstanceAs (Decidable (_ = _))

/-- It is the first character that counts. -/
lemma flush_cons_iff {c : Char} {cs : List Char} : Flush (c :: cs) ↔ isBlank c = false := by
  constructor
  · intro h
    cases hblank : isBlank c with
    | false => rfl
    | true =>
      -- the first character would be lost
      have hstart : trimStart (c :: cs) = trimStart cs := by simp [trimStart, hblank]
      have hrest : (trimStart cs).length ≤ cs.length := (List.dropWhile_suffix isBlank).length_le
      have hlength := congrArg List.length h
      rw [hstart, List.length_cons] at hlength
      omega
  · intro h
    exact List.dropWhile_cons_of_neg (by simp [h])

/-- A text starts as a longer one does. -/
lemma Flush.of_append {cs ds : List Char} (h : Flush (cs ++ ds)) : Flush cs := by
  cases cs with
  | nil => rfl
  | cons c cs => exact flush_cons_iff.mpr (flush_cons_iff.mp h)

/-- A text that is trimmed does not start with a blank. -/
lemma flush_of_trim {cs : List Char} (h : trim cs = cs) : Flush cs := by
  have hsuffix : trimStart cs <:+ cs := List.dropWhile_suffix isBlank
  have hend : (trimEnd (trimStart cs)).length ≤ (trimStart cs).length := by
    have hle := (List.dropWhile_suffix (l := (trimStart cs).reverse) isBlank).length_le
    simpa [trimEnd] using hle
  have hlength : cs.length ≤ (trimStart cs).length := by
    rw [← trim, h] at hend
    exact hend
  exact hsuffix.eq_of_length_le hlength

/-- A text that starts with a character that is not blank. -/
def Solid (cs : List Char) : Prop := ∃ c rest, cs = c :: rest ∧ isBlank c = false

/-- A solid text stays so when it goes on. -/
lemma Solid.append {cs : List Char} (h : Solid cs) (ds : List Char) : Solid (cs ++ ds) := by
  obtain ⟨c, rest, rfl, hc⟩ := h
  exact ⟨c, rest ++ ds, rfl, hc⟩

/-- A solid text is flush. -/
lemma Solid.flush {cs : List Char} (h : Solid cs) : Flush cs := by
  obtain ⟨c, rest, rfl, hc⟩ := h
  exact flush_cons_iff.mpr hc

/-- A text in front of a solid one is flush if it was so alone. -/
lemma Flush.append {cs ds : List Char} (hcs : Flush cs) (hds : Flush ds) : Flush (cs ++ ds) := by
  cases cs with
  | nil => exact hds
  | cons c cs => exact flush_cons_iff.mpr (flush_cons_iff.mp hcs)

/-- Blanks at the start of a text do not count. -/
lemma trimStart_blanks_append {blanks : List Char} (h : ∀ c ∈ blanks, isBlank c = true)
    (cs : List Char) : trimStart (blanks ++ cs) = trimStart cs :=
  List.dropWhile_append_of_pos h

end AppLauncher.Text
