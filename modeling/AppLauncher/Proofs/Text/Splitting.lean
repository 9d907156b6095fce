import AppLauncher.Text.Pieces
import Mathlib.Tactic.Common

/-!
# Splitting texts

The pieces of a text that is put together from others: a separator ends a piece, and a text without
one becomes part of the piece that it stands in front of or behind.  A piece has no separator in it,
and if no two separators stand side by side, no piece between two of them is empty.
-/

namespace AppLauncher.Text

variable {sep : Char} {cs : List Char}

/-- A separator stands between the pieces of what is in front of it and behind it. -/
lemma split_append_sep (cs rest : List Char) :
    split sep (cs ++ sep :: rest) = split sep cs ++ split sep rest := by
  induction cs with
  | nil => simp [split]
  | cons c cs ih =>
    by_cases hc : c = sep
    · rw [List.cons_append, split, split, if_pos hc, if_pos hc, ih]
      rfl
    · obtain ⟨piece, pieces, hpieces⟩ := List.exists_cons_of_ne_nil (split_ne_nil sep cs)
      rw [List.cons_append, split, split, if_neg hc, if_neg hc, ih, hpieces]
      rfl

/-- A text without the separator is one piece. -/
lemma split_of_notMem (h : sep ∉ cs) : split sep cs = [cs] := by
  induction cs with
  | nil => rfl
  | cons c cs ih =>
    have hne : c ≠ sep := fun heq => h (heq ▸ List.mem_cons_self)
    rw [split, if_neg hne, ih fun hmem => h (List.mem_cons_of_mem c hmem)]

/-- A text is split at the first separator in it. -/
lemma split_append (h : sep ∉ cs) (rest : List Char) :
    split sep (cs ++ sep :: rest) = cs :: split sep rest := by
  rw [split_append_sep, split_of_notMem h]
  rfl

/-- A text without the separator becomes part of the first piece. -/
lemma split_append_left (h : sep ∉ cs) (rest : List Char) :
    split sep (cs ++ rest) = (cs ++ (split sep rest).headD []) :: (split sep rest).tail := by
  induction cs with
  | nil =>
    obtain ⟨piece, pieces, hpieces⟩ := List.exists_cons_of_ne_nil (split_ne_nil sep rest)
    rw [hpieces]
    exact hpieces
  | cons c cs ih =>
    have hne : c ≠ sep := fun heq => h (heq ▸ List.mem_cons_self)
    have hrest := ih fun hmem => h (List.mem_cons_of_mem c hmem)
    rw [List.cons_append, split, if_neg hne, hrest]
    rfl

/-- A text without the separator is what stands before the first one. -/
lemma takeWhile_append (h : sep ∉ cs) {rest : List Char}
    (hrest : rest = [] ∨ rest.head? = some sep) : (cs ++ rest).takeWhile (· ≠ sep) = cs := by
  have hall : ∀ c ∈ cs, decide (c ≠ sep) = true := by
    intro c hc
    have hne : c ≠ sep := by
      rintro rfl
      exact h hc
    exact decide_eq_true hne
  rw [List.takeWhile_append_of_pos hall]
  rcases hrest with rfl | hhead
  · exact List.append_nil cs
  · obtain ⟨behind, rfl⟩ := List.head?_eq_some_iff.mp hhead
    simp

/-- A text without the separator is not split at a last one. -/
lemma splitLast_of_notMem (h : sep ∉ cs) : splitLast sep cs = none := by
  induction cs with
  | nil => rfl
  | cons c cs ih =>
    have hne : c ≠ sep := fun heq => h (heq ▸ List.mem_cons_self)
    rw [splitLast, ih fun hmem => h (List.mem_cons_of_mem c hmem)]
    exact if_neg hne

/-- A text is split at a separator if there is none behind it. -/
lemma splitLast_append (before : List Char) {after : List Char} (h : sep ∉ after) :
    splitLast sep (before ++ sep :: after) = some (before, after) := by
  induction before with
  | nil =>
    rw [List.nil_append, splitLast, splitLast_of_notMem h]
    exact if_pos rfl
  | cons c before ih =>
    rw [List.cons_append, splitLast, ih]

/-- What is before the last dot of a name is known when no dot is behind it. -/
lemma beforeLastDot?_append (before : String) {after : String} (h : '.' ∉ after.toList) :
    beforeLastDot? (before ++ "." ++ after) = some before := by
  unfold beforeLastDot?
  rw [String.toList_append, String.toList_append, List.append_assoc]
  show (splitLast '.' (before.toList ++ '.' :: after.toList)).map _ = _
  rw [splitLast_append _ h, Option.map_some]
  exact congrArg some String.ofList_toList

/-- Nothing is replaced in a text that does not have the character. -/
lemma replaceChar_of_notMem {old new : Char} (h : old ∉ cs) : replaceChar old new cs = cs := by
  have hsame : ∀ c ∈ cs, (if c = old then new else c) = c := by
    intro c hc
    have hne : c ≠ old := by
      rintro rfl
      exact h hc
    exact if_neg hne
  unfold replaceChar
  rw [List.map_congr_left hsame, List.map_id']

/-- A character that is replaced by another one does not stay. -/
lemma notMem_replaceChar {old new : Char} (h : old ≠ new) (cs : List Char) :
    old ∉ replaceChar old new cs := by
  intro hmem
  obtain ⟨c, -, hc⟩ := List.mem_map.mp hmem
  split at hc
  · exact h hc.symm
  · contradiction

/-- No piece has the separator in it. -/
lemma notMem_of_mem_split {piece : List Char} (h : piece ∈ split sep cs) : sep ∉ piece := by
  induction cs generalizing piece with
  | nil =>
    rw [List.mem_singleton.mp h]
    exact List.not_mem_nil
  | cons c cs ih =>
    by_cases hc : c = sep
    · rw [split, if_pos hc] at h
      rcases List.mem_cons.mp h with rfl | hrest
      · exact List.not_mem_nil
      · exact ih hrest
    · obtain ⟨first, rest, hsplit⟩ := List.exists_cons_of_ne_nil (split_ne_nil sep cs)
      rw [split, if_neg hc, hsplit] at h
      rw [hsplit] at ih
      rcases List.mem_cons.mp h with rfl | hrest
      · have hfirst := ih List.mem_cons_self
        rintro (_ | ⟨_, hmem⟩)
        · exact hc rfl
        · exact hfirst hmem
      · exact ih (List.mem_cons_of_mem first hrest)

/-- What is in a piece is in the text. -/
lemma mem_of_mem_split {piece : List Char} (h : piece ∈ split sep cs) {c : Char} (hc : c ∈ piece) :
    c ∈ cs := by
  induction cs generalizing piece with
  | nil =>
    rw [List.mem_singleton.mp h] at hc
    cases hc
  | cons d cs ih =>
    by_cases hd : d = sep
    · rw [split, if_pos hd] at h
      rcases List.mem_cons.mp h with rfl | hrest
      · cases hc
      · exact List.mem_cons_of_mem d (ih hrest hc)
    · obtain ⟨first, rest, hsplit⟩ := List.exists_cons_of_ne_nil (split_ne_nil sep cs)
      rw [split, if_neg hd, hsplit] at h
      rw [hsplit] at ih
      rcases List.mem_cons.mp h with rfl | hrest
      · rcases List.mem_cons.mp hc with rfl | hfirst
        · exact List.mem_cons_self
        · exact List.mem_cons_of_mem d (ih List.mem_cons_self hfirst)
      · exact List.mem_cons_of_mem d (ih (List.mem_cons_of_mem first hrest) hc)

/-- What is in a text is in one of the pieces, or it is the separator. -/
lemma exists_mem_split {c : Char} (hc : c ≠ sep) (h : c ∈ cs) :
    ∃ piece ∈ split sep cs, c ∈ piece := by
  induction cs with
  | nil => cases h
  | cons d cs ih =>
    by_cases hd : d = sep
    · have hmem : c ∈ cs := (List.mem_cons.mp h).resolve_left fun heq => hc (heq.trans hd)
      obtain ⟨piece, hpiece, hin⟩ := ih hmem
      rw [split, if_pos hd]
      exact ⟨piece, List.mem_cons_of_mem [] hpiece, hin⟩
    · obtain ⟨first, rest, hsplit⟩ := List.exists_cons_of_ne_nil (split_ne_nil sep cs)
      rw [split, if_neg hd, hsplit]
      rw [hsplit] at ih
      rcases List.mem_cons.mp h with rfl | hmem
      · exact ⟨c :: first, List.mem_cons_self, List.mem_cons_self⟩
      · obtain ⟨piece, hpiece, hin⟩ := ih hmem
        rcases List.mem_cons.mp hpiece with rfl | hrest
        · exact ⟨d :: piece, List.mem_cons_self, List.mem_cons_of_mem d hin⟩
        · exact ⟨piece, List.mem_cons_of_mem _ hrest, hin⟩

/-- A text without the separator becomes part of the last piece. -/
lemma split_append_right (cs : List Char) {rest : List Char} (h : sep ∉ rest) :
    split sep (cs ++ rest) =
      (split sep cs).dropLast ++ [(split sep cs).getLast (split_ne_nil sep cs) ++ rest] := by
  induction cs with
  | nil => exact split_of_notMem h
  | cons c cs ih =>
    have hne := split_ne_nil sep cs
    by_cases hc : c = sep
    · have hsplit : split sep (c :: cs) = [] :: split sep cs := by rw [split, if_pos hc]
      rw [List.cons_append, split, if_pos hc, ih]
      simp only [hsplit, List.dropLast_cons_of_ne_nil hne, List.getLast_cons hne, List.cons_append]
    · obtain ⟨first, more, hmore⟩ := List.exists_cons_of_ne_nil hne
      have hsplit : split sep (c :: cs) = (c :: first) :: more := by rw [split, if_neg hc, hmore]
      rw [List.cons_append, split, if_neg hc, ih]
      simp only [hsplit, hmore]
      cases more with
      | nil => rfl
      | cons next others => rfl

/-- The pieces between a character are those between what it is replaced with. -/
lemma split_replaceChar {old new : Char} (h : new ∉ cs) :
    split new (replaceChar old new cs) = split old cs := by
  induction cs with
  | nil => rfl
  | cons c cs ih =>
    have hc : c ≠ new := fun heq => h (heq ▸ List.mem_cons_self)
    have hrest := ih fun hmem => h (List.mem_cons_of_mem c hmem)
    unfold replaceChar at hrest ⊢
    rw [List.map_cons, split, split, hrest]
    by_cases hold : c = old
    · rw [if_pos hold, if_pos rfl, if_pos hold]
    · rw [if_neg hold, if_neg hc, if_neg hold]

/-- If no two separators stand side by side, only the first piece and the last one can be empty. -/
lemma ne_nil_of_mem_split (h : ¬[sep, sep] <:+: cs) {piece : List Char}
    (hpiece : piece ∈ (split sep cs).tail.dropLast) : piece ≠ [] := by
  induction cs with
  | nil => cases hpiece
  | cons c cs ih =>
    have hrest : ¬[sep, sep] <:+: cs := fun hin => h (hin.trans (List.suffix_cons c cs).isInfix)
    by_cases hc : c = sep
    · rw [split, if_pos hc, List.tail_cons] at hpiece
      cases cs with
      | nil => cases hpiece
      | cons d ds =>
        have hd : d ≠ sep := by
          rintro rfl
          rw [hc] at h
          exact h ⟨[], ds, rfl⟩
        obtain ⟨first, rest, hsplit⟩ := List.exists_cons_of_ne_nil (split_ne_nil sep ds)
        rw [split, if_neg hd, hsplit] at hpiece ih
        cases rest with
        | nil => cases hpiece
        | cons next others =>
          rw [List.dropLast_cons_of_ne_nil (List.cons_ne_nil next others)] at hpiece
          rcases List.mem_cons.mp hpiece with rfl | hothers
          · exact List.cons_ne_nil d first
          · exact ih hrest hothers
    · obtain ⟨first, rest, hsplit⟩ := List.exists_cons_of_ne_nil (split_ne_nil sep cs)
      rw [split, if_neg hc, hsplit] at hpiece
      rw [hsplit] at ih
      exact ih hrest hpiece

end AppLauncher.Text
