import AppLauncher.Proofs.Text.Splitting

/-!
# Writing lines

Lines that are written one after the other are read back as they are, whether a line ends with a
line feed or with a carriage return and a line feed (`lines_joinLines`).  A carriage return at the
end of a line is part of the line only if another one ends the line, so such a line cannot be
written with a line feed alone.
-/

namespace AppLauncher.Text

/-- How a line ends. -/
inductive LineEnd where
  | feed
  | returnFeed
deriving DecidableEq, Repr

/-- The characters that end a line. -/
def LineEnd.chars : LineEnd → List Char
  | feed => ['\n']
  | returnFeed => ['\r', '\n']

/-- Lines one after the other, each with its end. -/
def joinLines (ends : Nat → LineEnd) : List (List Char) → List Char
  | [] => []
  | line :: rest => line ++ (ends 0).chars ++ joinLines (fun i => ends (i + 1)) rest

/-! ### The first line -/

/-- What stands before the first line feed is the first line, up to a carriage return. -/
lemma lines_append {line : List Char} (h : '\n' ∉ line) (rest : List Char) :
    lines (line ++ '\n' :: rest) = dropReturn line :: lines rest := by
  obtain ⟨piece, pieces, hpieces⟩ := List.exists_cons_of_ne_nil (split_ne_nil '\n' rest)
  unfold lines
  rw [split_append h, hpieces]
  simp

/-- A line that does not end with a carriage return is kept. -/
lemma dropReturn_of_getLast?_ne {line : List Char} (h : line.getLast? ≠ some '\r') :
    dropReturn line = line := by
  unfold dropReturn
  rw [if_neg h]

/-- The carriage return at the end is dropped, but not one before it. -/
lemma dropReturn_concat (line : List Char) : dropReturn (line ++ ['\r']) = line := by
  simp [dropReturn]

/-- A line is read as it was written, unless a carriage return at its end is taken for a part of
the line end. -/
lemma lines_append_chars {line : List Char} (hfeed : '\n' ∉ line) {lineEnd : LineEnd}
    (hreturn : lineEnd = .feed → line.getLast? ≠ some '\r') (rest : List Char) :
    lines (line ++ lineEnd.chars ++ rest) = line :: lines rest := by
  cases lineEnd with
  | feed =>
    have hline := dropReturn_of_getLast?_ne (hreturn rfl)
    rw [List.append_assoc]
    show lines (line ++ '\n' :: rest) = _
    rw [lines_append hfeed, hline]
  | returnFeed =>
    have hboth : '\n' ∉ line ++ ['\r'] := by simpa using hfeed
    have hchars : line ++ LineEnd.returnFeed.chars ++ rest = line ++ ['\r'] ++ '\n' :: rest := by
      simp [LineEnd.chars]
    rw [hchars, lines_append hboth, dropReturn_concat]

/-- A text without a line feed is one line, unless it is empty. -/
lemma lines_of_notMem {cs : List Char} (h : '\n' ∉ cs) :
    lines cs = if cs = [] then [] else [cs] := by
  unfold lines
  rw [split_of_notMem h]
  cases cs <;> rfl

/-- What stands behind a line: a line end and the rest of the text, or nothing. -/
inductive Ends : List Char → List Char → Prop
  | lineEnd (lineEnd : LineEnd) (rest : List Char) : Ends (lineEnd.chars ++ rest) rest
  | textEnd : Ends [] []

/-! ### A text in front of lines -/

/-- A carriage return is dropped from the end of a line, whatever stands in front. -/
lemma dropReturn_append_left {cs : List Char} (h : '\r' ∉ cs) (line : List Char) :
    dropReturn (cs ++ line) = cs ++ dropReturn line := by
  rcases List.eq_nil_or_concat line with rfl | ⟨before, last, rfl⟩
  · rw [List.append_nil]
    have hlast : cs.getLast? ≠ some '\r' := fun hlast => h (List.mem_of_getLast? hlast)
    rw [dropReturn_of_getLast?_ne hlast]
    exact (List.append_nil cs).symm
  · unfold dropReturn
    rw [List.concat_eq_append, ← List.append_assoc, List.getLast?_concat, List.getLast?_concat,
      List.dropLast_concat, List.dropLast_concat]
    split <;> simp

/-- A text without line ends becomes part of the first line. -/
lemma lines_append_left {cs : List Char} (hne : cs ≠ []) (hfeed : '\n' ∉ cs) (hreturn : '\r' ∉ cs)
    (rest : List Char) :
    lines (cs ++ rest) = (cs ++ (lines rest).headD []) :: (lines rest).tail := by
  obtain ⟨piece, pieces, hpieces⟩ := List.exists_cons_of_ne_nil (split_ne_nil '\n' rest)
  unfold lines
  rw [split_append_left hfeed, hpieces]
  cases pieces with
  | nil => cases piece <;> simp [hne]
  | cons next others =>
    simp [dropReturn_append_left hreturn]

/-! ### All lines -/

/-- Lines are read as they were written. -/
theorem lines_joinLines (ends : Nat → LineEnd) {written : List (List Char)}
    (hfeed : ∀ line ∈ written, '\n' ∉ line)
    (hreturn : ∀ i line, written[i]? = some line → ends i = .feed → line.getLast? ≠ some '\r') :
    lines (joinLines ends written) = written := by
  induction written generalizing ends with
  | nil => rfl
  | cons line rest ih =>
    have hrest : lines (joinLines (fun i => ends (i + 1)) rest) = rest := by
      refine ih _ (fun l hl => hfeed l (List.mem_cons_of_mem line hl)) fun i l hl => ?_
      exact hreturn (i + 1) l (by rwa [List.getElem?_cons_succ])
    rw [joinLines, lines_append_chars (hfeed line List.mem_cons_self), hrest]
    exact hreturn 0 line List.getElem?_cons_zero

end AppLauncher.Text
