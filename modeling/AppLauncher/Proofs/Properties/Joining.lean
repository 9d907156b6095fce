import AppLauncher.Metadata.Properties
import AppLauncher.Proofs.Text.Lines
import AppLauncher.Proofs.Text.Margins

/-!
# Joining lines

A line that ends with an odd number of backslashes goes on in the next one, whose blanks at the
start do not count.  So a backslash, a line end and a run of gaps can be taken out of a text without
changing its logical lines (`joinFrom_break`), as long as what stands in front of the break does not
itself end with an escape that is cut short (`IsPiece`) and what follows does not start with a
blank.

The parity of backslashes is looked at once, in `continues_append`: a piece that does not go on has
no say in whether a longer line does.
-/

namespace AppLauncher.Properties

open Text

/-! ### The parity of backslashes -/

/-- Whether a line goes on is a matter of what stands at its end, behind a text that does not go
on. -/
lemma continues_append {cs : List Char} (h : continues cs = false) (line : List Char) :
    continues (cs ++ line) = continues line := by
  unfold continues at h ⊢
  rw [List.reverse_append, List.takeWhile_append]
  split
  · -- the line is a run of backslashes, and an even number of them stands in front
    rename_i hall
    have heven : (cs.reverse.takeWhile (· = '\\')).length % 2 ≠ 1 := of_decide_eq_false h
    rw [List.length_append, hall]
    congr 1
    rw [eq_iff_iff]
    omega
  · rfl

/-- A text that ends with anything but a backslash does not go on. -/
lemma continues_concat (cs : List Char) {c : Char} (h : c ≠ '\\') :
    continues (cs ++ [c]) = false := by
  simp [continues, h]

/-- A backslash behind a text that does not go on makes it do so. -/
lemma continues_backslash {cs : List Char} (h : continues cs = false) :
    continues (cs ++ ['\\']) = true :=
  continues_append h ['\\']

/-! ### Pieces of lines -/

/-- A piece of a line that is read as it stands. -/
structure IsPiece (cs : List Char) : Prop where
  flush : Flush cs
  onOneLine : OnOneLine cs
  ends : continues cs = false

/-- Pieces make up a longer piece. -/
lemma IsPiece.append {cs ds : List Char} (hcs : IsPiece cs) (hds : IsPiece ds) :
    IsPiece (cs ++ ds) :=
  ⟨hcs.flush.append hds.flush, hcs.onOneLine.append hds.onOneLine,
    (continues_append hcs.ends ds).trans hds.ends⟩

/-- A gap is a blank that stays on its line. -/
lemma isGap_facts {c : Char} (h : isGap c = true) :
    isBlank c = true ∧ c ≠ '\n' ∧ c ≠ '\r' ∧ c ≠ '\\' := by
  simp only [isGap, Bool.or_eq_true, decide_eq_true_eq] at h
  rcases h with (rfl | rfl) | rfl <;> decide

/-- Gaps are on one line. -/
lemma onOneLine_gaps {gaps : List Char} (h : ∀ c ∈ gaps, isGap c = true) : OnOneLine gaps :=
  ⟨fun hfeed => (isGap_facts (h _ hfeed)).2.1 rfl,
    fun hreturn => (isGap_facts (h _ hreturn)).2.2.1 rfl⟩

/-- A line does not go on after gaps. -/
lemma continues_gaps {gaps : List Char} (h : ∀ c ∈ gaps, isGap c = true) :
    continues gaps = false := by
  rcases List.eq_nil_or_concat gaps with rfl | ⟨cs, c, rfl⟩
  · rfl
  · rw [List.concat_eq_append] at h ⊢
    exact continues_concat cs (isGap_facts (h c List.mem_concat_self)).2.2.2

/-- Gaps in front of a text are stripped with its blanks. -/
lemma trimStart_gaps_append {gaps : List Char} (h : ∀ c ∈ gaps, isGap c = true) (cs : List Char) :
    trimStart (gaps ++ cs) = trimStart cs :=
  trimStart_blanks_append (fun c hc => (isGap_facts (h c hc)).1) cs

/-! ### Reading on -/

/-- How a logical line goes on. -/
lemma joinFrom_some_cons (begun line : List Char) (rest : List (List Char)) :
    joinFrom (some begun) (line :: rest) =
      if continues (trimStart line) then joinFrom (some (begun ++ (trimStart line).dropLast)) rest
      else (begun ++ trimStart line) :: joinFrom none rest := rfl

/-- A line that is not ignored begins a logical line as it would go on with one. -/
lemma joinFrom_none_cons {line : List Char} (h : isIgnored (trimStart line) = false)
    (rest : List (List Char)) :
    joinFrom none (line :: rest) = joinFrom (some []) (line :: rest) := by
  show (if isIgnored (trimStart line) then joinFrom none rest else _) = _
  rw [h]
  rfl

/-- The first line of a text starts as the text does, unless that is with a blank. -/
lemma lines_cons {c : Char} (hc : isBlank c = false) (cs : List Char) :
    ∃ line rest, lines (c :: cs) = (c :: line) :: rest := by
  have hfeed : '\n' ∉ [c] := by
    rintro h
    rw [← List.mem_singleton.mp h] at hc
    revert hc
    decide
  have hreturn : '\r' ∉ [c] := by
    rintro h
    rw [← List.mem_singleton.mp h] at hc
    revert hc
    decide
  exact ⟨_, _, lines_append_left (List.cons_ne_nil c []) hfeed hreturn cs⟩

/-- Gaps in front of a text that goes on with a logical line do not count. -/
lemma joinFrom_gaps {gaps : List Char} (hgaps : ∀ c ∈ gaps, isGap c = true) (begun : List Char)
    {after : List Char} (hafter : Solid after) :
    joinFrom (some begun) (lines (gaps ++ after)) = joinFrom (some begun) (lines after) := by
  by_cases hne : gaps = []
  · rw [hne, List.nil_append]
  · obtain ⟨c, cs, rfl, hc⟩ := hafter
    obtain ⟨line, rest, hlines⟩ := lines_cons hc cs
    have hone := onOneLine_gaps hgaps
    rw [lines_append_left hne hone.1 hone.2, hlines, List.headD_cons, List.tail_cons,
      joinFrom_some_cons, joinFrom_some_cons, trimStart_gaps_append hgaps]

/-- A piece of a line counts as read already. -/
lemma joinFrom_piece {cs : List Char} (hcs : IsPiece cs) (begun : List Char) {after : List Char}
    (hafter : Solid after) :
    joinFrom (some begun) (lines (cs ++ after)) =
      joinFrom (some (begun ++ cs)) (lines after) := by
  by_cases hne : cs = []
  · rw [hne, List.nil_append, List.append_nil]
  · obtain ⟨c, ds, rfl, hc⟩ := hafter
    obtain ⟨line, rest, hlines⟩ := lines_cons hc ds
    have hline : Flush (c :: line) := flush_cons_iff.mpr hc
    have hflush : trimStart (cs ++ c :: line) = cs ++ c :: line := hcs.flush.append hline
    have hsame : trimStart (c :: line) = c :: line := hline
    rw [lines_append_left hne hcs.onOneLine.1 hcs.onOneLine.2, hlines, List.headD_cons,
      List.tail_cons, joinFrom_some_cons, joinFrom_some_cons, hflush, hsame,
      continues_append hcs.ends, List.append_assoc, List.append_assoc,
      List.dropLast_append_of_ne_nil (List.cons_ne_nil c line)]

/-- A backslash, a line end and gaps are as if they were not there. -/
lemma joinFrom_break {cs : List Char} (hcs : IsPiece cs) (lineEnd : LineEnd) {gaps : List Char}
    (hgaps : ∀ c ∈ gaps, isGap c = true) (begun : List Char) {after : List Char}
    (hafter : Solid after) :
    joinFrom (some begun) (lines (cs ++ ('\\' :: lineEnd.chars ++ gaps ++ after))) =
      joinFrom (some begun) (lines (cs ++ after)) := by
  have hbackslash : OnOneLine ['\\'] := by decide
  have hone : OnOneLine (cs ++ ['\\']) := hcs.onOneLine.append hbackslash
  have hflush : trimStart (cs ++ ['\\']) = cs ++ ['\\'] :=
    hcs.flush.append (flush_cons_iff.mpr (by decide))
  have hlast : lineEnd = .feed → (cs ++ ['\\']).getLast? ≠ some '\r' := fun _ => by simp
  have htext : cs ++ ('\\' :: lineEnd.chars ++ gaps ++ after) =
      cs ++ ['\\'] ++ lineEnd.chars ++ (gaps ++ after) := by
    simp only [List.append_assoc, List.cons_append, List.nil_append]
  rw [htext, lines_append_chars hone.1 hlast, joinFrom_some_cons, hflush,
    continues_backslash hcs.ends, if_pos rfl, List.dropLast_concat, joinFrom_gaps hgaps _ hafter,
    joinFrom_piece hcs begun hafter]

/-- A piece of a line makes the end of a logical line where the line ends. -/
lemma joinFrom_end {cs : List Char} (hcs : IsPiece cs) {ending rest : List Char}
    (hends : Ends ending rest) (begun : List Char) :
    joinFrom (some begun) (lines (cs ++ ending)) = (begun ++ cs) :: joinFrom none (lines rest) := by
  have hflush : trimStart cs = cs := hcs.flush
  have hline : ∀ others, joinFrom (some begun) (cs :: others) =
      (begun ++ cs) :: joinFrom none others := fun others => by
    rw [joinFrom_some_cons, hflush, hcs.ends]
    rfl
  cases hends with
  | lineEnd lineEnd rest =>
    have hlast : lineEnd = .feed → cs.getLast? ≠ some '\r' := fun _ hlast =>
      hcs.onOneLine.2 (List.mem_of_getLast? hlast)
    rw [← List.append_assoc, lines_append_chars hcs.onOneLine.1 hlast, hline]
  | textEnd =>
    rw [List.append_nil, lines_of_notMem hcs.onOneLine.1]
    split
    · rename_i hnil
      rw [hnil, List.append_nil]
      rfl
    · exact hline []

/-- A logical line begins with a character that is neither blank nor the mark of a comment, behind
gaps. -/
lemma joinFrom_begin {gaps : List Char} (hgaps : ∀ c ∈ gaps, isGap c = true) {c : Char}
    (hc : isBlank c = false) (hmark : isIgnored [c] = false) (cs : List Char) :
    joinFrom none (lines (gaps ++ c :: cs)) = joinFrom (some []) (lines (c :: cs)) := by
  obtain ⟨line, rest, hlines⟩ := lines_cons hc cs
  have hline : trimStart (c :: line) = c :: line := flush_cons_iff.mpr hc
  have hbegin : joinFrom none (lines (gaps ++ c :: cs)) =
      joinFrom (some []) (lines (gaps ++ c :: cs)) := by
    by_cases hne : gaps = []
    · rw [hne, List.nil_append, hlines, joinFrom_none_cons (by rwa [hline])]
    · have hone := onOneLine_gaps hgaps
      rw [lines_append_left hne hone.1 hone.2, hlines, List.headD_cons, joinFrom_none_cons]
      rwa [trimStart_gaps_append hgaps, hline]
  rw [hbegin, joinFrom_gaps hgaps [] ⟨c, cs, rfl, hc⟩]

/-! ### Lines without an entry -/

/-- A line is ignored if a longer one is. -/
lemma isIgnored_of_longer {short long : List Char} (h : short <+: long)
    (hlong : isIgnored (trimStart long) = true) : isIgnored (trimStart short) = true := by
  obtain ⟨rest, rfl⟩ := h
  unfold trimStart at *
  rw [List.dropWhile_append] at hlong
  cases hshort : short.dropWhile isBlank with
  | nil => rfl
  | cons c cs =>
    rw [hshort] at hlong
    exact hlong

/-- Blanks, and a comment behind them, make a line that is ignored. -/
lemma isIgnored_blanks_append {blanks remark : List Char}
    (hblanks : ∀ c ∈ blanks, isBlank c = true)
    (hremark : ∀ c ∈ remark.head?, c = '#' ∨ c = '!') :
    isIgnored (trimStart (blanks ++ remark)) = true := by
  rw [trimStart_blanks_append hblanks]
  cases remark with
  | nil => rfl
  | cons c cs =>
    rcases hremark c rfl with rfl | rfl
    · rfl
    · rfl

/-- A line without an entry is passed over, even if it ends with a backslash or with carriage
returns. -/
lemma joinFrom_ignored {line : List Char} (hfeed : '\n' ∉ line)
    (hline : isIgnored (trimStart line) = true) {ending rest : List Char}
    (hends : Ends ending rest) :
    joinFrom none (lines (line ++ ending)) = joinFrom none (lines rest) := by
  have hpass : ∀ short others, short <+: line →
      joinFrom none (short :: others) = joinFrom none others := fun short others hshort =>
    if_pos (isIgnored_of_longer hshort hline)
  cases hends with
  | lineEnd lineEnd rest =>
    cases lineEnd with
    | feed =>
      have hprefix : dropReturn line <+: line := by
        unfold dropReturn
        split
        · exact List.dropLast_prefix line
        · exact List.prefix_rfl
      show joinFrom none (lines (line ++ '\n' :: rest)) = _
      rw [lines_append hfeed, hpass _ _ hprefix]
    | returnFeed =>
      have htext : line ++ (LineEnd.returnFeed.chars ++ rest) = line ++ ['\r'] ++ '\n' :: rest := by
        simp [LineEnd.chars]
      have hboth : '\n' ∉ line ++ ['\r'] := by simpa using hfeed
      rw [htext, lines_append hboth, dropReturn_concat, hpass _ _ List.prefix_rfl]
  | textEnd =>
    rw [List.append_nil, lines_of_notMem hfeed]
    split
    · rfl
    · exact hpass _ _ List.prefix_rfl

end AppLauncher.Properties
