import AppLauncher.Metadata.Basic
import AppLauncher.Proofs.Properties.Signs
import AppLauncher.Proofs.Table

/-!
# Writing properties

A properties text is written line by line: a line holds an entry, a comment or nothing.  The signs
of a key and of a value may have breaks in front of them, gaps may stand around the separator, and
each line has its own end, which the last one may lack.  Whatever choice the writer makes, reading
gives the entries back in their order, and metadata that is made of the text answers from the last
entry of each key (`properties_of_document`).

The proof follows the readers.  Breaks are taken out of a phrase one after the other
(`joinFrom_phrase`), so that an entry becomes one logical line (`joinFrom_entry`); that line is cut
at the end of the key, and what is left of both phrases are signs (`entryOf_joined`).
-/

namespace AppLauncher.Properties

open Text

/-! ### Phrases -/

/-- A break in a line: a backslash, a line end, and the gaps that the next line starts with. -/
structure Break where
  lineEnd : LineEnd
  gaps : List Char
  isGap_of_mem : ∀ c ∈ gaps, isGap c = true

/-- The characters of a break. -/
def Break.chars (b : Break) : List Char := '\\' :: b.lineEnd.chars ++ b.gaps

/-- A sign and the breaks in front of it. -/
structure Part where
  breaks : List Break
  sign : Sign

/-- A key or a value as it is written. -/
abbrev Phrase := List Part

namespace Phrase

/-- The text that a phrase stands for. -/
def text (phrase : Phrase) : String := String.ofList (phrase.map (·.sign.char))

/-- The characters of a phrase. -/
def chars (phrase : Phrase) : List Char :=
  phrase.flatMap fun part => part.breaks.flatMap Break.chars ++ part.sign.chars

/-- The characters of a phrase without its breaks. -/
def joined (phrase : Phrase) : List Char := phrase.flatMap (·.sign.chars)

/-- Every text can be written. -/
lemma exists_text_eq (s : String) : ∃ phrase : Phrase, phrase.text = s := by
  have hchars : ∃ phrase : Phrase, phrase.map (·.sign.char) = s.toList := by
    generalize s.toList = cs
    induction cs with
    | nil => exact ⟨[], rfl⟩
    | cons c cs ih =>
      obtain ⟨phrase, hphrase⟩ := ih
      obtain ⟨sign, hsign⟩ := Sign.exists_char_eq c
      exact ⟨⟨[], sign⟩ :: phrase, by rw [List.map_cons, hsign, hphrase]⟩
  obtain ⟨phrase, hphrase⟩ := hchars
  refine ⟨phrase, ?_⟩
  unfold text
  rw [hphrase, String.ofList_toList]

/-- A phrase without its breaks is a piece of a line. -/
lemma isPiece_joined (phrase : Phrase) : IsPiece phrase.joined := by
  induction phrase with
  | nil => exact ⟨rfl, by decide, rfl⟩
  | cons part phrase ih => exact part.sign.isPiece.append ih

/-- Breaks and what stands behind them start with a character that begins an entry, if what stands
behind them does. -/
lemma exists_cons_breaks (breaks : List Break) {after : List Char}
    (hafter : ∃ c cs, after = c :: cs ∧ isBlank c = false ∧ isIgnored [c] = false) :
    ∃ c cs, breaks.flatMap Break.chars ++ after = c :: cs ∧
      isBlank c = false ∧ isIgnored [c] = false := by
  cases breaks with
  | nil => exact hafter
  | cons b breaks => exact ⟨'\\', _, rfl, by decide, by decide⟩

/-- A part starts with a character that begins an entry. -/
lemma exists_cons_part (part : Part) (rest : List Char) :
    ∃ c cs, part.breaks.flatMap Break.chars ++ (part.sign.chars ++ rest) = c :: cs ∧
      isBlank c = false ∧ isIgnored [c] = false := by
  refine exists_cons_breaks part.breaks ?_
  obtain ⟨c, cs, hchars, hc⟩ := part.sign.exists_cons
  exact ⟨c, cs ++ rest, by rw [hchars, List.cons_append], hc⟩

/-! ### Taking out the breaks -/

/-- Breaks behind a piece of a line are as if they were not there. -/
lemma joinFrom_breaks {cs : List Char} (hcs : IsPiece cs) (begun : List Char)
    (breaks : List Break) (sign : Sign) (after : List Char) :
    joinFrom (some begun) (lines (cs ++ (breaks.flatMap Break.chars ++ (sign.chars ++ after)))) =
      joinFrom (some begun) (lines (cs ++ (sign.chars ++ after))) := by
  induction breaks with
  | nil => rfl
  | cons b breaks ih =>
    obtain ⟨c, ds, hcons, hc, -⟩ := exists_cons_part ⟨breaks, sign⟩ after
    have hbreak := joinFrom_break hcs b.lineEnd b.isGap_of_mem begun ⟨c, ds, hcons, hc⟩
    rw [List.flatMap_cons, List.append_assoc, ← ih, ← hbreak]
    rfl

/-- The breaks of a phrase behind a piece of a line are as if they were not there. -/
lemma joinFrom_phrase {cs : List Char} (hcs : IsPiece cs) (begun : List Char) (phrase : Phrase)
    (after : List Char) :
    joinFrom (some begun) (lines (cs ++ (phrase.chars ++ after))) =
      joinFrom (some begun) (lines (cs ++ (phrase.joined ++ after))) := by
  induction phrase generalizing cs with
  | nil => rfl
  | cons part phrase ih =>
    have hbreaks := joinFrom_breaks hcs begun part.breaks part.sign (chars phrase ++ after)
    have hrest := ih (hcs.append part.sign.isPiece)
    simp only [chars, joined, List.flatMap_cons, List.append_assoc] at hbreaks hrest ⊢
    rw [hbreaks, hrest]

/-! ### Reading phrases -/

/-- A phrase is part of the key that it stands in. -/
lemma cutKey_joined (phrase : Phrase) (rest : List Char) :
    cutKey (phrase.joined ++ rest) = (phrase.joined ++ (cutKey rest).1, (cutKey rest).2) := by
  induction phrase with
  | nil => rfl
  | cons part phrase ih =>
    have hsign := part.sign.cutKey_chars (joined phrase ++ rest)
    rw [ih] at hsign
    simp only [joined, List.flatMap_cons, List.append_assoc] at hsign ⊢
    exact hsign

/-- A phrase is read as the text that it stands for. -/
lemma unescape_joined (phrase : Phrase) : String.ofList (unescape phrase.joined) = phrase.text := by
  unfold text
  congr 1
  induction phrase with
  | nil => rfl
  | cons part phrase ih =>
    have hsign := part.sign.unescape_chars (joined phrase)
    rw [ih] at hsign
    exact hsign

/-- A phrase without its breaks does not start with a gap. -/
lemma dropWhile_joined (phrase : Phrase) : phrase.joined.dropWhile isGap = phrase.joined := by
  cases phrase with
  | nil => rfl
  | cons part phrase =>
    obtain ⟨c, cs, hchars, hc, -⟩ := part.sign.exists_cons
    have hgap : ¬isGap c = true := fun hgap => by
      rw [(isGap_facts hgap).1] at hc
      cases hc
    have hjoined : joined (part :: phrase) = c :: (cs ++ joined phrase) := by
      rw [joined, List.flatMap_cons, hchars]
      rfl
    rw [hjoined, List.dropWhile_cons_of_neg hgap]

end Phrase

/-! ### Entries -/

/-- A separator with the gaps around it. -/
structure Divider where
  before : List Char
  isGap_before : ∀ c ∈ before, isGap c = true
  separator : Char
  isSeparator_separator : isSeparator separator = true
  after : List Char
  isGap_after : ∀ c ∈ after, isGap c = true

namespace Divider

/-- The characters of a divider from its separator on. -/
def core (divider : Divider) : List Char := divider.separator :: divider.after

/-- The characters of a divider. -/
def chars (divider : Divider) : List Char := divider.before ++ divider.core

/-- A separator begins an entry, and it is no backslash. -/
lemma separator_facts (divider : Divider) :
    isBlank divider.separator = false ∧ isIgnored [divider.separator] = false ∧
      OnOneLine [divider.separator] ∧ divider.separator ≠ '\\' := by
  have hseparator := divider.isSeparator_separator
  simp only [isSeparator, Bool.or_eq_true, decide_eq_true_eq] at hseparator
  rcases hseparator with heq | heq <;> rw [heq] <;> decide

/-- A divider from its separator on stays on its line. -/
lemma onOneLine_core (divider : Divider) : OnOneLine divider.core :=
  divider.separator_facts.2.2.1.append (onOneLine_gaps divider.isGap_after)

/-- A line does not go on after a divider. -/
lemma continues_core (divider : Divider) : continues divider.core = false :=
  (continues_append (continues_concat [] divider.separator_facts.2.2.2) _).trans
    (continues_gaps divider.isGap_after)

/-- A divider from its separator on is a piece of a line. -/
lemma isPiece_core (divider : Divider) : IsPiece divider.core :=
  ⟨flush_cons_iff.mpr divider.separator_facts.1, divider.onOneLine_core, divider.continues_core⟩

/-- A key ends in front of a divider. -/
lemma cutKey_chars (divider : Divider) (rest : List Char) :
    cutKey (divider.chars ++ rest) = ([], divider.chars ++ rest) := by
  unfold chars core
  cases hbefore : divider.before with
  | nil =>
    have hne := divider.separator_facts.2.2.2
    rw [List.nil_append, List.cons_append, cutKey_cons hne, divider.isSeparator_separator]
    rfl
  | cons c cs =>
    have hc : isGap c = true := divider.isGap_before c (by rw [hbefore]; simp)
    rw [List.cons_append, List.cons_append, cutKey_cons (isGap_facts hc).2.2.2, hc, Bool.or_true]
    rfl

/-- What follows a divider is the value. -/
lemma dropSeparator_chars (divider : Divider) (rest : List Char) :
    dropSeparator (divider.chars ++ rest) = rest.dropWhile isGap := by
  have hgap : ¬isGap divider.separator = true := fun hgap => by
    have hblank := (isGap_facts hgap).1
    rw [divider.separator_facts.1] at hblank
    cases hblank
  unfold dropSeparator chars core
  rw [List.append_assoc, List.dropWhile_append_of_pos divider.isGap_before, List.cons_append,
    List.dropWhile_cons_of_neg hgap]
  dsimp only
  rw [if_pos divider.isSeparator_separator, List.dropWhile_append_of_pos divider.isGap_after]

end Divider

/-- An entry as it is written. -/
structure Entry where
  key : Phrase
  divider : Divider
  value : Phrase

namespace Entry

/-- The key and the value that an entry stands for. -/
def pair (entry : Entry) : String × String := (entry.key.text, entry.value.text)

/-- The characters of an entry. -/
def chars (entry : Entry) : List Char :=
  entry.key.chars ++ (entry.divider.chars ++ entry.value.chars)

/-- The beginning of the logical line of an entry, up to the value.  Where the key is empty the
line starts with the separator, since the gaps in front of it are those at the start of a line. -/
def lead (entry : Entry) : List Char :=
  if entry.key.isEmpty then entry.divider.core else entry.key.joined ++ entry.divider.chars

/-- The beginning of the logical line of an entry is a piece of it. -/
lemma isPiece_lead (entry : Entry) : IsPiece entry.lead := by
  unfold lead
  cases hkey : entry.key with
  | nil => exact entry.divider.isPiece_core
  | cons part phrase =>
    have hpiece := Phrase.isPiece_joined (part :: phrase)
    have hsolid : Solid (Phrase.joined (part :: phrase) ++ entry.divider.chars) := by
      rw [Phrase.joined, List.flatMap_cons, List.append_assoc]
      exact part.sign.solid_append _
    have hone : OnOneLine entry.divider.chars :=
      (onOneLine_gaps entry.divider.isGap_before).append entry.divider.onOneLine_core
    have hends : continues entry.divider.chars = false :=
      (continues_append (continues_gaps entry.divider.isGap_before) _).trans
        entry.divider.continues_core
    exact ⟨hsolid.flush, hpiece.onOneLine.append hone,
      (continues_append hpiece.ends _).trans hends⟩

/-- The beginning of an entry is read up to the value. -/
lemma joinFrom_lead (entry : Entry) (after : List Char) :
    joinFrom none (lines (entry.key.chars ++ (entry.divider.chars ++ after))) =
      joinFrom (some []) (lines (entry.lead ++ after)) := by
  unfold lead
  cases hkey : entry.key with
  | nil =>
    obtain ⟨hblank, hignored, -⟩ := entry.divider.separator_facts
    rw [Divider.chars, List.append_assoc]
    exact joinFrom_begin entry.divider.isGap_before hblank hignored _
  | cons part phrase =>
    have hstart : ∀ rest, joinFrom none (lines (Phrase.chars (part :: phrase) ++ rest)) =
        joinFrom (some []) (lines (Phrase.chars (part :: phrase) ++ rest)) := fun rest => by
      obtain ⟨c, cs, hcons, hc, hignored⟩ :=
        Phrase.exists_cons_part part (Phrase.chars phrase ++ rest)
      rw [Phrase.chars, List.flatMap_cons, List.append_assoc, List.append_assoc]
      rw [Phrase.chars] at hcons
      have hnone : ∀ d ∈ ([] : List Char), isGap d = true := by simp
      rw [hcons]
      exact joinFrom_begin hnone hc hignored cs
    have hnil : IsPiece [] := Phrase.isPiece_joined []
    rw [hstart, ← List.nil_append (Phrase.chars (part :: phrase) ++ _),
      Phrase.joinFrom_phrase hnil, List.nil_append, ← List.append_assoc]
    rfl

/-- An entry makes one logical line. -/
lemma joinFrom_entry (entry : Entry) {ending rest : List Char} (hends : Ends ending rest) :
    joinFrom none (lines (entry.chars ++ ending)) =
      (entry.lead ++ entry.value.joined) :: joinFrom none (lines rest) := by
  have hpiece : IsPiece (entry.lead ++ entry.value.joined) :=
    entry.isPiece_lead.append entry.value.isPiece_joined
  rw [chars, List.append_assoc, List.append_assoc, joinFrom_lead,
    Phrase.joinFrom_phrase entry.isPiece_lead, ← List.append_assoc, joinFrom_end hpiece hends,
    List.nil_append]

/-- The beginning of the logical line of an entry is the key and a divider. -/
lemma exists_lead_eq (entry : Entry) :
    ∃ divider : Divider, entry.lead = entry.key.joined ++ divider.chars := by
  unfold lead
  cases entry.key with
  | nil => exact ⟨{ entry.divider with before := [], isGap_before := by simp }, rfl⟩
  | cons part phrase => exact ⟨entry.divider, rfl⟩

/-- The logical line of an entry is read as the key and the value. -/
lemma entryOf_joined (entry : Entry) : entryOf (entry.lead ++ entry.value.joined) = entry.pair := by
  obtain ⟨divider, hlead⟩ := entry.exists_lead_eq
  have hcut : cutKey (entry.lead ++ entry.value.joined) =
      (entry.key.joined, divider.chars ++ entry.value.joined) := by
    rw [hlead, List.append_assoc, Phrase.cutKey_joined, divider.cutKey_chars, List.append_nil]
  have hvalue : dropSeparator (divider.chars ++ entry.value.joined) = entry.value.joined := by
    rw [divider.dropSeparator_chars, entry.value.dropWhile_joined]
  unfold entryOf pair
  rw [hcut]
  dsimp only
  rw [hvalue, entry.key.unescape_joined, entry.value.unescape_joined]

end Entry

/-! ### Documents -/

/-- A line of a text as it is written. -/
inductive Line where
  | entry (entry : Entry)
  /-- A line without an entry has blanks, and it may have a comment behind them. -/
  | filler (blanks remark : List Char) (isBlank_of_mem : ∀ c ∈ blanks, isBlank c = true)
      (isComment : ∀ c ∈ remark.head?, c = '#' ∨ c = '!') (feed_notMem : '\n' ∉ blanks ++ remark)

namespace Line

/-- The characters of a line without its end. -/
def chars : Line → List Char
  | entry e => e.chars
  | filler blanks remark _ _ _ => blanks ++ remark

/-- The key and the value on a line. -/
def pair? : Line → Option (String × String)
  | entry e => some e.pair
  | filler .. => none

/-- A line gives the entry that stands on it. -/
lemma parse_append (line : Line) {ending rest : List Char} (hends : Ends ending rest) :
    parse (line.chars ++ ending) = line.pair?.toList ++ parse rest := by
  unfold parse
  cases line with
  | entry e =>
    have hline := e.joinFrom_entry hends
    rw [chars, hline, List.map_cons, e.entryOf_joined]
    rfl
  | filler blanks remark hblanks hremark hfeed =>
    have hignored := isIgnored_blanks_append hblanks hremark
    rw [chars, joinFrom_ignored hfeed hignored hends]
    rfl

end Line

/-- A properties text as it is written: lines with their ends, where the last one may have none. -/
structure Document where
  lines : List (Line × LineEnd)
  isEnded : Bool

namespace Document

/-- Lines one after the other. -/
def write (isEnded : Bool) : List (Line × LineEnd) → List Char
  | [] => []
  | (line, lineEnd) :: rest =>
    line.chars ++ if rest.isEmpty && !isEnded then [] else lineEnd.chars ++ write isEnded rest

/-- The characters of a text. -/
def chars (document : Document) : List Char := write document.isEnded document.lines

/-- The keys and values that are written, in order. -/
def pairs (document : Document) : List (String × String) :=
  document.lines.filterMap (·.1.pair?)

/-- Every list of keys and values can be written. -/
theorem exists_pairs_eq (pairs : List (String × String)) :
    ∃ document : Document, document.pairs = pairs := by
  induction pairs with
  | nil => exact ⟨⟨[], true⟩, rfl⟩
  | cons pair pairs ih =>
    obtain ⟨document, hdocument⟩ := ih
    obtain ⟨key, hkey⟩ := Phrase.exists_text_eq pair.1
    obtain ⟨value, hvalue⟩ := Phrase.exists_text_eq pair.2
    let divider : Divider := ⟨[], by simp, '=', rfl, [], by simp⟩
    let line : Line := .entry ⟨key, divider, value⟩
    have hline : line.pair? = some pair := by
      show some (key.text, value.text) = some pair
      rw [hkey, hvalue]
    exact ⟨⟨(line, .feed) :: document.lines, true⟩, by
      rw [← hdocument]
      exact List.filterMap_cons_some hline⟩

/-- What stands behind a line of a text is its end and the other lines. -/
lemma ends_write (isEnded : Bool) (lineEnd : LineEnd) (rest : List (Line × LineEnd)) :
    Ends (if rest.isEmpty && !isEnded then [] else lineEnd.chars ++ write isEnded rest)
      (write isEnded rest) := by
  split
  · rename_i hlast
    rw [List.isEmpty_iff.mp (Bool.and_eq_true_iff.mp hlast).1]
    exact .textEnd
  · exact .lineEnd lineEnd _

/-- Reading lines gives the entries on them. -/
lemma parse_chars_lines (isEnded : Bool) (lines : List (Line × LineEnd)) :
    parse (write isEnded lines) = lines.filterMap (·.1.pair?) := by
  induction lines with
  | nil => rfl
  | cons l rest ih =>
    obtain ⟨line, lineEnd⟩ := l
    rw [write, line.parse_append (ends_write isEnded lineEnd rest), ih, List.filterMap_cons]
    cases line.pair? <;> rfl

/-- Reading a text gives the entries that were written, in order, and metadata that is made of the
text holds the last value of each key: it has an entry for a candidate exactly if one was written,
and as many entries as there are different keys. -/
theorem properties_of_document (document : Document) :
    parse document.chars = document.pairs ∧
    (∀ key, (Metadata.ofText (String.ofList document.chars)).properties.get? key =
      Table.lastValue? document.pairs key) ∧
    (∀ candidate key, (Metadata.ofText (String.ofList document.chars)).get? candidate key =
      Table.lastValue? document.pairs (candidate ++ "." ++ key)) ∧
    (∀ candidate, (Metadata.ofText (String.ofList document.chars)).wasProcessed candidate = true ↔
      ∃ value, (candidate, value) ∈ document.pairs) ∧
    (Metadata.ofText (String.ofList document.chars)).size =
      (document.pairs.map Prod.fst).dedup.length := by
  have hparse : parse document.chars = document.pairs :=
    parse_chars_lines document.isEnded document.lines
  have hproperties : (Metadata.ofText (String.ofList document.chars)).properties =
      .ofList document.pairs := by
    rw [Metadata.ofText, String.toList_ofList, hparse]
    rfl
  refine ⟨hparse, fun key => ?_, fun candidate key => ?_, fun candidate => ?_, ?_⟩
  · rw [hproperties, Table.get?_ofList]
  · rw [Metadata.get?, hproperties, Table.get?_ofList]
  · rw [Metadata.wasProcessed, hproperties, Table.contains, Table.get?_ofList]
    exact Table.isSome_lastValue?
  · rw [Metadata.size, hproperties, Table.size_ofList]

/-- Breaks, comments and a missing line end do not show. -/
example : parse "#\\\n\na\\\r\n  b\\ c : d\\\\".toList = [("ab c", "d\\")] := by decide +kernel

end Document

end AppLauncher.Properties
