import AppLauncher.Proofs.Manifest.Reading
import AppLauncher.Proofs.Text.Lines
import AppLauncher.Proofs.Text.Utf8

/-!
# Continuation lines

A continuation line after an attribute is meant to be a part of its value, so that the two lines
could be written as one.  It is read as a part of the attribute listed last in the section.  These
are the same unless the attribute was set in the place of an earlier one, or gave the section its
name; then the continuation goes to another attribute, or nowhere.  `parse_continuation_iff` says
that this is exactly when the two ways of writing the lines are not read as the same.

The attributes of a section without a name never become part of the manifest, so that for them it
does not matter where a continuation goes.  `Reading.Alike` relates readings that differ in nothing
else; lines preserve it.
-/

namespace AppLauncher

namespace Text

/-- Nothing is trimmed from what follows a text that is not blank. -/
lemma trimStart_append {cs : List Char} (h : ∃ c ∈ cs, isBlank c = false) (ds : List Char) :
    trimStart (cs ++ ds) = trimStart cs ++ ds := by
  induction cs with
  | nil =>
    obtain ⟨c, hc, -⟩ := h
    cases hc
  | cons c cs ih =>
    unfold trimStart at ih ⊢
    cases hblank : isBlank c with
    | false => simp [hblank]
    | true =>
      obtain ⟨d, hd, hdblank⟩ := h
      rcases List.mem_cons.mp hd with rfl | hrest
      · rw [hblank] at hdblank
        cases hdblank
      · rw [List.cons_append, List.dropWhile_cons_of_pos hblank,
          List.dropWhile_cons_of_pos hblank, ih ⟨d, hrest, hdblank⟩]

end Text

namespace Manifest

namespace Reading

/-! ### Sections without a name -/

/-- Two readings differ at most in the attributes of a current section that has no name and will not
get one. -/
def Alike (r s : Reading) : Prop :=
  r = s ∨ ∃ m a b, a.isEmpty = false ∧ b.isEmpty = false ∧
    r = ⟨m, .unnamed a⟩ ∧ s = ⟨m, .unnamed b⟩

/-- A line either closes a section that has attributes but no name, or changes its attributes. -/
lemma line_unnamed (l : List Char) :
    (∀ m a, Reading.line ⟨m, .unnamed a⟩ l = ⟨m, .unnamed .empty⟩) ∨
    ∃ change : Attributes → Attributes, ∀ m a, a.isEmpty = false →
      (change a).isEmpty = false ∧ Reading.line ⟨m, .unnamed a⟩ l = ⟨m, .unnamed (change a)⟩ := by
  by_cases hspace : l.head? = some ' '
  · obtain ⟨more, rfl⟩ := List.head?_eq_some_iff.mp hspace
    refine .inr ⟨fun a => a.appendToLast (String.ofList more), fun m a ha => ⟨?_, rfl⟩⟩
    rw [Attributes.isEmpty_appendToLast, ha]
  · cases l with
    | nil => exact .inl fun m a => rfl
    | cons c l =>
      refine .inr ?_
      cases hsplit : Text.splitFirst ':' (c :: l) with
      | none =>
        refine ⟨id, fun m a ha => ⟨ha, ?_⟩⟩
        rw [line_of_head?_ne _ (by simp) hspace, hsplit]
        rfl
      | some parts =>
        obtain ⟨key, value⟩ := parts
        refine ⟨fun a => a.insert (String.ofList (Text.trim key))
          (String.ofList (Text.trimStart value)), fun m a ha => ⟨a.isEmpty_insert, ?_⟩⟩
        have hnot : ¬ Reading.NamesSection ⟨m, .unnamed a⟩ (String.ofList (Text.trim key)) := by
          rintro ⟨hcurrent, -⟩
          rw [Current.unnamed.inj hcurrent] at ha
          cases ha
        rw [line_of_head?_ne _ (by simp) hspace, hsplit]
        exact assign_eq _ hnot _

/-- A line keeps readings alike. -/
lemma Alike.line {r s : Reading} (h : r.Alike s) (l : List Char) : (r.line l).Alike (s.line l) := by
  rcases h with rfl | ⟨m, a, b, ha, hb, rfl, rfl⟩
  · exact .inl rfl
  · rcases line_unnamed l with hclosed | ⟨change, hchange⟩
    · rw [hclosed, hclosed]
      exact .inl rfl
    · obtain ⟨hca, hra⟩ := hchange m a ha
      obtain ⟨hcb, hrb⟩ := hchange m b hb
      exact .inr ⟨m, change a, change b, hca, hcb, hra, hrb⟩

/-- Alike readings end with the same manifest, whatever lines follow. -/
lemma Alike.close_foldl {r s : Reading} (h : r.Alike s) (after : List (List Char)) :
    (after.foldl Reading.line r).close = (after.foldl Reading.line s).close := by
  induction after generalizing r s with
  | nil =>
    rcases h with rfl | ⟨m, a, b, -, -, rfl, rfl⟩
    · rfl
    · rfl
  | cons l after ih =>
    rw [List.foldl_cons, List.foldl_cons]
    exact ih (h.line l)

/-! ### An attribute and its continuation -/

/-- Whether a continuation after an attribute of a name is read as a part of its value: the
attribute does not give the section its name, and none but the last one of the section is called as
it is.  In sections without a name, the latter does not matter. -/
def Continues (r : Reading) (name : String) : Prop :=
  ¬ r.NamesSection name ∧ (r.Settled → Attributes.Lacks name r.attributes.values.dropLast)

/-- An empty continuation changes nothing. -/
lemma extend_empty (r : Reading) : r.extend "" = r := by
  rw [extend_eq, Attributes.appendToLast_empty, withAttributes_attributes]

/-- An attribute and a continuation after it change the attributes of the current section. -/
lemma extend_assign {r : Reading} {name : String} (h : ¬ r.NamesSection name)
    (value more : String) : (r.assign name value).extend more =
      r.withAttributes ((r.attributes.insert name value).appendToLast more) := by
  rw [assign_eq r h, extend_eq, withAttributes_withAttributes, attributes_withAttributes]

/-- Where a continuation is read as a part of the value, the two lines are read as one. -/
lemma alike_of_continues {r : Reading} {name : String} (h : r.Continues name)
    (value more : String) :
    ((r.assign name value).extend more).Alike (r.assign name (value ++ more)) := by
  obtain ⟨hnames, hlacks⟩ := h
  rw [extend_assign hnames, assign_eq r hnames]
  by_cases hr : r.Settled
  · have hsame : (r.attributes.insert name value).appendToLast more =
        r.attributes.insert name (value ++ more) :=
      (Attributes.appendToLast_insert r.attributes).mpr (.inr (hlacks hr))
    exact .inl (congrArg r.withAttributes hsame)
  · obtain ⟨m, current⟩ := r
    obtain ⟨a, ha⟩ := not_forall_not.mp hr
    dsimp only at ha
    subst ha
    refine .inr ⟨m, (a.insert name value).appendToLast more, a.insert name (value ++ more),
      ?_, a.isEmpty_insert, rfl, rfl⟩
    rw [Attributes.isEmpty_appendToLast, Attributes.isEmpty_insert]

/-- A settled section is closed with its attributes. -/
lemma Settled.attributes_eq {r : Reading} (hr : r.Settled) {a b : Attributes}
    (h : (r.withAttributes a).close = (r.withAttributes b).close) : a = b := by
  obtain ⟨m, current⟩ := r
  cases current with
  | main => exact congrArg Manifest.main h
  | unnamed c => exact absurd rfl (hr c)
  | named name c =>
    have hget : (m.sections.insert name a).get? name = (m.sections.insert name b).get? name :=
      congrArg (fun m : Manifest => m.sections.get? name) h
    simpa using hget

/-- The name of a section is not continued: if it seems to be, when the section has no attributes
and when it has one, then only because nothing was to be added. -/
lemma NamesSection.eq_of_close_eq {r : Reading} {name value other : String}
    (h : r.NamesSection name) (hnow : (r.assign name value).close = (r.assign name other).close)
    (hlater : ((r.assign name value).line ['x', ':']).close =
      ((r.assign name other).line ['x', ':']).close) : value = other := by
  rw [assign_of_namesSection r h, assign_of_namesSection r h] at hnow hlater
  by_contra hne
  -- the section would be there already, with no attributes and with one
  have hempty : (r.manifest.sections.insert value .empty).get? value =
      (r.manifest.sections.insert other .empty).get? value :=
    congrArg (fun m : Manifest => m.sections.get? value) hnow
  have hfilled : (r.manifest.sections.insert value ⟨[("x", "")]⟩).get? value =
      (r.manifest.sections.insert other ⟨[("x", "")]⟩).get? value :=
    congrArg (fun m : Manifest => m.sections.get? value) hlater
  rw [Table.get?_insert, Table.get?_insert, if_pos rfl, if_neg (Ne.symm hne)] at hempty hfilled
  rw [← hempty] at hfilled
  cases hfilled

/-- If an attribute and its continuation are read as one line, when nothing follows and when a short
line does, then the continuation is read as a part of the value. -/
lemma continues_of_close_eq {r : Reading} {name value more : String} (hmore : more ≠ "")
    (hnow : ((r.assign name value).extend more).close = (r.assign name (value ++ more)).close)
    (hlater : (((r.assign name value).extend more).line ['x', ':']).close =
      ((r.assign name (value ++ more)).line ['x', ':']).close) : r.Continues name := by
  by_cases hnames : r.NamesSection name
  · have hlost : (r.assign name value).extend more = r.assign name value := by
      rw [assign_of_namesSection r hnames]
      rfl
    rw [hlost] at hnow hlater
    have hsame := hnames.eq_of_close_eq hnow hlater
    exact absurd (String.append_eq_left_iff.mp hsame.symm) hmore
  · refine ⟨hnames, fun hr => ?_⟩
    rw [extend_assign hnames, assign_eq r hnames] at hnow
    exact ((Attributes.appendToLast_insert _).mp (hr.attributes_eq hnow)).resolve_left hmore

end Reading

/-! ### Two lines, or one -/

/-- Lines without line feeds are the lines of some content. -/
lemma exists_content {written : List (List Char)} (h : ∀ l ∈ written, '\n' ∉ l) :
    ∃ content, Text.lines (Text.Utf8.decode content) = written := by
  refine ⟨Text.Utf8.encode (Text.joinLines (fun _ => .returnFeed) written), ?_⟩
  rw [Text.Utf8.decode_encode]
  exact Text.lines_joinLines _ h fun _ _ _ hfeed => by cases hfeed

/-- Lines that are read as the same from all contents are the same manifest. -/
lemma ofLines_eq_of_parse_eq {written joined : List (List Char)}
    (hwritten : ∀ l ∈ written, '\n' ∉ l) (hjoined : ∀ l ∈ joined, '\n' ∉ l)
    (h : ∀ content other, Text.lines (Text.Utf8.decode content) = written →
      Text.lines (Text.Utf8.decode other) = joined → parse content = parse other) :
    ofLines written = ofLines joined := by
  obtain ⟨content, hcontent⟩ := exists_content hwritten
  obtain ⟨other, hother⟩ := exists_content hjoined
  have hparse := h content other hcontent hother
  rwa [parse, parse, hcontent, hother] at hparse

section

variable {key : List Char} (hspace : key.head? ≠ some ' ') (hcolon : ':' ∉ key)

include hspace hcolon

/-- A manifest in which a continuation line follows an attribute. -/
lemma ofLines_continuation (before : List (List Char)) (value more : List Char)
    (after : List (List Char)) :
    ofLines (before ++ (key ++ ':' :: value) :: (' ' :: more) :: after) =
      (after.foldl Reading.line (((before.foldl Reading.line .start).assign
        (String.ofList (Text.trim key)) (String.ofList (Text.trimStart value))).extend
          (String.ofList more))).close := by
  rw [ofLines, List.foldl_append, List.foldl_cons, List.foldl_cons,
    Reading.line_attribute _ hspace hcolon, Reading.line_continuation]

/-- A manifest in which the continuation stands on the line of the attribute. -/
lemma ofLines_joined (before : List (List Char)) {value : List Char}
    (hblank : ∃ c ∈ value, Text.isBlank c = false) (more : List Char) (after : List (List Char)) :
    ofLines (before ++ (key ++ ':' :: (value ++ more)) :: after) =
      (after.foldl Reading.line ((before.foldl Reading.line .start).assign
        (String.ofList (Text.trim key))
          (String.ofList (Text.trimStart value) ++ String.ofList more))).close := by
  rw [ofLines, List.foldl_append, List.foldl_cons, Reading.line_attribute _ hspace hcolon,
    Text.trimStart_append hblank, String.ofList_append]

end

/-- An attribute and a continuation line after it are read as the one line that joins them, whatever
lines follow, exactly if the continuation is empty or is read as a part of the value. -/
theorem parse_continuation_iff (before : List (List Char)) (key value more : List Char)
    (hfeed : ∀ l ∈ key :: value :: more :: before, '\n' ∉ l) (hspace : key.head? ≠ some ' ')
    (hcolon : ':' ∉ key) (hblank : ∃ c ∈ value, Text.isBlank c = false) :
    (∀ after content joined,
      Text.lines (Text.Utf8.decode content) =
        before ++ (key ++ ':' :: value) :: (' ' :: more) :: after →
      Text.lines (Text.Utf8.decode joined) =
        before ++ (key ++ ':' :: (value ++ more)) :: after →
      parse content = parse joined) ↔
    more = [] ∨
      (before.foldl Reading.line .start).Continues (String.ofList (Text.trim key)) := by
  have htwo := ofLines_continuation hspace hcolon before value more
  have hone := ofLines_joined hspace hcolon before hblank more
  constructor
  · intro h
    by_cases hempty : more = []
    · exact .inl hempty
    · refine .inr ?_
      simp only [List.forall_mem_cons] at hfeed
      obtain ⟨hkey, hvalue, hcontinued, hbefore⟩ := hfeed
      have hfollowed : ∀ after, (∀ l ∈ after, '\n' ∉ l) →
          ofLines (before ++ (key ++ ':' :: value) :: (' ' :: more) :: after) =
            ofLines (before ++ (key ++ ':' :: (value ++ more)) :: after) := by
        intro after hafter
        refine ofLines_eq_of_parse_eq ?_ ?_ (h after)
        · simp only [List.forall_mem_append, List.forall_mem_cons]
          exact ⟨hbefore, by simp [hkey, hvalue], by simp [hcontinued], hafter⟩
        · simp only [List.forall_mem_append, List.forall_mem_cons]
          exact ⟨hbefore, by simp [hkey, hvalue, hcontinued], hafter⟩
      have hmore : String.ofList more ≠ "" := by simpa using hempty
      have hnow := hfollowed [] (by simp)
      have hlater := hfollowed [['x', ':']] (by simp)
      rw [htwo, hone] at hnow hlater
      exact Reading.continues_of_close_eq hmore hnow hlater
  · intro h after content joined hcontent hjoined
    rw [parse, parse, hcontent, hjoined, htwo, hone]
    rcases h with rfl | hcontinues
    · rw [String.ofList_nil, Reading.extend_empty, String.append_empty]
    · exact (Reading.alike_of_continues hcontinues _ _).close_foldl after

/-- A continuation of the attribute set last is read as a part of its value if the attribute is also
listed last. -/
theorem parse_continuation_iff_listed_last :
    parse (Text.Utf8.encode "A: 1\nB: 2\n x\n".toList) =
      parse (Text.Utf8.encode "A: 1\nB: 2x\n".toList) := by
  have hblank : ∃ c ∈ " 2".toList, Text.isBlank c = false := ⟨'2', by decide, by decide⟩
  have hiff := parse_continuation_iff ["A: 1".toList] ['B'] " 2".toList ['x'] (by decide)
    (by decide) (by decide) hblank
  have hcontinues : (["A: 1".toList].foldl Reading.line .start).Continues
      (String.ofList (Text.trim ['B'])) := by
    constructor
    · rintro ⟨hcurrent, -⟩
      cases hcurrent
    · intro _
      show Attributes.Lacks "B" []
      intro e he
      cases he
  exact hiff.mpr (.inr hcontinues) [] _ _ (by decide +kernel) (by decide +kernel)

/-- A continuation of an attribute that is set for the second time is read as a part of the value of
another one, and a continuation of the name of a section is lost. -/
theorem parse_ne_joined :
    parse (Text.Utf8.encode "A: 1\nB: 2\nA: 3\n x\n".toList) ≠
      parse (Text.Utf8.encode "A: 1\nB: 2\nA: 3x\n".toList) ∧
    parse (Text.Utf8.encode "\nName: com/\n example/\nK: v\n".toList) ≠
      parse (Text.Utf8.encode "\nName: com/example/\nK: v\n".toList) := by
  constructor
  · intro h
    have hmain := congrArg Manifest.main h
    revert hmain
    decide +kernel
  · intro h
    have hsection := congrArg (fun m => m.attributes? "com/") h
    revert hsection
    decide +kernel

end Manifest

end AppLauncher
