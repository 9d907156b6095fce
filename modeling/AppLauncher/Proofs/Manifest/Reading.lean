import AppLauncher.Archive.Manifest
import Mathlib.Tactic.Common

/-!
# Reading manifests line by line

What a line does to a manifest that is being read.  Whatever section is current, its attributes are
what a line can change (`Reading.attributes`, `Reading.withAttributes`), with one exception: an
attribute may give a section its name, if it is the first one of the section
(`Reading.NamesSection`).

A continuation belongs to the attribute listed last, which need not be the attribute set last: one
that was there before is set in its old place.  `Attributes.appendToLast_insert` says when the two
are the same.
-/

namespace AppLauncher

namespace Text

/-- A text is cut at the first separator in it. -/
lemma splitFirst_append {sep : Char} {cs : List Char} (h : sep ∉ cs) (rest : List Char) :
    splitFirst sep (cs ++ sep :: rest) = some (cs, rest) := by
  induction cs with
  | nil => simp [splitFirst]
  | cons c cs ih =>
    have hne : c ≠ sep := fun heq => h (heq ▸ List.mem_cons_self)
    have hrest := ih fun hmem => h (List.mem_cons_of_mem c hmem)
    rw [List.cons_append, splitFirst, if_neg hne, hrest]
    rfl

end Text

/-! ### Attributes in order -/

namespace Attributes

/-- A name is not in a list of attributes. -/
def Lacks (name : String) (l : List (String × String)) : Prop :=
  ∀ e ∈ l, Text.sameIgnoringCase e.1 name = false

variable {name value more : String} {l : List (String × String)}

/-- A new attribute comes last. -/
lemma place_of_lacks (h : Lacks name l) : place name value l = l ++ [(name, value)] := by
  induction l with
  | nil => rfl
  | cons e l ih =>
    have he : Text.sameIgnoringCase e.1 name = false := h e List.mem_cons_self
    have hl : Lacks name l := fun e' he' => h e' (List.mem_cons_of_mem e he')
    rw [place, if_neg (by simp [he]), ih hl]
    rfl

/-- An attribute that is listed last is set in its place. -/
lemma place_concat {last : String × String} (h : Lacks name l)
    (hlast : Text.sameIgnoringCase last.1 name = true) :
    place name value (l ++ [last]) = l ++ [(last.1, value)] := by
  induction l with
  | nil => simp [place, hlast]
  | cons e l ih =>
    have he : Text.sameIgnoringCase e.1 name = false := h e List.mem_cons_self
    have hl : Lacks name l := fun e' he' => h e' (List.mem_cons_of_mem e he')
    rw [List.cons_append, place, if_neg (by simp [he]), ih hl]
    rfl

/-- An attribute that is listed earlier is set in its place, and the last one is left alone. -/
lemma place_append_of_not_lacks (h : ¬ Lacks name l) (rest : List (String × String)) :
    place name value (l ++ rest) = place name value l ++ rest := by
  induction l with
  | nil => exact absurd (fun e he => by cases he) h
  | cons e l ih =>
    rw [List.cons_append, place, place]
    split
    · rfl
    · rename_i he
      have hl : ¬ Lacks name l := by
        intro hl
        refine h fun e' he' => ?_
        rcases List.mem_cons.mp he' with rfl | hmem
        · exact Bool.eq_false_iff.mpr he
        · exact hl e' hmem
      rw [ih hl, List.cons_append]

/-- A continuation belongs to the last attribute. -/
lemma extendLast_concat (l : List (String × String)) (name value more : String) :
    extendLast more (l ++ [(name, value)]) = l ++ [(name, value ++ more)] := by
  induction l with
  | nil => rfl
  | cons e l ih =>
    cases l with
    | nil => rfl
    | cons second l =>
      rw [List.cons_append] at ih
      rw [List.cons_append, List.cons_append, extendLast, ih]
      rfl

/-- A continuation of an attribute that has just been set is a part of its value just if no earlier
attribute but the last one has its name, or if the continuation is empty. -/
lemma extendLast_place : extendLast more (place name value l) = place name (value ++ more) l ↔
    more = "" ∨ Lacks name l.dropLast := by
  rcases List.eq_nil_or_concat l with rfl | ⟨before, last, rfl⟩
  · have hlacks : Lacks name [] := fun e he => by cases he
    simp [place, extendLast, hlacks]
  · rw [List.concat_eq_append, List.dropLast_concat]
    by_cases hbefore : Lacks name before
    · have hsame : extendLast more (place name value (before ++ [last])) =
          place name (value ++ more) (before ++ [last]) := by
        by_cases hlast : Text.sameIgnoringCase last.1 name = true
        · rw [place_concat hbefore hlast, place_concat hbefore hlast, extendLast_concat]
        · have hall : Lacks name (before ++ [last]) := by
            intro e he
            rcases List.mem_append.mp he with hmem | hmem
            · exact hbefore e hmem
            · rw [List.mem_singleton.mp hmem]
              exact Bool.eq_false_iff.mpr hlast
          rw [place_of_lacks hall, place_of_lacks hall, extendLast_concat]
      exact ⟨fun _ => .inr hbefore, fun _ => hsame⟩
    · rw [place_append_of_not_lacks hbefore, place_append_of_not_lacks hbefore]
      obtain ⟨lastName, lastValue⟩ := last
      rw [extendLast_concat]
      constructor
      · intro h
        obtain ⟨-, hlast⟩ := List.append_inj' h rfl
        have hvalue : lastValue ++ more = lastValue := by simpa using hlast
        exact .inl (String.append_eq_left_iff.mp hvalue)
      · rintro (rfl | hlacks)
        · rw [String.append_empty, String.append_empty]
        · exact absurd hlacks hbefore

/-- A continuation of an attribute that has just been set is a part of its value just if no earlier
attribute but the last one has its name, or if the continuation is empty. -/
lemma appendToLast_insert (a : Attributes) :
    (a.insert name value).appendToLast more = a.insert name (value ++ more) ↔
      more = "" ∨ Lacks name a.values.dropLast := by
  unfold insert appendToLast
  rw [Attributes.mk.injEq]
  exact extendLast_place

/-- An empty continuation changes nothing. -/
lemma appendToLast_empty (a : Attributes) : a.appendToLast "" = a := by
  obtain ⟨values⟩ := a
  rcases List.eq_nil_or_concat values with rfl | ⟨before, last, rfl⟩
  · rfl
  · obtain ⟨name, value⟩ := last
    unfold appendToLast
    rw [List.concat_eq_append, extendLast_concat, String.append_empty]

/-- A continuation neither adds nor removes attributes. -/
lemma isEmpty_appendToLast (a : Attributes) : (a.appendToLast more).isEmpty = a.isEmpty := by
  obtain ⟨values⟩ := a
  rcases List.eq_nil_or_concat values with rfl | ⟨before, last, rfl⟩
  · rfl
  · obtain ⟨name, value⟩ := last
    unfold appendToLast
    rw [List.concat_eq_append, extendLast_concat]
    cases before <;> rfl

/-- Attributes that have been set are not empty. -/
lemma isEmpty_insert (a : Attributes) : (a.insert name value).isEmpty = false := by
  obtain ⟨values⟩ := a
  cases values with
  | nil => rfl
  | cons e values =>
    unfold insert isEmpty place
    split <;> rfl

end Attributes

/-! ### The current section -/

namespace Manifest.Reading

variable (r : Reading)

/-- The attributes of the current section. -/
def attributes : Attributes :=
  match r.current with
  | .main => r.manifest.main
  | .unnamed attributes => attributes
  | .named _ attributes => attributes

/-- The reading with other attributes in the current section. -/
def withAttributes (attributes : Attributes) : Reading :=
  match r.current with
  | .main => { r with manifest := { r.manifest with main := attributes } }
  | .unnamed _ => { r with current := .unnamed attributes }
  | .named name _ => { r with current := .named name attributes }

/-- Whether an attribute of a name gives the current section its name. -/
def NamesSection (name : String) : Prop :=
  r.current = .unnamed .empty ∧ Text.sameIgnoringCase name sectionAttribute = true

@[simp] lemma attributes_withAttributes (a : Attributes) : (r.withAttributes a).attributes = a := by
  unfold attributes withAttributes
  cases r.current <;> rfl

@[simp] lemma withAttributes_withAttributes (a b : Attributes) :
    (r.withAttributes a).withAttributes b = r.withAttributes b := by
  unfold withAttributes
  cases r.current <;> rfl

@[simp] lemma withAttributes_attributes : r.withAttributes r.attributes = r := by
  obtain ⟨manifest, current⟩ := r
  cases current <;> rfl

/-- The current section gets no other name: it is the main section, or it has a name. -/
def Settled (r : Reading) : Prop := ∀ a, r.current ≠ .unnamed a

/-- No attribute gives a settled section a name. -/
lemma Settled.not_namesSection {r : Reading} (h : r.Settled) (name : String) :
    ¬ r.NamesSection name := fun hnames => h _ hnames.1

/-- A section stays settled when its attributes change. -/
lemma Settled.withAttributes {r : Reading} (h : r.Settled) (a : Attributes) :
    (r.withAttributes a).Settled := by
  intro b
  have hr := h b
  unfold Reading.withAttributes
  cases hcurrent : r.current with
  | main => simp
  | unnamed c => exact absurd hcurrent (h c)
  | named name c => simp

/-! ### Lines -/

/-- A continuation changes the attributes of the current section. -/
lemma extend_eq (more : String) :
    r.extend more = r.withAttributes (r.attributes.appendToLast more) := by
  unfold extend withAttributes attributes
  cases r.current <;> rfl

/-- An attribute changes the attributes of the current section, unless it gives the section its
name. -/
lemma assign_eq {name : String} (h : ¬ r.NamesSection name) (value : String) :
    r.assign name value = r.withAttributes (r.attributes.insert name value) := by
  obtain ⟨manifest, current⟩ := r
  cases current with
  | main => rfl
  | named sectionName attributes => rfl
  | unnamed attributes =>
    have hnot : ¬ (attributes.isEmpty = true ∧
        Text.sameIgnoringCase name sectionAttribute = true) := by
      rintro ⟨hempty, hname⟩
      have hvalues : attributes = .empty := by
        obtain ⟨values⟩ := attributes
        rw [Attributes.isEmpty, List.isEmpty_iff] at hempty
        exact congrArg Attributes.mk hempty
      exact h ⟨congrArg Current.unnamed hvalues, hname⟩
    unfold assign
    exact if_neg hnot

/-- An attribute that gives a section its name leaves it without attributes. -/
lemma assign_of_namesSection {name : String} (h : r.NamesSection name) (value : String) :
    r.assign name value = ⟨r.manifest, .named value .empty⟩ := by
  obtain ⟨manifest, current⟩ := r
  obtain ⟨hcurrent, hname⟩ := h
  dsimp only at hcurrent
  subst hcurrent
  unfold assign
  exact if_pos ⟨rfl, hname⟩

/-- A line that is neither blank nor a continuation is cut at its first colon. -/
lemma line_of_head?_ne {l : List Char} (hne : l ≠ []) (hspace : l.head? ≠ some ' ') :
    r.line l = match Text.splitFirst ':' l with
      | none => r
      | some (name, value) =>
        r.assign (String.ofList (Text.trim name)) (String.ofList (Text.trimStart value)) := by
  unfold line
  split
  · exact absurd rfl hspace
  · exact absurd rfl hne
  · rfl

/-- A line with a colon sets an attribute. -/
lemma line_attribute {key : List Char} (hspace : key.head? ≠ some ' ') (hcolon : ':' ∉ key)
    (value : List Char) : r.line (key ++ ':' :: value) =
      r.assign (String.ofList (Text.trim key)) (String.ofList (Text.trimStart value)) := by
  have hhead : (key ++ ':' :: value).head? ≠ some ' ' := by
    cases key with
    | nil => simp
    | cons c key => exact hspace
  rw [r.line_of_head?_ne (by simp) hhead, Text.splitFirst_append hcolon value]

/-- A line that starts with a space is a continuation. -/
lemma line_continuation (more : List Char) :
    r.line (' ' :: more) = r.extend (String.ofList more) := rfl

end Manifest.Reading

end AppLauncher
