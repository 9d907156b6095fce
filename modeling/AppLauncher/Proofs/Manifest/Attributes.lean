import AppLauncher.Proofs.Manifest.Reading
import Mathlib.Data.List.Induction

/-!
# Attributes as an ordered map

Attributes are a list of names and values.  What makes the list a map is that no two of its names
differ in ASCII case only (`Attributes.Distinct`).  This depends on the names alone, and there are
two ways to change attributes: setting one adds a name just if none like it is there
(`Attributes.names_insert`), and a continuation leaves the names as they are
(`Attributes.names_appendToLast`).  So the names stay distinct, whatever is set, and in every state
of reading a manifest (`Manifest.Reading.WellKept`).

Attributes that are set one after the other hold for each name the value that was set last, and list
the names in the order and the spelling of their first use (`Attributes.ordered_map`).  Distinct
attributes are attributes that have been set one after the other (`Attributes.ofList_values`), so
this describes those of a manifest as well.
-/

namespace AppLauncher

namespace Attributes

variable {name other value more : String}

/-! ### Names -/

/-- The names of attributes, in order. -/
def names (a : Attributes) : List String := a.values.map Prod.fst

/-- No two names differ in ASCII case only. -/
def Distinct (a : Attributes) : Prop :=
  a.names.Pairwise fun n m => Text.sameIgnoringCase n m = false

/-- It does not matter which of two names is compared with the other. -/
lemma same_comm (name other : String) :
    Text.sameIgnoringCase name other = Text.sameIgnoringCase other name := by
  rw [Bool.eq_iff_iff, Text.sameIgnoringCase_iff, Text.sameIgnoringCase_iff, eq_comm]

/-- A name is not in a list of attributes if none of their names is like it. -/
lemma lacks_iff {l : List (String × String)} :
    Lacks name l ↔ (l.map Prod.fst).any (Text.sameIgnoringCase name) = false := by
  rw [List.any_eq_false, List.forall_mem_map]
  refine forall₂_congr fun e _ => ?_
  rw [same_comm, Bool.not_eq_true]

/-- Setting an attribute adds its name just if no name like it is there. -/
lemma names_insert (a : Attributes) : (a.insert name value).names =
    if a.names.any (Text.sameIgnoringCase name) then a.names else a.names ++ [name] := by
  obtain ⟨l⟩ := a
  show (place name value l).map Prod.fst = _
  by_cases hlacks : Lacks name l
  · rw [place_of_lacks hlacks, List.map_append, if_neg (by simp [names, lacks_iff.mp hlacks])]
    rfl
  · have hany : (l.map Prod.fst).any (Text.sameIgnoringCase name) = true :=
      (Bool.not_eq_false _).mp (lacks_iff.not.mp hlacks)
    rw [show Attributes.names ⟨l⟩ = l.map Prod.fst from rfl, if_pos hany]
    clear hany
    induction l with
    | nil => exact absurd (fun e he => by cases he) hlacks
    | cons e l ih =>
      rw [place]
      split
      · rfl
      · rename_i he
        rw [List.map_cons, List.map_cons, ih fun hl => hlacks fun e' he' => ?_]
        rcases List.mem_cons.mp he' with rfl | hmem
        · exact Bool.eq_false_iff.mpr he
        · exact hl e' hmem

/-- A continuation leaves the names as they are. -/
lemma names_appendToLast (a : Attributes) : (a.appendToLast more).names = a.names := by
  obtain ⟨l⟩ := a
  unfold appendToLast names
  rcases List.eq_nil_or_concat l with rfl | ⟨before, ⟨key, old⟩, rfl⟩
  · rfl
  · rw [List.concat_eq_append, extendLast_concat, List.map_append, List.map_append]
    rfl

/-- No attributes have no names in common. -/
lemma distinct_empty : Distinct empty := List.Pairwise.nil

/-- Names stay distinct when an attribute is set. -/
lemma Distinct.insert {a : Attributes} (h : a.Distinct) (name value : String) :
    (a.insert name value).Distinct := by
  unfold Distinct at h ⊢
  rw [names_insert]
  split
  · exact h
  · rename_i hnew
    refine List.pairwise_append.mpr ⟨h, List.pairwise_singleton _ _, fun n hn m hm => ?_⟩
    rw [List.mem_singleton.mp hm, same_comm]
    exact Bool.eq_false_iff.mpr fun hsame => hnew (List.any_eq_true.mpr ⟨n, hn, hsame⟩)

/-- Names stay distinct when a value is continued. -/
lemma Distinct.appendToLast {a : Attributes} (h : a.Distinct) (more : String) :
    (a.appendToLast more).Distinct := by
  unfold Distinct at h ⊢
  rwa [names_appendToLast]

/-! ### Values -/

/-- An attribute that has been set has its new value, under all spellings of its name. -/
lemma value?_insert (a : Attributes) : (a.insert name value).value? other =
    if Text.sameIgnoringCase name other then some value else a.value? other := by
  obtain ⟨l⟩ := a
  show find? other (place name value l) = if _ then _ else find? other l
  induction l with
  | nil => rfl
  | cons e l ih =>
    obtain ⟨key, old⟩ := e
    rw [place]
    by_cases hkey : Text.sameIgnoringCase key name = true
    · have hother : Text.sameIgnoringCase key other = Text.sameIgnoringCase name other :=
        Bool.eq_iff_iff.mpr (by
          rw [Text.sameIgnoringCase_iff, Text.sameIgnoringCase_iff,
            Text.sameIgnoringCase_iff.mp hkey])
      rw [if_pos hkey, find?, find?, hother]
      split <;> rfl
    · rw [if_neg hkey, find?, find?, ih]
      by_cases hother : Text.sameIgnoringCase key other = true
      · have hname : ¬ Text.sameIgnoringCase name other = true := fun hsame =>
          hkey (Text.sameIgnoringCase_iff.mpr ((Text.sameIgnoringCase_iff.mp hother).trans
            (Text.sameIgnoringCase_iff.mp hsame).symm))
        rw [if_pos hother, if_neg hname, if_pos hother]
      · rw [if_neg hother, if_neg hother]

/-- Among distinct attributes, each one has the value that is listed. -/
lemma Distinct.value?_eq {a : Attributes} (h : a.Distinct) {e : String × String}
    (he : e ∈ a.values) : a.value? e.1 = some e.2 := by
  obtain ⟨l⟩ := a
  show find? e.1 l = some e.2
  induction l with
  | nil => cases he
  | cons first l ih =>
    obtain ⟨hfirst, hrest⟩ := List.pairwise_cons.mp h
    rw [find?]
    rcases List.mem_cons.mp he with rfl | hmem
    · exact if_pos (Text.sameIgnoringCase_iff.mpr rfl)
    · have hne := hfirst e.1 (List.mem_map_of_mem hmem)
      rw [if_neg (Bool.eq_false_iff.mp hne)]
      exact ih hrest hmem

/-! ### Attributes set one after the other -/

/-- The value that is set last under a name, in any spelling. -/
def lastValue? (l : List (String × String)) (name : String) : Option String :=
  (l.findRev? fun e => Text.sameIgnoringCase e.1 name).map Prod.snd

/-- One more attribute is set. -/
lemma ofList_concat (l : List (String × String)) (e : String × String) :
    ofList (l ++ [e]) = (ofList l).insert e.1 e.2 := by
  unfold ofList
  rw [List.foldl_append]
  rfl

/-- The value of one more attribute is the last one of its name. -/
lemma lastValue?_concat (l : List (String × String)) (e : String × String) (name : String) :
    lastValue? (l ++ [e]) name =
      if Text.sameIgnoringCase e.1 name then some e.2 else lastValue? l name := by
  unfold lastValue?
  rw [List.findRev?_eq_find?_reverse, List.findRev?_eq_find?_reverse, List.reverse_concat,
    List.find?_cons]
  by_cases h : Text.sameIgnoringCase e.1 name = true <;> simp [h]

/-- One more name is new or a repetition. -/
lemma eraseDupsBy_concat {α : Type} (same : α → α → Bool) (l : List α) (a : α) :
    (l ++ [a]).eraseDupsBy same = if (l.eraseDupsBy same).any (same a) then l.eraseDupsBy same
      else l.eraseDupsBy same ++ [a] := by
  have hloop : ∀ seen, List.eraseDupsBy.loop same (l ++ [a]) seen =
      if (List.eraseDupsBy.loop same l seen).any (same a) then List.eraseDupsBy.loop same l seen
        else List.eraseDupsBy.loop same l seen ++ [a] := by
    induction l with
    | nil =>
      intro seen
      rw [List.nil_append, List.eraseDupsBy.loop, List.eraseDupsBy.loop, List.any_reverse]
      cases seen.any (same a) with
      | true => rfl
      | false => simp [List.eraseDupsBy.loop]
    | cons b l ih =>
      intro seen
      rw [List.cons_append, List.eraseDupsBy.loop, List.eraseDupsBy.loop]
      cases seen.any (same b) with
      | true => exact ih seen
      | false => exact ih (b :: seen)
  exact hloop []

/-- The names of attributes set one after the other are in the order and the spelling of their first
use. -/
lemma names_ofList (l : List (String × String)) :
    (ofList l).names = (l.map Prod.fst).eraseDupsBy Text.sameIgnoringCase := by
  induction l using List.reverseRecOn with
  | nil => rfl
  | append_singleton l e ih =>
    rw [ofList_concat, names_insert, ih, List.map_append, List.map_singleton, eraseDupsBy_concat]

/-- Attributes set one after the other are distinct. -/
lemma distinct_ofList (l : List (String × String)) : (ofList l).Distinct := by
  induction l using List.reverseRecOn with
  | nil => exact distinct_empty
  | append_singleton l e ih =>
    rw [ofList_concat]
    exact ih.insert e.1 e.2

/-- Of attributes set one after the other, the last value of each name counts. -/
lemma value?_ofList (l : List (String × String)) (name : String) :
    (ofList l).value? name = lastValue? l name := by
  induction l using List.reverseRecOn with
  | nil => rfl
  | append_singleton l e ih => rw [ofList_concat, value?_insert, lastValue?_concat, ih]

/-- Distinct attributes are what they are when they are set one after the other. -/
lemma ofList_values {a : Attributes} (h : a.Distinct) : ofList a.values = a := by
  obtain ⟨l⟩ := a
  show ofList l = ⟨l⟩
  induction l using List.reverseRecOn with
  | nil => rfl
  | append_singleton l e ih =>
    have hnames : (l.map Prod.fst ++ [e.1]).Pairwise
        fun n m => Text.sameIgnoringCase n m = false := by
      simpa [Distinct, names] using h
    obtain ⟨hl, -, hlast⟩ := List.pairwise_append.mp hnames
    have hlacks : Lacks e.1 l := fun e' he' =>
      hlast e'.1 (List.mem_map_of_mem he') e.1 (List.mem_singleton.mpr rfl)
    rw [ofList_concat, ih hl]
    unfold insert
    rw [place_of_lacks hlacks]

end Attributes

/-! ### Attributes of manifests -/

namespace Manifest

/-- Attributes are those of the manifest as a whole or of one of its sections. -/
def Has (m : Manifest) (a : Attributes) : Prop :=
  a = m.main ∨ ∃ name, m.attributes? name = some a

/-- All attributes of a manifest are distinct. -/
def WellKept (m : Manifest) : Prop := ∀ a, m.Has a → a.Distinct

namespace Reading

/-- All attributes that have been read are distinct. -/
structure WellKept (r : Reading) : Prop where
  manifest : r.manifest.WellKept
  current : r.attributes.Distinct

/-- Nothing has been read yet. -/
lemma wellKept_start : start.WellKept := by
  refine ⟨fun a ha => ?_, Attributes.distinct_empty⟩
  rcases ha with rfl | ⟨name, hname⟩
  · exact Attributes.distinct_empty
  · cases hname

/-- A section with distinct attributes becomes part of the manifest. -/
lemma WellKept.close {r : Reading} (h : r.WellKept) : r.close.WellKept := by
  obtain ⟨m, current⟩ := r
  cases current with
  | main => exact h.manifest
  | unnamed attributes => exact h.manifest
  | named name attributes =>
    rintro a (rfl | ⟨other, hother⟩)
    · exact h.manifest _ (.inl rfl)
    · have hget : (m.sections.insert name attributes).get? other = some a := hother
      rw [Table.get?_insert] at hget
      split at hget
      · cases hget
        exact h.current
      · exact h.manifest a (.inr ⟨other, hget⟩)

/-- The attributes of the current section are exchanged for others. -/
lemma WellKept.withAttributes {r : Reading} (h : r.WellKept) {a : Attributes} (ha : a.Distinct) :
    (r.withAttributes a).WellKept := by
  refine ⟨?_, by rwa [attributes_withAttributes]⟩
  obtain ⟨m, current⟩ := r
  cases current with
  | main =>
    rintro b (rfl | hsection)
    · exact ha
    · exact h.manifest b (.inr hsection)
  | unnamed attributes => exact h.manifest
  | named name attributes => exact h.manifest

/-- An attribute keeps what has been read distinct. -/
lemma WellKept.assign {r : Reading} (h : r.WellKept) (name value : String) :
    (r.assign name value).WellKept := by
  by_cases hnames : r.NamesSection name
  · rw [assign_of_namesSection r hnames]
    exact ⟨h.manifest, Attributes.distinct_empty⟩
  · rw [assign_eq r hnames]
    exact h.withAttributes (h.current.insert name value)

/-- A line keeps what has been read distinct. -/
lemma WellKept.line {r : Reading} (h : r.WellKept) (l : List Char) : (r.line l).WellKept := by
  unfold Reading.line
  split
  · rw [extend_eq]
    exact h.withAttributes (h.current.appendToLast _)
  · exact ⟨h.close, Attributes.distinct_empty⟩
  · split
    · exact h
    · exact h.assign _ _

/-- Lines keep what has been read distinct. -/
lemma WellKept.foldl_line {r : Reading} (h : r.WellKept) (lines : List (List Char)) :
    (lines.foldl Reading.line r).WellKept := by
  induction lines generalizing r with
  | nil => exact h
  | cons l lines ih => exact ih (h.line l)

end Reading

/-- All attributes of a manifest that has been read are distinct. -/
lemma wellKept_parse (content : List UInt8) : (parse content).WellKept :=
  (Reading.wellKept_start.foldl_line _).close

end Manifest

namespace Attributes

/-- Attributes are an ordered map whose keys are names without regard to ASCII case.  When
attributes are set one after the other, no two names differ in case only, each name has the value
that was set last under any spelling of it, and the names are listed once, in the order and the
spelling of their first use, with these values.  The attributes of a manifest, whatever it was read
from, have distinct names as well, and are what they are when they are set one after the other. -/
theorem ordered_map :
    (∀ l : List (String × String), (ofList l).Distinct ∧
      (∀ name, (ofList l).value? name = lastValue? l name) ∧
      (ofList l).names = (l.map Prod.fst).eraseDupsBy Text.sameIgnoringCase ∧
      ∀ e ∈ (ofList l).values, lastValue? l e.1 = some e.2) ∧
    ∀ content a, (Manifest.parse content).Has a → a.Distinct ∧ ofList a.values = a := by
  refine ⟨fun l => ⟨distinct_ofList l, value?_ofList l, names_ofList l, fun e he => ?_⟩,
    fun content a ha => ?_⟩
  · rw [← value?_ofList]
    exact (distinct_ofList l).value?_eq he
  · have hdistinct := Manifest.wellKept_parse content a ha
    exact ⟨hdistinct, ofList_values hdistinct⟩

/-- A name that is set again in another spelling keeps its place and its first spelling, in
attributes set one after the other and in a section of a manifest. -/
theorem ordered_map_repeated_name :
    (ofList [("A", "1"), ("b", "2"), ("a", "3")]).names = ["A", "b"] ∧
    (ofList [("A", "1"), ("b", "2"), ("a", "3")]).value? "a" = some "3" ∧
    (Manifest.parse (Text.Utf8.encode "\nName: x\nB: 1\n 2\nb: 3\n".toList)).Has ⟨[("B", "3")]⟩ ∧
    Distinct ⟨[("B", "3")]⟩ ∧ ofList [("B", "3")] = ⟨[("B", "3")]⟩ := by
  obtain ⟨hset, hread⟩ := ordered_map
  obtain ⟨-, hvalue, hnames, -⟩ := hset [("A", "1"), ("b", "2"), ("a", "3")]
  have hsection : (Manifest.parse (Text.Utf8.encode "\nName: x\nB: 1\n 2\nb: 3\n".toList)).Has
      ⟨[("B", "3")]⟩ := .inr ⟨"x", by decide +kernel⟩
  refine ⟨hnames.trans (by decide +kernel), (hvalue "a").trans (by decide +kernel), hsection, ?_⟩
  exact hread _ _ hsection

end Attributes

end AppLauncher
