import AppLauncher.Archive.Exploded
import AppLauncher.Archive.Stream
import Mathlib.Tactic.Common

/-!
# Names and kinds of entries

The name of an entry ends with a slash exactly if the entry is a directory.  This holds for all
items of an index (`Stream.isDirectory_eq_of_find?`) and for what an exploded archive finds
(`Exploded.isDirectory_eq_of_find?`), so the entry of a class, whose name ends otherwise, is never
a directory.  A name never ends with two slashes, so a directory is found again under its name
without the slash (`Stream.dropSlashes_append_of_mem`).
-/

namespace AppLauncher

namespace Text

/-- The text without the run of a character at its end does not end with that character. -/
lemma getLast?_dropTrailing (c : Char) (cs : List Char) :
    (dropTrailing c cs).getLast? ≠ some c := by
  unfold dropTrailing
  rw [List.getLast?_reverse]
  intro h
  have hnot := List.head?_dropWhile_not (· = c) cs.reverse
  rw [h] at hnot
  simp at hnot

/-- A text that does not end with a character has no run of it at its end. -/
lemma dropTrailing_of_getLast?_ne {c : Char} {cs : List Char} (h : cs.getLast? ≠ some c) :
    dropTrailing c cs = cs := by
  unfold dropTrailing
  have hhead : cs.reverse.head? ≠ some c := by rwa [List.head?_reverse]
  cases hreverse : cs.reverse with
  | nil => simpa using hreverse.symm
  | cons d ds =>
    have hne : d ≠ c := by
      rintro rfl
      exact hhead (by rw [hreverse, List.head?_cons])
    rw [List.dropWhile_cons_of_neg (by simpa using hne), ← hreverse, List.reverse_reverse]

/-- A name without slashes at its end has none to drop. -/
lemma dropSlashes_dropSlashes (name : String) :
    dropSlashes (dropSlashes name) = dropSlashes name := by
  unfold dropSlashes mapString
  rw [String.toList_ofList, dropTrailing_of_getLast?_ne (getLast?_dropTrailing _ _)]

/-- One more character at the end of a run is dropped with it. -/
lemma dropTrailing_concat (c : Char) (cs : List Char) :
    dropTrailing c (cs ++ [c]) = dropTrailing c cs := by
  simp [dropTrailing]

/-- A slash at the end of a name is dropped. -/
lemma dropSlashes_append_slash (name : String) : dropSlashes (name ++ "/") = dropSlashes name := by
  unfold dropSlashes mapString
  rw [String.toList_append]
  simp [dropTrailing]

/-- A text is what it starts with, followed by the rest. -/
lemma append_of_afterStart? {start cs rest : List Char} (h : afterStart? start cs = some rest) :
    start ++ rest = cs := by
  induction start generalizing cs with
  | nil => exact Option.some.inj h.symm ▸ rfl
  | cons p ps ih =>
    cases cs with
    | nil => cases h
    | cons c cs =>
      rw [afterStart?] at h
      split at h
      · rename_i hpc
        rw [hpc, List.cons_append, ih h]
      · cases h

end Text

namespace Entry

/-- A normal name ends with a slash exactly for directories. -/
lemma endsWithSlash_of_normalName? {raw name : String} {isDirectory : Bool}
    (h : normalName? raw isDirectory = some name) : Text.endsWithSlash name = isDirectory := by
  unfold normalName? at h
  dsimp only at h
  split at h
  · cases h
  · have hname := Option.some.inj h
    unfold Text.endsWithSlash
    rw [← hname, String.toList_ofList]
    cases isDirectory with
    | true => simp
    | false =>
      rw [if_neg Bool.false_ne_true]
      exact decide_eq_false (Text.getLast?_dropTrailing '/' _)

/-- The normal name of a directory ends with one slash only. -/
lemma eq_concat_of_normalName? {raw name : String} (h : normalName? raw true = some name) :
    ∃ cs, name.toList = cs ++ ['/'] ∧ cs.getLast? ≠ some '/' := by
  unfold normalName? at h
  dsimp only at h
  split at h
  · cases h
  · rw [← Option.some.inj h, String.toList_ofList]
    exact ⟨_, rfl, Text.getLast?_dropTrailing '/' _⟩

/-- In the name of the entry of a class there are slashes in place of dots. -/
lemma toList_ofClass (className : String) : (ofClass className).toList =
    Text.replaceChar '.' '/' className.toList ++ ".class".toList := by
  unfold ofClass Text.dotsToSlashes Text.mapString
  rw [String.toList_append, String.toList_ofList]

/-- The name of the entry of a class does not end with a slash. -/
lemma endsWithSlash_ofClass (className : String) :
    Text.endsWithSlash (ofClass className) = false := by
  unfold Text.endsWithSlash ofClass
  rw [String.toList_append]
  simp

end Entry

namespace Item

/-- The name of an item ends with a slash exactly if the item is a directory. -/
def WellNamed (item : Item) : Prop :=
  item.entry.isDirectory = Text.endsWithSlash item.entry.name

/-- The item that a member stands for is named by its kind. -/
lemma wellNamed_of_ofMember? {m : Tar.Member} {item : Item} (h : ofMember? m = some item) :
    item.WellNamed := by
  unfold ofMember? at h
  dsimp only at h
  split at h
  · obtain ⟨name, hname, rfl⟩ := Option.map_eq_some_iff.mp h
    exact (Entry.endsWithSlash_of_normalName? hname).symm
  · obtain ⟨name, hname, rfl⟩ := Option.map_eq_some_iff.mp h
    exact (Entry.endsWithSlash_of_normalName? hname).symm
  · cases h

/-- A directory that is viewed does not change how the names in it end. -/
lemma wellNamed_of_within? {directory : Option String} {item seen : Item} (hi : item.WellNamed)
    (h : within? directory item = some seen) : seen.WellNamed := by
  unfold within? at h
  split at h
  · cases h
    exact hi
  · split at h
    · cases h
    · rename_i relative hne hrest
      cases h
      unfold WellNamed Text.endsWithSlash at *
      dsimp only
      rw [hi, ← Text.append_of_afterStart? hrest, String.toList_ofList, List.getLast?_append]
      obtain ⟨c, cs, rfl⟩ := List.exists_cons_of_ne_nil hne
      simp [List.getLast?_cons]
    · cases h

/-- The name of a directory ends with one slash only. -/
def SlashedOnce (item : Item) : Prop :=
  item.entry.isDirectory = true →
    ∃ cs, item.entry.name.toList = cs ++ ['/'] ∧ cs.getLast? ≠ some '/'

/-- The item that a member stands for ends with one slash at most. -/
lemma slashedOnce_of_ofMember? {m : Tar.Member} {item : Item} (h : ofMember? m = some item) :
    item.SlashedOnce := by
  intro hdirectory
  unfold ofMember? at h
  dsimp only at h
  split at h
  · obtain ⟨name, -, rfl⟩ := Option.map_eq_some_iff.mp h
    cases hdirectory
  · obtain ⟨name, hname, rfl⟩ := Option.map_eq_some_iff.mp h
    exact Entry.eq_concat_of_normalName? hname
  · cases h

/-- A directory that is viewed takes nothing away from the end of a name. -/
lemma slashedOnce_of_within? {directory : Option String} {item seen : Item}
    (hi : item.SlashedOnce) (h : within? directory item = some seen) : seen.SlashedOnce := by
  unfold within? at h
  split at h
  · cases h
    exact hi
  · split at h
    · cases h
    · rename_i start _ relative hne hrest
      cases h
      intro hdirectory
      obtain ⟨cs, hcs, hlast⟩ := hi hdirectory
      have hname : start.toList ++ relative = cs ++ ['/'] := by
        rw [Text.append_of_afterStart? hrest, hcs]
      rcases List.eq_nil_or_concat relative with hnil | ⟨before, last, rfl⟩
      · exact absurd hnil hne
      · rw [List.concat_eq_append, ← List.append_assoc] at hname
        obtain ⟨hbefore, hslash⟩ := List.append_inj' hname rfl
        refine ⟨before, ?_, fun hend => hlast ?_⟩
        · rw [String.toList_ofList, List.concat_eq_append, hslash]
        · rw [← hbefore, List.getLast?_append, hend]
          rfl
    · cases h

end Item

namespace Index

/-- A position found for a name is that of an item of the name. -/
lemma get?_positionsFrom {name : String} {i : Nat} (items : List Item) (start : Nat)
    (found : Table String Nat) (h : (positionsFrom start items found).get? name = some i) :
    found.get? name = some i ∨
      start ≤ i ∧ ∃ item, items[i - start]? = some item ∧ item.entry.name = name := by
  induction items generalizing start found with
  | nil => exact .inl h
  | cons item items ih =>
    rcases ih (start + 1) _ h with hfound | ⟨hle, item', hitem, hname⟩
    · rw [Table.get?_insert] at hfound
      split at hfound
      · rename_i heq
        cases hfound
        exact .inr ⟨Nat.le_refl _, item, by simp, heq⟩
      · exact .inl hfound
    · refine .inr ⟨by omega, item', ?_, hname⟩
      rw [show i - start = i - (start + 1) + 1 by omega, List.getElem?_cons_succ]
      exact hitem

/-- What is found for a name is an item of the name. -/
lemma mem_of_find? {items : List Item} {manifest : Option Manifest} {name : String} {item : Item}
    (h : (ofItems items manifest).find? name = some item) :
    item ∈ items ∧ item.entry.name = name := by
  unfold find? ofItems at h
  obtain ⟨i, hi, hitem⟩ := Option.bind_eq_some_iff.mp h
  dsimp only at hitem
  refine ⟨List.mem_of_getElem? hitem, ?_⟩
  rcases get?_positionsFrom items 0 .empty hi with hnone | ⟨-, item', hitem', hname⟩
  · cases hnone
  · rw [Nat.sub_zero, hitem] at hitem'
    cases hitem'
    exact hname

end Index

namespace Stream

/-- What a stream finds for a name is a directory exactly if the name ends with a slash. -/
lemma isDirectory_eq_of_find? {s : Stream} {index : Index} (hindex : s.index = .ok index)
    {name : String} {item : Item} (h : index.find? name = some item) :
    item.entry.isDirectory = Text.endsWithSlash name := by
  unfold Stream.index at hindex
  split at hindex
  · cases hindex
  · cases hindex
    obtain ⟨hmem, rfl⟩ := Index.mem_of_find? h
    obtain ⟨whole, hwhole, hseen⟩ := List.mem_filterMap.mp hmem
    obtain ⟨m, -, hm⟩ := List.mem_filterMap.mp hwhole
    exact Item.wellNamed_of_within? (Item.wellNamed_of_ofMember? hm) hseen

/-- A directory of an index is called as it is called without slashes at the end, and a slash. -/
lemma dropSlashes_append_of_mem {s : Stream} {index : Index} (hindex : s.index = .ok index)
    {item : Item} (hitem : item ∈ index.items) (hdirectory : item.entry.isDirectory = true) :
    Text.dropSlashes item.entry.name ++ "/" = item.entry.name := by
  have honce : item.SlashedOnce := by
    unfold Stream.index at hindex
    split at hindex
    · cases hindex
    · cases hindex
      obtain ⟨whole, hwhole, hseen⟩ := List.mem_filterMap.mp hitem
      obtain ⟨m, -, hm⟩ := List.mem_filterMap.mp hwhole
      exact Item.slashedOnce_of_within? (Item.slashedOnce_of_ofMember? hm) hseen
  obtain ⟨cs, hcs, hlast⟩ := honce hdirectory
  have hdrop : Text.dropTrailing '/' (cs ++ ['/']) = cs := by
    rw [Text.dropTrailing_concat, Text.dropTrailing_of_getLast?_ne hlast]
  apply String.toList_inj.mp
  unfold Text.dropSlashes Text.mapString
  rw [String.toList_append, String.toList_ofList, hcs, hdrop]
  rfl

end Stream

namespace Exploded

/-- What an exploded archive finds for a name is a directory exactly if the name ends with a
slash. -/
lemma isDirectory_eq_of_find? {files : FileSystem} {root : Path} {name : String} {entry : Entry}
    (h : find? files root name = some entry) :
    entry.isDirectory = Text.endsWithSlash name := by
  unfold find? at h
  obtain ⟨path, -, hnode⟩ := Option.bind_eq_some_iff.mp h
  split at hnode
  · split at hnode
    · rename_i hdir
      cases hnode
      exact hdir
    · cases hnode
  · cases hnode

end Exploded

end AppLauncher
