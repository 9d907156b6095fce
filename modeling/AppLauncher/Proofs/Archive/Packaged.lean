import AppLauncher.Proofs.Archive.Body
import AppLauncher.Proofs.Archive.Naming
import Mathlib.Data.List.Induction

/-!
# The answers of a packaged archive

A packaged archive answers every question from its index, and the index is a function of the stream
alone.  So the answers are the same in every store, whatever is cached there: `entries_packaged`,
`find?_packaged`, `read?_packaged` and `manifest_packaged` say what they are.  The archives nested
in it are given by their bodies (`nestedAll_packaged`, `nested?_packaged`).

A look-up by name goes through the table of positions, where the last item of a name has replaced
the earlier ones.  `Index.find?_ofItems` says what that comes to: the last item of the name.
-/

namespace AppLauncher

/-! ### The last item of a name -/

namespace Index

/-- The positions found in two lists of items, one after the other. -/
lemma positionsFrom_append (start : Nat) (items more : List Item) (found : Table String Nat) :
    positionsFrom start (items ++ more) found =
      positionsFrom (start + items.length) more (positionsFrom start items found) := by
  induction items generalizing start found with
  | nil => rfl
  | cons item items ih =>
    have hlength : start + 1 + items.length = start + (items.length + 1) := by omega
    rw [List.cons_append, positionsFrom, ih, positionsFrom, List.length_cons, hlength]

/-- What is found for a name is the last item of the name. -/
lemma find?_ofItems (items : List Item) (manifest : Option Manifest) (name : String) :
    (ofItems items manifest).find? name = items.findRev? fun item => item.entry.name = name := by
  induction items using List.reverseRecOn with
  | nil => rfl
  | append_singleton items last ih =>
    have hpositions : (ofItems (items ++ [last]) manifest).positions =
        (ofItems items manifest).positions.insert last.entry.name items.length := by
      show positionsFrom 0 (items ++ [last]) .empty = _
      rw [positionsFrom_append, Nat.zero_add]
      rfl
    rw [List.findRev?_eq_find?_reverse] at ih ⊢
    rw [find?, hpositions, Table.get?_insert, List.reverse_concat, List.find?_cons]
    by_cases hlast : last.entry.name = name
    · simp [hlast, ofItems]
    · rw [if_neg hlast, decide_eq_false hlast, ← ih]
      unfold find?
      -- an earlier position is still the position of the same item
      cases hfound : (ofItems items manifest).positions.get? name with
      | none => rfl
      | some i =>
        rcases get?_positionsFrom items 0 .empty hfound with hnone | ⟨-, item, hitem, -⟩
        · cases hnone
        · have hlt : i < items.length := (List.getElem?_eq_some_iff.mp hitem).1
          show (items ++ [last])[i]? = items[i]?
          rw [List.getElem?_append_left hlt]

end Index

namespace Stream

/-- An index is made of the items of its stream that are seen from the directory viewed. -/
lemma eq_ofItems_of_index {s : Stream} {index : Index} (h : s.index = .ok index) :
    index = .ofItems (s.items.filterMap (Item.within? s.directory)) s.manifest := by
  unfold Stream.index at h
  split at h
  · cases h
  · exact (Except.ok.inj h).symm

/-- The manifest of a stream is read from the file that the index of the whole stream has for its
name. -/
lemma manifest_eq {stream : Stream} {index : Index} (h : stream.index = .ok index)
    (hwhole : stream.directory = none) :
    stream.manifest = ((index.find? Manifest.entryName).filter (!·.entry.isDirectory)).map
      fun item => Manifest.parse (item.dataIn stream.data) := by
  have hitems : index.find? Manifest.entryName =
      stream.items.findRev? fun item => item.entry.name = Manifest.entryName := by
    have hall : Item.within? none = some := rfl
    rw [eq_ofItems_of_index h, hwhole, hall, List.filterMap_some, Index.find?_ofItems]
  unfold manifest
  rw [← hitems]
  cases hitem : index.find? Manifest.entryName with
  | none => rfl
  | some item =>
    have hkind := isDirectory_eq_of_find? h hitem
    have hslash : Text.endsWithSlash Manifest.entryName = false := by decide +kernel
    rw [hslash] at hkind
    rw [Option.filter_some_pos (by rw [hkind]; rfl), Option.map_some]

end Stream

/-! ### Questions and answers -/

namespace Archive

variable (id : Nat) (stream : Stream) (s : Store)

/-- A packaged archive lists the entries of its index. -/
lemma entries_packaged :
    ((packaged id stream).entries s).1 = stream.index.map Index.entries := by
  obtain ⟨t, ht, -⟩ := run_bind_indexOf id stream Index.entries s
  exact congrArg Prod.fst ht

/-- A packaged archive looks a name up in its index. -/
lemma find?_packaged (name : String) :
    ((packaged id stream).find? name s).1 =
      stream.index.map fun index => (index.find? name).map (·.entry) := by
  obtain ⟨t, ht, -⟩ := run_bind_indexOf id stream (fun index => (index.find? name).map (·.entry)) s
  exact congrArg Prod.fst ht

/-- A packaged archive reads the bytes of the item of a name, unless it is a directory. -/
lemma read?_packaged (name : String) :
    ((packaged id stream).read? name s).1 = stream.index.map fun index =>
      ((index.find? name).filter (!·.entry.isDirectory)).map (·.dataIn stream.data) := by
  obtain ⟨t, ht, -⟩ := run_bind_indexOf id stream (fun index =>
    ((index.find? name).filter (!·.entry.isDirectory)).map (·.dataIn stream.data)) s
  exact congrArg Prod.fst ht

/-- A packaged archive has the manifest of its index. -/
lemma manifest_packaged :
    ((packaged id stream).manifest s).1 = stream.index.map (·.manifest) := by
  obtain ⟨t, ht, -⟩ := run_bind_indexOf id stream (·.manifest) s
  exact congrArg Prod.fst ht

/-! ### Nested archives -/

/-- Archives over streams, one after the other. -/
lemma mapM_ofStream (items : List Item) :
    ∃ views t, (items.mapM (fun item => liftM (ofStream (stream.nested item))) :
        Attempt ArchiveError (List Archive)) s = (.ok views, t) ∧
      views.map body = items.map fun item => .packaged (stream.nested item) := by
  induction items generalizing s with
  | nil => exact ⟨[], s, rfl, rfl⟩
  | cons item items ih =>
    obtain ⟨views, t, ht, hviews⟩ := ih (ofStream (stream.nested item) s).2
    refine ⟨(ofStream (stream.nested item) s).1 :: views, t, ?_, ?_⟩
    · rw [List.mapM_cons, Attempt.run_bind_lift, Attempt.run_bind_ok ht]
      rfl
    · rw [List.map_cons, List.map_cons, hviews]
      rfl

/-- A packaged archive has one nested archive for each item of its index that passes a filter. -/
lemma nestedAll_packaged {index : Index} (h : stream.index = .ok index) (filter : Entry → Bool) :
    ∃ views, ((packaged id stream).nestedAll filter s).1 = .ok views ∧
      views.map body = (index.items.filter fun item => filter item.entry).map fun item =>
        .packaged (stream.nested item) := by
  obtain ⟨t, ht, -⟩ := indexOf_spec id stream s
  rw [h] at ht
  obtain ⟨views, u, hu, hviews⟩ :=
    mapM_ofStream stream t (index.items.filter fun item => filter item.entry)
  refine ⟨views, ?_, hviews⟩
  dsimp only [nestedAll]
  rw [Attempt.run_bind_ok ht]
  exact congrArg Prod.fst hu

/-- Without an index there are no nested archives that pass a filter. -/
lemma nestedAll_packaged_error {cause : ArchiveError} (h : stream.index = .error cause)
    (filter : Entry → Bool) : ((packaged id stream).nestedAll filter s).1 = .error cause := by
  obtain ⟨t, ht, -⟩ := indexOf_spec id stream s
  rw [h] at ht
  dsimp only [nestedAll]
  rw [Attempt.run_bind_error ht]

/-- A packaged archive has the nested archive of the item that a name is loosely found for. -/
lemma nested?_packaged {index : Index} (h : stream.index = .ok index) (name : String) :
    ∃ found, ((packaged id stream).nested? name s).1 = .ok found ∧
      found.map body = (index.findLoosely? (Text.dropSlashes name)).map fun item =>
        .packaged (stream.nested item) := by
  obtain ⟨r, t, ht, hr, -⟩ := nested?_spec (packaged id stream) name s
  dsimp only [body, Body.nested?] at hr
  rw [h] at hr
  cases r with
  | error cause => cases hr
  | ok found => exact ⟨found, congrArg Prod.fst ht, Except.ok.inj hr⟩

/-- Without an index there are no nested archives of a name. -/
lemma nested?_packaged_error {cause : ArchiveError} (h : stream.index = .error cause)
    (name : String) : ((packaged id stream).nested? name s).1 = .error cause := by
  obtain ⟨t, ht, -⟩ := indexOf_spec id stream s
  rw [h] at ht
  dsimp only [nested?]
  rw [Attempt.run_bind_error ht]

/-- An archive with a packaged body is packaged. -/
lemma eq_packaged_of_body {a : Archive} {stream : Stream} (h : a.body = .packaged stream) :
    ∃ id, a = packaged id stream := by
  cases a with
  | packaged id _ =>
    cases h
    exact ⟨id, rfl⟩
  | exploded id root => cases h
  | scripted id script => cases h

/-- An archive with an exploded body is exploded. -/
lemma eq_exploded_of_body {a : Archive} {root : Path} (h : a.body = .exploded root) :
    ∃ id, a = exploded id root := by
  cases a with
  | packaged id stream => cases h
  | exploded id _ =>
    cases h
    exact ⟨id, rfl⟩
  | scripted id script => cases h

end Archive

end AppLauncher
