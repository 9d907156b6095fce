import AppLauncher.Proofs.Archive.Packaged
import AppLauncher.Proofs.Tar.Writing

/-!
# Views of directories

A packaged archive gives a view of each of its directories: an archive over the same bytes that
shows only what lies below the directory, under names that are relative to it.  The view indexes the
whole stream again, so that nothing in its definition ties it to the index of the archive it was
taken from.  This file shows that it is the subtree of that archive all the same
(`Archive.givesView_isSubtree`).

The step that carries everything is `Item.within?_eq_some_iff`: an item is seen from a directory
under a name exactly if it is the item of the name with the directory put in front.  From it follows
that the index of a view is a function of the index of the archive (`Stream.index_view`), that views
of views are views (`Index.view_view`), and that a name is looked up in a view as the name with the
directory in front is looked up in the archive (`Index.find?_view`).

A view can be asked for by name, with or without slashes at the end.  A file of the name comes first
then, so a directory beside a file that is called as it is can only be reached by a filter
(`Archive.not_isSubtree_shadowedTree`).
-/

namespace AppLauncher

/-! ### Entries below a directory -/

namespace Entry

/-- An entry under the name that it has when a directory is put in front. -/
def under (directory : String) (entry : Entry) : Entry :=
  { entry with name := directory ++ entry.name }

/-- An entry lies below a directory if its name properly extends the name of the directory. -/
def LiesBelow (directory : String) (entry : Entry) : Prop :=
  directory.toList <+: entry.name.toList ∧ entry.name ≠ directory

instance (directory : String) : DecidablePred (LiesBelow directory) := fun _ =>
  inferInstanceAs (Decidable (_ ∧ _))

/-- An entry with a directory in front lies below the directory if it has a name of its own. -/
lemma liesBelow_iff {directory : String} {entry : Entry} :
    entry.LiesBelow directory ↔ ∃ seen : Entry, seen.name ≠ "" ∧ entry = seen.under directory := by
  constructor
  · rintro ⟨⟨rest, hrest⟩, hne⟩
    have hname : entry.name = directory ++ String.ofList rest := by
      apply String.toList_inj.mp
      rw [String.toList_append, String.toList_ofList, hrest]
    refine ⟨⟨String.ofList rest, entry.isDirectory⟩, fun hempty => hne ?_, ?_⟩
    · change String.ofList rest = "" at hempty
      rw [hname, hempty, String.append_empty]
    · unfold under
      rw [← hname]
  · rintro ⟨seen, hne, rfl⟩
    have htoList : (directory ++ seen.name).toList = directory.toList ++ seen.name.toList :=
      String.toList_append
    refine ⟨⟨seen.name.toList, htoList.symm⟩, fun heq => hne ?_⟩
    have hlist : directory.toList ++ seen.name.toList = directory.toList := by
      rw [← htoList]
      exact congrArg String.toList heq
    exact String.toList_eq_nil_iff.mp (List.append_right_eq_self.mp hlist)

end Entry

namespace Text

/-- What follows a text at the start of another. -/
lemma afterStart?_eq_some_iff {start cs rest : List Char} :
    afterStart? start cs = some rest ↔ start ++ rest = cs := by
  refine ⟨append_of_afterStart?, ?_⟩
  rintro rfl
  induction start with
  | nil => rfl
  | cons c start ih =>
    rw [List.cons_append, afterStart?, if_pos rfl]
    exact ih

end Text

namespace Item

/-- An item under the name that it has when a directory is put in front. -/
def under (directory : String) (item : Item) : Item :=
  { item with entry := item.entry.under directory }

/-- An item is seen from a directory under a name of its own, and with the directory in front it is
the item that was there. -/
lemma within?_eq_some_iff {directory : String} {item seen : Item} :
    within? (some directory) item = some seen ↔
      seen.entry.name ≠ "" ∧ item = seen.under directory := by
  obtain ⟨⟨name, isDirectory⟩, start, stop⟩ := item
  obtain ⟨⟨seenName, seenIsDirectory⟩, seenStart, seenStop⟩ := seen
  unfold within? under Entry.under
  dsimp only
  constructor
  · intro h
    split at h
    · cases h
    · rename_i relative hne hrest
      have hname : directory.toList ++ relative = name.toList := Text.append_of_afterStart? hrest
      cases h
      refine ⟨fun hempty => hne ?_, ?_⟩
      · simpa using congrArg String.toList hempty
      · rw [← String.ofList_toList (s := name), ← hname]
        simp
    · cases h
  · rintro ⟨hne, heq⟩
    cases heq
    have hrest : Text.afterStart? directory.toList (directory ++ seenName).toList =
        some seenName.toList := Text.afterStart?_eq_some_iff.mpr String.toList_append.symm
    have hlist : seenName.toList ≠ [] := fun hnil => hne (String.toList_eq_nil_iff.mp hnil)
    rw [hrest]
    obtain ⟨c, cs, hcs⟩ := List.exists_cons_of_ne_nil hlist
    rw [hcs]
    dsimp only
    rw [← hcs, String.ofList_toList]

/-- What is seen from a directory in a directory is what is seen from both together. -/
lemma within?_append (directory inner : String) (item : Item) :
    within? (some (directory ++ inner)) item =
      (within? (some directory) item).bind (within? (some inner)) := by
  ext seen
  rw [within?_eq_some_iff, Option.bind_eq_some_iff]
  constructor
  · rintro ⟨hne, rfl⟩
    refine ⟨seen.under inner, within?_eq_some_iff.mpr ⟨?_, ?_⟩,
      within?_eq_some_iff.mpr ⟨hne, rfl⟩⟩
    · intro hempty
      have hlist := congrArg String.toList hempty
      simp only [under, Entry.under, String.toList_append] at hlist
      exact hne (String.toList_eq_nil_iff.mp (List.append_eq_nil_iff.mp hlist).2)
    · simp only [under, Entry.under, String.append_assoc]
  · rintro ⟨middle, hmiddle, hseen⟩
    obtain ⟨-, rfl⟩ := within?_eq_some_iff.mp hmiddle
    obtain ⟨hne, rfl⟩ := within?_eq_some_iff.mp hseen
    exact ⟨hne, by simp only [under, Entry.under, String.append_assoc]⟩

/-- Looking into a directory of what is viewed already is looking into the longer directory. -/
lemma within?_getD (viewed : Option String) (directory : String) (item : Item) :
    within? (some (viewed.getD "" ++ directory)) item =
      (within? viewed item).bind (within? (some directory)) := by
  cases viewed with
  | none =>
    rw [Option.getD_none, String.empty_append]
    rfl
  | some outer => exact within?_append outer directory item

end Item

/-! ### The index of a view -/

namespace Index

/-- The part of an index that lies below a directory. -/
def view (directory : String) (index : Index) : Index :=
  ofItems (index.items.filterMap (Item.within? (some directory))) index.manifest

/-- A view in a view is the view of the longer directory. -/
lemma view_view (directory inner : String) (index : Index) :
    (index.view directory).view inner = index.view (directory ++ inner) := by
  have hitems : (index.items.filterMap (Item.within? (some directory))).filterMap
      (Item.within? (some inner)) =
        index.items.filterMap (Item.within? (some (directory ++ inner))) := by
    rw [List.filterMap_filterMap]
    exact congrArg (index.items.filterMap ·) (funext fun item =>
      (Item.within?_append directory inner item).symm)
  unfold view ofItems
  dsimp only
  rw [hitems]

/-- The items that are seen from a directory, with the directory in front, are those that lie below
it. -/
lemma map_under_within? (directory : String) (items : List Item) :
    (items.filterMap (Item.within? (some directory))).map (Item.under directory) =
      items.filter fun item => item.entry.LiesBelow directory := by
  induction items with
  | nil => rfl
  | cons item items ih =>
    rw [List.filter_cons]
    by_cases hbelow : item.entry.LiesBelow directory
    · obtain ⟨entry, hne, hentry⟩ := Entry.liesBelow_iff.mp hbelow
      have hitem : item = Item.under directory { item with entry := entry } := by
        simp only [Item.under, ← hentry]
      have hseen := Item.within?_eq_some_iff.mpr ⟨hne, hitem⟩
      rw [List.filterMap_cons_some hseen, if_pos (decide_eq_true hbelow), ← ih, List.map_cons,
        ← hitem]
    · have hseen : Item.within? (some directory) item = none := by
        cases hwithin : Item.within? (some directory) item with
        | none => rfl
        | some seen =>
          obtain ⟨hne, rfl⟩ := Item.within?_eq_some_iff.mp hwithin
          exact absurd (Entry.liesBelow_iff.mpr ⟨seen.entry, hne, rfl⟩) hbelow
      rw [List.filterMap_cons_none hseen, if_neg (by simpa using hbelow), ih]

/-- The entries of a view, with the directory in front, are those of the archive that lie below the
directory. -/
lemma entries_view (directory : String) (index : Index) :
    (index.view directory).entries.map (Entry.under directory) =
      index.entries.filter fun entry => entry.LiesBelow directory := by
  have hitems := congrArg (List.map (·.entry)) (map_under_within? directory index.items)
  rw [List.map_map] at hitems
  show ((index.items.filterMap _).map _).map _ = (index.items.map _).filter _
  rw [List.map_map, List.filter_map]
  exact hitems

/-- A name is looked up in a view as the name with the directory in front is in the archive. -/
lemma find?_view {items : List Item} {manifest : Option Manifest} (directory : String)
    {name : String} (hname : name ≠ "") :
    (((ofItems items manifest).view directory).find? name).map (Item.under directory) =
      (ofItems items manifest).find? (directory ++ name) := by
  have hany : ∀ item : Item, (Item.within? (some directory) item).any
      (fun seen => seen.entry.name = name) = decide (item.entry.name = directory ++ name) := by
    intro item
    rw [Bool.eq_iff_iff, Option.any_eq_true, decide_eq_true_eq]
    constructor
    · rintro ⟨seen, hseen, heq⟩
      obtain ⟨-, rfl⟩ := Item.within?_eq_some_iff.mp hseen
      rw [← of_decide_eq_true heq]
      rfl
    · intro heq
      refine ⟨{ item with entry.name := name }, Item.within?_eq_some_iff.mpr ⟨hname, ?_⟩,
        decide_eq_true rfl⟩
      simp only [Item.under, Entry.under, ← heq]
  unfold view
  rw [find?_ofItems, find?_ofItems, List.findRev?_eq_find?_reverse, List.findRev?_eq_find?_reverse,
    ← List.filterMap_reverse, List.find?_filterMap]
  simp only [hany]
  show Option.map _ (Option.bind (items.reverse.find? _) _) = _
  cases hfound : items.reverse.find? fun item => decide (item.entry.name = directory ++ name) with
  | none => rfl
  | some item =>
    have heq : item.entry.name = directory ++ name := by
      simpa using List.find?_some hfound
    have hseen : Item.within? (some directory) item = some { item with entry.name := name } :=
      Item.within?_eq_some_iff.mpr ⟨hname, by simp only [Item.under, Entry.under, ← heq]⟩
    rw [Option.bind_some, hseen, Option.map_some]
    simp only [Item.under, Entry.under, ← heq]

end Index

namespace Stream

/-- The index of a view is the part of the index below the directory, at whatever url. -/
lemma index_view {s : Stream} {index : Index} (h : s.index = .ok index) (url : Url)
    (directory : String) :
    Stream.index ⟨url, s.data, some (s.directory.getD "" ++ directory)⟩ =
      .ok (index.view directory) := by
  have hindex := eq_ofItems_of_index h
  have hnone : s.malformation? = none := by
    unfold Stream.index at h
    split at h
    · cases h
    · assumption
  have hitems : s.items.filterMap (Item.within? (some (s.directory.getD "" ++ directory))) =
      index.items.filterMap (Item.within? (some directory)) := by
    rw [hindex]
    show _ = (s.items.filterMap (Item.within? s.directory)).filterMap _
    rw [List.filterMap_filterMap]
    exact congrArg (s.items.filterMap ·) (funext fun item =>
      Item.within?_getD s.directory directory item)
  have hmanifest : index.manifest = s.manifest := by
    rw [hindex]
    rfl
  unfold Stream.index
  -- what is wrong with a stream does not depend on the directory that is viewed
  have hview : malformation? ⟨url, s.data, some (s.directory.getD "" ++ directory)⟩ = none := hnone
  rw [hview]
  show Except.ok (Index.ofItems (s.items.filterMap _) s.manifest) = _
  rw [hitems, ← hmanifest]
  rfl

/-- What an index finds for a name is an item of the name in it. -/
lemma mem_of_find? {s : Stream} {index : Index} (h : s.index = .ok index) {name : String}
    {item : Item} (hitem : index.find? name = some item) :
    item ∈ index.items ∧ item.entry.name = name := by
  have hindex := eq_ofItems_of_index h
  rw [hindex] at hitem ⊢
  exact Index.mem_of_find? hitem

/-- What an index loosely finds for a name is an item in it. -/
lemma mem_of_findLoosely? {s : Stream} {index : Index} (h : s.index = .ok index) {name : String}
    {item : Item} (hitem : index.findLoosely? name = some item) : item ∈ index.items := by
  rcases Option.or_eq_some_iff.mp hitem with hfile | ⟨-, hdirectory⟩
  · exact (mem_of_find? h hfile).1
  · exact (mem_of_find? h hdirectory).1

end Stream

/-! ### Views and subtrees -/

namespace Archive

/-- The views that an archive gives of a directory. -/
inductive GivesView (outer : Archive) (directory : String) (view : Archive) : Prop
  /-- The archives that pass a filter stand in the order of the entries that pass it, and the view
  stands where the directory does. -/
  | filtered {s t : Store} {filter : Entry → Bool} {entries : List Entry} {views : List Archive}
      {i : Nat} (hentries : (outer.entries s).1 = .ok entries)
      (hviews : (outer.nestedAll filter t).1 = .ok views)
      (hentry : (entries.filter filter)[i]? = some ⟨directory, true⟩)
      (hview : views[i]? = some view)
  /-- A name leads to a directory when nothing else has the name without the slash. -/
  | named {s t : Store} {name : String}
      (hnone : (outer.find? (Text.dropSlashes name) s).1 = .ok none)
      (hname : Text.dropSlashes name ++ "/" = directory)
      (hview : (outer.nested? name t).1 = .ok (some view))

/-- An archive answers in every store as another one does below a directory.  Names are compared
after the directory has been put in front. -/
structure IsSubtree (view outer : Archive) (directory : String) : Prop where
  entries : ∀ s t, (view.entries s).1.map (List.map (Entry.under directory)) =
    (outer.entries t).1.map (List.filter fun entry => entry.LiesBelow directory)
  find? : ∀ name, name ≠ "" → ∀ s t,
    (view.find? name s).1.map (Option.map (Entry.under directory)) =
    (outer.find? (directory ++ name) t).1
  read? : ∀ name, name ≠ "" → ∀ s t, (view.read? name s).1 = (outer.read? (directory ++ name) t).1
  manifest : ∀ s t, (view.manifest s).1 = (outer.manifest t).1

/-- Two archives give the same answers in every store. -/
structure SameAnswers (a b : Archive) : Prop where
  entries : ∀ s t, (a.entries s).1 = (b.entries t).1
  find? : ∀ name s t, (a.find? name s).1 = (b.find? name t).1
  read? : ∀ name s t, (a.read? name s).1 = (b.read? name t).1
  manifest : ∀ s t, (a.manifest s).1 = (b.manifest t).1

/-- An archive over a stream that has an index lists the entries of the index. -/
lemma entries_eq_ok {stream : Stream} {index : Index} (hindex : stream.index = .ok index)
    (id : Nat) (s : Store) : ((packaged id stream).entries s).1 = .ok index.entries := by
  rw [entries_packaged, hindex]
  rfl

/-- The stream of an archive that lists entries has an index with these entries. -/
lemma index_of_entries {id : Nat} {stream : Stream} {s : Store} {entries : List Entry}
    (h : ((packaged id stream).entries s).1 = .ok entries) :
    ∃ index, stream.index = .ok index ∧ index.entries = entries := by
  rw [entries_packaged] at h
  cases hindex : stream.index with
  | error cause =>
    rw [hindex] at h
    cases h
  | ok index =>
    rw [hindex] at h
    exact ⟨index, rfl, Except.ok.inj h⟩

section

variable {id : Nat} {stream : Stream} {index : Index} {directory : String} {view : Archive}

/-- A view that is given of a directory is the nested archive of an item for the directory. -/
lemma GivesView.exists_item (h : (packaged id stream).GivesView directory view)
    (hindex : stream.index = .ok index) :
    ∃ item ∈ index.items, item.entry = ⟨directory, true⟩ ∧
      view.body = .packaged (stream.nested item) := by
  cases h with
  | @filtered s t filter entries views i hentries hviews hentry hview =>
    rw [entries_eq_ok hindex] at hentries
    obtain rfl := Except.ok.inj hentries
    obtain ⟨others, hothers, hbodies⟩ := nestedAll_packaged id stream t hindex filter
    rw [hviews] at hothers
    obtain rfl := Except.ok.inj hothers
    have hfilter : index.entries.filter filter =
        (index.items.filter fun item => filter item.entry).map (·.entry) :=
      List.filter_map
    rw [hfilter, List.getElem?_map, Option.map_eq_some_iff] at hentry
    obtain ⟨item, hitem, heq⟩ := hentry
    have hbody := congrArg (·[i]?) hbodies
    simp only [List.getElem?_map, hview, hitem, Option.map_some, Option.some.injEq] at hbody
    exact ⟨item, (List.mem_filter.mp (List.mem_of_getElem? hitem)).1, heq, hbody⟩
  | @named s t name hnone hname hview =>
    rw [find?_packaged, hindex] at hnone
    have hfile : index.find? (Text.dropSlashes name) = none :=
      Option.map_eq_none_iff.mp (Except.ok.inj hnone)
    obtain ⟨found, hfound, hbody⟩ := nested?_packaged id stream t hindex name
    rw [hview] at hfound
    obtain rfl := Except.ok.inj hfound
    rw [Index.findLoosely?, hfile, Option.none_or, hname, Option.map_some] at hbody
    obtain ⟨item, hitem, hnested⟩ := Option.map_eq_some_iff.mp hbody.symm
    obtain ⟨hmem, heq⟩ := Stream.mem_of_find? hindex hitem
    have hslash : Text.endsWithSlash directory = true := by
      rw [← hname]
      simp [Text.endsWithSlash, String.toList_append]
    have hdirectory : item.entry.isDirectory = true := by
      rw [Stream.isDirectory_eq_of_find? hindex hitem, hslash]
    refine ⟨item, hmem, ?_, hnested.symm⟩
    rw [← heq, ← hdirectory]

/-- A view that is given of a directory shows the same bytes from the directory on, and the
directory is one of the archive. -/
lemma GivesView.eq_packaged (h : (packaged id stream).GivesView directory view)
    (hindex : stream.index = .ok index) :
    ⟨directory, true⟩ ∈ index.entries ∧ ∃ id' url, view = packaged id'
      ⟨url, stream.data, some (stream.directory.getD "" ++ directory)⟩ := by
  obtain ⟨item, hmem, hentry, hbody⟩ := h.exists_item hindex
  have hnested : stream.nested item = ⟨stream.url.nested directory, stream.data,
      some (stream.directory.getD "" ++ directory)⟩ := by
    simp [Stream.nested, hentry]
  obtain ⟨id', hview⟩ := eq_packaged_of_body (hnested ▸ hbody)
  exact ⟨hentry ▸ List.mem_map_of_mem hmem, id', _, hview⟩

/-- A view is the subtree of the archive below its directory. -/
lemma GivesView.isSubtree (h : (packaged id stream).GivesView directory view)
    (hindex : stream.index = .ok index) : view.IsSubtree (packaged id stream) directory := by
  obtain ⟨-, id', url, rfl⟩ := h.eq_packaged hindex
  have hview := Stream.index_view hindex url directory
  have hofItems := Stream.eq_ofItems_of_index hindex
  have hfind : ∀ name, name ≠ "" → ((index.view directory).find? name).map (Item.under directory) =
      index.find? (directory ++ name) := by
    intro name hname
    rw [hofItems]
    exact Index.find?_view directory hname
  refine ⟨fun s t => ?_, fun name hname s t => ?_, fun name hname s t => ?_, fun s t => ?_⟩
  · rw [entries_eq_ok hview, entries_eq_ok hindex]
    exact congrArg Except.ok (Index.entries_view directory index)
  · rw [find?_packaged, find?_packaged, hview, hindex]
    simp only [Except.map, ← hfind name hname, Option.map_map]
    rfl
  · rw [read?_packaged, read?_packaged, hview, hindex]
    simp only [Except.map, ← hfind name hname, Option.filter_map, Option.map_map]
    rfl
  · rw [manifest_packaged, manifest_packaged, hview, hindex]
    rfl

/-- A view in a view answers as the view of the longer directory. -/
lemma GivesView.sameAnswers (h : (packaged id stream).GivesView directory view)
    (hindex : stream.index = .ok index) {inner : String} {deep whole : Archive}
    (hdeep : view.GivesView inner deep)
    (hwhole : (packaged id stream).GivesView (directory ++ inner) whole) :
    deep.SameAnswers whole := by
  obtain ⟨-, id₁, url₁, rfl⟩ := h.eq_packaged hindex
  have hview := Stream.index_view hindex url₁ directory
  obtain ⟨-, id₂, url₂, rfl⟩ := hdeep.eq_packaged hview
  obtain ⟨-, id₃, url₃, rfl⟩ := hwhole.eq_packaged hindex
  have hdeepIndex := Stream.index_view hview url₂ inner
  have hwholeIndex := Stream.index_view hindex url₃ (directory ++ inner)
  rw [Index.view_view] at hdeepIndex
  refine ⟨fun s t => ?_, fun name s t => ?_, fun name s t => ?_, fun s t => ?_⟩
  · rw [entries_packaged, entries_packaged, hdeepIndex, hwholeIndex]
  · rw [find?_packaged, find?_packaged, hdeepIndex, hwholeIndex]
  · rw [read?_packaged, read?_packaged, hdeepIndex, hwholeIndex]
  · rw [manifest_packaged, manifest_packaged, hdeepIndex, hwholeIndex]

/-- An archive has a view of each directory that is found among its entries by its name, unless
something else has the name without the slash. -/
lemma exists_givesView (hindex : stream.index = .ok index)
    (hdirectory : ⟨directory, true⟩ ∈ index.entries) {name : String}
    (hname : Text.dropSlashes name = Text.dropSlashes directory) {t : Store}
    (hnone : ((packaged id stream).find? (Text.dropSlashes name) t).1 = .ok none) :
    ∃ view, ((packaged id stream).nested? name t).1 = .ok (some view) ∧
      (packaged id stream).GivesView directory view := by
  obtain ⟨item, hitem, hentry⟩ := List.mem_map.mp hdirectory
  have hslash : Text.dropSlashes name ++ "/" = directory := by
    have hdrop := Stream.dropSlashes_append_of_mem hindex hitem (by rw [hentry])
    rw [hentry] at hdrop
    rw [hname, hdrop]
  have hfound : (index.find? directory).isSome := by
    rw [Stream.eq_ofItems_of_index hindex] at hitem ⊢
    rw [Index.find?_ofItems, List.findRev?_eq_find?_reverse, List.find?_isSome]
    exact ⟨item, List.mem_reverse.mpr hitem, by simp [hentry]⟩
  have hloosely : (index.findLoosely? (Text.dropSlashes name)).isSome := by
    rw [Index.findLoosely?, hslash, Option.isSome_or, hfound, Bool.or_true]
  obtain ⟨found, hnested, hbody⟩ := nested?_packaged id stream t hindex name
  cases found with
  | none =>
    rw [Option.isSome_iff_ne_none] at hloosely
    exact absurd (Option.map_eq_none_iff.mp hbody.symm) hloosely
  | some view => exact ⟨view, hnested, .named hnone hslash hnested⟩

end

/-- The views of a directory are subtrees.  An archive that lists its entries gives an archive for
each entry that passes a filter, and it gives a view of each directory that is asked for by name,
unless something else has the name without the slash.  Every view can be indexed and answers as the
archive does below the directory, and a view in a view answers as the view of the longer directory.
The archive may be a view itself. -/
theorem givesView_isSubtree {id : Nat} {stream : Stream} {s : Store} {entries : List Entry}
    {directory : String} (hentries : ((packaged id stream).entries s).1 = .ok entries)
    (hdirectory : ⟨directory, true⟩ ∈ entries) :
    let outer := packaged id stream
    (∀ filter t, ∃ views, (outer.nestedAll filter t).1 = .ok views ∧
      views.length = (entries.filter filter).length) ∧
    (∀ name t, Text.dropSlashes name = Text.dropSlashes directory →
      (outer.find? (Text.dropSlashes name) t).1 = .ok none →
      ∃ view, (outer.nested? name t).1 = .ok (some view) ∧ outer.GivesView directory view) ∧
    ∀ view, outer.GivesView directory view →
      (∃ seen, ∀ t, (view.entries t).1 = .ok seen) ∧
      view.IsSubtree outer directory ∧
      ∀ inner deep, view.GivesView inner deep → ⟨directory ++ inner, true⟩ ∈ entries ∧
        ∀ whole, outer.GivesView (directory ++ inner) whole → deep.SameAnswers whole := by
  obtain ⟨index, hindex, rfl⟩ := index_of_entries hentries
  refine ⟨fun filter t => ?_, fun name t hname hnone => ?_, fun view hview => ⟨?_, ?_, ?_⟩⟩
  · obtain ⟨views, hviews, hbodies⟩ := nestedAll_packaged id stream t hindex filter
    refine ⟨views, hviews, ?_⟩
    have hlength := congrArg List.length hbodies
    rw [List.length_map, List.length_map] at hlength
    rw [hlength, Index.entries, List.filter_map, List.length_map]
    rfl
  · exact exists_givesView hindex hdirectory hname hnone
  · obtain ⟨-, id', url, rfl⟩ := hview.eq_packaged hindex
    exact ⟨_, entries_eq_ok (Stream.index_view hindex url directory) id'⟩
  · exact hview.isSubtree hindex
  · intro inner deep hdeep
    refine ⟨?_, fun whole hwhole => hview.sameAnswers hindex hdeep hwhole⟩
    obtain ⟨-, id', url, rfl⟩ := hview.eq_packaged hindex
    obtain ⟨hinner, -⟩ := hdeep.eq_packaged (Stream.index_view hindex url directory)
    have hunder : Entry.under directory ⟨inner, true⟩ ∈
        (index.view directory).entries.map (Entry.under directory) := List.mem_map_of_mem hinner
    rw [Index.entries_view] at hunder
    exact (List.mem_filter.mp hunder).1

/-- A directory in a directory, with a file in it that is written twice. -/
def sampleTree : Archive :=
  packaged 0 ⟨.artifact ⟨"tree.jar"⟩, Tar.write
    [.plain (Text.Utf8.encode "a/".toList) (by decide) none,
      .plain (Text.Utf8.encode "a/b/".toList) (by decide) none,
      .plain (Text.Utf8.encode "a/b/c".toList) (by decide) (some [1]),
      .plain (Text.Utf8.encode "a/b/c".toList) (by decide) (some [2])] [], none⟩

/-- The sample has a view of its outer directory, and in it a view of the inner one. -/
theorem givesView_isSubtree_sampleTree :
    (sampleTree.entries default).1 =
      .ok [⟨"a/", true⟩, ⟨"a/b/", true⟩, ⟨"a/b/c", false⟩, ⟨"a/b/c", false⟩] ∧
    (sampleTree.find? "a" default).1 = .ok none ∧
    ∃ view, (sampleTree.nested? "a/" default).1 = .ok (some view) ∧
      view.IsSubtree sampleTree "a/" := by
  have hentries : (sampleTree.entries default).1 =
      .ok [⟨"a/", true⟩, ⟨"a/b/", true⟩, ⟨"a/b/c", false⟩, ⟨"a/b/c", false⟩] := by
    decide +kernel
  have hnone : (sampleTree.find? "a" default).1 = .ok none := by decide +kernel
  obtain ⟨-, hnamed, hviews⟩ := givesView_isSubtree hentries List.mem_cons_self
  obtain ⟨view, hnested, hview⟩ := hnamed "a/" default rfl hnone
  exact ⟨hentries, hnone, view, hnested, (hviews view hview).2.1⟩

/-- A file without content, and a directory that is called as the file is. -/
def shadowedTree : Archive :=
  packaged 0 ⟨.artifact ⟨"shadowed.jar"⟩, Tar.write
    [.plain (Text.Utf8.encode "a".toList) (by decide) (some []),
      .plain (Text.Utf8.encode "a/".toList) (by decide) none,
      .plain (Text.Utf8.encode "a/b".toList) (by decide) (some [1])] [], none⟩

/-- A directory is not viewed by its name when a file has the name without the slash: what is nested
under the name is then the archive in the file. -/
theorem not_isSubtree_shadowedTree :
    (shadowedTree.entries default).1 = .ok [⟨"a", false⟩, ⟨"a/", true⟩, ⟨"a/b", false⟩] ∧
    ∃ view, (shadowedTree.nested? "a/" default).1 = .ok (some view) ∧
      (view.entries default).1 = .ok [] ∧ ¬ view.IsSubtree shadowedTree "a/" := by
  have hentries : (shadowedTree.entries default).1 =
      .ok [⟨"a", false⟩, ⟨"a/", true⟩, ⟨"a/b", false⟩] := by
    decide +kernel
  refine ⟨hentries, packaged 0 ⟨.packaged ⟨"shadowed.jar"⟩ ["a"], [], none⟩, ?_, ?_, fun h => ?_⟩
  · decide +kernel
  · decide +kernel
  · have hbelow := h.entries default default
    rw [hentries] at hbelow
    revert hbelow
    decide +kernel

end Archive

end AppLauncher
