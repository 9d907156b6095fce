import AppLauncher.Proofs.Archive.Exploded
import AppLauncher.Proofs.Archive.Written
import Mathlib.Data.List.Forall2

/-!
# Indexes that show a tree

An index shows a tree if its items are what the tree lists, with the content of the files
(`Index.Shows`).  Then what it finds for a name is what the tree has there
(`Index.Shows.find?_entry`, `Index.Shows.find?_content`), and its view of a directory shows the tree
of the directory (`Index.Shows.view`).

A stream lists a tree if its members are the nodes of the tree, in the order of the listing
(`Stream.Lists`), and then its index shows the tree (`Stream.Lists.shows`).  Streams in which the
nodes have been written are of this kind (`Stream.lists_write`).
-/

namespace AppLauncher

open FileSystem (Node Forest IsName)

/-! ### Looking a name up in the listing -/

namespace FileSystem.Forest

variable {tree : Forest} {steps : List String}

/-- What a tree has under a name is what it lists under the name. -/
lemma findRev?_listing (htree : tree.IsTree IsName) (hne : steps ≠ [])
    (hsteps : ∀ step ∈ steps, Path.IsStep step) (slash : Bool) :
    tree.listing.findRev? (fun entry => entry.name = Entry.nameOf steps slash) =
      tree.found? (Entry.nameOf steps slash) := by
  have hslash := Entry.endsWithSlash_nameOf hne hsteps slash
  rw [List.findRev?_eq_find?_reverse]
  unfold found?
  rw [Entry.names_nameOf hsteps, hslash]
  cases hfound : tree.listing.reverse.find? fun entry =>
      decide (entry.name = Entry.nameOf steps slash) with
  | none =>
    rw [List.find?_eq_none] at hfound
    cases hat : (Node.directory tree).at? steps with
    | none => rfl
    | some node =>
      rw [Option.bind_some, if_neg]
      rintro rfl
      exact hfound _ (List.mem_reverse.mpr (mem_listing_of_at? hne htree hat)) (decide_eq_true rfl)
  | some entry =>
    have hmem := List.mem_reverse.mp (List.mem_of_find?_eq_some hfound)
    have hname : entry.name = Entry.nameOf steps slash := by
      simpa using List.find?_some hfound
    obtain ⟨name, isDirectory⟩ := entry
    dsimp only at hname
    rw [hname] at hmem ⊢
    obtain ⟨rfl, node, hat, hkind⟩ := (mem_listing_iff htree hne hsteps).mp hmem
    rw [hat, Option.bind_some, if_pos hkind, hkind]

/-- What a tree reads is the content of what it has under the name, unless that is a directory. -/
lemma read?_eq (htree : tree.IsTree IsName) (hne : steps ≠ [])
    (hsteps : ∀ step ∈ steps, Path.IsStep step) (slash : Bool) :
    ((tree.found? (Entry.nameOf steps slash)).filter (!·.isDirectory)).map
        (fun _ => (tree.content? (Entry.nameOf steps slash)).getD []) =
      tree.read? (Entry.nameOf steps slash) := by
  have hslash := Entry.endsWithSlash_nameOf hne hsteps slash
  unfold found? read? content?
  rw [Entry.names_nameOf hsteps, hslash]
  cases hat : (Node.directory tree).at? steps with
  | none => simp
  | some node =>
    have hnode : (Node.directory tree).IsTree IsName := htree
    have hcontent := Node.isSome_content? (hnode.of_at? hat).1
    rw [Option.bind_some, Option.bind_some]
    cases hkind : node.isDirectory with
    | true =>
      rw [hkind] at hcontent
      cases slash <;> simp_all
    | false =>
      rw [hkind] at hcontent
      obtain ⟨content, hsome⟩ := Option.isSome_iff_exists.mp hcontent
      cases slash <;> simp [hsome]

/-- The content that a tree has below a directory is what the directory has. -/
lemma content?_append {children : Forest} (hsteps : ∀ step ∈ steps, Path.IsStep step)
    (hat : (Node.directory tree).at? steps = some (.directory children)) {inner : List String}
    (hinner : ∀ step ∈ inner, Path.IsStep step) (isDirectory : Bool) :
    tree.content? (Entry.nameOf steps true ++ Entry.nameOf inner isDirectory) =
      children.content? (Entry.nameOf inner isDirectory) := by
  have hnames : Path.names ⟨Entry.nameOf steps true ++ Entry.nameOf inner isDirectory⟩ =
      steps ++ inner := by
    show Path.names ⟨Path.joined steps ++ "/" ++ Entry.nameOf inner isDirectory⟩ = _
    rw [Path.names_append_slash, Path.names_joined hsteps, Entry.names_nameOf hinner]
  unfold content?
  rw [hnames, Entry.names_nameOf hinner, Node.at?_append, hat]
  rfl

end FileSystem.Forest

namespace Index

/-- An index whose items are what a tree lists, with the content of the files. -/
structure Shows (index : Index) (data : List UInt8) (tree : Forest) : Prop where
  eq_ofItems : index = .ofItems index.items index.manifest
  items : index.items.map (fun item => (item.entry, item.dataIn data)) =
    tree.listing.map fun entry => (entry, (tree.content? entry.name).getD [])

namespace Shows

variable {index : Index} {data : List UInt8} {tree : Forest}

/-- The entries of the index are the listing. -/
lemma entries (h : index.Shows data tree) : index.entries = tree.listing := by
  have hentries := congrArg (List.map Prod.fst) h.items
  rw [List.map_map, List.map_map] at hentries
  simpa [Index.entries, Function.comp_def] using hentries

variable {steps : List String}

/-- What the index finds for a name is what the tree has, with its content. -/
lemma find?_pair (h : index.Shows data tree) (htree : tree.IsTree IsName) (hne : steps ≠ [])
    (hsteps : ∀ step ∈ steps, Path.IsStep step) (slash : Bool) :
    (index.find? (Entry.nameOf steps slash)).map (fun item => (item.entry, item.dataIn data)) =
      (tree.found? (Entry.nameOf steps slash)).map fun entry =>
        (entry, (tree.content? (Entry.nameOf steps slash)).getD []) := by
  have hitems := congrArg
    (fun l => l.findRev? fun seen => decide (seen.1.name = Entry.nameOf steps slash)) h.items
  simp only [List.findRev?_eq_find?_reverse, ← List.map_reverse, List.find?_map,
    Function.comp_def] at hitems
  have hlisted := Forest.findRev?_listing htree hne hsteps slash
  rw [List.findRev?_eq_find?_reverse] at hlisted
  rw [h.eq_ofItems, find?_ofItems, List.findRev?_eq_find?_reverse, hitems, hlisted]
  cases hfound : tree.found? (Entry.nameOf steps slash) with
  | none => rfl
  | some entry =>
    rw [hfound] at hlisted
    have hname : entry.name = Entry.nameOf steps slash := by
      simpa using List.find?_some hlisted
    rw [Option.map_some, Option.map_some, hname]

/-- What the index finds for a name is what the tree has. -/
lemma find?_entry (h : index.Shows data tree) (htree : tree.IsTree IsName) (hne : steps ≠ [])
    (hsteps : ∀ step ∈ steps, Path.IsStep step) (slash : Bool) :
    (index.find? (Entry.nameOf steps slash)).map (·.entry) =
      tree.found? (Entry.nameOf steps slash) := by
  have hpair := congrArg (Option.map Prod.fst) (h.find?_pair htree hne hsteps slash)
  simpa [Option.map_map, Function.comp_def] using hpair

/-- What the index has for a file is the content that the tree has. -/
lemma find?_content (h : index.Shows data tree) (htree : tree.IsTree IsName) (hne : steps ≠ [])
    (hsteps : ∀ step ∈ steps, Path.IsStep step) (slash : Bool) :
    ((index.find? (Entry.nameOf steps slash)).filter (!·.entry.isDirectory)).map (·.dataIn data) =
      tree.read? (Entry.nameOf steps slash) := by
  have hpair := congrArg (fun seen => (seen.filter (!·.1.isDirectory)).map Prod.snd)
    (h.find?_pair htree hne hsteps slash)
  simp only [Option.filter_map, Option.map_map, Function.comp_def] at hpair
  rw [hpair]
  exact Forest.read?_eq htree hne hsteps slash

/-- The view of a directory shows the tree of the directory. -/
lemma view (h : index.Shows data tree) (htree : tree.IsTree IsName) (hne : steps ≠ [])
    {children : Forest} (hat : (Node.directory tree).at? steps = some (.directory children)) :
    (index.view (Entry.nameOf steps true)).Shows data children := by
  have hnode : (Node.directory tree).IsTree IsName := htree
  have hchildren : children.IsTree IsName := (hnode.of_at? hat).1
  have hcontent : ∀ entry ∈ children.listing,
      tree.content? (Entry.nameOf steps true ++ entry.name) = children.content? entry.name := by
    intro entry hentry
    obtain ⟨inner, found, -, hfound, rfl⟩ := Forest.exists_of_mem_listing hchildren hentry
    exact Forest.content?_append (htree.isStep hat) hat (hchildren.isStep hfound) found.isDirectory
  -- pairs are compared with the directory in front of their entries
  let lift : Entry × List UInt8 → Entry × List UInt8 := fun seen =>
    (seen.1.under (Entry.nameOf steps true), seen.2)
  have hlift : Function.Injective lift := by
    rintro ⟨entry, bytes⟩ ⟨entry', bytes'⟩ heq
    obtain ⟨hentry, hbytes⟩ := Prod.mk.inj heq
    exact Prod.ext (Entry.under_injective _ hentry) hbytes
  refine ⟨rfl, (List.map_inj_right fun _ _ heq => hlift heq).mp ?_⟩
  have hunder := congrArg (List.map fun item => (item.entry, item.dataIn data))
    (Index.map_under_within? (Entry.nameOf steps true) index.items)
  calc ((index.view (Entry.nameOf steps true)).items.map
          fun item => (item.entry, item.dataIn data)).map lift
      = ((index.items.filterMap (Item.within? (some (Entry.nameOf steps true)))).map
          (Item.under (Entry.nameOf steps true))).map
            fun item => (item.entry, item.dataIn data) := by
        rw [List.map_map, List.map_map]
        rfl
    _ = (index.items.map fun item => (item.entry, item.dataIn data)).filter
          fun seen => seen.1.LiesBelow (Entry.nameOf steps true) := by
        rw [hunder, List.filter_map]
        rfl
    _ = (tree.listing.filter fun entry => entry.LiesBelow (Entry.nameOf steps true)).map
          fun entry => (entry, (tree.content? entry.name).getD []) := by
        rw [h.items, List.filter_map]
        rfl
    _ = (children.listing.map fun entry =>
          (entry, (children.content? entry.name).getD [])).map lift := by
        rw [Forest.listing_below hne htree hat, List.map_map, List.map_map]
        refine List.map_congr_left fun entry hentry => ?_
        simp only [Function.comp_apply, lift, Entry.under, hcontent entry hentry]

end Shows

end Index

/-! ### Names of listed entries in streams -/

namespace Entry

variable {steps : List String}

/-- A name does not start with a step that stays. -/
lemma stripCurrent_nameOf (hne : steps ≠ []) (h : ∀ step ∈ steps, Path.IsStep step)
    (isDirectory : Bool) :
    stripCurrent (nameOf steps isDirectory).toList = (nameOf steps isDirectory).toList := by
  obtain ⟨step, rest, rfl⟩ := List.exists_cons_of_ne_nil hne
  have hstep := h step List.mem_cons_self
  rw [stripCurrent.eq_def]
  split
  · rename_i behind heq
    have htake := takeWhile_nameOf hstep.slash_notMem rest isDirectory
    rw [heq] at htake
    exact absurd (String.toList_inj.mp htake.symm) hstep.ne_current
  · rfl

/-- Steps one after the other are not a step that stays. -/
lemma joined_ne_current (hne : steps ≠ []) (h : ∀ step ∈ steps, Path.IsStep step) :
    (Path.joined steps).toList ≠ ['.'] := by
  obtain ⟨step, rest, rfl⟩ := List.exists_cons_of_ne_nil hne
  have hstep := h step List.mem_cons_self
  intro heq
  have htake := takeWhile_nameOf hstep.slash_notMem rest false
  rw [nameOf, if_neg Bool.false_ne_true, String.append_empty, heq] at htake
  exact hstep.ne_current (String.toList_inj.mp htake.symm)

/-- The normal form of the name of steps, however the directory is marked. -/
lemma normalName?_nameOf (hne : steps ≠ []) (h : ∀ step ∈ steps, FileSystem.IsPlainName step)
    (slash isDirectory : Bool) :
    normalName? (nameOf steps slash) isDirectory = some (nameOf steps isDirectory) := by
  have hsteps : ∀ step ∈ steps, Path.IsStep step := fun step hstep => (h step hstep).toIsStep
  obtain ⟨c, cs, hlist, hc⟩ := Path.exists_joined_eq hne hsteps
  have hchars : (nameOf steps slash).toList = c :: (cs ++ if slash then ['/'] else []) := by
    rw [nameOf, String.toList_append, hlist]
    cases slash <;> rfl
  have hbackslash : '\\' ∉ (nameOf steps slash).toList := by
    intro hmem
    obtain ⟨s, hs, hbad⟩ := mem_nameOf (by decide) hmem
    exact (h s hs).backslash_notMem hbad
  have hstart : (nameOf steps slash).toList.dropWhile (· = '/') = (nameOf steps slash).toList := by
    rw [hchars, List.dropWhile_cons_of_neg (by simpa using hc)]
  have hend : Text.dropTrailing '/' (nameOf steps slash).toList = (Path.joined steps).toList := by
    rw [← Entry.dropSlashes_nameOf hne hsteps slash, Text.dropSlashes, Text.mapString,
      String.toList_ofList]
  have hempty : (Path.joined steps).toList ≠ [] := by
    rw [hlist]
    exact List.cons_ne_nil c cs
  unfold normalName?
  dsimp only
  rw [Text.replaceChar_of_notMem hbackslash, stripCurrent_nameOf hne hsteps, hstart, hend,
    if_neg (not_or.mpr ⟨hempty, joined_ne_current hne hsteps⟩)]
  cases isDirectory with
  | false => simp [nameOf]
  | true => simp [nameOf]

end Entry

/-! ### Streams that list a tree -/

/-- How the node of a listed entry is written into a stream: with the name of the entry, with or
without the slash of a directory, and with the content of a file. -/
structure FileSystem.Forest.WritesAs (tree : Forest) (entry : Entry) (kind : Tar.Kind)
    (name data : List UInt8) : Prop where
  kind : kind = if entry.isDirectory then .directory else .file
  name : name = Text.Utf8.encode entry.name.toList ∨
    name = Text.Utf8.encode (Text.dropSlashes entry.name).toList
  data : data = (tree.content? entry.name).getD []

namespace Stream

/-- A stream lists a tree if its members are the nodes of the tree, in the order of the listing. -/
structure Lists (data : List UInt8) (tree : Forest) : Prop where
  fault : (Tar.read data).fault = none
  inside : ∀ m ∈ (Tar.read data).members, m.start + m.size ≤ data.length
  members : List.Forall₂ (fun entry m => tree.WritesAs entry m.kind m.name (m.dataIn data))
    tree.listing (Tar.read data).members

/-- A stream in which the nodes of a tree have been written lists the tree. -/
lemma lists_write {tree : Forest} {records : List Tar.Record} {rest : List UInt8}
    (hfits : (Tar.write records rest).length < Tar.sizeBound)
    (hrecords : List.Forall₂
      (fun entry r => tree.WritesAs entry (Tar.Kind.ofByte r.type) r.name r.data)
      tree.listing records) : Lists (Tar.write records rest) tree := by
  have hread : (Tar.read (Tar.write records rest)).members = Tar.membersAt 0 records := by
    rw [Tar.write, List.length_append] at hfits
    rw [Tar.read_write records rest (by omega)]
  obtain ⟨hfault, hinside⟩ := read_write_inside hfits
  refine ⟨hfault, hinside, ?_⟩
  have hmembers := Tar.map_membersAt records [] (List.replicate Tar.blockSize 0 ++ rest)
  rw [hread]
  -- both are compared by the kinds, the names and the data alone
  have hseen : List.Forall₂ (fun entry seen => tree.WritesAs entry seen.1 seen.2.1 seen.2.2)
      tree.listing (records.map fun r => (Tar.Kind.ofByte r.type, r.name, r.data)) :=
    List.forall₂_map_right_iff.mpr hrecords
  rw [← hmembers] at hseen
  exact List.forall₂_map_right_iff.mp hseen

namespace Lists

variable {data : List UInt8} {tree : Forest}

/-- The item of a member that is written for a listed entry is the entry, with the data that was
written. -/
lemma ofMember? (hplain : tree.IsPlain) {entry : Entry} (hentry : entry ∈ tree.listing)
    {m : Tar.Member} (hm : tree.WritesAs entry m.kind m.name (m.dataIn data)) :
    (Item.ofMember? m).map (fun item => (item.entry, item.dataIn data)) =
      some (entry, (tree.content? entry.name).getD []) := by
  obtain ⟨steps, found, hne, hat, rfl⟩ := Forest.exists_of_mem_listing hplain.isTree hentry
  have hnode : (Node.directory tree).IsPlain := hplain
  have hnames : ∀ step ∈ steps, FileSystem.IsPlainName step := (hnode.of_at? hat).2
  have hsteps : ∀ step ∈ steps, Path.IsStep step := hplain.isTree.isStep hat
  have hraw : ∃ slash, String.ofList (Text.Utf8.decode m.name) = Entry.nameOf steps slash := by
    rcases hm.name with hname | hname
    · refine ⟨found.isDirectory, ?_⟩
      rw [hname, Text.Utf8.decode_encode, String.ofList_toList]
      rfl
    · refine ⟨false, ?_⟩
      rw [hname, Text.Utf8.decode_encode, String.ofList_toList, Entry.named,
        Entry.dropSlashes_nameOf hne hsteps, Entry.nameOf, if_neg Bool.false_ne_true,
        String.append_empty]
  obtain ⟨slash, hslash⟩ := hraw
  have hnormal := Entry.normalName?_nameOf hne hnames slash found.isDirectory
  have hentryOf : Item.entryOf? m.kind m.name = some (.named steps found.isDirectory) := by
    unfold Item.entryOf?
    rw [hm.kind, hslash, Entry.named]
    cases hkind : found.isDirectory with
    | true =>
      rw [hkind] at hnormal
      simp [hnormal]
    | false =>
      rw [hkind] at hnormal
      simp [hnormal]
  rw [Item.map_ofMember?, hentryOf, Option.map_some, hm.data]

/-- The items of the stream are the listing, with the content of the files. -/
lemma map_items (h : Lists data tree) (hplain : tree.IsPlain) (url : Url) :
    (items ⟨url, data, none⟩).map (fun item => (item.entry, item.dataIn data)) =
      tree.listing.map fun entry => (entry, (tree.content? entry.name).getD []) := by
  have hboth := (List.forall₂_and_left _ _).mpr ⟨fun _ hentry => hentry, h.members⟩
  have heach : (tree.listing.map fun entry =>
        some (entry, (tree.content? entry.name).getD [])) =
      (Tar.read data).members.map fun m =>
        (Item.ofMember? m).map fun item => (item.entry, item.dataIn data) := by
    rw [← List.forall₂_eq_eq_eq, List.forall₂_map_left_iff, List.forall₂_map_right_iff]
    exact hboth.imp fun entry m hm => (ofMember? hplain hm.1 hm.2).symm
  have hsome := congrArg (List.filterMap id) heach
  rw [List.filterMap_map, List.filterMap_map] at hsome
  unfold items
  rw [List.map_filterMap]
  simpa [Function.comp_def] using hsome.symm

/-- The index of a stream that lists a tree shows the tree. -/
lemma shows (h : Lists data tree) (hplain : tree.IsPlain) (url : Url) :
    ∃ index, Stream.index ⟨url, data, none⟩ = .ok index ∧ index.Shows data tree :=
  ⟨_, index_of_read h.fault h.inside url, rfl, h.map_items hplain url⟩

end Lists

end Stream

end AppLauncher
