import AppLauncher.Proofs.Archive.Exploded

/-!
# Spellings of entry names

An exploded archive takes a name to a path, and the files are walked along the path: empty pieces of
the name and inner pieces `.` lead nowhere else.  So an entry is found under its name and under all
other spellings of it (`Exploded.Spells`), as long as the path can be walked at all
(`Exploded.leadsTo_iff`).

The names under which the archive finds exactly what it lists are those that spell no listed entry
but their own (`Exploded.agrees_iff`), and no two of them lead to the same place.  The entry name of
a class is spelled in one way only if the dots of the class name stand one by one
(`Exploded.kept_ofClass`); with two dots side by side it leads to the entry of another class
(`Exploded.lookup_disagrees`).
-/

namespace AppLauncher

open FileSystem (Node Forest IsName)

namespace Exploded

/-! ### Names that stay below the directory -/

/-- A name stays below the directory of its archive: it is relative, it does not start by staying,
and it never goes up. -/
structure StaysBelow (name : String) : Prop where
  not_absolute : (Path.pieces ⟨name⟩).head? ≠ some ""
  not_current : (Path.pieces ⟨name⟩).head? ≠ some "."
  not_parent : ".." ∉ Path.names ⟨name⟩

/-- The path of a name can be walked, as far as its length goes. -/
def Walkable (root : Path) (name : String) : Prop :=
  (root.join ⟨Text.dropSlashes name⟩).text.utf8ByteSize < FileSystem.maxPathLength

instance (root : Path) (name : String) : Decidable (Walkable root name) :=
  inferInstanceAs (Decidable (_ < _))

variable {root : Path} {name : String}

/-- What stays below the directory leads on from there. -/
lemma StaysBelow.leadsBelow (h : StaysBelow name) :
    Path.LeadsBelow ⟨Text.dropSlashes name⟩ := by
  obtain ⟨-, hhead⟩ := Path.dropSlashes_spec name
  have hfirst : (Path.pieces ⟨Text.dropSlashes name⟩).head? ≠ some "" := by
    rw [hhead]
    exact h.not_absolute
  refine ⟨?_, Path.not_absolute_of_head? hfirst, ?_⟩
  · intro hempty
    have hpath : Text.dropSlashes name = "" := hempty
    rw [hpath] at hfirst
    exact hfirst rfl
  · apply decide_eq_false
    unfold Text.dropSlashes Text.mapString
    rw [String.toList_ofList]
    exact Text.getLast?_dropTrailing '/' name.toList

/-- The names that have a path are those that stay below the directory. -/
lemma pathOf?_eq_some_iff {path : Path} :
    pathOf? root name = some path ↔
      StaysBelow name ∧ path = root.join ⟨Text.dropSlashes name⟩ := by
  obtain ⟨hnames, hhead⟩ := Path.dropSlashes_spec name
  have hparent : ".." ∈ Path.pieces ⟨Text.dropSlashes name⟩ ↔ ".." ∈ Path.names ⟨name⟩ := by
    rw [← hnames]
    unfold Path.names
    rw [List.mem_filter]
    exact (and_iff_left (by decide)).symm
  unfold pathOf?
  dsimp only
  constructor
  · intro h
    split at h
    · cases h
    · rename_i hsafe
      obtain ⟨hne, hsafe⟩ := not_or.mp hsafe
      replace hsafe : Entry.isSafe (Text.dropSlashes name) = true := by simpa using hsafe
      have habsolute : Path.isAbsolute ⟨Text.dropSlashes name⟩ = false := by
        by_contra hroot
        have hcomponents : Entry.isSafe (Text.dropSlashes name) =
            (Path.components ⟨Text.dropSlashes name⟩).all Path.Component.isName := rfl
        rw [hcomponents, Path.components, if_pos (by simpa using hroot)] at hsafe
        cases hsafe
      obtain ⟨hcurrent, hnone⟩ := (Path.isSafe_iff habsolute).mp hsafe
      rw [hhead] at hcurrent
      refine ⟨⟨?_, hcurrent, hparent.not.mp hnone⟩, (Option.some.inj h).symm⟩
      intro hempty
      have hroot := Path.absolute_of_head? (hhead.trans hempty) hne
      rw [habsolute] at hroot
      cases hroot
  · rintro ⟨hstays, rfl⟩
    have hleads := hstays.leadsBelow
    have hcurrent : (Path.pieces ⟨Text.dropSlashes name⟩).head? ≠ some "." := by
      rw [hhead]
      exact hstays.not_current
    have hsafe : Entry.isSafe (Text.dropSlashes name) = true :=
      (Path.isSafe_iff hleads.not_absolute).mpr ⟨hcurrent, hparent.not.mpr hstays.not_parent⟩
    rw [if_neg]
    rintro (hempty | hunsafe)
    · exact hleads.ne_empty hempty
    · rw [hsafe] at hunsafe
      cases hunsafe

/-- The names in what stays below the directory are ordinary, but for those that stay. -/
lemma StaysBelow.isStep (h : StaysBelow name) {step : String}
    (hstep : step ∈ Path.names ⟨name⟩) : step = "." ∨ Path.IsStep step := by
  by_cases hcurrent : step = "."
  · exact .inl hcurrent
  · refine .inr (Path.isStep_of_mem_names hstep hcurrent ?_)
    rintro rfl
    exact h.not_parent hstep

/-- What stays below the directory has a first step. -/
lemma StaysBelow.kept_ne_nil (h : StaysBelow name) :
    (Path.names ⟨name⟩).filter (· ≠ ".") ≠ [] := by
  obtain ⟨first, hfirst⟩ := Path.exists_head?_pieces ⟨name⟩
  have hempty : first ≠ "" := fun heq => h.not_absolute (heq ▸ hfirst)
  have hcurrent : first ≠ "." := fun heq => h.not_current (heq ▸ hfirst)
  have hname : first ∈ Path.names ⟨name⟩ :=
    List.mem_filter.mpr ⟨List.mem_of_head? hfirst, decide_eq_true hempty⟩
  exact List.ne_nil_of_mem (List.mem_filter.mpr ⟨hname, decide_eq_true hcurrent⟩)

/-! ### Spellings -/

/-- A name spells an entry: it starts with the same piece, it has the same names but for some that
stay, and it ends with a slash, which has to follow a last name that stays, exactly if the entry is
a directory. -/
structure Spells (name : String) (entry : Entry) : Prop where
  first : (Path.pieces ⟨name⟩).head? = (Path.pieces ⟨entry.name⟩).head?
  names : (Path.names ⟨name⟩).filter (· ≠ ".") = Path.names ⟨entry.name⟩
  slash : Text.endsWithSlash name = entry.isDirectory
  last : (Path.names ⟨name⟩).getLast? = some "." → entry.isDirectory = true

section

variable {steps : List String} (hne : steps ≠ []) (h : ∀ step ∈ steps, Path.IsStep step)

include hne h

/-- The name of what some steps lead to starts with the first step. -/
lemma head?_pieces_nameOf (isDirectory : Bool) :
    (Path.pieces ⟨Entry.nameOf steps isDirectory⟩).head? = steps.head? := by
  obtain ⟨-, hhead⟩ := Path.dropSlashes_spec (Entry.nameOf steps isDirectory)
  rw [← hhead, Entry.dropSlashes_nameOf hne h, Path.pieces_joined hne h]

/-- A name spells the entry of its steps, but for those that stay. -/
lemma spells_named_iff (isDirectory : Bool) :
    Spells name (.named steps isDirectory) ↔
      StaysBelow name ∧ (Path.names ⟨name⟩).filter (· ≠ ".") = steps ∧
        Text.endsWithSlash name = isDirectory ∧
        ((Path.names ⟨name⟩).getLast? = some "." → isDirectory = true) := by
  have hhead := head?_pieces_nameOf hne h isDirectory
  have hnames := Entry.names_nameOf h isDirectory
  constructor
  · intro hspells
    have hkept : (Path.names ⟨name⟩).filter (· ≠ ".") = steps := hspells.names.trans hnames
    have hfirst : (Path.pieces ⟨name⟩).head? = steps.head? := hspells.first.trans hhead
    refine ⟨⟨?_, ?_, ?_⟩, hkept, hspells.slash, hspells.last⟩
    · intro hempty
      exact (h "" (List.mem_of_head? (hfirst ▸ hempty))).ne_empty rfl
    · intro hcurrent
      exact (h "." (List.mem_of_head? (hfirst ▸ hcurrent))).ne_current rfl
    · intro hparent
      have hmem : ".." ∈ steps := hkept ▸ List.mem_filter.mpr ⟨hparent, by decide⟩
      exact (h ".." hmem).ne_parent rfl
  · rintro ⟨hstays, hkept, hslash, hlast⟩
    refine ⟨?_, hkept.trans hnames.symm, hslash, hlast⟩
    obtain ⟨first, hfirst⟩ := Path.exists_head?_pieces ⟨name⟩
    have hempty : first ≠ "" := fun heq => hstays.not_absolute (heq ▸ hfirst)
    have hcurrent : first ≠ "." := fun heq => hstays.not_current (heq ▸ hfirst)
    obtain ⟨rest, hrest⟩ := List.head?_eq_some_iff.mp hfirst
    have hsteps : steps.head? = some first := by
      rw [← hkept]
      unfold Path.names
      rw [hrest]
      simp [hempty, hcurrent]
    exact hfirst.trans (hsteps.symm.trans hhead.symm)

/-- An entry is spelled by its name. -/
lemma spells_nameOf (isDirectory : Bool) :
    Spells (Entry.nameOf steps isDirectory) (.named steps isDirectory) := by
  refine ⟨rfl, ?_, Entry.endsWithSlash_nameOf hne h isDirectory, ?_⟩
  · show (Path.names ⟨Entry.nameOf steps isDirectory⟩).filter _ =
      Path.names ⟨Entry.nameOf steps isDirectory⟩
    rw [Entry.names_nameOf h, List.filter_eq_self]
    intro step hstep
    exact decide_eq_true (h step hstep).ne_current
  · intro hlast
    rw [Entry.names_nameOf h] at hlast
    exact absurd rfl (h "." (List.mem_of_getLast? hlast)).ne_current

end

/-- A character of a spelling is one of the entry, or a slash or a dot. -/
lemma Spells.mem {steps : List String} (h : ∀ step ∈ steps, Path.IsStep step) {isDirectory : Bool}
    (hspells : Spells name (.named steps isDirectory)) {c : Char} (hslash : c ≠ '/')
    (hdot : c ≠ '.') (hc : c ∈ name.toList) : ∃ step ∈ steps, c ∈ step.toList := by
  obtain ⟨piece, hpiece, hin⟩ := Text.exists_mem_split hslash hc
  have hstep : String.ofList piece ∈ (Path.names ⟨name⟩).filter (· ≠ ".") := by
    refine List.mem_filter.mpr ⟨List.mem_filter.mpr ⟨List.mem_map_of_mem hpiece, ?_⟩, ?_⟩
    · apply decide_eq_true
      intro hempty
      have hnil := congrArg String.toList hempty
      rw [String.toList_ofList] at hnil
      rw [hnil] at hin
      cases hin
    · apply decide_eq_true
      intro hcurrent
      have hlist := congrArg String.toList hcurrent
      rw [String.toList_ofList] at hlist
      rw [hlist] at hin
      exact hdot (List.mem_singleton.mp hin)
  have hkept : (Path.names ⟨name⟩).filter (· ≠ ".") = steps :=
    hspells.names.trans (Entry.names_nameOf h isDirectory)
  rw [hkept] at hstep
  exact ⟨_, hstep, by rwa [String.toList_ofList]⟩

/-! ### Lookups -/

/-- A name has a path, and a node of the kind that the name asks for stands where the path leads. -/
def LeadsTo (files : FileSystem) (root : Path) (name : String) (location : List String)
    (node : Node) : Prop :=
  ∃ path, pathOf? root name = some path ∧
    files.resolve true path = .ok (.found location node) ∧
    node.isDirectory = Text.endsWithSlash name

/-- What stands at a location is found under a name. -/
def LooksUp (files : FileSystem) (root : Path) (name : String) (location : List String) : Prop :=
  ∃ node, LeadsTo files root name location node

variable {files : FileSystem} {tree : Forest}

/-- A path that leads to a node leads to a location. -/
lemma exists_resolve {path : Path} {node : Node} (h : files.node path = .ok node) :
    ∃ location, files.resolve true path = .ok (.found location node) := by
  unfold FileSystem.node at h
  split at h
  · rename_i location found hresolve
    rw [← Except.ok.inj h]
    exact ⟨location, hresolve⟩
  · cases h
  · cases h

/-- A location that a path leads to has the node. -/
lemma node_of_resolve {path : Path} {location : List String} {node : Node}
    (h : files.resolve true path = .ok (.found location node)) : files.node path = .ok node := by
  unfold FileSystem.node
  rw [h]

/-- An entry is found under a name that leads to a node, and it is of the kind of the node. -/
lemma find?_eq_some_iff {entry : Entry} :
    find? files root name = some entry ↔
      ∃ location node, LeadsTo files root name location node ∧
        entry = ⟨name, node.isDirectory⟩ := by
  unfold find?
  rw [Option.bind_eq_some_iff]
  constructor
  · rintro ⟨path, hpath, hfound⟩
    cases hnode : files.node path with
    | error fault =>
      rw [hnode] at hfound
      cases hfound
    | ok node =>
      rw [hnode] at hfound
      dsimp only at hfound
      obtain ⟨location, hresolve⟩ := exists_resolve hnode
      split at hfound
      · rename_i hkind
        exact ⟨location, node, ⟨path, hpath, hresolve, hkind⟩, (Option.some.inj hfound).symm⟩
      · cases hfound
  · rintro ⟨location, node, ⟨path, hpath, hresolve, hkind⟩, rfl⟩
    refine ⟨path, hpath, ?_⟩
    rw [node_of_resolve hresolve]
    exact if_pos hkind

/-- Content is read under a name that leads to a regular file. -/
lemma exists_read?_iff :
    (∃ content, read? files root name = .ok (some content)) ↔
      ∃ location node, LeadsTo files root name location node ∧ node.isFile = true := by
  unfold read?
  constructor
  · rintro ⟨content, hread⟩
    cases hpath : pathOf? root name with
    | none =>
      rw [hpath] at hread
      cases hread
    | some path =>
      rw [hpath] at hread
      dsimp only at hread
      split at hread
      · cases hread
      · rename_i hfile
        obtain ⟨hslash, hfile⟩ := not_or.mp hfile
        unfold FileSystem.isFile at hfile
        cases hnode : files.node path with
        | error fault =>
          rw [hnode] at hfile
          exact absurd rfl hfile
        | ok node =>
          rw [hnode] at hfile
          obtain ⟨location, hresolve⟩ := exists_resolve hnode
          have hisFile : node.isFile = true := by simpa using hfile
          have hkind : node.isDirectory = Text.endsWithSlash name := by
            have hnot : Text.endsWithSlash name = false := by simpa using hslash
            rw [hnot]
            cases node with
            | directory children => cases hisFile
            | _ => rfl
          exact ⟨location, node, ⟨path, hpath, hresolve, hkind⟩, hisFile⟩
  · rintro ⟨location, node, ⟨path, hpath, hresolve, hkind⟩, hisFile⟩
    have hnode := node_of_resolve hresolve
    unfold FileSystem.isFile FileSystem.read
    rw [hpath]
    dsimp only
    rw [hnode, ← hkind]
    cases node with
    | file content => exact ⟨content, rfl⟩
    | image content => exact ⟨content, rfl⟩
    | _ => cases hisFile

section

variable (hnode : files.node root = .ok (.directory tree)) (htree : tree.IsTree IsName)

include hnode htree

/-- A name that stays below the directory leads to what its names lead to in the tree. -/
lemma place_of_staysBelow : ∃ base, ∀ name, StaysBelow name →
    '\x00' ∉ (root.join ⟨Text.dropSlashes name⟩).text.toList → Walkable root name →
    (∀ found, (Node.directory tree).reach? (Path.names ⟨name⟩) = some found →
      files.resolve true (root.join ⟨Text.dropSlashes name⟩) =
        .ok (.found (base ++ (Path.names ⟨name⟩).filter (· ≠ ".")) found)) ∧
    ((Node.directory tree).reach? (Path.names ⟨name⟩) = none →
      (files.node (root.join ⟨Text.dropSlashes name⟩)).toOption = none) := by
  have hdirectory : (Node.directory tree).IsTree IsName := htree
  obtain ⟨base, hplace⟩ := FileSystem.place_join hnode hdirectory
  refine ⟨base, fun name hstays hnul hshort => ?_⟩
  obtain ⟨hnames, -⟩ := Path.dropSlashes_spec name
  have hsteps : ∀ step ∈ Path.names ⟨Text.dropSlashes name⟩, step = "." ∨ Path.IsStep step :=
    fun step hstep => hstays.isStep (hnames ▸ hstep)
  have hreach := hplace ⟨Text.dropSlashes name⟩ hstays.leadsBelow hsteps hnul hshort
  rwa [hnames] at hreach

/-- The path of a name that spells something in the tree has no NUL character. -/
lemma nul_notMem_of_spells {steps : List String} {found : Node}
    (hat : (Node.directory tree).at? steps = some found) (hstays : StaysBelow name)
    (hspells : Spells name (.named steps found.isDirectory)) :
    '\x00' ∉ (root.join ⟨Text.dropSlashes name⟩).text.toList := by
  have hdirectory : (Node.directory tree).IsTree IsName := htree
  obtain ⟨hclean, hempty, -⟩ := FileSystem.walk_of_node hnode
  refine Path.notMem_join (by decide) hempty hclean hstays.leadsBelow fun hmem => ?_
  have hname : '\x00' ∈ name.toList := by
    unfold Text.dropSlashes Text.mapString Text.dropTrailing at hmem
    rw [String.toList_ofList, List.mem_reverse] at hmem
    exact List.mem_reverse.mp ((List.dropWhile_sublist _).mem hmem)
  obtain ⟨step, hstep, hin⟩ := hspells.mem (htree.isStep hat) (by decide) (by decide) hname
  exact ((hdirectory.of_at? hat).2 step hstep).nul_notMem hin

/-- A name leads to what stands at the steps that it spells, if its path can be walked. -/
lemma leadsTo_iff : ∃ base, ∀ name location node, LeadsTo files root name location node ↔
    Walkable root name ∧ ∃ steps, steps ≠ [] ∧ (Node.directory tree).at? steps = some node ∧
      Spells name (.named steps node.isDirectory) ∧ location = base ++ steps := by
  obtain ⟨base, hplace⟩ := place_of_staysBelow hnode htree
  refine ⟨base, fun name location node => ?_⟩
  constructor
  · rintro ⟨path, hpath, hresolve, hkind⟩
    obtain ⟨hstays, rfl⟩ := pathOf?_eq_some_iff.mp hpath
    have hfound := node_of_resolve hresolve
    obtain ⟨hnul, -⟩ := FileSystem.walk_of_node hfound
    have hshort : Walkable root name := FileSystem.short_of_node hfound
    obtain ⟨hsome, hnone⟩ := hplace name hstays hnul hshort
    cases hseen : (Node.directory tree).reach? (Path.names ⟨name⟩) with
    | none =>
      have hnothing := hnone hseen
      rw [hfound] at hnothing
      cases hnothing
    | some found =>
      have hreach := hsome found hseen
      rw [hresolve] at hreach
      obtain ⟨hlocation, rfl⟩ := FileSystem.Place.found.inj (Except.ok.inj hreach)
      obtain ⟨hat, hlast⟩ := Option.filter_eq_some_iff.mp hseen
      have hkept := hstays.kept_ne_nil
      have hspells : Spells name
          (.named ((Path.names ⟨name⟩).filter (· ≠ ".")) node.isDirectory) :=
        (spells_named_iff hkept (htree.isStep hat) node.isDirectory).mpr
          ⟨hstays, rfl, hkind.symm, fun hcurrent => by simpa [hcurrent] using hlast⟩
      exact ⟨hshort, _, hkept, hat, hspells, hlocation⟩
  · rintro ⟨hshort, steps, hne, hat, hspells, rfl⟩
    obtain ⟨hstays, hkept, hslash, hlast⟩ :=
      (spells_named_iff hne (htree.isStep hat) node.isDirectory).mp hspells
    have hnul := nul_notMem_of_spells hnode htree hat hstays hspells
    have hseen : (Node.directory tree).reach? (Path.names ⟨name⟩) = some node := by
      refine Option.filter_eq_some_iff.mpr ⟨hkept ▸ hat, ?_⟩
      by_cases hcurrent : (Path.names ⟨name⟩).getLast? = some "."
      · simpa using .inr (hlast hcurrent)
      · simpa using .inl hcurrent
    obtain ⟨hsome, -⟩ := hplace name hstays hnul hshort
    have hreach := hsome node hseen
    rw [hkept] at hreach
    exact ⟨_, pathOf?_eq_some_iff.mpr ⟨hstays, rfl⟩, hreach, hslash.symm⟩

/-- An entry is found under the names that spell a listed entry and have a path that can be
walked. -/
lemma find?_iff_spells {entry : Entry} :
    find? files root name = some entry ↔ Walkable root name ∧
      ∃ listed ∈ tree.listing, Spells name listed ∧ entry = ⟨name, listed.isDirectory⟩ := by
  obtain ⟨base, hleads⟩ := leadsTo_iff hnode htree
  rw [find?_eq_some_iff]
  constructor
  · rintro ⟨location, node, hlead, rfl⟩
    obtain ⟨hshort, steps, hne, hat, hspells, -⟩ := (hleads name location node).mp hlead
    exact ⟨hshort, _, Forest.mem_listing_of_at? hne htree hat, hspells, rfl⟩
  · rintro ⟨hshort, listed, hlisted, hspells, rfl⟩
    obtain ⟨steps, node, hne, hat, rfl⟩ := Forest.exists_of_mem_listing htree hlisted
    exact ⟨_, node, (hleads name _ node).mpr ⟨hshort, steps, hne, hat, hspells, rfl⟩, rfl⟩

/-- Content is read under the names that spell the entry of a file and have a path that can be
walked. -/
lemma exists_read?_iff_spells :
    (∃ content, read? files root name = .ok (some content)) ↔ Walkable root name ∧
      ∃ listed ∈ tree.listing, Spells name listed ∧ listed.isDirectory = false := by
  have hdirectory : (Node.directory tree).IsTree IsName := htree
  obtain ⟨base, hleads⟩ := leadsTo_iff hnode htree
  rw [exists_read?_iff]
  constructor
  · rintro ⟨location, node, hlead, hfile⟩
    obtain ⟨hshort, steps, hne, hat, hspells, -⟩ := (hleads name location node).mp hlead
    have hkind : node.isDirectory = false := by
      cases node with
      | directory children => cases hfile
      | _ => rfl
    exact ⟨hshort, _, Forest.mem_listing_of_at? hne htree hat, hspells, hkind⟩
  · rintro ⟨hshort, listed, hlisted, hspells, hkind⟩
    obtain ⟨steps, node, hne, hat, rfl⟩ := Forest.exists_of_mem_listing htree hlisted
    have hnode : node.IsTree IsName := (hdirectory.of_at? hat).1
    have hfile : node.isFile = true := by
      cases node with
      | file content => rfl
      | image content => rfl
      | directory children => cases hkind
      | link target => exact absurd hnode (by simp [Node.IsTree])
      | null => exact absurd hnode (by simp [Node.IsTree])
    exact ⟨_, node, (hleads name _ node).mpr ⟨hshort, steps, hne, hat, hspells, rfl⟩, hfile⟩

end

section

variable (htree : tree.IsTree IsName) {entry other : Entry}

include htree

/-- A listed entry is spelled by its name. -/
lemma spells_of_mem_listing (hentry : entry ∈ tree.listing) : Spells entry.name entry := by
  obtain ⟨steps, found, hne, hat, rfl⟩ := Forest.exists_of_mem_listing htree hentry
  exact spells_nameOf hne (htree.isStep hat) found.isDirectory

/-- A name spells one listed entry at most. -/
lemma eq_of_spells (hentry : entry ∈ tree.listing) (hother : other ∈ tree.listing)
    (h : Spells name entry) (h' : Spells name other) : entry = other := by
  obtain ⟨steps, found, hne, hat, rfl⟩ := Forest.exists_of_mem_listing htree hentry
  obtain ⟨steps', found', hne', hat', rfl⟩ := Forest.exists_of_mem_listing htree hother
  obtain ⟨-, hkept, hslash, -⟩ := (spells_named_iff hne (htree.isStep hat) _).mp h
  obtain ⟨-, hkept', hslash', -⟩ := (spells_named_iff hne' (htree.isStep hat') _).mp h'
  rw [← hkept, ← hkept', ← hslash, ← hslash']

end

/-! ### Names of classes -/

section

variable {className other : String}

/-- The pieces of the entry name of a class are the parts of the class name. -/
lemma pieces_ofClass (h : '/' ∉ className.toList) :
    Path.pieces ⟨Entry.ofClass className⟩ =
      ((Text.split '.' className.toList).dropLast ++
        [(Text.split '.' className.toList).getLast (Text.split_ne_nil _ _) ++
          ".class".toList]).map String.ofList := by
  have hsplit : Text.split '/' (Text.replaceChar '.' '/' className.toList) =
      Text.split '.' className.toList := Text.split_replaceChar h
  unfold Path.pieces
  dsimp only
  rw [Entry.toList_ofClass, Text.split_append_right _ (by decide)]
  simp only [hsplit]

/-- The entry name of a class has no spelling but itself that is made of the same steps, if no two
dots of the class name stand side by side. -/
lemma kept_ofClass (h : '/' ∉ className.toList) (hdots : ¬['.', '.'] <:+: className.toList)
    (hstays : StaysBelow (Entry.ofClass className)) :
    (Path.names ⟨Entry.ofClass className⟩).filter (· ≠ ".") =
      Path.pieces ⟨Entry.ofClass className⟩ := by
  have hordinary : ∀ piece ∈ Path.pieces ⟨Entry.ofClass className⟩, piece ≠ "" ∧ piece ≠ "." := by
    intro piece hpiece
    have hfirst := hstays.not_absolute
    rw [pieces_ofClass h] at hpiece hfirst
    obtain ⟨part, hpart, rfl⟩ := List.mem_map.mp hpiece
    rcases List.mem_append.mp hpart with hinner | hlast
    · -- a part before the last dot: it has no dot in it, and it is not empty
      have hmem := List.dropLast_subset _ hinner
      have hdot := Text.notMem_of_mem_split hmem
      have hne : part ≠ [] := by
        obtain ⟨first, rest, hsplit⟩ :=
          List.exists_cons_of_ne_nil (Text.split_ne_nil '.' className.toList)
        have hbetween : ∀ piece ∈ (Text.split '.' className.toList).tail.dropLast, piece ≠ [] :=
          fun piece => Text.ne_nil_of_mem_split hdots
        simp only [hsplit] at hinner hfirst hbetween
        cases rest with
        | nil => cases hinner
        | cons next others =>
          rw [List.dropLast_cons_of_ne_nil (List.cons_ne_nil next others)] at hinner hfirst
          rcases List.mem_cons.mp hinner with rfl | hothers
          · rintro rfl
            exact hfirst rfl
          · exact hbetween part hothers
      constructor
      · intro hempty
        exact hne (by simpa using congrArg String.toList hempty)
      · intro hcurrent
        have hlist : part = ['.'] := by simpa using congrArg String.toList hcurrent
        exact hdot (hlist ▸ List.mem_singleton.mpr rfl)
    · obtain rfl := List.mem_singleton.mp hlast
      have hlength : ((Text.split '.' className.toList).getLast (Text.split_ne_nil _ _) ++
          ".class".toList).length = _ := List.length_append
      constructor
      · intro hempty
        have hlist := congrArg String.toList hempty
        rw [String.toList_ofList] at hlist
        rw [hlist] at hlength
        simp at hlength
      · intro hcurrent
        have hlist := congrArg String.toList hcurrent
        rw [String.toList_ofList] at hlist
        rw [hlist] at hlength
        simp at hlength
  unfold Path.names
  rw [List.filter_filter, List.filter_eq_self]
  intro piece hpiece
  obtain ⟨hempty, hcurrent⟩ := hordinary piece hpiece
  simp [hempty, hcurrent]

/-- Classes without slashes in their names have different entry names. -/
lemma eq_of_pieces_ofClass (h : '/' ∉ className.toList) (h' : '/' ∉ other.toList)
    (heq : Path.pieces ⟨Entry.ofClass className⟩ = Path.pieces ⟨Entry.ofClass other⟩) :
    className = other := by
  rw [pieces_ofClass h, pieces_ofClass h'] at heq
  have hparts := (List.map_inj_right fun _ _ h => String.ofList_injective h).mp heq
  obtain ⟨hinner, hlast⟩ := List.append_inj' hparts rfl
  have hend := List.append_cancel_right (List.singleton_inj.mp hlast)
  have hsplit : Text.split '.' className.toList = Text.split '.' other.toList := by
    rw [← List.dropLast_concat_getLast (Text.split_ne_nil '.' className.toList),
      ← List.dropLast_concat_getLast (Text.split_ne_nil '.' other.toList), hinner, hend]
  have hjoined := congrArg (List.intercalate ['.']) hsplit
  rw [Text.intercalate_split, Text.intercalate_split] at hjoined
  exact String.toList_inj.mp hjoined

end

/-! ### When lookups agree with the listing -/

/-- The archive finds and reads under a name exactly what it lists under this name. -/
structure Agrees (files : FileSystem) (root : Path) (listed : List Entry) (name : String) :
    Prop where
  found : ∀ entry, find? files root name = some entry ↔ entry ∈ listed ∧ entry.name = name
  read : (∃ content, read? files root name = .ok (some content)) ↔ ⟨name, false⟩ ∈ listed

section

variable (hnode : files.node root = .ok (.directory tree)) (htree : tree.IsTree IsName)

include hnode htree

/-- Lookups of a name agree with the listing if the name spells no listed entry but its own, and
that one only if its path can be walked. -/
lemma agrees_iff : Agrees files root tree.listing name ↔
    ∀ entry ∈ tree.listing, Spells name entry → (entry.name = name ↔ Walkable root name) := by
  constructor
  · intro hagrees entry hentry hspells
    constructor
    · intro hname
      have hfound := (hagrees.found entry).mpr ⟨hentry, hname⟩
      exact ((find?_iff_spells hnode htree).mp hfound).1
    · intro hshort
      have hfound : find? files root name = some ⟨name, entry.isDirectory⟩ :=
        (find?_iff_spells hnode htree).mpr ⟨hshort, entry, hentry, hspells, rfl⟩
      obtain ⟨hlisted, -⟩ := (hagrees.found _).mp hfound
      have hself : Spells name ⟨name, entry.isDirectory⟩ := spells_of_mem_listing htree hlisted
      rw [eq_of_spells htree hentry hlisted hspells hself]
  · intro h
    have hown : ∀ entry ∈ tree.listing, entry.name = name →
        Walkable root name ∧ Spells name entry := by
      rintro entry hentry rfl
      have hself := spells_of_mem_listing htree hentry
      exact ⟨(h entry hentry hself).mp rfl, hself⟩
    constructor
    · intro entry
      rw [find?_iff_spells hnode htree]
      constructor
      · rintro ⟨hshort, listed, hlisted, hspells, rfl⟩
        obtain rfl := (h listed hlisted hspells).mpr hshort
        exact ⟨hlisted, rfl⟩
      · rintro ⟨hentry, hname⟩
        obtain ⟨hshort, hself⟩ := hown entry hentry hname
        refine ⟨hshort, entry, hentry, hself, ?_⟩
        rw [← hname]
    · rw [exists_read?_iff_spells hnode htree]
      constructor
      · rintro ⟨hshort, listed, hlisted, hspells, hkind⟩
        obtain rfl := (h listed hlisted hspells).mpr hshort
        rw [← hkind]
        exact hlisted
      · intro hentry
        obtain ⟨hshort, hself⟩ := hown _ hentry rfl
        exact ⟨hshort, _, hentry, hself, rfl⟩

/-- Two names lead to the same place if they spell the same entry. -/
lemma looksUp_same_iff {other : String} {location : List String}
    (h : LooksUp files root name location) :
    LooksUp files root other location ↔
      Walkable root other ∧ ∃ entry ∈ tree.listing, Spells name entry ∧ Spells other entry := by
  obtain ⟨base, hleads⟩ := leadsTo_iff hnode htree
  obtain ⟨node, hlead⟩ := h
  obtain ⟨-, steps, hne, hat, hspells, hlocation⟩ := (hleads name location node).mp hlead
  have hlisted := Forest.mem_listing_of_at? hne htree hat
  constructor
  · rintro ⟨node', hlead'⟩
    obtain ⟨hshort, steps', -, hat', hspells', hlocation'⟩ :=
      (hleads other location node').mp hlead'
    obtain rfl : steps = steps' := List.append_cancel_left (hlocation.symm.trans hlocation')
    obtain rfl : node = node' := Option.some.inj (hat.symm.trans hat')
    exact ⟨hshort, _, hlisted, hspells, hspells'⟩
  · rintro ⟨hshort, entry, hentry, hname, hother⟩
    rw [eq_of_spells htree hentry hlisted hname hspells] at hother
    exact ⟨node, (hleads other location node).mpr ⟨hshort, steps, hne, hat, hother, hlocation⟩⟩

/-- Two names whose lookups agree with the listing do not lead to the same place. -/
lemma eq_of_agrees {other : String} {location : List String}
    (hname : Agrees files root tree.listing name) (hother : Agrees files root tree.listing other)
    (h : LooksUp files root name location) (h' : LooksUp files root other location) :
    name = other := by
  have hself := (looksUp_same_iff hnode htree h).mp h
  obtain ⟨hshort', entry, hentry, hspells, hspells'⟩ := (looksUp_same_iff hnode htree h).mp h'
  have hown := ((agrees_iff hnode htree).mp hname entry hentry hspells).mpr hself.1
  have hown' := ((agrees_iff hnode htree).mp hother entry hentry hspells').mpr hshort'
  exact hown.symm.trans hown'

/-- Two classes whose dots stand one by one are not looked up at the same place. -/
lemma eq_of_looksUp_ofClass {className other : String} {location : List String}
    (hslash : '/' ∉ className.toList) (hslash' : '/' ∉ other.toList)
    (hdots : ¬['.', '.'] <:+: className.toList) (hdots' : ¬['.', '.'] <:+: other.toList)
    (h : LooksUp files root (Entry.ofClass className) location)
    (h' : LooksUp files root (Entry.ofClass other) location) : className = other := by
  obtain ⟨-, entry, hentry, hspells, hspells'⟩ := (looksUp_same_iff hnode htree h).mp h'
  obtain ⟨steps, found, hne, hat, rfl⟩ := Forest.exists_of_mem_listing htree hentry
  have hsteps := htree.isStep hat
  obtain ⟨hstays, hkept, -⟩ := (spells_named_iff hne hsteps found.isDirectory).mp hspells
  obtain ⟨hstays', hkept', -⟩ := (spells_named_iff hne hsteps found.isDirectory).mp hspells'
  rw [kept_ofClass hslash hdots hstays] at hkept
  rw [kept_ofClass hslash' hdots' hstays'] at hkept'
  exact eq_of_pieces_ofClass hslash hslash' (hkept.trans hkept'.symm)

/-- Lookups in an exploded archive and its listing.  Under a name the archive finds and reads
exactly what it lists under this name if the name spells no listed entry but its own, and that one
only if its path can be walked.  Two names lead to the same place if they spell the same entry, so
no two names of that kind do, and neither do the entry names of two classes whose dots stand one by
one. -/
theorem lookup_agrees_iff {listed : List Entry} (hlisted : entries files root = .ok listed) :
    (∀ name, Agrees files root listed name ↔
      ∀ entry ∈ listed, Spells name entry → (entry.name = name ↔ Walkable root name)) ∧
    (∀ name other location, LooksUp files root name location →
      (LooksUp files root other location ↔
        Walkable root other ∧ ∃ entry ∈ listed, Spells name entry ∧ Spells other entry)) ∧
    (∀ name other location, Agrees files root listed name → Agrees files root listed other →
      LooksUp files root name location → LooksUp files root other location → name = other) ∧
    (∀ className other location, '/' ∉ className.toList → '/' ∉ other.toList →
      ¬['.', '.'] <:+: className.toList → ¬['.', '.'] <:+: other.toList →
      LooksUp files root (Entry.ofClass className) location →
      LooksUp files root (Entry.ofClass other) location → className = other) := by
  obtain rfl := eq_listing_of_entries hnode htree hlisted
  refine ⟨fun name => agrees_iff hnode htree, ?_, ?_, ?_⟩
  · intro name other location h
    exact looksUp_same_iff hnode htree h
  · intro name other location hname hother h h'
    exact eq_of_agrees hnode htree hname hother h h'
  · intro className other location hslash hslash' hdots hdots' h h'
    exact eq_of_looksUp_ofClass hnode htree hslash hslash' hdots hdots' h h'

end

/-- A directory with a class in a package. -/
def classForest : Forest :=
  .cons "p" (.directory (.cons "X.class" (.file [1]) .nil)) .nil

/-- Files among which it stands. -/
def classFiles : FileSystem := ⟨.directory (.cons "t" (.directory classForest) .nil), []⟩

/-- The directory and the class in it are listed. -/
lemma entries_classFiles :
    entries classFiles ⟨"t"⟩ = .ok [⟨"p/", true⟩, ⟨"p/X.class", false⟩] := by
  have hlisting : classForest.listing = [⟨"p/", true⟩, ⟨"p/X.class", false⟩] := by
    simp [classForest, Forest.listing, inOrder, listChildren, listNode]
  have hspans : Spans classFiles ⟨"t"⟩ classForest := by
    have hplain : classForest.IsPlain := by decide +kernel
    refine ⟨rfl, hplain, fits_of_listing hplain.isTree ?_⟩
    rw [hlisting]
    decide +kernel
  rw [hspans.entries_eq, hlisting]

/-- The entry name of the class agrees with the listing, and with two slashes in it it does not. -/
theorem lookup_agrees_iff_classFiles :
    classFiles.node ⟨"t"⟩ = .ok (.directory classForest) ∧ classForest.IsTree IsName ∧
    Agrees classFiles ⟨"t"⟩ [⟨"p/", true⟩, ⟨"p/X.class", false⟩] "p/X.class" ∧
    ¬ Agrees classFiles ⟨"t"⟩ [⟨"p/", true⟩, ⟨"p/X.class", false⟩] "p//X.class" := by
  have hplain : classForest.IsPlain := by decide +kernel
  have hnode : classFiles.node ⟨"t"⟩ = .ok (.directory classForest) := rfl
  obtain ⟨hagrees, -⟩ := lookup_agrees_iff hnode hplain.isTree entries_classFiles
  have hspells : Spells "p//X.class" ⟨"p/X.class", false⟩ :=
    ⟨by decide +kernel, by decide +kernel, by decide +kernel, by decide +kernel⟩
  refine ⟨hnode, hplain.isTree, (hagrees _).mpr ?_, ?_⟩
  · intro entry hentry hspells
    rcases List.mem_cons.mp hentry with rfl | hlast
    · exact absurd hspells.slash (by decide +kernel)
    · rw [List.mem_singleton.mp hlast]
      exact iff_of_true rfl (by decide +kernel)
  · intro h
    have hname := ((hagrees _).mp h ⟨"p/X.class", false⟩ (by simp) hspells).mpr (by decide +kernel)
    exact absurd hname (by decide)

/-- Entries are found, and content is read, under names that are not listed, and two classes are
looked up at the same place. -/
theorem lookup_disagrees :
    entries classFiles ⟨"t"⟩ = .ok [⟨"p/", true⟩, ⟨"p/X.class", false⟩] ∧
    find? classFiles ⟨"t"⟩ "p//X.class" = some ⟨"p//X.class", false⟩ ∧
    find? classFiles ⟨"t"⟩ "p//" = some ⟨"p//", true⟩ ∧
    read? classFiles ⟨"t"⟩ "p/./X.class" = .ok (some [1]) ∧
    LooksUp classFiles ⟨"t"⟩ (Entry.ofClass "p..X") ["t", "p", "X.class"] ∧
    LooksUp classFiles ⟨"t"⟩ (Entry.ofClass "p.X") ["t", "p", "X.class"] := by
  refine ⟨entries_classFiles, by decide +kernel, by decide +kernel, by decide +kernel, ?_, ?_⟩
  · exact ⟨.file [1], ⟨"t/p//X.class"⟩, by decide +kernel, rfl, by decide +kernel⟩
  · exact ⟨.file [1], ⟨"t/p/X.class"⟩, by decide +kernel, rfl, by decide +kernel⟩

end Exploded

end AppLauncher
