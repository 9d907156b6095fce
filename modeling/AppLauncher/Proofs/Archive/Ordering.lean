import AppLauncher.Proofs.Archive.Agreement
import AppLauncher.Proofs.Table
import Mathlib.Data.List.Sort
import Mathlib.Data.List.TakeWhile

/-!
# The order of a listing

A tree is listed depth first, with the children of each directory in the order of their names.  Read
as lists of names, the paths of the entries ascend through the whole listing
(`Forest.pairwise_listing`): within a child all paths start with its name, and the names of
different children are in order.  This is the order of the paths name by name, and not that of the
texts that the names make when they are joined.

The rest follows from the order alone.  Between a path and one that goes on behind it there are
only paths that go on behind it as well (`Path.prefix_of_between`), so what is in a directory
stands right behind it; and an ascending list is determined by what is in it, so it does not matter
in which order a directory has its children (`Forest.listing_congr`).

The names are in the order of their characters, which is the order of their bytes
(`Path.bytes_lt_bytes_iff`).
-/

namespace AppLauncher

open FileSystem (Node Forest IsName)

/-! ### The order of paths -/

namespace Path

/-- The names of a path, each as the bytes that it is made of. -/
def bytes (steps : List String) : List (List UInt8) :=
  steps.map fun step => Text.Utf8.encode step.toList

/-- Paths are in the order of their bytes, name by name. -/
lemma bytes_lt_bytes_iff {steps other : List String} :
    bytes steps < bytes other ↔ steps < other := by
  have hmono : ∀ {steps other : List String}, steps < other → bytes steps < bytes other :=
    List.map_lt fun _ _ => Text.Utf8.encode_lt_encode_iff.mpr
  constructor
  · intro h
    rcases lt_trichotomy steps other with hlt | rfl | hlt
    · exact hlt
    · exact absurd h (List.lt_irrefl _)
    · exact absurd h (List.lt_asymm (hmono hlt))
  · exact hmono

/-- A path comes before one that goes on behind it. -/
lemma lt_of_prefix {steps other : List String} (h : steps <+: other) (hne : other ≠ steps) :
    steps < other := by
  obtain ⟨more, rfl⟩ := h
  cases more with
  | nil => exact absurd (List.append_nil steps) hne
  | cons step more =>
    have hmore : steps ++ [] < steps ++ step :: more := List.append_left_lt (List.nil_lt_cons _ _)
    rwa [List.append_nil] at hmore

/-- What comes between a path and one that goes on behind it goes on behind it, too. -/
lemma prefix_of_between {steps between other : List String} (h : steps <+: other)
    (hlow : steps < between) (hhigh : between < other) : steps <+: between := by
  induction steps generalizing between other with
  | nil => exact List.nil_prefix
  | cons step steps ih =>
    obtain ⟨more, rfl⟩ := h
    cases between with
    | nil => exact absurd hlow (List.not_lt_nil _)
    | cons first rest =>
      rw [List.cons_append] at hhigh
      rcases List.cons_lt_cons_iff.mp hlow with hlt | ⟨rfl, hrest⟩
      · rcases List.cons_lt_cons_iff.mp hhigh with hgt | ⟨rfl, -⟩
        · exact absurd hgt (lt_asymm hlt)
        · exact absurd hlt (lt_irrefl _)
      · have hbehind := (List.cons_lt_cons_iff.mp hhigh).resolve_left (lt_irrefl _)
        exact (List.prefix_cons_inj _).mpr (ih (List.prefix_append steps more) hrest hbehind.2)

/-- What passes a test stands in front if everything in front of it passes the test as well. -/
lemma filter_append_filter {α : Type} (passes : α → Bool) {l : List α}
    (h : l.Pairwise fun a b => passes b → passes a) :
    l.filter passes ++ l.filter (!passes ·) = l := by
  induction l with
  | nil => rfl
  | cons a l ih =>
    obtain ⟨hfirst, hrest⟩ := List.pairwise_cons.mp h
    have hsplit := ih hrest
    cases ha : passes a with
    | true =>
      rw [List.filter_cons_of_pos ha, List.filter_cons_of_neg (by simpa using ha),
        List.cons_append, hsplit]
    | false =>
      have hnone : l.filter passes = [] := by
        rw [List.filter_eq_nil_iff]
        intro b hb hpasses
        exact Bool.false_ne_true (ha.symm.trans (hfirst b hb hpasses))
      rw [hnone, List.nil_append] at hsplit
      rw [List.filter_cons_of_neg (by simp [ha]), List.filter_cons_of_pos (by simp [ha]), hnone,
        hsplit, List.nil_append]

/-- In an ascending list the paths that go on behind one of them stand right behind it. -/
lemma exists_split {places : List (List String)} (hsorted : places.Pairwise (· < ·))
    {steps : List String} (hmem : steps ∈ places) :
    ∃ before inside after, places = before ++ steps :: (inside ++ after) ∧
      ∀ other, other ∈ inside ↔ other ∈ places ∧ steps <+: other ∧ other ≠ steps := by
  obtain ⟨before, behind, rfl⟩ := List.append_of_mem hmem
  obtain ⟨-, hbehind, hfront⟩ := List.pairwise_append.mp hsorted
  obtain ⟨hlater, hrest⟩ := List.pairwise_cons.mp hbehind
  have htogether : behind.Pairwise fun a b => steps.isPrefixOf b → steps.isPrefixOf a := by
    refine hrest.imp_of_mem fun ha _ hlt hprefix => ?_
    rw [List.isPrefixOf_iff_prefix] at hprefix ⊢
    exact prefix_of_between hprefix (hlater _ ha) hlt
  refine ⟨before, behind.filter steps.isPrefixOf, behind.filter (!steps.isPrefixOf ·), ?_, ?_⟩
  · rw [filter_append_filter _ htogether]
  · intro other
    rw [List.mem_filter, List.isPrefixOf_iff_prefix]
    constructor
    · rintro ⟨hother, hprefix⟩
      exact ⟨List.mem_append_right _ (List.mem_cons_of_mem _ hother), hprefix,
        ne_of_gt (hlater other hother)⟩
    · rintro ⟨hother, hprefix, hne⟩
      have hlt := lt_of_prefix hprefix hne
      rcases List.mem_append.mp hother with hbefore | hself
      · exact absurd (hfront other hbefore steps List.mem_cons_self) (lt_asymm hlt)
      · exact ⟨(List.mem_cons.mp hself).resolve_left hne, hprefix⟩

end Path

/-! ### The order of entries -/

namespace Entry

/-- The names that the name of an entry is made of. -/
def steps (entry : Entry) : List String := Path.names ⟨entry.name⟩

/-- An entry comes before another one if its path does. -/
def Precedes (entry other : Entry) : Prop := entry.steps < other.steps

/-- The names that an entry is named by. -/
lemma steps_named {steps : List String} (h : ∀ step ∈ steps, Path.IsStep step)
    (isDirectory : Bool) : (named steps isDirectory).steps = steps :=
  names_nameOf h isDirectory

/-- A directory is named by its name alone. -/
lemma steps_directory {name : String} (h : Path.IsStep name) :
    (⟨name ++ "/", true⟩ : Entry).steps = [name] :=
  steps_named (List.forall_mem_singleton.mpr h) true

/-- A file is named by its name alone. -/
lemma steps_file {name : String} (h : Path.IsStep name) :
    (⟨name, false⟩ : Entry).steps = [name] := by
  have hsteps : ∀ step ∈ [name], Path.IsStep step := List.forall_mem_singleton.mpr h
  exact Path.names_joined hsteps

end Entry

namespace FileSystem

namespace Forest

open Exploded

/-- The names that lead to what is listed have the name of the directory in front. -/
lemma steps_under {children : Forest} (htree : children.IsTree IsName) {name : String}
    (hname : Path.IsStep name) {entry : Entry} (h : entry ∈ children.listing) :
    entry.steps ≠ [] ∧ (entry.under (name ++ "/")).steps = name :: entry.steps := by
  obtain ⟨steps, found, hne, hat, rfl⟩ := exists_of_mem_listing htree h
  have hsteps := htree.isStep hat
  have hunder : (Entry.named steps found.isDirectory).under (name ++ "/") =
      .named (name :: steps) found.isDirectory := by
    simp only [Entry.named, Entry.under, Entry.nameOf_cons name hne]
  rw [hunder, Entry.steps_named hsteps,
    Entry.steps_named (List.forall_mem_cons.mpr ⟨hname, hsteps⟩)]
  exact ⟨hne, rfl⟩

/-- The names that lead to a child and to what is in it start with the name of the child. -/
lemma steps_of_mem_block {name : String} (hname : Path.IsStep name) {node : Node}
    (hnode : node.IsTree IsName) {entry : Entry} (h : entry ∈ block name node) :
    ∃ rest, entry.steps = name :: rest := by
  cases node with
  | directory children =>
    rcases List.mem_cons.mp h with rfl | hbelow
    · exact ⟨[], Entry.steps_directory hname⟩
    · obtain ⟨inner, hinner, rfl⟩ := List.mem_map.mp hbelow
      exact ⟨_, (steps_under hnode hname hinner).2⟩
  | _ =>
    rw [List.mem_singleton.mp h]
    exact ⟨[], Entry.steps_file hname⟩

/-- The entries of several children ascend if those of each child do and start with its name. -/
lemma pairwise_inOrder {children : List (String × List Entry)}
    (hnames : (children.map Prod.fst).Nodup)
    (hascend : ∀ child ∈ children, child.2.Pairwise Entry.Precedes)
    (hstart : ∀ child ∈ children, ∀ entry ∈ child.2, ∃ rest, entry.steps = child.1 :: rest) :
    (inOrder children).Pairwise Entry.Precedes := by
  have hperm := List.mergeSort_perm children fun a b => decide (a.1 ≤ b.1)
  have hsorted := Table.pairwise_mergeSort children
  have hdistinct := hperm.symm.pairwise (List.pairwise_map.mp hnames) Ne.symm
  unfold inOrder
  refine List.pairwise_flatMap.mpr ⟨fun child hchild => ?_, ?_⟩
  · exact hascend child (hperm.mem_iff.mp hchild)
  · -- of two children, the name that comes first decides about all of their entries
    refine (hsorted.and hdistinct).imp_of_mem fun ha hb hab x hx y hy => ?_
    obtain ⟨rest, hrest⟩ := hstart _ (hperm.mem_iff.mp ha) x hx
    obtain ⟨rest', hrest'⟩ := hstart _ (hperm.mem_iff.mp hb) y hy
    unfold Entry.Precedes
    rw [hrest, hrest']
    exact List.cons_lt_cons_iff.mpr (.inl (lt_of_le_of_ne hab.1 hab.2))

/-- The entries of a directory ascend if those of its children do. -/
lemma pairwise_listing_of_blocks {tree : Forest} (htree : tree.IsTree IsName)
    (h : ∀ child ∈ tree.toList, (block child.1 child.2).Pairwise Entry.Precedes) :
    tree.listing.Pairwise Entry.Precedes := by
  unfold listing
  rw [listChildren_eq _ htree]
  apply pairwise_inOrder
  · rw [List.map_map]
    exact nodup_names htree
  · intro child hchild
    obtain ⟨⟨name, node⟩, hmem, rfl⟩ := List.mem_map.mp hchild
    exact h _ hmem
  · intro child hchild entry hentry
    obtain ⟨⟨name, node⟩, hmem, rfl⟩ := List.mem_map.mp hchild
    obtain ⟨hname, hnode⟩ := IsTree.of_get? htree (get?_of_mem_toList htree hmem)
    exact steps_of_mem_block hname.toIsStep hnode hentry

/-- A directory comes before what is in it, and its name in front does not change the order. -/
lemma pairwise_block_directory {name : String} (hname : Path.IsStep name) {children : Forest}
    (htree : children.IsTree IsName) (h : children.listing.Pairwise Entry.Precedes) :
    (block name (.directory children)).Pairwise Entry.Precedes := by
  unfold block
  refine List.pairwise_cons.mpr ⟨?_, List.pairwise_map.mpr ?_⟩
  · intro entry hentry
    obtain ⟨inner, hinner, rfl⟩ := List.mem_map.mp hentry
    obtain ⟨hne, hsteps⟩ := steps_under htree hname hinner
    obtain ⟨step, rest, hrest⟩ := List.exists_cons_of_ne_nil hne
    unfold Entry.Precedes
    rw [Entry.steps_directory hname, hsteps, hrest]
    exact List.cons_lt_cons_iff.mpr (.inr ⟨rfl, List.nil_lt_cons _ _⟩)
  · refine h.imp_of_mem fun ha hb hlt => ?_
    unfold Entry.Precedes
    rw [(steps_under htree hname ha).2, (steps_under htree hname hb).2]
    exact List.cons_lt_cons_iff.mpr (.inr ⟨rfl, hlt⟩)

mutual

/-- The entries of a node ascend. -/
lemma pairwise_block {name : String} (hname : Path.IsStep name) :
    (node : Node) → node.IsTree IsName → (block name node).Pairwise Entry.Precedes
  | .directory children, h =>
    pairwise_block_directory hname h (pairwise_listing_of_blocks h (pairwise_blocks children h))
  | .file _, _ => List.pairwise_singleton _ _
  | .image _, _ => List.pairwise_singleton _ _
  | .link _, h => absurd h (by simp [Node.IsTree])
  | .null, h => absurd h (by simp [Node.IsTree])

/-- The entries of each child ascend. -/
lemma pairwise_blocks : (tree : Forest) → tree.IsTree IsName →
    ∀ child ∈ tree.toList, (block child.1 child.2).Pairwise Entry.Precedes
  | .nil, _ => fun _ hchild => absurd hchild List.not_mem_nil
  | .cons _ node rest, ⟨hname, _, hnode, hrest⟩ => fun child hchild => by
    rcases List.mem_cons.mp hchild with rfl | hothers
    · exact pairwise_block hname.toIsStep node hnode
    · exact pairwise_blocks rest hrest child hothers

end

/-- The entries of a tree ascend. -/
lemma pairwise_listing {tree : Forest} (htree : tree.IsTree IsName) :
    tree.listing.Pairwise Entry.Precedes :=
  pairwise_listing_of_blocks htree (pairwise_blocks tree htree)

/-! ### What determines a listing -/

/-- The paths of all that is in a tree, in the order of the listing. -/
def places (tree : Forest) : List (List String) := tree.listing.map Entry.steps

/-- The entry of what some steps lead to. -/
def entryAt (tree : Forest) (steps : List String) : Entry :=
  .named steps (((Node.directory tree).at? steps).any Node.isDirectory)

/-- Trees that have directories in the same places, and something else in the same places. -/
def SameShape (tree other : Forest) : Prop :=
  ∀ steps, ((Node.directory tree).at? steps).map Node.isDirectory =
    ((Node.directory other).at? steps).map Node.isDirectory

section

variable {tree : Forest} (htree : tree.IsTree IsName)

include htree

/-- The paths in a tree are those of the nodes below the directory. -/
lemma mem_places_iff {steps : List String} :
    steps ∈ tree.places ↔ steps ≠ [] ∧ ((Node.directory tree).at? steps).isSome := by
  unfold places
  rw [List.mem_map]
  constructor
  · rintro ⟨entry, hentry, rfl⟩
    obtain ⟨steps, found, hne, hat, rfl⟩ := exists_of_mem_listing htree hentry
    rw [Entry.steps_named (htree.isStep hat)]
    exact ⟨hne, Option.isSome_of_eq_some hat⟩
  · rintro ⟨hne, hsome⟩
    obtain ⟨found, hat⟩ := Option.isSome_iff_exists.mp hsome
    exact ⟨_, mem_listing_of_at? hne htree hat, Entry.steps_named (htree.isStep hat) _⟩

/-- The paths in a tree ascend. -/
lemma pairwise_places : tree.places.Pairwise (· < ·) :=
  List.pairwise_map.mpr (pairwise_listing htree)

/-- The entries of a tree are those of its paths. -/
lemma listing_eq_map_places : tree.listing = tree.places.map tree.entryAt := by
  unfold places
  rw [List.map_map]
  refine (List.map_id _).symm.trans (List.map_congr_left fun entry hentry => ?_)
  obtain ⟨steps, found, hne, hat, rfl⟩ := exists_of_mem_listing htree hentry
  rw [Function.comp_apply, Entry.steps_named (htree.isStep hat), entryAt, hat]
  rfl

/-- It does not matter for the listing in which order directories have their children. -/
lemma listing_congr {other : Forest} (hother : other.IsTree IsName) (h : tree.SameShape other) :
    tree.listing = other.listing := by
  have hplaces : tree.places = other.places := by
    refine (pairwise_places htree).eq_of_mem_iff (pairwise_places hother) fun steps => ?_
    have hsome := congrArg Option.isSome (h steps)
    rw [Option.isSome_map, Option.isSome_map] at hsome
    rw [mem_places_iff htree, mem_places_iff hother, hsome]
  have hentries : tree.entryAt = other.entryAt := by
    funext steps
    have hany := congrArg (Option.any id) (h steps)
    rw [Option.any_map, Option.any_map] at hany
    exact congrArg (Entry.named steps) hany
  rw [listing_eq_map_places htree, listing_eq_map_places hother, hplaces, hentries]

end

end Forest

end FileSystem

namespace Exploded

/-! ### The listing of an archive -/

/-- The paths of a tree in ascending order: each of them once, and what is in a directory right
behind it. -/
structure DepthFirst (tree : Forest) (places : List (List String)) : Prop where
  mem_iff : ∀ steps, steps ∈ places ↔ steps ≠ [] ∧ ((Node.directory tree).at? steps).isSome
  nodup : places.Nodup
  ascending : places.Pairwise fun steps other => Path.bytes steps < Path.bytes other
  contiguous : ∀ steps ∈ places, ∃ before inside after,
    places = before ++ steps :: (inside ++ after) ∧
      ∀ other, other ∈ inside ↔ other ∈ places ∧ steps <+: other ∧ other ≠ steps

/-- The paths of a tree are in order. -/
lemma depthFirst_places {tree : Forest} (htree : tree.IsTree IsName) :
    DepthFirst tree tree.places := by
  have hsorted := Forest.pairwise_places htree
  refine ⟨fun steps => Forest.mem_places_iff htree, ?_, ?_, fun steps => Path.exists_split hsorted⟩
  · exact hsorted.imp ne_of_lt
  · exact hsorted.imp Path.bytes_lt_bytes_iff.mpr

/-- Every directory below a path is short enough to be listed. -/
def Reaches (root : Path) (tree : Forest) : Prop :=
  ∀ steps children, steps ≠ [] → (Node.directory tree).at? steps = some (.directory children) →
    (root.join ⟨Path.joined steps⟩).text.utf8ByteSize < FileSystem.maxPathLength

section

variable {files : FileSystem} {root : Path} {tree : Forest}

/-- No entry is out of reach exactly if all directories can be listed. -/
lemma find?_isOutOfReach_eq_none_iff (htree : tree.IsTree IsName) :
    tree.listing.find? (isOutOfReach root) = none ↔ Reaches root tree := by
  rw [List.find?_eq_none]
  constructor
  · intro h steps children hne hat
    have hnear := h _ (Forest.mem_listing_of_at? hne htree hat)
    unfold isOutOfReach at hnear
    rw [pathOfListed_named root hne (htree.isStep hat)] at hnear
    simpa [Entry.named, Node.isDirectory] using hnear
  · intro h entry hentry hfar
    obtain ⟨steps, found, hne, hat, rfl⟩ := Forest.exists_of_mem_listing htree hentry
    unfold isOutOfReach at hfar
    rw [pathOfListed_named root hne (htree.isStep hat)] at hfar
    cases found with
    | directory children =>
      have hshort := h steps children hne hat
      simp only [Entry.named, Node.isDirectory, Bool.true_and, ge_iff_le, decide_eq_true_eq] at hfar
      omega
    | _ => simp [Entry.named, Node.isDirectory] at hfar

/-- An archive lists its entries exactly if all directories can be listed. -/
lemma exists_entries_iff (hnode : files.node root = .ok (.directory tree))
    (htree : tree.IsTree IsName) :
    (∃ listed, entries files root = .ok listed) ↔ Reaches root tree := by
  rw [entries_of_node hnode htree, ← find?_isOutOfReach_eq_none_iff htree]
  cases tree.listing.find? (isOutOfReach root) with
  | none => exact iff_of_true ⟨_, rfl⟩ rfl
  | some entry => exact iff_of_false (fun ⟨_, h⟩ => by cases h) (by simp)

/-- The listing of an exploded archive over a tree of directories and regular files.  It fails
exactly if the path of a directory is too long.  Otherwise it has the entry of every node once,
ascending in the order of the paths, name by name and byte by byte, with what is in a directory
right behind the directory.  Another tree with the same directories and the same other nodes, in
whatever order its directories have them, is listed alike. -/
theorem entries_in_order (hnode : files.node root = .ok (.directory tree))
    (htree : tree.IsTree IsName) :
    ((∃ listed, entries files root = .ok listed) ↔ Reaches root tree) ∧
    (∀ listed, entries files root = .ok listed →
      ∃ places, DepthFirst tree places ∧ listed = places.map tree.entryAt) ∧
    (∀ files' tree', FileSystem.node files' root = .ok (.directory tree') →
      tree'.IsTree IsName → tree.SameShape tree' → entries files' root = entries files root) := by
  refine ⟨exists_entries_iff hnode htree, ?_, ?_⟩
  · intro listed hlisted
    obtain rfl := eq_listing_of_entries hnode htree hlisted
    exact ⟨tree.places, depthFirst_places htree, Forest.listing_eq_map_places htree⟩
  · intro files' tree' hnode' htree' hshape
    rw [entries_of_node hnode htree, entries_of_node hnode' htree',
      Forest.listing_congr htree htree' hshape]

end

/-- A directory, and a file whose name starts with the name of the directory. -/
def twinForest : Forest :=
  .cons "a.b" (.file [2]) (.cons "a" (.directory (.cons "b" (.file [1]) .nil)) .nil)

/-- The same with the children the other way round. -/
def swappedForest : Forest :=
  .cons "a" (.directory (.cons "b" (.file [1]) .nil)) (.cons "a.b" (.file [2]) .nil)

/-- Files among which a directory stands. -/
def filesWith (tree : Forest) : FileSystem := ⟨.directory (.cons "t" (.directory tree) .nil), []⟩

/-- The order of the children is all that is different. -/
lemma sameShape_twinForest : twinForest.SameShape swappedForest := by
  intro steps
  cases steps with
  | nil => rfl
  | cons step rest =>
    have hget : twinForest.get? step = swappedForest.get? step := by
      simp only [twinForest, swappedForest, Forest.get?]
      by_cases hfile : "a.b" = step
      · subst hfile
        rfl
      · rw [if_neg hfile, if_neg hfile]
    rw [Node.at?_cons, Node.at?_cons, hget]

/-- The directory and what is in it come before the file, although a dot comes before a slash, in
whatever order the children are. -/
theorem entries_in_order_twinForest :
    (filesWith twinForest).node ⟨"t"⟩ = .ok (.directory twinForest) ∧ twinForest.IsTree IsName ∧
    Reaches ⟨"t"⟩ twinForest ∧
    entries (filesWith twinForest) ⟨"t"⟩ = .ok [⟨"a/", true⟩, ⟨"a/b", false⟩, ⟨"a.b", false⟩] ∧
    (∃ places, DepthFirst twinForest places ∧
      [⟨"a/", true⟩, ⟨"a/b", false⟩, ⟨"a.b", false⟩] = places.map twinForest.entryAt) ∧
    entries (filesWith swappedForest) ⟨"t"⟩ = entries (filesWith twinForest) ⟨"t"⟩ := by
  have hplain : twinForest.IsPlain := by decide +kernel
  have hswapped : swappedForest.IsPlain := by decide +kernel
  have hlisting : twinForest.listing = [⟨"a/", true⟩, ⟨"a/b", false⟩, ⟨"a.b", false⟩] := by
    simp [twinForest, Forest.listing, inOrder, listChildren, listNode, List.mergeSort,
      List.MergeSort.Internal.splitInTwo]
  have hspans : Spans (filesWith twinForest) ⟨"t"⟩ twinForest := by
    refine ⟨rfl, hplain, fits_of_listing hplain.isTree ?_⟩
    rw [hlisting]
    decide +kernel
  have hentries := hspans.entries_eq
  rw [hlisting] at hentries
  obtain ⟨hreach, hordered, hshape⟩ := entries_in_order hspans.node hplain.isTree
  exact ⟨hspans.node, hplain.isTree, hreach.mp ⟨_, hentries⟩, hentries, hordered _ hentries,
    hshape _ _ rfl hswapped.isTree sameShape_twinForest⟩

/-- A directory with a file in it. -/
def deepForest : Forest := .cons "ff" (.directory (.cons "x" (.file [1]) .nil)) .nil

/-- Nothing is listed below a path of 4094 bytes if the path of a directory there has 4096. -/
theorem entries_out_of_reach :
    (filesWith deepForest).node (Archive.farRoot 4092) = .ok (.directory deepForest) ∧
    deepForest.IsTree IsName ∧
    ¬ ∃ listed, entries (filesWith deepForest) (Archive.farRoot 4092) = .ok listed := by
  have hnode := Archive.node_farRoot 4092 deepForest (by decide)
  have hplain : deepForest.IsPlain := by decide +kernel
  refine ⟨hnode, hplain.isTree, fun hlisted => ?_⟩
  have hshort := (exists_entries_iff hnode hplain.isTree).mp hlisted ["ff"] _ (by decide) rfl
  rw [Archive.utf8ByteSize_join_farRoot 4092 (by decide) (by decide)] at hshort
  exact absurd hshort (by decide +kernel)

end Exploded

end AppLauncher
