import AppLauncher.Archive.Exploded
import AppLauncher.Proofs.Archive.View
import AppLauncher.Proofs.FileSystem.Walking

/-!
# The listing of a tree

An exploded archive lists a tree depth first.  A listed name is the steps that lead to a node, with
a slash behind them for a directory (`Entry.named`), and every node is listed so
(`FileSystem.Forest.mem_listing_iff`).

What is listed below a directory is the listing of that directory, with its name in front
(`FileSystem.Forest.listing_below`).  Siblings are sorted, so the entries of one child stand
together; the others have nothing below it, as names differ before the first slash.
-/

namespace AppLauncher

/-! ### Names of entries -/

namespace Entry

/-- The name of what some steps lead to. -/
def nameOf (steps : List String) (isDirectory : Bool) : String :=
  Path.joined steps ++ if isDirectory then "/" else ""

/-- The entry of what some steps lead to. -/
def named (steps : List String) (isDirectory : Bool) : Entry :=
  ⟨nameOf steps isDirectory, isDirectory⟩

variable {steps : List String}

/-- The name of what is behind a step. -/
lemma nameOf_cons (step : String) (hne : steps ≠ []) (isDirectory : Bool) :
    nameOf (step :: steps) isDirectory = step ++ "/" ++ nameOf steps isDirectory := by
  unfold nameOf
  rw [Path.joined_cons step hne, String.append_assoc]

/-- Without the slash at the end a name is the steps. -/
lemma dropSlashes_nameOf (hne : steps ≠ []) (h : ∀ step ∈ steps, Path.IsStep step)
    (isDirectory : Bool) : Text.dropSlashes (nameOf steps isDirectory) = Path.joined steps := by
  unfold nameOf
  cases isDirectory with
  | false =>
    rw [if_neg Bool.false_ne_true, String.append_empty]
    exact Path.dropSlashes_joined hne h
  | true =>
    rw [if_pos rfl, Text.dropSlashes_append_slash]
    exact Path.dropSlashes_joined hne h

/-- A name ends with a slash exactly if it is that of a directory. -/
lemma endsWithSlash_nameOf (hne : steps ≠ []) (h : ∀ step ∈ steps, Path.IsStep step)
    (isDirectory : Bool) : Text.endsWithSlash (nameOf steps isDirectory) = isDirectory := by
  unfold nameOf
  cases isDirectory with
  | false =>
    rw [if_neg Bool.false_ne_true, String.append_empty]
    exact Path.endsWithSlash_joined hne h
  | true =>
    rw [if_pos rfl]
    unfold Text.endsWithSlash
    simp

/-- A name is not empty. -/
lemma nameOf_ne_empty (hne : steps ≠ []) (h : ∀ step ∈ steps, Path.IsStep step)
    (isDirectory : Bool) : nameOf steps isDirectory ≠ "" := by
  obtain ⟨c, rest, hlist, -⟩ := Path.exists_joined_eq hne h
  intro hempty
  have hnil := congrArg String.toList hempty
  simp [nameOf, hlist] at hnil

/-- What is in a name is in one of the steps, or it is a slash. -/
lemma mem_nameOf {c : Char} (hc : c ≠ '/') {isDirectory : Bool}
    (h : c ∈ (nameOf steps isDirectory).toList) : ∃ step ∈ steps, c ∈ step.toList := by
  unfold nameOf at h
  rw [String.toList_append, List.mem_append] at h
  rcases h with hjoined | hslash
  · exact Path.mem_joined hc hjoined
  · cases isDirectory with
    | false => cases hslash
    | true => exact absurd (List.mem_singleton.mp hslash) hc

/-- A name starts with its first step. -/
lemma takeWhile_nameOf {step : String} (h : '/' ∉ step.toList) (rest : List String)
    (isDirectory : Bool) :
    (nameOf (step :: rest) isDirectory).toList.takeWhile (· ≠ '/') = step.toList := by
  by_cases hrest : rest = []
  · have htoList : (nameOf (step :: rest) isDirectory).toList =
        step.toList ++ if isDirectory then ['/'] else [] := by
      rw [hrest, nameOf, String.toList_append]
      cases isDirectory <;> rfl
    rw [htoList]
    cases isDirectory with
    | false => exact Text.takeWhile_append h (.inl rfl)
    | true => exact Text.takeWhile_append h (.inr rfl)
  · have htoList : (nameOf (step :: rest) isDirectory).toList =
        step.toList ++ '/' :: (nameOf rest isDirectory).toList := by
      rw [nameOf_cons step hrest]
      simp
    rw [htoList]
    exact Text.takeWhile_append h (.inr rfl)

/-- The steps of a name. -/
lemma names_nameOf (h : ∀ step ∈ steps, Path.IsStep step) (isDirectory : Bool) :
    Path.names ⟨nameOf steps isDirectory⟩ = steps := by
  unfold nameOf
  cases isDirectory with
  | false =>
    rw [if_neg Bool.false_ne_true, String.append_empty]
    exact Path.names_joined h
  | true =>
    rw [if_pos rfl, Path.names_slash]
    exact Path.names_joined h

/-- Different entries stay different with a directory in front. -/
lemma under_injective (directory : String) : Function.Injective (under directory) := by
  rintro ⟨name, isDirectory⟩ ⟨name', isDirectory'⟩ h
  simp only [under, mk.injEq] at h
  obtain ⟨hname, rfl⟩ := h
  have heq : name = name' := by simpa using hname
  rw [heq]

/-- What lies below a longer directory lies below a shorter one. -/
lemma LiesBelow.of_append {outer inner : String} {entry : Entry}
    (h : entry.LiesBelow (outer ++ inner)) : entry.LiesBelow outer := by
  obtain ⟨seen, hseen, heq⟩ := liesBelow_iff.mp h
  refine liesBelow_iff.mpr ⟨seen.under inner, ?_, ?_⟩
  · intro hempty
    have hlist := congrArg String.toList hempty
    simp only [under, String.toList_append, String.toList_empty] at hlist
    exact hseen (String.toList_eq_nil_iff.mp (List.append_eq_nil_iff.mp hlist).2)
  · rw [heq]
    simp only [under, String.append_assoc]

/-- A directory in front of both does not count. -/
lemma liesBelow_append_under {outer inner : String} {entry : Entry} :
    (entry.under outer).LiesBelow (outer ++ inner) ↔ entry.LiesBelow inner := by
  rw [liesBelow_iff, liesBelow_iff]
  constructor
  · rintro ⟨seen, hseen, heq⟩
    refine ⟨seen, hseen, under_injective outer ?_⟩
    rw [heq]
    simp only [under, String.append_assoc]
  · rintro ⟨seen, hseen, rfl⟩
    refine ⟨seen, hseen, ?_⟩
    simp only [under, String.append_assoc]

/-- An entry with two directories in front. -/
lemma under_under (outer inner : String) (entry : Entry) :
    (entry.under inner).under outer = entry.under (outer ++ inner) := by
  simp only [under, String.append_assoc]

end Entry

namespace FileSystem

open Exploded

/-! ### Lists of entries -/

/-- What is listed is listed for one of the children. -/
lemma mem_inOrder {children : List (String × List Entry)} {entry : Entry} :
    entry ∈ inOrder children ↔ ∃ child ∈ children, entry ∈ child.2 := by
  unfold inOrder
  rw [List.mem_flatMap]
  constructor
  · rintro ⟨child, hchild, hentry⟩
    exact ⟨child, (List.mergeSort_perm _ _).mem_iff.mp hchild, hentry⟩
  · rintro ⟨child, hchild, hentry⟩
    exact ⟨child, (List.mergeSort_perm _ _).mem_iff.mpr hchild, hentry⟩

/-- Children whose entries are changed keep their order. -/
lemma inOrder_map (change : Entry → Entry) (children : List (String × List Entry)) :
    inOrder (children.map fun child => (child.1, child.2.map change)) =
      (inOrder children).map change := by
  have hsort := List.map_mergeSort (r := fun a b : String × List Entry => decide (a.1 ≤ b.1))
    (s := fun a b => decide (a.1 ≤ b.1)) (f := fun child => (child.1, child.2.map change))
    (l := children) fun a _ b _ => rfl
  unfold inOrder
  rw [← hsort, List.flatMap_map, List.map_flatMap]

/-! ### The listing of a tree -/

mutual

/-- The entries of a node, with more in front of its name. -/
lemma listNode_under (f g : String → Bool) (lead name : String) (node : Node)
    (h : node.IsTree IsName) :
    listNode f (lead ++ name) node = (listNode g name node).map (Entry.under lead) :=
  match node with
  | .file _ => rfl
  | .image _ => rfl
  | .directory children => by
    have hchildren := listChildren_under f g lead (name ++ "/") children h
    rw [listNode, listNode, String.append_assoc, hchildren, inOrder_map]
    rfl
  | .link _ => absurd h (by simp [Node.IsTree])
  | .null => absurd h (by simp [Node.IsTree])

/-- The entries of children, with more in front of their names. -/
lemma listChildren_under (f g : String → Bool) (lead inner : String) (forest : Forest)
    (h : forest.IsTree IsName) :
    listChildren f (lead ++ inner) forest =
      (listChildren g inner forest).map fun child => (child.1, child.2.map (Entry.under lead)) :=
  match forest with
  | .nil => rfl
  | .cons name node rest => by
    obtain ⟨-, -, hnode, hrest⟩ := h
    have hfirst := listNode_under f g lead (inner ++ name) node hnode
    have hothers := listChildren_under f g lead inner rest hrest
    rw [listChildren, listChildren, String.append_assoc, hfirst, hothers]
    rfl

end

namespace Forest

/-- The children of a directory with their names. -/
def toList : Forest → List (String × Node)
  | .nil => []
  | .cons name node rest => (name, node) :: rest.toList

/-- The entries of a tree, depth first, with siblings in the order of their names. -/
def listing (tree : Forest) : List Entry := inOrder (listChildren (fun _ => false) "" tree)

/-- The entries of a child: its own, and those below it if it is a directory. -/
def block (name : String) : Node → List Entry
  | .directory children =>
    ⟨name ++ "/", true⟩ :: children.listing.map (Entry.under (name ++ "/"))
  | _ => [⟨name, false⟩]

/-- A child that is found under a name is one of the children. -/
lemma mem_toList_of_get? {tree : Forest} {name : String} {node : Node}
    (h : tree.get? name = some node) :
    (name, node) ∈ tree.toList :=
  match tree with
  | .nil => by cases h
  | .cons other child rest => by
    unfold get? at h
    split at h
    · rename_i heq
      cases h
      rw [heq]
      exact List.mem_cons_self
    · exact List.mem_cons_of_mem _ (mem_toList_of_get? h)

/-- A child of a directory is found under its name. -/
lemma get?_of_mem_toList {tree : Forest} (htree : tree.IsTree IsName) {name : String} {node : Node}
    (h : (name, node) ∈ tree.toList) : tree.get? name = some node :=
  match tree with
  | .nil => by cases h
  | .cons other child rest => by
    obtain ⟨-, hfree, -, hrest⟩ := htree
    rcases List.mem_cons.mp h with heq | hmem
    · cases heq
      exact if_pos rfl
    · have hget := get?_of_mem_toList hrest hmem
      have hne : other ≠ name := by
        rintro rfl
        rw [hfree] at hget
        cases hget
      exact (if_neg hne).trans hget

/-- No two children of a directory have one name. -/
lemma nodup_names {tree : Forest} (htree : tree.IsTree IsName) : (tree.toList.map Prod.fst).Nodup :=
  match tree with
  | .nil => List.nodup_nil
  | .cons name node rest => by
    obtain ⟨-, hfree, -, hrest⟩ := htree
    refine List.nodup_cons.mpr ⟨fun hmem => ?_, nodup_names hrest⟩
    obtain ⟨⟨_, child⟩, hchild, rfl⟩ := List.mem_map.mp hmem
    rw [get?_of_mem_toList hrest hchild] at hfree
    cases hfree

/-- The entries of a node are its own and those below it. -/
lemma listNode_eq_block (f : String → Bool) (name : String) {node : Node} (h : node.IsTree IsName) :
    listNode f name node = block name node := by
  cases node with
  | file content => rfl
  | image content => rfl
  | directory children =>
    have hchildren := listChildren_under f (fun _ => false) (name ++ "/") "" children
      h
    rw [String.append_empty] at hchildren
    rw [listNode, hchildren, inOrder_map]
    rfl
  | link target => exact absurd h (by simp [Node.IsTree])
  | null => exact absurd h (by simp [Node.IsTree])

/-- The children of a directory are listed one by one. -/
lemma listChildren_eq (f : String → Bool) {tree : Forest} (htree : tree.IsTree IsName) :
    listChildren f "" tree = tree.toList.map fun child => (child.1, block child.1 child.2) :=
  match tree with
  | .nil => rfl
  | .cons name node rest => by
    obtain ⟨-, -, hnode, hrest⟩ := htree
    rw [listChildren, String.empty_append, listNode_eq_block f name hnode, listChildren_eq f hrest]
    rfl

/-- It does not matter for the listing which links lead to directories. -/
lemma inOrder_listChildren (f : String → Bool) {tree : Forest} (htree : tree.IsTree IsName) :
    inOrder (listChildren f "" tree) = tree.listing := by
  unfold listing
  rw [listChildren_eq f htree, listChildren_eq _ htree]

/-- What is listed is listed for a child. -/
lemma mem_listing {tree : Forest} (htree : tree.IsTree IsName) {entry : Entry} :
    entry ∈ tree.listing ↔ ∃ name node, tree.get? name = some node ∧ entry ∈ block name node := by
  unfold listing
  rw [mem_inOrder, listChildren_eq _ htree]
  constructor
  · rintro ⟨_, hchild, hentry⟩
    obtain ⟨⟨name, node⟩, hmem, rfl⟩ := List.mem_map.mp hchild
    exact ⟨name, node, get?_of_mem_toList htree hmem, hentry⟩
  · rintro ⟨name, node, hget, hentry⟩
    exact ⟨_, List.mem_map_of_mem (mem_toList_of_get? hget), hentry⟩

end Forest

/-! ### What is listed -/

mutual

/-- An entry of a node stands for something in it. -/
lemma exists_of_mem_listNode (f : String → Bool) (lead name : String) (node : Node)
    (h : node.IsTree IsName) {entry : Entry} (hentry : entry ∈ listNode f (lead ++ name) node) :
    ∃ steps found, node.at? steps = some found ∧
      entry = (Entry.named (name :: steps) found.isDirectory).under lead :=
  match node with
  | .file content => by
    refine ⟨[], .file content, rfl, ?_⟩
    rw [List.mem_singleton.mp hentry]
    simp [Entry.named, Entry.nameOf, Path.joined, Entry.under, Node.isDirectory]
  | .image content => by
    refine ⟨[], .image content, rfl, ?_⟩
    rw [List.mem_singleton.mp hentry]
    simp [Entry.named, Entry.nameOf, Path.joined, Entry.under, Node.isDirectory]
  | .directory children => by
    rw [listNode] at hentry
    rcases List.mem_cons.mp hentry with rfl | hbelow
    · refine ⟨[], .directory children, rfl, ?_⟩
      simp [Entry.named, Entry.nameOf, Path.joined, Entry.under, Node.isDirectory,
        String.append_assoc]
    · obtain ⟨child, hchild, hmem⟩ := mem_inOrder.mp hbelow
      obtain ⟨step, below, steps, found, hget, hat, rfl⟩ :=
        exists_of_mem_listChildren f (lead ++ name ++ "/") children
          h hchild hmem
      refine ⟨step :: steps, found, ?_, ?_⟩
      · rw [Node.at?_cons, hget]
        exact hat
      · have hname := Entry.nameOf_cons name (List.cons_ne_nil step steps) found.isDirectory
        simp only [Entry.named, Entry.under, hname, String.append_assoc]
  | .link _ => absurd h (by simp [Node.IsTree])
  | .null => absurd h (by simp [Node.IsTree])

/-- An entry of children stands for something in one of them. -/
lemma exists_of_mem_listChildren (f : String → Bool) (lead : String) (forest : Forest)
    (h : forest.IsTree IsName) {child : String × List Entry}
    (hchild : child ∈ listChildren f lead forest) {entry : Entry} (hentry : entry ∈ child.2) :
    ∃ step node steps found, forest.get? step = some node ∧ node.at? steps = some found ∧
      entry = (Entry.named (step :: steps) found.isDirectory).under lead :=
  match forest with
  | .nil => by cases hchild
  | .cons name node rest => by
    obtain ⟨-, hfree, hnode, hrest⟩ := h
    rw [listChildren] at hchild
    rcases List.mem_cons.mp hchild with rfl | hothers
    · obtain ⟨steps, found, hat, heq⟩ := exists_of_mem_listNode f lead name node hnode hentry
      exact ⟨name, node, steps, found, if_pos rfl, hat, heq⟩
    · obtain ⟨step, other, steps, found, hget, hat, heq⟩ :=
        exists_of_mem_listChildren f lead rest hrest hothers hentry
      have hne : name ≠ step := by
        rintro rfl
        rw [hfree] at hget
        cases hget
      exact ⟨step, other, steps, found, (if_neg hne).trans hget, hat, heq⟩

end

namespace Forest

/-- An entry of a tree stands for something in it. -/
lemma exists_of_mem_listing {tree : Forest} (htree : tree.IsTree IsName) {entry : Entry}
    (h : entry ∈ tree.listing) :
    ∃ steps found, steps ≠ [] ∧ (Node.directory tree).at? steps = some found ∧
      entry = .named steps found.isDirectory := by
  obtain ⟨child, hchild, hentry⟩ := mem_inOrder.mp h
  obtain ⟨step, node, steps, found, hget, hat, heq⟩ :=
    exists_of_mem_listChildren (fun _ => false) "" tree htree hchild hentry
  refine ⟨step :: steps, found, List.cons_ne_nil step steps, ?_, ?_⟩
  · rw [Node.at?_cons, hget]
    exact hat
  · rw [heq]
    simp only [Entry.under, String.empty_append]

/-- What is in a tree is listed. -/
lemma mem_listing_of_at? {steps : List String} (hne : steps ≠ []) {tree : Forest}
    (htree : tree.IsTree IsName) {found : Node}
    (hat : (Node.directory tree).at? steps = some found) :
    Entry.named steps found.isDirectory ∈ tree.listing := by
  induction steps generalizing tree with
  | nil => exact absurd rfl hne
  | cons step rest ih =>
    rw [Node.at?_cons] at hat
    obtain ⟨child, hget, hrest⟩ := Option.bind_eq_some_iff.mp hat
    rw [mem_listing htree]
    refine ⟨step, child, hget, ?_⟩
    by_cases hnil : rest = []
    · subst hnil
      obtain rfl : child = found := Option.some.inj hrest
      cases child with
      | directory children => exact List.mem_cons_self
      | _ => simp [block, Entry.named, Entry.nameOf, Path.joined, Node.isDirectory]
    · have hchild := (IsTree.of_get? htree hget).2
      cases child with
      | directory children =>
        have hbelow := ih hnil hchild hrest
        refine List.mem_cons_of_mem _ (List.mem_map.mpr ⟨_, hbelow, ?_⟩)
        simp only [Entry.named, Entry.under, Entry.nameOf_cons step hnil]
      | _ =>
        -- nothing is below anything but a directory
        obtain ⟨next, others, rfl⟩ := List.exists_cons_of_ne_nil hnil
        cases hrest

/-- A name is listed exactly if it is that of something in the tree. -/
lemma mem_listing_iff {tree : Forest} (htree : tree.IsTree IsName) {steps : List String}
    (hne : steps ≠ []) (h : ∀ step ∈ steps, Path.IsStep step) {slash isDirectory : Bool} :
    (⟨Entry.nameOf steps slash, isDirectory⟩ : Entry) ∈ tree.listing ↔
      isDirectory = slash ∧
        ∃ found, (Node.directory tree).at? steps = some found ∧ found.isDirectory = slash := by
  constructor
  · intro hmem
    obtain ⟨steps', found, hne', hat, heq⟩ := exists_of_mem_listing htree hmem
    have h' : ∀ step ∈ steps', Path.IsStep step := htree.isStep hat
    have hname : Entry.nameOf steps slash = Entry.nameOf steps' found.isDirectory :=
      congrArg Entry.name heq
    have hsteps : steps = steps' := by
      rw [← Entry.names_nameOf h slash, hname, Entry.names_nameOf h']
    have hslash : slash = found.isDirectory := by
      rw [← Entry.endsWithSlash_nameOf hne h slash, hname, Entry.endsWithSlash_nameOf hne' h']
    have hdirectory : isDirectory = found.isDirectory := congrArg Entry.isDirectory heq
    exact ⟨hdirectory.trans hslash.symm, found, hsteps ▸ hat, hslash.symm⟩
  · rintro ⟨rfl, found, hat, rfl⟩
    exact mem_listing_of_at? hne htree hat

/-! ### What is listed below a directory -/

/-- The names of a child and of what is below it start with the name of the child. -/
lemma takeWhile_of_mem_block {name : String} (h : '/' ∉ name.toList) {node : Node} {entry : Entry}
    (hentry : entry ∈ block name node) :
    entry.name.toList.takeWhile (· ≠ '/') = name.toList := by
  have hname : ∃ rest, entry.name.toList = name.toList ++ rest ∧
      (rest = [] ∨ rest.head? = some '/') := by
    cases node with
    | directory children =>
      rcases List.mem_cons.mp hentry with rfl | hbelow
      · exact ⟨['/'], String.toList_append, .inr rfl⟩
      · obtain ⟨inner, -, rfl⟩ := List.mem_map.mp hbelow
        refine ⟨'/' :: inner.name.toList, ?_, .inr rfl⟩
        simp [Entry.under]
    | _ =>
      rw [List.mem_singleton.mp hentry]
      exact ⟨[], (List.append_nil _).symm, .inl rfl⟩
  obtain ⟨rest, hrest, hhead⟩ := hname
  rw [hrest]
  exact Text.takeWhile_append h hhead

/-- Nothing lies below the directory of one child but what is in it. -/
lemma filter_block_of_ne {name step : String} (hne : name ≠ step) (hname : '/' ∉ name.toList)
    (hstep : '/' ∉ step.toList) (node : Node) :
    (block name node).filter (fun entry => entry.LiesBelow (step ++ "/")) = [] := by
  rw [List.filter_eq_nil_iff]
  intro entry hentry hbelow
  obtain ⟨⟨rest, hrest⟩, -⟩ := of_decide_eq_true hbelow
  have htake := takeWhile_of_mem_block hname hentry
  have hlead : (step ++ "/").toList ++ rest = step.toList ++ '/' :: rest := by simp
  rw [← hrest, hlead, Text.takeWhile_append hstep (.inr rfl)] at htake
  exact hne (String.toList_inj.mp htake).symm

/-- What is in a directory lies below it, and the directory itself does not. -/
lemma filter_block_self {name : String} {children : Forest} (htree : children.IsTree IsName) :
    (block name (.directory children)).filter (fun entry => entry.LiesBelow (name ++ "/")) =
      children.listing.map (Entry.under (name ++ "/")) := by
  have hself : ¬(⟨name ++ "/", true⟩ : Entry).LiesBelow (name ++ "/") := fun h => h.2 rfl
  have hinside : ∀ entry ∈ children.listing.map (Entry.under (name ++ "/")),
      decide (entry.LiesBelow (name ++ "/")) = true := by
    intro entry hentry
    obtain ⟨inner, hinner, rfl⟩ := List.mem_map.mp hentry
    obtain ⟨steps, found, hne, hat, rfl⟩ := exists_of_mem_listing htree hinner
    exact decide_eq_true (Entry.liesBelow_iff.mpr
      ⟨_, Entry.nameOf_ne_empty hne (htree.isStep hat) found.isDirectory, rfl⟩)
  rw [block, List.filter_cons_of_neg (by simpa using hself), List.filter_eq_self.mpr hinside]

/-- Lists of which one key counts come to the list of that key. -/
lemma flatMap_of_nodup {β : Type} {children : List (String × List Entry)}
    (hnodup : (children.map Prod.fst).Nodup) {key : String} {entries : List Entry}
    (hmem : (key, entries) ∈ children) (f : List Entry → List β)
    (hothers : ∀ child ∈ children, child.1 ≠ key → f child.2 = []) :
    children.flatMap (fun child => f child.2) = f entries := by
  induction children with
  | nil => cases hmem
  | cons child rest ih =>
    obtain ⟨hfresh, hrest⟩ := List.nodup_cons.mp hnodup
    rw [List.flatMap_cons]
    rcases List.mem_cons.mp hmem with rfl | htail
    · have hnone : rest.flatMap (fun child => f child.2) = [] := by
        rw [List.flatMap_eq_nil_iff]
        intro other hother
        refine hothers other (List.mem_cons_of_mem _ hother) fun heq => hfresh ?_
        exact List.mem_map.mpr ⟨other, hother, heq⟩
      rw [hnone, List.append_nil]
    · have hne : child.1 ≠ key := by
        rintro rfl
        exact hfresh (List.mem_map.mpr ⟨_, htail, rfl⟩)
      rw [hothers child List.mem_cons_self hne, List.nil_append]
      exact ih hrest htail fun other hother => hothers other (List.mem_cons_of_mem _ hother)

/-- What is listed below a child is what is in it. -/
lemma listing_below_step {tree children : Forest} (htree : tree.IsTree IsName) {step : String}
    (hget : tree.get? step = some (.directory children)) :
    tree.listing.filter (fun entry => entry.LiesBelow (step ++ "/")) =
      children.listing.map (Entry.under (step ++ "/")) := by
  obtain ⟨hstep, hchildren⟩ := IsTree.of_get? htree hget
  have hperm := List.mergeSort_perm (listChildren (fun _ => false) "" tree)
    fun a b => decide (a.1 ≤ b.1)
  have hnodup : ((listChildren (fun _ => false) "" tree).map Prod.fst).Nodup := by
    rw [listChildren_eq _ htree, List.map_map]
    exact nodup_names htree
  have hmem : (step, block step (.directory children)) ∈ listChildren (fun _ => false) "" tree := by
    rw [listChildren_eq _ htree]
    exact List.mem_map.mpr ⟨_, mem_toList_of_get? hget, rfl⟩
  unfold listing inOrder
  rw [List.filter_flatMap, flatMap_of_nodup ((hperm.map Prod.fst).nodup_iff.mpr hnodup)
    (hperm.mem_iff.mpr hmem) (List.filter _)]
  · exact filter_block_self hchildren
  · intro child hchild hne
    replace hchild := hperm.mem_iff.mp hchild
    rw [listChildren_eq _ htree] at hchild
    obtain ⟨⟨name, node⟩, hname, rfl⟩ := List.mem_map.mp hchild
    have hchildName := (IsTree.of_get? htree (get?_of_mem_toList htree hname)).1
    exact filter_block_of_ne hne hchildName.slash_notMem hstep.slash_notMem node

/-- What is listed below a directory is the listing of the directory. -/
theorem listing_below {steps : List String} (hne : steps ≠ []) {tree children : Forest}
    (htree : tree.IsTree IsName)
    (hat : (Node.directory tree).at? steps = some (.directory children)) :
    tree.listing.filter (fun entry => entry.LiesBelow (Entry.nameOf steps true)) =
      children.listing.map (Entry.under (Entry.nameOf steps true)) := by
  induction steps generalizing tree with
  | nil => exact absurd rfl hne
  | cons step rest ih =>
    rw [Node.at?_cons] at hat
    obtain ⟨child, hget, hrest⟩ := Option.bind_eq_some_iff.mp hat
    by_cases hnil : rest = []
    · subst hnil
      obtain rfl : child = .directory children := Option.some.inj hrest
      exact listing_below_step htree hget
    · have hchild := (IsTree.of_get? htree hget).2
      cases child with
      | directory middle =>
        have hname := Entry.nameOf_cons step hnil true
        have hstep := listing_below_step htree hget
        have hbelow := ih hnil hchild hrest
        have hboth : ∀ entry : Entry, decide (entry.LiesBelow (Entry.nameOf (step :: rest) true)) =
            (decide (entry.LiesBelow (Entry.nameOf (step :: rest) true)) &&
              decide (entry.LiesBelow (step ++ "/"))) := by
          intro entry
          by_cases hlies : entry.LiesBelow (Entry.nameOf (step :: rest) true)
          · have hstep : entry.LiesBelow (step ++ "/") := (hname ▸ hlies).of_append
            rw [decide_eq_true hstep, Bool.and_true]
          · rw [decide_eq_false hlies, Bool.false_and]
        calc tree.listing.filter (fun entry => entry.LiesBelow (Entry.nameOf (step :: rest) true))
            = (tree.listing.filter fun entry => entry.LiesBelow (step ++ "/")).filter
                (fun entry => entry.LiesBelow (Entry.nameOf (step :: rest) true)) := by
              rw [List.filter_filter]
              exact List.filter_congr fun entry _ => hboth entry
          _ = (middle.listing.map (Entry.under (step ++ "/"))).filter
                (fun entry => entry.LiesBelow (step ++ "/" ++ Entry.nameOf rest true)) := by
              rw [hstep, hname]
          _ = (middle.listing.filter fun entry => entry.LiesBelow (Entry.nameOf rest true)).map
                (Entry.under (step ++ "/")) := by
              rw [List.filter_map]
              simp only [Function.comp_def, Entry.liesBelow_append_under]
          _ = children.listing.map (Entry.under (Entry.nameOf (step :: rest) true)) := by
              rw [hbelow, List.map_map, hname]
              simp only [Function.comp_def, Entry.under_under]
      | _ =>
        obtain ⟨next, others, rfl⟩ := List.exists_cons_of_ne_nil hnil
        cases hrest

end Forest

end FileSystem

end AppLauncher
