import AppLauncher.Proofs.Archive.Body
import AppLauncher.Proofs.Archive.Listing

/-!
# The answers of an exploded archive

An exploded archive over a tree of directories and regular files answers from the tree
(`Exploded.Spans`).  It lists the tree (`Spans.entries_eq`), it has an entry of a name exactly if
the steps of the name lead to a node of the kind that the name asks for (`Spans.find?_eq`), and it
reads the content of files (`Spans.read?_eq`).  What is below a directory of the tree is spanned by
the tree of that directory (`Spans.below`).

All of this holds if the paths of the tree are short enough to be walked (`FileSystem.Fits`).
Nothing is found under a name with a longer path (`Exploded.find?_of_long`).
-/

namespace AppLauncher

open FileSystem (Node Forest Fits IsName)

/-! ### Answers from a tree -/

namespace FileSystem

/-- The content of a regular file. -/
def Node.content? : Node → Option (List UInt8)
  | .file content => some content
  | .image content => some content
  | _ => none

/-- A node of a tree has content exactly if it is not a directory. -/
lemma Node.isSome_content? {node : Node} (h : node.IsTree IsName) :
    node.content?.isSome = !node.isDirectory := by
  cases node with
  | link target => exact absurd h (by simp [Node.IsTree])
  | null => exact absurd h (by simp [Node.IsTree])
  | _ => rfl

namespace Forest

/-- The entry of a name: what the steps lead to, if the name asks for its kind. -/
def found? (tree : Forest) (name : String) : Option Entry :=
  ((Node.directory tree).at? (Path.names ⟨name⟩)).bind fun node =>
    if node.isDirectory = Text.endsWithSlash name then some ⟨name, node.isDirectory⟩ else none

/-- The content of the file that the steps of a name lead to. -/
def content? (tree : Forest) (name : String) : Option (List UInt8) :=
  ((Node.directory tree).at? (Path.names ⟨name⟩)).bind Node.content?

/-- The content of the file of a name. -/
def read? (tree : Forest) (name : String) : Option (List UInt8) :=
  if Text.endsWithSlash name then none else tree.content? name

end Forest

end FileSystem

namespace Exploded

/-! ### Names and paths -/

/-- The path of a name. -/
lemma pathOf?_nameOf (root : Path) {steps : List String} (hne : steps ≠ [])
    (h : ∀ step ∈ steps, Path.IsStep step) (slash : Bool) :
    pathOf? root (Entry.nameOf steps slash) = some (root.join ⟨Path.joined steps⟩) := by
  unfold pathOf?
  rw [Entry.dropSlashes_nameOf hne h slash]
  dsimp only
  rw [if_neg]
  rintro (hempty | hunsafe)
  · exact Path.joined_ne_empty hne h hempty
  · rw [Path.isSafe_joined hne h] at hunsafe
    cases hunsafe

/-- An archive has nothing under a name whose path is too long to be walked. -/
lemma find?_of_long {files : FileSystem} {root : Path} {steps : List String} (hne : steps ≠ [])
    (hsteps : ∀ step ∈ steps, Path.IsStep step)
    (hlong : (root.join ⟨Path.joined steps⟩).text.utf8ByteSize ≥ FileSystem.maxPathLength)
    (slash : Bool) : find? files root (Entry.nameOf steps slash) = none := by
  have hnone : (files.node (root.join ⟨Path.joined steps⟩)).toOption = none :=
    FileSystem.node_of_unwalkable (.inr hlong)
  unfold find?
  rw [pathOf?_nameOf root hne hsteps, Option.bind_some]
  cases hnode : files.node (root.join ⟨Path.joined steps⟩) with
  | ok node =>
    rw [hnode] at hnone
    cases hnone
  | error fault => rfl

/-- The path of what is listed is the path of its steps. -/
lemma pathOfListed_named (root : Path) {steps : List String} (hne : steps ≠ [])
    (h : ∀ step ∈ steps, Path.IsStep step) (isDirectory : Bool) :
    pathOfListed root (.named steps isDirectory) = root.join ⟨Path.joined steps⟩ := by
  unfold pathOfListed Entry.named
  rw [Entry.dropSlashes_nameOf hne h]

/-- The paths of a tree can be walked if those of its listed entries can. -/
lemma fits_of_listing {root : Path} {tree : Forest} (htree : tree.IsTree IsName)
    (h : ∀ entry ∈ tree.listing,
      (pathOfListed root entry).text.utf8ByteSize < FileSystem.maxPathLength) :
    FileSystem.Fits root (.directory tree) := by
  intro steps found hne hat
  have hshort := h _ (Forest.mem_listing_of_at? hne htree hat)
  rwa [pathOfListed_named root hne (htree.isStep hat)] at hshort

variable {files : FileSystem} {root : Path} {tree : Forest}

/-- The archive lists the tree, unless a directory of the tree has too long a path to be listed. -/
lemma entries_of_node (hnode : files.node root = .ok (.directory tree))
    (htree : tree.IsTree IsName) :
    entries files root = (tree.listing.find? (isOutOfReach root)).elim (.ok tree.listing)
      fun entry => .error (.io (pathOfListed root entry) .nameTooLong) := by
  have hchildren : files.children root = .ok tree := by
    unfold FileSystem.children
    rw [hnode]
  have hlisted := Forest.inOrder_listChildren
    (fun name => files.isDirectory (root.join ⟨name⟩)) htree
  unfold entries
  rw [hchildren]
  dsimp only
  rw [hlisted]
  cases tree.listing.find? (isOutOfReach root) with
  | none => rfl
  | some entry => rfl

/-- If the archive can list its entries, it lists the tree. -/
lemma eq_listing_of_entries (hnode : files.node root = .ok (.directory tree))
    (htree : tree.IsTree IsName) {listed : List Entry} (h : entries files root = .ok listed) :
    listed = tree.listing := by
  rw [entries_of_node hnode htree] at h
  cases hfar : tree.listing.find? (isOutOfReach root) with
  | none =>
    rw [hfar] at h
    exact (Except.ok.inj h).symm
  | some entry =>
    rw [hfar] at h
    cases h

/-- The tree of a directory, and what makes its answers hold. -/
structure Spans (files : FileSystem) (root : Path) (tree : Forest) : Prop where
  node : files.node root = .ok (.directory tree)
  plain : tree.IsPlain
  fits : Fits root (.directory tree)

namespace Spans

/-- The children are a tree. -/
lemma isTree (h : Spans files root tree) : tree.IsTree IsName := h.plain.isTree

/-- The directory is a tree. -/
lemma isTreeNode (h : Spans files root tree) : (Node.directory tree).IsTree IsName := h.isTree

/-- What stands at a path below the directory. -/
lemma node_join (h : Spans files root tree) {steps : List String} (hne : steps ≠ [])
    (hsteps : ∀ step ∈ steps, Path.IsStep step) :
    (files.node (root.join ⟨Path.joined steps⟩)).toOption = (Node.directory tree).at? steps :=
  FileSystem.node_join h.node h.isTreeNode h.fits hne hsteps

/-- The content of a file in the tree is read at its path. -/
lemma read_join (h : Spans files root tree) {steps : List String} (hne : steps ≠ []) {found : Node}
    (hat : (Node.directory tree).at? steps = some found) (hkind : found.isDirectory = false) :
    ∃ content, found.content? = some content ∧
      files.read (root.join ⟨Path.joined steps⟩) = .ok content := by
  have hnode := h.node_join hne (h.isTree.isStep hat)
  have htree : found.IsTree IsName := (h.isTreeNode.of_at? hat).1
  rw [hat] at hnode
  unfold FileSystem.read
  rw [eq_ok_of_toOption hnode]
  cases found with
  | file content => exact ⟨content, rfl, rfl⟩
  | image content => exact ⟨content, rfl, rfl⟩
  | directory children => cases hkind
  | link target => exact absurd htree (by simp [Node.IsTree])
  | null => exact absurd htree (by simp [Node.IsTree])

/-- A directory in the tree has its own tree. -/
lemma below (h : Spans files root tree) {steps : List String} (hne : steps ≠ [])
    {children : Forest} (hat : (Node.directory tree).at? steps = some (.directory children)) :
    Spans files (root.join ⟨Path.joined steps⟩) children := by
  have hsteps := h.isTree.isStep hat
  have hnode : (Node.directory tree).IsPlain := h.plain
  have hchildren : (Node.directory children).IsPlain := (hnode.of_at? hat).1
  have hnode := h.node_join hne hsteps
  rw [hat] at hnode
  obtain ⟨-, hempty, -⟩ := FileSystem.walk_of_node h.node
  exact ⟨eq_ok_of_toOption hnode, hchildren, h.fits.join hempty hne hsteps hat hchildren.isTree⟩

end Spans

namespace Spans

/-! ### Questions and answers -/

/-- The path of what is listed is the path of its steps. -/
lemma pathOfListed_named (h : Spans files root tree) {steps : List String} (hne : steps ≠ [])
    {found : Node} (hat : (Node.directory tree).at? steps = some found) :
    pathOfListed root (.named steps found.isDirectory) = root.join ⟨Path.joined steps⟩ :=
  Exploded.pathOfListed_named root hne (h.isTree.isStep hat) found.isDirectory

/-- The archive lists the tree. -/
lemma entries_eq (h : Spans files root tree) : entries files root = .ok tree.listing := by
  have hreach : tree.listing.find? (isOutOfReach root) = none := by
    rw [List.find?_eq_none]
    intro entry hentry hfar
    obtain ⟨steps, found, hne, hat, rfl⟩ := Forest.exists_of_mem_listing h.isTree hentry
    have hshort := h.fits steps found hne hat
    unfold isOutOfReach at hfar
    rw [h.pathOfListed_named hne hat] at hfar
    simp only [ge_iff_le, Bool.and_eq_true, decide_eq_true_eq] at hfar
    omega
  rw [entries_of_node h.node h.isTree, hreach]
  rfl

variable {steps : List String}

/-- The archive has the entry that the tree has. -/
lemma find?_eq (h : Spans files root tree) (hne : steps ≠ [])
    (hsteps : ∀ step ∈ steps, Path.IsStep step) (slash : Bool) :
    find? files root (Entry.nameOf steps slash) = tree.found? (Entry.nameOf steps slash) := by
  have hnode := h.node_join hne hsteps
  unfold find? Forest.found?
  rw [pathOf?_nameOf root hne hsteps, Entry.names_nameOf hsteps, Option.bind_some, ← hnode]
  cases files.node (root.join ⟨Path.joined steps⟩) with
  | error fault => rfl
  | ok node => rfl

/-- The archive reads what the tree has. -/
lemma read?_eq (h : Spans files root tree) (hne : steps ≠ [])
    (hsteps : ∀ step ∈ steps, Path.IsStep step) (slash : Bool) :
    read? files root (Entry.nameOf steps slash) = .ok (tree.read? (Entry.nameOf steps slash)) := by
  have hnode := h.node_join hne hsteps
  unfold read? Forest.read? Forest.content?
  rw [pathOf?_nameOf root hne hsteps, Entry.names_nameOf hsteps, ← hnode]
  dsimp only
  by_cases hslash : Text.endsWithSlash (Entry.nameOf steps slash) = true
  · rw [if_pos (.inl hslash), if_pos hslash]
  · rw [if_neg hslash]
    unfold FileSystem.isFile FileSystem.read
    cases hfound : files.node (root.join ⟨Path.joined steps⟩) with
    | error fault => simp [Except.toOption]
    | ok node =>
      rw [hfound] at hnode
      have htree : node.IsTree IsName := (h.isTreeNode.of_at? hnode.symm).1
      cases node with
      | link target => exact absurd htree (by simp [Node.IsTree])
      | null => exact absurd htree (by simp [Node.IsTree])
      | _ => simp [hslash, Node.isFile, Node.content?, Except.toOption]

/-! ### The manifest -/

/-- The steps to the manifest. -/
lemma entryName_eq : Manifest.entryName = Path.joined ["META-INF", "MANIFEST.MF"] := by
  decide +kernel

/-- The steps to the manifest are plain names. -/
lemma isPlainName_manifest :
    ∀ step ∈ ["META-INF", "MANIFEST.MF"], FileSystem.IsPlainName step := by
  decide

/-- What is on the way to the manifest is a directory, if no file stands where its directory should
be. -/
lemma isDirectory_before_manifest
    (hdirectory : ∀ node, tree.get? "META-INF" = some node → node.isDirectory = true) :
    ∀ before behind found, ["META-INF", "MANIFEST.MF"] = before ++ behind → behind ≠ [] →
      (Node.directory tree).at? before = some found → found.isDirectory = true := by
  intro before behind found heq hbehind hfound
  match before, heq with
  | [], _ =>
    cases hfound
    rfl
  | [first], heq =>
    obtain ⟨rfl, -⟩ := List.cons.inj heq
    rw [Node.at?_cons] at hfound
    obtain ⟨child, hchild, hself⟩ := Option.bind_eq_some_iff.mp hfound
    cases hself
    exact hdirectory _ hchild
  | first :: second :: rest, heq =>
    have hnil := (List.cons.inj (List.cons.inj heq).2).2
    exact absurd (List.append_eq_nil_iff.mp hnil.symm).2 hbehind

/-- The manifest is read from the file that the tree has for it, unless a file stands where its
directory should be or a directory where it should be itself. -/
lemma manifest_eq (h : Spans files root tree)
    (hdirectory : ∀ node, tree.get? "META-INF" = some node → node.isDirectory = true)
    (hfile : ∀ node, (Node.directory tree).at? ["META-INF", "MANIFEST.MF"] = some node →
      node.isDirectory = false)
    (hshort : (root.join ⟨Manifest.entryName⟩).text.utf8ByteSize < FileSystem.maxPathLength) :
    manifest files root = .ok ((tree.content? Manifest.entryName).map Manifest.parse) := by
  have hsteps : ∀ step ∈ ["META-INF", "MANIFEST.MF"], Path.IsStep step := fun step hstep =>
    (isPlainName_manifest step hstep).toIsStep
  have hne : ["META-INF", "MANIFEST.MF"] ≠ [] := List.cons_ne_nil _ _
  have hnames : Path.names ⟨Manifest.entryName⟩ = ["META-INF", "MANIFEST.MF"] := by
    rw [entryName_eq, Path.names_joined hsteps]
  unfold manifest Forest.content?
  rw [hnames]
  rw [entryName_eq] at hshort ⊢
  dsimp only
  cases hat : (Node.directory tree).at? ["META-INF", "MANIFEST.MF"] with
  | some node =>
    obtain ⟨content, hcontent, hread⟩ := h.read_join hne hat (hfile node hat)
    rw [hread, Option.bind_some, hcontent]
    rfl
  | none =>
    obtain ⟨hclean, hempty, -⟩ := FileSystem.walk_of_node h.node
    have hnul : '\x00' ∉ (root.join ⟨Path.joined ["META-INF", "MANIFEST.MF"]⟩).text.toList :=
      Path.notMem_join (by decide) hempty hclean (Path.leadsBelow_joined hne hsteps) fun hmem => by
        obtain ⟨step, hstep, hnul⟩ := Path.mem_joined (by decide) hmem
        exact (isPlainName_manifest step hstep).nul_notMem hnul
    have hmissing := FileSystem.node_join_of_clear h.node h.isTreeNode hne hsteps
      (fun step hstep => (isPlainName_manifest step hstep).short)
      (isDirectory_before_manifest hdirectory) hnul hshort hat
    unfold FileSystem.read
    rw [hmissing]
    rfl

end Spans

end Exploded

end AppLauncher
