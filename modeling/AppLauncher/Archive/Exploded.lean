import AppLauncher.Archive.Entry
import AppLauncher.Archive.Error
import AppLauncher.Archive.Manifest
import AppLauncher.FileSystem.Access

/-!
# Exploded archives

A directory read as an archive. Names lead to paths strictly below the directory or to nothing
(`pathOf?`), and the listing is depth first with siblings in the order of their names. Linked
directories are listed without what is in them.
-/

namespace AppLauncher.Exploded

/-- The path that an entry name leads to. The name has to stay within the archive, and slashes at
its end do not count. -/
def pathOf? (root : Path) (name : String) : Option Path :=
  let relative := Text.dropSlashes name
  if relative = "" ∨ Entry.isSafe relative = false then none else some (root.join ⟨relative⟩)

/-- The entries of the children of a directory, in the order of the names of the children. -/
def inOrder (children : List (String × List Entry)) : List Entry :=
  (children.mergeSort fun a b => a.1 ≤ b.1).flatMap (·.2)

mutual

/-- The entries of a node with the given name, the node itself first. -/
def listNode (isLinkedDirectory : String → Bool) (name : String) : FileSystem.Node → List Entry
  | .directory children =>
    ⟨name ++ "/", true⟩ :: inOrder (listChildren isLinkedDirectory (name ++ "/") children)
  | .link _ => if isLinkedDirectory name then [⟨name ++ "/", true⟩] else [⟨name, false⟩]
  | .file _ => [⟨name, false⟩]
  | .image _ => [⟨name, false⟩]
  | .null => [⟨name, false⟩]

/-- The children of a directory, each with its entries; names start with what leads to the
directory. -/
def listChildren (isLinkedDirectory : String → Bool) (lead : String) :
    FileSystem.Forest → List (String × List Entry)
  | .nil => []
  | .cons name node rest =>
    (name, listNode isLinkedDirectory (lead ++ name) node) ::
      listChildren isLinkedDirectory lead rest

end

/-- The path of a listed entry. -/
def pathOfListed (root : Path) (entry : Entry) : Path := root.join ⟨Text.dropSlashes entry.name⟩

/-- Whether an entry is a directory whose path is too long to list what is in it. -/
def isOutOfReach (root : Path) (entry : Entry) : Bool :=
  entry.isDirectory && (pathOfListed root entry).text.utf8ByteSize ≥ FileSystem.maxPathLength

/-- All entries. -/
def entries (files : FileSystem) (root : Path) : Except ArchiveError (List Entry) :=
  match files.children root with
  | .ok children =>
    let listed :=
      inOrder (listChildren (fun name => files.isDirectory (root.join ⟨name⟩)) "" children)
    match listed.find? (isOutOfReach root) with
    | some entry => .error (.io (pathOfListed root entry) .nameTooLong)
    | none => .ok listed
  | .error fault => .error (.io root fault)

/-- The entry of a name, which is there when the path is a directory exactly if the name ends with
a slash. -/
def find? (files : FileSystem) (root : Path) (name : String) : Option Entry :=
  (pathOf? root name).bind fun path =>
    match files.node path with
    | .ok node =>
      if node.isDirectory = Text.endsWithSlash name then some ⟨name, node.isDirectory⟩ else none
    | .error _ => none

/-- The content of a regular file. -/
def read? (files : FileSystem) (root : Path) (name : String) :
    Except ArchiveError (Option (List UInt8)) :=
  match pathOf? root name with
  | none => .ok none
  | some path =>
    if Text.endsWithSlash name ∨ files.isFile path = false then .ok none
    else match files.read path with
      | .ok content => .ok (some content)
      | .error fault => .error (.io path fault)

/-- The manifest as the files have it now. -/
def manifest (files : FileSystem) (root : Path) : Except ArchiveError (Option Manifest) :=
  let path := root.join ⟨Manifest.entryName⟩
  match files.read path with
  | .ok content => .ok (some (Manifest.parse content))
  | .error .notFound => .ok none
  | .error fault => .error (.io path fault)

/-- What is nested under a name, when the archive has it: an exploded archive or a packaged
artifact, each given by its path. -/
inductive Nesting where
  | exploded (root : Path)
  | artifact (path : Path)

/-- What is nested under a listed entry. -/
def nestingOf? (root : Path) (entry : Entry) : Option Nesting :=
  (pathOf? root entry.name).map fun path =>
    if entry.isDirectory then .exploded path else .artifact path

/-- What is nested under a name. -/
def nesting? (files : FileSystem) (root : Path) (name : String) : Option Nesting :=
  (pathOf? root name).bind fun path =>
    if files.isDirectory path then some (.exploded path)
    else if files.isFile path then some (.artifact path)
    else none

end AppLauncher.Exploded
