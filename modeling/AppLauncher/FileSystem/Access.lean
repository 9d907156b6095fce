import AppLauncher.FileSystem.Resolve

/-!
# File operations

Reading and changing files by path. Symbolic links are followed everywhere except where a path
itself is linked or removed.
-/

namespace AppLauncher.FileSystem

/-- A file system with an empty working directory and a null device. -/
def fresh : FileSystem where
  root := .directory (.cons "dev" (.directory (.cons "null" .null .nil))
    (.cons "work" (.directory .nil) .nil))
  working := ["work"]

/-- The node that a path leads to. -/
def node (files : FileSystem) (p : Path) : Except Fault Node :=
  match files.resolve true p with
  | .ok (.found _ node) => .ok node
  | .ok (.vacant _ _) => .error .notFound
  | .error fault => .error fault

/-- Whether a path leads to anything. -/
def exists? (files : FileSystem) (p : Path) : Bool := (files.node p).toBool

/-- Whether a path leads to a directory. -/
def isDirectory (files : FileSystem) (p : Path) : Bool :=
  match files.node p with
  | .ok node => node.isDirectory
  | .error _ => false

/-- Whether a path leads to a regular file. -/
def isFile (files : FileSystem) (p : Path) : Bool :=
  match files.node p with
  | .ok node => node.isFile
  | .error _ => false

/-- The content of a file. -/
def read (files : FileSystem) (p : Path) : Except Fault (List UInt8) :=
  match files.node p with
  | .ok (.file content) => .ok content
  | .ok (.image content) => .ok content
  | .ok .null => .ok []
  | .ok _ => .error .isDirectory
  | .error fault => .error fault

/-- The children of a directory. -/
def children (files : FileSystem) (p : Path) : Except Fault Forest :=
  match files.node p with
  | .ok (.directory children) => .ok children
  | .ok _ => .error .notDirectory
  | .error fault => .error fault

/-- Sets or removes what stands under a name of the directory at a location. -/
def setChild (files : FileSystem) (directory : List String) (name : String) (new : Option Node) :
    FileSystem :=
  { files with root := files.root.setChild name new directory }

/-- Replaces what stands at a location. -/
def replace (files : FileSystem) (location : List String) (new : Option Node) : FileSystem :=
  match location.getLast? with
  | some name => files.setChild location.dropLast name new
  | none => files

/-- What is wrong with creating a file under a path that ends with a slash. -/
def slashFault (files : FileSystem) (p : Path) : Fault :=
  let trimmed := Text.dropSlashes p.text
  if trimmed = "" then .isDirectory
  else match files.resolve false ⟨trimmed⟩ with
    | .ok _ => .isDirectory
    | .error fault => fault

/-- Changes the content of a file, which is created when it is not there. -/
def modify (files : FileSystem) (p : Path) (change : List UInt8 → List UInt8) :
    Except Fault FileSystem :=
  if Text.endsWithSlash p.text then .error (files.slashFault p)
  else match files.resolve true p with
  | .ok (.found location (.file content)) =>
    .ok (files.replace location (some (.file (change content))))
  | .ok (.found _ .null) => .ok files
  | .ok (.found _ (.image _)) => .error .busy
  | .ok (.found _ _) => .error .isDirectory
  | .ok (.vacant directory name) => .ok (files.setChild directory name (some (.file (change []))))
  | .error fault => .error fault

/-- Sets the content of a file. -/
def write (files : FileSystem) (p : Path) (content : List UInt8) : Except Fault FileSystem :=
  files.modify p fun _ => content

/-- Adds content at the end of a file. -/
def append (files : FileSystem) (p : Path) (content : List UInt8) : Except Fault FileSystem :=
  files.modify p fun old => old ++ content

/-- Makes a file the image of a running program. What is not a file stays as it is. -/
def occupy (files : FileSystem) (p : Path) : FileSystem :=
  match files.resolve true p with
  | .ok (.found location (.file content)) => files.replace location (some (.image content))
  | _ => files

/-- Creates one directory. -/
def makeDirectory (files : FileSystem) (p : Path) : Except Fault FileSystem :=
  match files.resolve false ⟨Text.dropSlashes p.text⟩ with
  | .ok (.vacant directory name) => .ok (files.setChild directory name (some (.directory .nil)))
  | .ok (.found _ _) => .error .exists
  | .error fault => .error fault

/-- The text of a path made of the given components. -/
def pathOf (components : List Path.Component) : Path :=
  components.foldl (fun p c => p.join ⟨match c with
    | .root => "/"
    | .current => "."
    | .parent => ".."
    | .name text => text⟩) ⟨""⟩

/-- The files after an attempt to create a directory. It does no harm that the directory is there.
-/
def settle (files : FileSystem) (p : Path) :
    Except Fault FileSystem → Except Fault Unit × FileSystem
  | .ok made => (.ok (), made)
  | .error fault => (if files.isDirectory p then .ok () else .error fault, files)

/-- Creates the directory whose components are given from the last to the first, and first the
directories above it when they are missing. Those that have been created stay when the rest
fails. -/
def makeAll (files : FileSystem) : List Path.Component → Except Fault Unit × FileSystem
  | [] => (.ok (), files)
  | last :: above =>
    let p := pathOf (last :: above).reverse
    match files.makeDirectory p with
    | .error .notFound =>
      match makeAll files above with
      | (.ok (), files) => files.settle p (files.makeDirectory p)
      | (.error fault, files) => (.error fault, files)
    | result => files.settle p result

/-- Creates a directory and the missing directories above it. -/
def makeDirectories (files : FileSystem) (p : Path) : Except Fault Unit × FileSystem :=
  files.makeAll p.components.reverse

/-- Creates the missing directories above a path. -/
def makeParents (files : FileSystem) (p : Path) : Except Fault Unit × FileSystem :=
  files.makeAll p.components.reverse.tail

/-- Creates a symbolic link. -/
def makeLink (files : FileSystem) (p target : Path) : Except Fault FileSystem :=
  match files.resolve false p with
  | .ok (.vacant directory name) => .ok (files.setChild directory name (some (.link target)))
  | .ok (.found _ _) => .error .exists
  | .error fault => .error fault

/-- Removes a file, a link, or a directory with all that is in it. -/
def remove (files : FileSystem) (p : Path) : Except Fault FileSystem :=
  match files.resolve false p with
  | .ok (.found location _) => .ok (files.replace location none)
  | .ok (.vacant _ _) => .error .notFound
  | .error fault => .error fault

/-- Brings a file to the disk. The null device does not support it. -/
def sync (files : FileSystem) (p : Path) : Except Fault Unit :=
  match files.node p with
  | .ok .null => .error .invalid
  | .ok _ => .ok ()
  | .error fault => .error fault

end AppLauncher.FileSystem
