import AppLauncher.Path

/-!
# The tree of files

Files, images of running programs, directories, symbolic links and the null device, and how a tree
is read and changed at a location, that is, at a list of names from its root.
-/

namespace AppLauncher.FileSystem

mutual

/-- What stands at one place of the tree. -/
inductive Node where
  | file (content : List UInt8)
  /-- A file that a running program was started from. It is read like any other file, and its
  content does not change while the program runs. -/
  | image (content : List UInt8)
  | directory (children : Forest)
  | link (target : Path)
  /-- The device that reads as empty and takes any content. -/
  | null

/-- The children of a directory with their names, in no particular order. -/
inductive Forest where
  | nil
  | cons (name : String) (node : Node) (rest : Forest)

end

instance : Inhabited Forest := ⟨.nil⟩

instance : Inhabited Node := ⟨.directory .nil⟩

namespace Forest

/-- The child of a name. -/
def get? (name : String) : Forest → Option Node
  | .nil => none
  | .cons n node rest => if n = name then some node else get? name rest

/-- Sets the child of a name, or removes it when there is no new one. -/
def set (name : String) (new : Option Node) : Forest → Forest
  | .nil => match new with
    | some node => .cons name node .nil
    | none => .nil
  | .cons n node rest =>
    if n = name then match new with
      | some node' => .cons n node' rest
      | none => rest
    else .cons n node (set name new rest)

theorem get?_set_some (name other : String) (node : Node) (forest : Forest) :
    (forest.set name (some node)).get? other =
      if name = other then some node else forest.get? other :=
  match forest with
  | .nil => by simp [set, get?]
  | .cons n child rest => by
    have ih := get?_set_some name other node rest
    by_cases hn : n = name
    · subst hn
      by_cases h : n = other <;> simp [set, get?, h]
    · by_cases h : n = other
      · subst h
        simp [set, get?, hn, Ne.symm hn]
      · simp [set, get?, hn, h, ih]

end Forest

namespace Node

/-- Whether a node is a directory. -/
def isDirectory : Node → Bool
  | .directory _ => true
  | _ => false

/-- Whether a node is a regular file. -/
def isFile : Node → Bool
  | .file _ => true
  | .image _ => true
  | _ => false

/-- The node at a location below a node. Links are not followed. -/
def at? : List String → Node → Option Node
  | [], node => some node
  | name :: rest, .directory children => (children.get? name).bind (at? rest)
  | _ :: _, _ => none

/-- Sets or removes the child of a name in the directory at a location. -/
def setChild (name : String) (new : Option Node) : List String → Node → Node
  | [], .directory children => .directory (children.set name new)
  | step :: rest, .directory children =>
    match children.get? step with
    | some child => .directory (children.set step (some (setChild name new rest child)))
    | none => .directory children
  | _, node => node

end Node

end AppLauncher.FileSystem
