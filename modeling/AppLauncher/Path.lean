import AppLauncher.Text.Pieces

/-!
# Paths

A path keeps the text it was written as. What it denotes is its list of components: empty pieces
and inner `.` pieces do not count, a leading slash, a leading `.` and every `..` do.
-/

namespace AppLauncher

/-- A path, as written. -/
structure Path where
  text : String
deriving DecidableEq, Repr, Inhabited

namespace Path

/-- One step of a path. -/
inductive Component where
  | root
  | current
  | parent
  | name (text : String)
deriving DecidableEq, Repr

/-- Whether a component is an ordinary name. -/
def Component.isName : Component → Bool
  | .name _ => true
  | _ => false

/-- The pieces of a path between its slashes. -/
def pieces (p : Path) : List String := (Text.split '/' p.text.toList).map String.ofList

/-- Whether a path starts at the root. -/
def isAbsolute (p : Path) : Bool := p.text.toList.head? = some '/'

/-- The component that a piece stands for, unless the piece does not count. -/
def component? (piece : String) : Option Component :=
  if piece = "" ∨ piece = "." then none
  else if piece = ".." then some .parent
  else some (.name piece)

/-- The components of a path. -/
def components (p : Path) : List Component :=
  let rest := p.pieces.filterMap component?
  if p.isAbsolute then .root :: rest
  else if p.pieces.head? = some "." then .current :: rest
  else rest

/-- The path of something below a directory. An absolute path stands for itself, and the empty
path adds a slash. -/
def join (directory relative : Path) : Path :=
  if relative.isAbsolute then relative
  else if directory.text = "" ∨ Text.endsWithSlash directory.text then
    ⟨directory.text ++ relative.text⟩
  else ⟨directory.text ++ "/" ++ relative.text⟩

end Path

end AppLauncher
