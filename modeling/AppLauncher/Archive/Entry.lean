import AppLauncher.Path

/-!
# Entries and their names

An archive lists its entries under normal names: pieces joined by slashes, without a leading `./`
or slash, and with a trailing slash exactly for directories.
-/

namespace AppLauncher

/-- One named item of an archive. -/
structure Entry where
  name : String
  isDirectory : Bool
deriving DecidableEq, Repr

namespace Entry

/-- The text without the steps `./` at its start. -/
def stripCurrent : List Char → List Char
  | '.' :: '/' :: rest => stripCurrent rest
  | cs => cs

/-- The normal form of a raw entry name, unless it names the archive itself: backslashes count as
slashes, and the steps `./` and the slashes around the name do not count. -/
def normalName? (raw : String) (isDirectory : Bool) : Option String :=
  let name := Text.dropTrailing '/'
    ((stripCurrent (Text.replaceChar '\\' '/' raw.toList)).dropWhile (· = '/'))
  if name = [] ∨ name = ['.'] then none
  else some (String.ofList (if isDirectory then name ++ ['/'] else name))

/-- Whether a name stays within its archive: all its components are ordinary names. -/
def isSafe (name : String) : Bool := (Path.mk name).components.all Path.Component.isName

/-- The name of the entry that holds a class. -/
def ofClass (className : String) : String := Text.dotsToSlashes className ++ ".class"

/-- The name of the directory of a package. -/
def ofPackage (packageName : String) : String := Text.dotsToSlashes packageName ++ "/"

end Entry

end AppLauncher
