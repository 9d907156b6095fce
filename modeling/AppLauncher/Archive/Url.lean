import AppLauncher.Path

/-!
# Where an archive is

An archive is a directory, or it lies in a packaged artifact: the artifact itself, or an entry of
it, or an entry of that, to any depth. Two urls locate the same archive when they have one `key`.
-/

namespace AppLauncher

/-- The location of an archive. -/
inductive Url where
  | directory (path : Path)
  /-- An artifact, and the names of the entries that lead into it, outermost first. -/
  | packaged (root : Path) (nested : List String)
deriving DecidableEq, Repr, Inhabited

namespace Url

/-- What a url denotes: the spelling of its path does not matter. -/
inductive Key where
  | directory (path : List Path.Component)
  | packaged (root : List Path.Component) (nested : List String)
deriving DecidableEq, Repr

/-- The archive that a url denotes. -/
def key : Url → Key
  | .directory path => .directory path.components
  | .packaged root nested => .packaged root.components nested

/-- Whether two urls denote one archive. -/
def same (u v : Url) : Bool := u.key = v.key

/-- The url of a whole artifact. -/
def artifact (root : Path) : Url := .packaged root []

/-- The url of the archive under an entry name. Slashes at the end of the name do not count. -/
def nested (url : Url) (name : String) : Url :=
  let name := Text.dropSlashes name
  match url with
  | .directory path => .directory (path.join ⟨name⟩)
  | .packaged root names => .packaged root (names ++ [name])

/-- The url of the artifact that an archive lies in. -/
def root : Url → Url
  | .directory path => .directory path
  | .packaged root _ => artifact root

/-- Whether an archive lies in a packaged artifact. -/
def isPackaged : Url → Bool
  | .directory _ => false
  | .packaged _ _ => true

/-- The url as it is shown: each step into an artifact ends with `!/`. -/
def text : Url → String
  | .directory path => "file:" ++ path.text ++ "/"
  | .packaged root nested =>
    "jar:file:" ++ root.text ++ "!/" ++ String.join (nested.map fun name => name ++ "!/")

end Url

end AppLauncher
