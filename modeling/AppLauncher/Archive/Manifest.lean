import AppLauncher.Table
import AppLauncher.Text.Blank
import AppLauncher.Text.Caseless
import AppLauncher.Text.Pieces
import AppLauncher.Text.Utf8

/-!
# Manifests

A manifest is a main section and named sections of attributes. It is read line by line: blank lines
close a section, a line that starts with a space continues the attribute listed last, and lines that
are no attributes are skipped.
-/

namespace AppLauncher

/-- Attributes in the order in which their names were first set. Names that differ only in ASCII
case are one name. -/
structure Attributes where
  values : List (String × String)
deriving DecidableEq, Repr, Inhabited

namespace Attributes

/-- No attributes. -/
def empty : Attributes := ⟨[]⟩

/-- Whether there are no attributes. -/
def isEmpty (a : Attributes) : Bool := a.values.isEmpty

/-- The value of a name in a list of attributes. -/
def find? (name : String) : List (String × String) → Option String
  | [] => none
  | (key, value) :: rest => if Text.sameIgnoringCase key name then some value else find? name rest

/-- The value of an attribute. -/
def value? (a : Attributes) (name : String) : Option String := find? name a.values

/-- Writes an attribute in place, or at the end when the name is new. -/
def place (name value : String) : List (String × String) → List (String × String)
  | [] => [(name, value)]
  | (key, old) :: rest =>
    if Text.sameIgnoringCase key name then (key, value) :: rest
    else (key, old) :: place name value rest

/-- Sets the value of an attribute; the spelling and the place of a name stay those of its first
use. -/
def insert (a : Attributes) (name value : String) : Attributes := ⟨place name value a.values⟩

/-- Adds text to the value of the last attribute of a list. -/
def extendLast (more : String) : List (String × String) → List (String × String)
  | [] => []
  | [(key, value)] => [(key, value ++ more)]
  | first :: second :: rest => first :: extendLast more (second :: rest)

/-- Adds text to the value of the attribute listed last. -/
def appendToLast (a : Attributes) (more : String) : Attributes := ⟨extendLast more a.values⟩

/-- The attributes set one after the other. -/
def ofList (l : List (String × String)) : Attributes :=
  l.foldl (fun a (name, value) => a.insert name value) empty

end Attributes

/-- The attributes of an archive as a whole and of named parts of it. -/
structure Manifest where
  main : Attributes
  sections : Table String Attributes
deriving Inhabited

namespace Manifest

/-- The name of the manifest entry of an archive. -/
def entryName : String := "META-INF/MANIFEST.MF"

/-- The attribute that names a section, when it is the first of the section. -/
def sectionAttribute : String := "Name"

/-- The manifest without attributes. -/
def empty : Manifest := ⟨.empty, .empty⟩

/-- A manifest with main attributes only. -/
def ofMain (l : List (String × String)) : Manifest := ⟨.ofList l, .empty⟩

/-- The attributes of a section. -/
def attributes? (m : Manifest) (name : String) : Option Attributes := m.sections.get? name

/-- The value of an attribute in a section, or else in the main section. -/
def value? (m : Manifest) (sectionName name : String) : Option String :=
  ((m.attributes? sectionName).bind (·.value? name)).or (m.main.value? name)

/-- The section that lines are being added to. -/
inductive Current where
  | main
  /-- A section that has no name yet and may still get one while it has no attributes. -/
  | unnamed (attributes : Attributes)
  | named (name : String) (attributes : Attributes)
deriving DecidableEq, Repr

/-- A manifest while it is being read. -/
structure Reading where
  manifest : Manifest
  current : Current

namespace Reading

/-- Nothing read yet. -/
def start : Reading := ⟨.empty, .main⟩

/-- Closes the current section: a named one becomes part of the manifest. -/
def close (r : Reading) : Manifest :=
  match r.current with
  | .named name attributes =>
    { r.manifest with sections := r.manifest.sections.insert name attributes }
  | _ => r.manifest

/-- Reads a continuation of the attribute listed last. -/
def extend (r : Reading) (more : String) : Reading :=
  match r.current with
  | .main => { r with manifest := { r.manifest with main := r.manifest.main.appendToLast more } }
  | .unnamed attributes => { r with current := .unnamed (attributes.appendToLast more) }
  | .named name attributes => { r with current := .named name (attributes.appendToLast more) }

/-- Reads an attribute. -/
def assign (r : Reading) (name value : String) : Reading :=
  match r.current with
  | .main => { r with manifest := { r.manifest with main := r.manifest.main.insert name value } }
  | .unnamed attributes =>
    if attributes.isEmpty ∧ Text.sameIgnoringCase name sectionAttribute then
      { r with current := .named value attributes }
    else { r with current := .unnamed (attributes.insert name value) }
  | .named sectionName attributes =>
    { r with current := .named sectionName (attributes.insert name value) }

/-- Reads a line. -/
def line (r : Reading) : List Char → Reading
  | ' ' :: more => r.extend (String.ofList more)
  | [] => ⟨r.close, .unnamed .empty⟩
  | cs =>
    match Text.splitFirst ':' cs with
    | none => r
    | some (name, value) =>
      r.assign (String.ofList (Text.trim name)) (String.ofList (Text.trimStart value))

end Reading

/-- Reads a manifest from its lines. -/
def ofLines (lines : List (List Char)) : Manifest := (lines.foldl Reading.line .start).close

/-- Reads a manifest. Bytes that are no UTF-8 are read as replacement characters. -/
def parse (content : List UInt8) : Manifest := ofLines (Text.lines (Text.Utf8.decode content))

end Manifest

end AppLauncher
