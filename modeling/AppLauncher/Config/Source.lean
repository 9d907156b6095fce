import AppLauncher.Config.Json
import AppLauncher.FileSystem.Access
import AppLauncher.Interruption
import AppLauncher.Text.Lowercase
import AppLauncher.Text.Utf8

/-!
# Where a configuration comes from

A configuration is merged from a file and from variables, which win. A name that reads as a path
sets what the path leads to; any other name is a key of its own.
-/

namespace AppLauncher.Config

/-- Why a configuration cannot be read, or a part of it cannot be bound. -/
inductive Error where
  | notFound
  | pathParse
  | fileParse
  /-- A value is not of the type that is asked for. -/
  | type
  /-- A value does not have the form that is asked for. -/
  | message
deriving DecidableEq, Repr

/-- The name of the configuration file. -/
def fileName : String := "springtime.json"

/-- What the names of variables begin with. -/
def variableStart : String := "springtime_"

/-- The table without entries. -/
def Value.emptyTable : Value := .table []

/-- Sets an entry of a source. -/
def setNamed (configuration : Value) (name : String) (value : Value) : Except Overrun Value :=
  match path? name with
  | some path => Value.put value path configuration
  | none => .ok (configuration.merge name value)

/-- Merges a source into a configuration. -/
def addSource (configuration : Value) (entries : List (String × Value)) : Except Overrun Value :=
  entries.foldlM (fun configuration (name, value) => setNamed configuration name value)
    configuration

/-- The entries of a configuration file; a file that holds no table has none. -/
def ofFile (content : List UInt8) : Except Error (List (String × Value)) :=
  match Json.parse? (Text.Utf8.decode content) with
  | some value => .ok value.entries
  | none => .error .fileParse

/-- Puts dots for the pairs of underscores in a name. -/
def dotted : List Char → List Char
  | '_' :: '_' :: rest => '.' :: dotted rest
  | c :: rest => c :: dotted rest
  | [] => []

/-- The name that a variable sets, if it sets one. -/
def variableName? (name : String) : Option String :=
  (Text.afterStart? variableStart.toList (Text.lowercase name.toList)).map fun rest =>
    String.ofList (dotted rest)

/-- The entries that variables set. -/
def ofVariables (assignments : List (String × String)) : List (String × Value) :=
  assignments.filterMap fun (name, value) =>
    (variableName? name).map fun name => (name, .text value)

/-- Merges sources one after the other. A list that cannot be made long enough is a defect of the
program that asks for it, and ends it. -/
def ofSources (sources : List (List (String × Value))) : Except (Interruption Error) Value :=
  (sources.foldlM addSource .emptyTable).mapError fun overrun => .panic overrun.message

/-- The entries of the configuration file, if there is one. -/
def readFile (files : FileSystem) : Except Error (List (String × Value)) :=
  match files.read ⟨fileName⟩ with
  | .ok content => ofFile content
  | .error _ => .ok []

/-- The configuration of a file, if there is one, and of variables. -/
def read (files : FileSystem) (assignments : List (String × String)) :
    Except (Interruption Error) Value := do
  let fromFile ← (readFile files).mapError .error
  ofSources [fromFile, ofVariables assignments]

end AppLauncher.Config
