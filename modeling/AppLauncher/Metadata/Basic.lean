import AppLauncher.Loader.Lookup
import AppLauncher.Metadata.Properties
import AppLauncher.Text.Latin1

/-!
# Metadata of candidates

What is known about candidates without loading them. Each archive can have a properties resource
with an entry `candidate.key` for each value; a later resource overrides an earlier one.
-/

namespace AppLauncher

/-- The properties of all candidates. -/
structure Metadata where
  properties : Table String String

/-- Why metadata cannot be loaded. -/
inductive MetadataError where
  | read (resource : String) (source : ArchiveError)
deriving DecidableEq, Repr

/-- The cause in words. -/
def MetadataError.message : MetadataError → String
  | read resource source =>
    "Unable to load auto-configuration metadata from " ++ resource ++ ": " ++ source.message

namespace Metadata

/-- What metadata calls itself in logs. -/
def logTarget : String := "springtime_autoconfigure::metadata"

/-- The name of the resource that holds metadata. -/
def resourceName : String := "META-INF/spring-autoconfigure-metadata.properties"

/-- The metadata of entries, a later entry of a key replacing an earlier one. -/
def ofEntries (entries : List (String × String)) : Metadata := ⟨.ofList entries⟩

/-- The metadata of a properties text. -/
def ofText (text : String) : Metadata := ofEntries (Properties.parse text.toList)

/-- Whether a candidate has an entry of its own. -/
def wasProcessed (m : Metadata) (candidate : String) : Bool := m.properties.contains candidate

/-- A value of a candidate. -/
def get? (m : Metadata) (candidate key : String) : Option String :=
  m.properties.get? (candidate ++ "." ++ key)

/-- A value of a candidate that is a number of 32 bits. -/
def integer? (m : Metadata) (candidate key : String) : Option Int :=
  (m.get? candidate key).bind fun value => Text.signed? (Text.wordBound 31) (Text.trim value.toList)

/-- The items of a value of a candidate, separated by commas, in ascending order. -/
def items? (m : Metadata) (candidate key : String) : Option (List String) :=
  (m.get? candidate key).map fun value =>
    let items := ((Text.split ',' value.toList).map Text.trim).filter (· ≠ [])
    ((items.map String.ofList).eraseDups).mergeSort fun a b => a ≤ b

/-- The number of entries. -/
def size (m : Metadata) : Nat := m.properties.size

/-- Reads resources one after the other and adds their entries to what is known. -/
def readAll (known : Table String String) : List Resource → Attempt MetadataError Metadata
  | [] => pure ⟨known⟩
  | resource :: resources => do
    (Action.log .debug logTarget "Loading auto-configuration metadata"
      [.plain "resource" resource.text] : Action _)
    let content ← ExceptT.adapt (.read resource.text) resource.read
    let entries := Properties.parse (Text.Latin1.decode content)
    readAll (known.union (.ofList entries)) resources

/-- The metadata that a loader finds. -/
def load (loader : Loader) : Attempt MetadataError Metadata := do
  readAll .empty (← (loader.resources resourceName : Action _))

end Metadata

end AppLauncher
