import AppLauncher.Archive.Entry
import AppLauncher.Archive.Error
import AppLauncher.Archive.Stream

/-!
# Archives

An archive is a packaged stream, an exploded directory, or a script that answers each question as
written. Every archive that is opened has a number of its own, so that two archives with one content
stay apart.
-/

namespace AppLauncher

/-- What a script answers when the content of an entry is asked for. -/
inductive Content where
  | directory
  | bytes (bytes : List UInt8)
  | failing (text : String)
  /-- The entry is listed but has no content. -/
  | missing
deriving DecidableEq, Repr

/-- What a script answers when the manifest is asked for. -/
inductive ManifestAnswer where
  | absent
  | content (bytes : List UInt8)
  | failing (text : String)
deriving DecidableEq, Repr

/-- The answers of a scripted archive. -/
structure Script where
  url : Url
  packaged : Bool
  entries : List (String × Content)
  manifest : ManifestAnswer
  /-- Why entries cannot be listed or looked up, if they cannot. -/
  entryFault : Option String
deriving DecidableEq, Repr

namespace Script

/-- The failure of a scripted archive. -/
def fault (s : Script) (text : String) : ArchiveError := .malformed s.url (.scripted text)

/-- The entry that a scripted content belongs to. -/
def toEntry (name : String) (content : Content) : Entry := ⟨name, content = .directory⟩

/-- All entries of a script. -/
def listed (s : Script) : Except ArchiveError (List Entry) :=
  match s.entryFault with
  | some text => .error (s.fault text)
  | none => .ok (s.entries.map fun (name, content) => toEntry name content)

/-- The entry of a name. -/
def find? (s : Script) (name : String) : Except ArchiveError (Option Entry) :=
  s.listed.map fun entries => entries.find? (·.name = name)

/-- The content of an entry that is no directory. -/
def read? (s : Script) (name : String) : Except ArchiveError (Option (List UInt8)) :=
  match s.entries.find? (·.1 = name) with
  | some (_, .bytes bytes) => .ok (some bytes)
  | some (_, .failing text) => .error (s.fault text)
  | _ => .ok none

/-- The manifest. -/
def manifest? (s : Script) : Except ArchiveError (Option Manifest) :=
  match s.manifest with
  | .absent => .ok none
  | .content bytes => .ok (some (Manifest.parse bytes))
  | .failing text => .error (s.fault text)

end Script

/-- An open archive. -/
inductive Archive where
  | packaged (id : Nat) (stream : Stream)
  | exploded (id : Nat) (root : Path)
  | scripted (id : Nat) (script : Script)
deriving DecidableEq, Repr

namespace Archive

/-- The number of an archive. -/
def id : Archive → Nat
  | packaged id _ => id
  | exploded id _ => id
  | scripted id _ => id

/-- Where an archive is. -/
def url : Archive → Url
  | packaged _ stream => stream.url
  | exploded _ root => .directory root
  | scripted _ script => script.url

/-- Whether an archive is backed by a packaged artifact. -/
def isPackaged : Archive → Bool
  | packaged _ _ => true
  | exploded _ _ => false
  | scripted _ script => script.packaged

end Archive

end AppLauncher
