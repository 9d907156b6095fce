import AppLauncher.Archive.Entry
import AppLauncher.Archive.Error
import AppLauncher.Archive.Manifest
import AppLauncher.Tar.Reader

/-!
# Packaged streams and their indexes

The content of a packaged archive is a tar stream, or the part of one below a directory. Its index
lists the files and directories in stream order, finds the last of a name, and holds the manifest of
the whole stream, whatever directory is viewed. A stream with any fault has no index.
-/

namespace AppLauncher

/-- The content of a packaged archive. -/
structure Stream where
  url : Url
  data : List UInt8
  /-- The directory of the stream that is viewed, when it is not the whole stream. -/
  directory : Option String
deriving DecidableEq, Repr, Inhabited

/-- An entry and the range of its data in the stream. -/
structure Item where
  entry : Entry
  start : Nat
  stop : Nat
deriving DecidableEq, Repr

namespace Item

/-- The entry that a member stands for: files and directories that do not name the archive
itself. -/
def ofMember? (m : Tar.Member) : Option Item :=
  let raw := String.ofList (Text.Utf8.decode m.name)
  let item (isDirectory : Bool) : Option Item :=
    (Entry.normalName? raw isDirectory).map fun name =>
      ⟨⟨name, isDirectory⟩, m.start, m.start + m.size⟩
  match m.kind with
  | .file => item false
  | .directory => item true
  | _ => none

/-- The entry as seen from a directory, unless it does not lie below it. -/
def within? (directory : Option String) (item : Item) : Option Item :=
  match directory with
  | none => some item
  | some directory =>
    match Text.afterStart? directory.toList item.entry.name.toList with
    | some [] => none
    | some relative => some { item with entry.name := String.ofList relative }
    | none => none

/-- The bytes of an item. -/
def dataIn (item : Item) (data : List UInt8) : List UInt8 :=
  (data.drop item.start).take (item.stop - item.start)

end Item

/-- The entries of a packaged archive, by position and by name. -/
structure Index where
  items : List Item
  /-- The position of the last item of each name. -/
  positions : Table String Nat
  manifest : Option Manifest

namespace Index

/-- The position of the last item of each name, for items from a given position on. -/
def positionsFrom (start : Nat) (items : List Item) (found : Table String Nat) :
    Table String Nat :=
  match items with
  | [] => found
  | item :: rest => positionsFrom (start + 1) rest (found.insert item.entry.name start)

/-- The index of a list of items. -/
def ofItems (items : List Item) (manifest : Option Manifest) : Index :=
  ⟨items, positionsFrom 0 items .empty, manifest⟩

/-- The last item of a name. -/
def find? (index : Index) (name : String) : Option Item :=
  (index.positions.get? name).bind fun i => index.items[i]?

/-- The item of a name that may lack the trailing slash of a directory. -/
def findLoosely? (index : Index) (name : String) : Option Item :=
  (index.find? name).or (index.find? (name ++ "/"))

/-- The entries in order. -/
def entries (index : Index) : List Entry := index.items.map (·.entry)

end Index

namespace Stream

/-- The items of the whole stream. -/
def items (s : Stream) : List Item := (Tar.read s.data).members.filterMap Item.ofMember?

/-- The manifest of the whole stream: the last file of its name. -/
def manifest (s : Stream) : Option Manifest :=
  (s.items.findRev? fun item => item.entry.name = Manifest.entryName).map fun item =>
    Manifest.parse (item.dataIn s.data)

/-- What keeps a stream from being indexed. Items are checked as they are read, so one out of
bounds is noticed before a fault behind it. -/
def malformation? (s : Stream) : Option Malformation :=
  match s.items.find? fun item => item.stop > s.data.length with
  | some item => some (.outOfBounds item.entry.name)
  | none => (Tar.read s.data).fault.map .tar

/-- The index of a stream. -/
def index (s : Stream) : Except ArchiveError Index :=
  match s.malformation? with
  | some reason => .error (.malformed s.url reason)
  | none => .ok (.ofItems (s.items.filterMap (Item.within? s.directory)) s.manifest)

/-- The stream that an item holds: a view of the same bytes for a directory, the bytes of the item
for a file. -/
def nested (s : Stream) (item : Item) : Stream :=
  if item.entry.isDirectory then
    ⟨s.url.nested item.entry.name, s.data, some (s.directory.getD "" ++ item.entry.name)⟩
  else ⟨s.url.nested item.entry.name, item.dataIn s.data, none⟩

/-- An index together with the stream that it is the index of. -/
structure Indexed where
  stream : Stream
  index : Index
  index_eq : stream.index = .ok index

end Stream

end AppLauncher
