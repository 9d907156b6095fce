import AppLauncher.Archive.Cache
import AppLauncher.Archive.Trailer
import AppLauncher.Loader.Definition

/-!
# Asking archives

The questions that every archive answers: its manifest, its entries, their contents, and the
archives nested in it.
-/

namespace AppLauncher.Archive

/-- Opens a packaged artifact: the file, or the payload that its trailer points to. -/
def open? (path : Path) : Attempt ArchiveError Archive := do
  let files ← (Action.files : Action _)
  match files.read path with
  | .error fault => throw (.io path fault)
  | .ok file =>
    let url := Url.artifact path
    match Trailer.payload file with
    | .error offset => throw (.malformed url (.payloadOffset offset))
    | .ok data =>
      (Action.log .trace logTarget "Opened packaged archive"
        [.plain "url" url.text, .plain "size" (toString data.length)] : Action _)
      pure (.packaged (← (Action.freshId : Action _)) ⟨url, data, none⟩)

/-- A packaged archive over a stream. -/
def ofStream (stream : Stream) : Action Archive := return .packaged (← Action.freshId) stream

/-- An exploded archive. -/
def ofDirectory (root : Path) : Action Archive := return .exploded (← Action.freshId) root

/-- Carries out what is due at a call of a scripted archive. -/
def disturb (id : Nat) (take : Schedule → List Disturbance × Schedule) : Action Unit := fun s =>
  match s.schedules.get? id with
  | none => ((), s)
  | some schedule =>
    let (due, later) := take schedule
    (due.forM Disturbance.perform) { s with schedules := s.schedules.insert id later }

/-- What is due at a call for an entry. -/
def Schedule.takeEntry (s : Schedule) : List Disturbance × Schedule :=
  (s.onEntry.headD [], { s with onEntry := s.onEntry.tail })

/-- What is due at a call for the manifest. -/
def Schedule.takeManifest (s : Schedule) : List Disturbance × Schedule :=
  (s.onManifest.headD [], { s with onManifest := s.onManifest.tail })

/-- The manifest, if there is one. -/
def manifest : Archive → Attempt ArchiveError (Option Manifest)
  | packaged id stream => return (← indexOf id stream).manifest
  | exploded id root => explodedManifest id root
  | scripted id script => do
    (disturb id Schedule.takeManifest : Action _)
    liftExcept script.manifest?

/-- All entries in the order of the archive. -/
def entries : Archive → Attempt ArchiveError (List Entry)
  | packaged id stream => return (← indexOf id stream).entries
  | exploded _ root => do liftExcept (Exploded.entries (← (Action.files : Action _)) root)
  | scripted _ script => liftExcept script.listed

/-- The entry of a name. -/
def find? (archive : Archive) (name : String) : Attempt ArchiveError (Option Entry) :=
  match archive with
  | packaged id stream => return ((← indexOf id stream).find? name).map (·.entry)
  | exploded _ root => return Exploded.find? (← (Action.files : Action _)) root name
  | scripted id script => do
    (disturb id Schedule.takeEntry : Action _)
    liftExcept (script.find? name)

/-- The content of an entry that is no directory. -/
def read? (archive : Archive) (name : String) : Attempt ArchiveError (Option (List UInt8)) :=
  match archive with
  | packaged id stream => do
    let item? := (← indexOf id stream).find? name
    return (item?.filter (!·.entry.isDirectory)).map (·.dataIn stream.data)
  | exploded _ root => do liftExcept (Exploded.read? (← (Action.files : Action _)) root name)
  | scripted _ script => liftExcept (script.read? name)

/-- Opens what is nested in an exploded archive. -/
def openNesting : Exploded.Nesting → Attempt ArchiveError Archive
  | .exploded root => (ofDirectory root : Action _)
  | .artifact path => open? path

/-- The archives nested under the entries that pass a filter, in the order of the archive. -/
def nestedAll (archive : Archive) (filter : Entry → Bool) : Attempt ArchiveError (List Archive) :=
  match archive with
  | packaged id stream => do
    let items := (← indexOf id stream).items.filter fun item => filter item.entry
    items.mapM fun item => (ofStream (stream.nested item) : Action _)
  | exploded _ root => do
    let entries ← liftExcept (Exploded.entries (← (Action.files : Action _)) root)
    ((entries.filter filter).filterMap (Exploded.nestingOf? root)).mapM openNesting
  | scripted _ _ => return []

/-- The archive nested under a name, which may lack the trailing slash of a directory. -/
def nested? (archive : Archive) (name : String) : Attempt ArchiveError (Option Archive) :=
  match archive with
  | packaged id stream => do
    match (← indexOf id stream).findLoosely? (Text.dropSlashes name) with
    | some item => some <$> (ofStream (stream.nested item) : Action _)
    | none => return none
  | exploded _ root => do
    match Exploded.nesting? (← (Action.files : Action _)) root name with
    | some nesting => some <$> openNesting nesting
    | none => return none
  | scripted _ _ => return none

/-- Drops the cached index. -/
def clearCache : Archive → Action Unit
  | packaged id stream => do
    Action.log .trace logTarget "Clearing packaged archive cache" [.plain "url" stream.url.text]
    modify fun s => { s with indexes := s.indexes.erase id }
  | _ => pure ()

end AppLauncher.Archive
