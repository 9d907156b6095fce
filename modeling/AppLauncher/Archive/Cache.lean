import AppLauncher.Archive.Exploded
import AppLauncher.Store

/-!
# Cached indexes and manifests

A packaged archive is indexed when an index is first needed, and again after its cache has been
cleared. A cached index counts for an archive only if it belongs to the very stream of the archive,
so looking into the cache gives what indexing gives (`Stream.Indexed.eq_of_find?`).
-/

namespace AppLauncher

/-- Equality of streams, which is immediate for a stream that is compared with itself. -/
def Stream.sameAs (s t : Stream) : Decidable (s = t) :=
  withPtrEqDecEq s t fun _ => inferInstance

/-- The cached index, if it belongs to the given stream. -/
def Stream.Indexed.find? (cell : Stream.Indexed) (stream : Stream) : Option Index :=
  match cell.stream.sameAs stream with
  | isTrue _ => some cell.index
  | isFalse _ => none

/-- An index found in a cache is the index of the stream. -/
theorem Stream.Indexed.eq_of_find? {cell : Stream.Indexed} {stream : Stream} {index : Index}
    (h : cell.find? stream = some index) : stream.index = .ok index := by
  unfold find? at h
  split at h
  · rename_i heq _
    cases h
    exact heq ▸ cell.index_eq
  · cases h

namespace Archive

/-- What archives call themselves in logs. -/
def logTarget : String := "springtime_loader::archive::packaged"

/-- The index of a packaged archive, built now unless it is cached. Nothing is cached for a stream
that has no index. -/
def indexOf (id : Nat) (stream : Stream) : Attempt ArchiveError Index := fun s =>
  match (s.indexes.get? id).bind (·.find? stream) with
  | some index => (.ok index, s)
  | none =>
    match h : stream.index with
    | .ok index =>
      let s := { s with indexes := s.indexes.insert id ⟨stream, index, h⟩ }
      let ((), s) := Action.log .trace logTarget "Indexed packaged archive"
        [.plain "url" stream.url.text, .plain "entries" (toString index.items.length)] s
      (.ok index, s)
    | .error cause => (.error cause, s)

/-- The manifest of an exploded archive, which is read once and then kept. A failed reading is
tried again. -/
def explodedManifest (id : Nat) (root : Path) : Attempt ArchiveError (Option Manifest) := fun s =>
  match s.manifests.get? id with
  | some manifest => (.ok manifest, s)
  | none =>
    match Exploded.manifest s.files root with
    | .ok manifest => (.ok manifest, { s with manifests := s.manifests.insert id manifest })
    | .error cause => (.error cause, s)

end Archive

end AppLauncher
