import AppLauncher.Event
import AppLauncher.FileSystem.Resolve
import AppLauncher.Loader.Basic

/-!
# The store

All that changes while archives are opened and classes are loaded: the files, the caches, and the
definitions that loaders have made. Archives, handlers and loaders are values that carry numbers,
and the store says what belongs to a number. A cached index is kept together with the stream that
it is the index of (`Stream.Indexed`), so that whatever is found in the cache is true.
-/

namespace AppLauncher

/-- What a layer has defined. -/
structure Definitions where
  classes : Table String Class
  packages : Table String Package

/-- No definitions. -/
def Definitions.empty : Definitions := ⟨.empty, .empty⟩

/-- Something that another user of a layer does while a scripted archive is asked. -/
inductive Disturbance where
  | definePackage (layer : Nat) (name : String) (manifest : Option Manifest) (url : Url)
  /-- A class is loaded from an archive by its url and entry. -/
  | defineClass (layer : Nat) (name : String) (manifest : Option Manifest) (url : Url)
    (archive : Archive) (entry : String)

/-- What happens at the next calls of a scripted archive, one list per call. -/
structure Schedule where
  onEntry : List (List Disturbance)
  onManifest : List (List Disturbance)

/-- Nothing happens. -/
def Schedule.none : Schedule := ⟨[], []⟩

/-- All that changes. -/
structure Store where
  files : FileSystem
  /-- The number that is given away next. -/
  next : Nat
  /-- The indexes of packaged archives. -/
  indexes : Table Nat Stream.Indexed
  /-- The manifests that exploded archives have read. -/
  manifests : Table Nat (Option Manifest)
  schedules : Table Nat Schedule
  /-- The archives that handlers hold under their urls. -/
  handlers : Table Nat (Table Url.Key Archive)
  loaders : Table Nat Definitions
  /-- The contents of classes that have been read. -/
  contents : Table (Nat × String) (List UInt8)
  /-- The context loader. -/
  context : Loader
  /-- What an observer has seen, newest first. -/
  trail : List Event

namespace Store

/-- A store in which nothing has happened yet. Numbers below the first one given away are free for
loaders that are there from the start. -/
def start (files : FileSystem) (first : Nat) : Store where
  files := files
  next := first
  indexes := .empty
  manifests := .empty
  schedules := .empty
  handlers := .empty
  loaders := .empty
  contents := .empty
  context := .absent
  trail := []

instance : Inhabited Store := ⟨start default 0⟩

/-- What a layer has defined. -/
def definitions (s : Store) (layer : Nat) : Definitions := s.loaders.getD layer .empty

/-- The archives that a handler holds. -/
def held (s : Store) (handler : Nat) : Table Url.Key Archive := s.handlers.getD handler .empty

end Store

/-- A computation on the store. -/
abbrev Action := StateM Store

/-- A computation on the store that can fail; what it has done before stays done. -/
abbrev Attempt (ε : Type) := ExceptT ε Action

/-- Carries out a computation and gives its result, a failure included. -/
def Attempt.result {ε δ α : Type} (attempt : Attempt ε α) : Attempt δ (Except ε α) :=
  ExceptT.lift attempt.run

namespace Action

/-- Takes a number that has not been given away before. -/
def freshId : Action Nat := fun s => (s.next, { s with next := s.next + 1 })

/-- Adds to what an observer sees. -/
def emit (event : Event) : Action Unit :=
  modify fun s => { s with trail := event :: s.trail }

/-- Logs a record. -/
def log (severity : Severity) (target message : String) (fields : List Field) : Action Unit :=
  emit (.logged ⟨severity, target, message, fields⟩)

/-- Looks at the files. -/
def files : Action FileSystem := fun s => (s.files, s)

/-- Changes the files by an operation that may fail half way. -/
def reshapeFiles (operation : FileSystem → Except FileSystem.Fault Unit × FileSystem) :
    Attempt FileSystem.Fault Unit := fun s =>
  let (result, files) := operation s.files
  (result, { s with files })

/-- Changes the files by an operation that may fail, and then has changed nothing. -/
def changeFiles (operation : FileSystem → Except FileSystem.Fault FileSystem) :
    Attempt FileSystem.Fault Unit := fun s =>
  match operation s.files with
  | .ok files => (.ok (), { s with files })
  | .error fault => (.error fault, s)

/-- The context loader. -/
def context : Action Loader := fun s => (s.context, s)

/-- Installs a context loader and gives back the previous one. -/
def setContext (loader : Loader) : Action Loader := fun s =>
  (s.context, { s with context := loader })

end Action

end AppLauncher
