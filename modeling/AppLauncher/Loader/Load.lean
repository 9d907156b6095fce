import AppLauncher.Loader.Lookup

/-!
# Loading classes

A layer that has not defined a class yet defines the package of the class from the first archive
that holds the class, its package directory and a manifest; then it asks its parent, and when the
parent does not have the class it takes it from the first of its urls that does.
-/

namespace AppLauncher

namespace Layer

/-- Whether an archive holds the entry of a class and the directory of its package. -/
def holdsClass (archive : Archive) (className packageName : String) :
    Attempt ArchiveError Bool := do
  match ← archive.find? (Entry.ofClass className) with
  | none => return false
  | some _ => return (← archive.find? (Entry.ofPackage packageName)).isSome

/-- The manifest of a packaged archive that is fit to define the package of a class. -/
def fittingManifest? (className packageName : String) (connection : Connection) :
    Action (Option (Url × Manifest)) := do
  if connection.archive.isPackaged then
    match ← (holdsClass connection.archive className packageName).run with
    | .ok true =>
      match ← connection.archive.manifest.run with
      | .ok (some manifest) => return some (connection.url, manifest)
      | .ok none => return none
      | .error cause =>
        noteUnreadable "manifest" connection.url cause
        return none
    | .ok false => return none
    | .error cause =>
      noteUnreadable "archive" connection.url cause
      return none
  else return none

/-- Defines the package of a class before the class is loaded, if some archive is fit for it. -/
def preparePackage (layer : Layer) (className : String) : Attempt LoaderError Unit := do
  match Text.beforeLastDot? className with
  | none => return ()
  | some packageName =>
    match ← (package? layer.id packageName : Action _) with
    | some _ => return ()
    | none =>
      match ← (layer.search (fittingManifest? className packageName) layer.urls : Action _) with
      | none => return ()
      | some (url, manifest) =>
        let _ ← converge layer.id packageName
          (← (definePackage layer.id packageName (some manifest) url).result)

/-- The entry of a class in an archive; an archive that cannot be read has none. -/
def classIn (entry : String) (connection : Connection) : Action (Option Connection) := do
  match ← (connection.archive.find? entry).run with
  | .ok (some found) => return if found.isDirectory then none else some connection
  | .ok none => return none
  | .error cause =>
    noteUnreadable "archive" connection.url cause
    return none

/-- Takes a class from the first url that has it. -/
def findClass (layer : Layer) (name : String) : Attempt LoaderError Class := do
  let entry := Entry.ofClass name
  match ← (layer.search (classIn entry) layer.urls : Action _) with
  | none => throw (.classNotFound name)
  | some connection =>
    let manifest : Action (Option Manifest) := do
      match ← connection.archive.manifest.run with
      | .ok manifest => return manifest
      | .error _ => return none
    defineClass layer.id name manifest connection.url connection.archive entry

end Layer

namespace Class

/-- The content of a class that has been read before. -/
def kept? (c : Class) : Action (Option (List UInt8)) := fun s => (s.contents.get? c.key, s)

/-- Keeps the content of a class. -/
def keep (c : Class) (content : List UInt8) : Action Unit :=
  modify fun s => { s with contents := s.contents.insert c.key content }

/-- Reads an entry that an archive is known to have, under the url that it was asked for. -/
def readEntry (url : Url) (archive : Archive) (entry : String) :
    Attempt ArchiveError (List UInt8) := do
  match ← archive.read? entry with
  | some content => pure content
  | none => throw (.missingEntry url entry)

/-- The content of a class, which is read once and then kept. A builtin class has none. -/
def content (c : Class) : Attempt LoaderError (List UInt8) := do
  match ← (c.kept? : Action _) with
  | some content => return content
  | none =>
    match c.source with
    | .builtin _ => return []
    | .archived url archive entry =>
      let content ← ExceptT.adapt (.classRead c.name) (readEntry url archive entry)
      (c.keep content : Action _)
      return content

end Class

namespace Loader

/-- What a loader that fails on every class stands for. -/
def failingUrl : Url := .directory ⟨"failing"⟩

/-- Finds a class without reading its content. -/
def find (loader : Loader) (name : String) : Attempt LoaderError Class := do
  match loader with
  | absent => throw (.classNotFound name)
  | builtin _ classes =>
    match classes.get? name with
    | some c => return c
    | none => throw (.classNotFound name)
  | failing _ => throw (.classRead name (.missingEntry failingUrl name))
  | isolated layer parent =>
    match ← (Layer.class? layer.id name : Action _) with
    | some c => return c
    | none =>
      layer.preparePackage name
      match ← (parent.find name).result with
      | .ok c => return c
      | .error (.classNotFound _) => layer.findClass name
      | .error cause => throw cause

/-- Loads a class, and reads its content if that is asked for. -/
def load (loader : Loader) (name : String) (resolve : Bool) : Attempt LoaderError Class := do
  let c ← loader.find name
  match loader with
  | isolated _ _ =>
    if resolve then
      let _ ← c.content
    return c
  | _ => return c

end Loader

end AppLauncher
