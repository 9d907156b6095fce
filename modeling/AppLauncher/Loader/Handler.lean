import AppLauncher.Archive.Access

/-!
# Handlers

A handler opens urls. It holds every archive that it has opened or been given, so that a url is
opened once. When a nested archive cannot be reached through the held artifact, a quick connection
gives up, while a thorough one reads the artifact again from disk and reports why that fails.
-/

namespace AppLauncher

/-- How hard a handler tries. -/
inductive Effort where
  | quick
  | thorough
deriving DecidableEq, Repr

/-- An open connection: the url that was asked for and its archive. -/
structure Connection where
  url : Url
  archive : Archive
deriving DecidableEq, Repr

namespace Handler

/-- What handlers call themselves in logs. -/
def logTarget : String := "springtime_loader::archive::handler"

/-- A new handler. -/
def create : Action Nat := Action.freshId

/-- The archive that a handler holds under a url. -/
def held? (handler : Nat) (url : Url) : Action (Option Archive) := fun s =>
  ((s.held handler).get? url.key, s)

/-- Holds an archive under a url; `change` says what becomes of one held there before. -/
def hold (handler : Nat)
    (change : Table Url.Key Archive → Table Url.Key Archive) : Action Unit :=
  modify fun s => { s with handlers := s.handlers.insert handler (change (s.held handler)) }

/-- Gives an open archive to a handler, which holds it from now on in place of another one. -/
def register (handler : Nat) (archive : Archive) : Action Unit := do
  Action.log .trace logTarget "Registering archive" [.plain "url" archive.url.text]
  hold handler fun archives => archives.insert archive.url.key archive

/-- Walks from an archive into the archives nested in it. -/
def descend (archive : Archive) : List String → Attempt ArchiveError Archive
  | [] => pure archive
  | name :: names => do
    match ← archive.nested? name with
    | some nested => descend nested names
    | none => throw (.missingEntry archive.url name)

/-- The artifact of a path: the held one if the handler may use it, or else the file. -/
def artifact (handler : Nat) (useHeld : Bool) (root : Path) : Attempt ArchiveError Archive := do
  match ← (held? handler (.artifact root) : Action _) with
  | some archive => if useHeld then pure archive else Archive.open? root
  | none => Archive.open? root

/-- Opens a url without looking for it among the held archives. Failures of packaged archives have
a cause, missing directories have none. -/
def resolve (handler : Nat) (useHeld : Bool) (url : Url) :
    Attempt (Option ArchiveError) Archive :=
  match url with
  | .directory path => do
    if (← (Action.files : Action _)).isDirectory path then (Archive.ofDirectory path : Action _)
    else throw none
  | .packaged root nested =>
    ExceptT.adapt some do descend (← artifact handler useHeld root) nested

/-- Holds a newly opened archive, unless its url is taken, and connects to it. -/
def connected (handler : Nat) (url : Url) (archive : Archive) : Action Connection := do
  hold handler fun archives => archives.insertIfNew url.key archive
  return ⟨url, archive⟩

/-- Opens a url. -/
def connect (handler : Nat) (effort : Effort) (url : Url) : Attempt ConnectionError Connection := do
  match ← (held? handler url : Action _) with
  | some archive => return ⟨url, archive⟩
  | none =>
    match ← (resolve handler true url).result with
    | .ok archive => (connected handler url archive : Action _)
    | .error cause =>
      match effort with
      | .quick =>
        (Action.log .trace logTarget "Fast connection failure" [.plain "url" url.text] : Action _)
        throw (.notFound url)
      | .thorough =>
        (Action.log .debug logTarget "Cached resolution failed, re-reading from disk"
          [.plain "url" url.text, .plain "error" (structureText cause)] : Action _)
        match ← (resolve handler false url).result with
        | .ok archive => (connected handler url archive : Action _)
        | .error again =>
          match again.or cause with
          | some source => throw (.archive url source)
          | none => throw (.notFound url)
where
  /-- The structure of a cause that may be missing. -/
  structureText : Option ArchiveError → String
    | some cause => "Some(" ++ cause.structureText ++ ")"
    | none => "None"

end Handler

end AppLauncher
