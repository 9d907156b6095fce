import AppLauncher.Launch.Builtin
import AppLauncher.Launch.Layout

/-!
# Launching

A launcher makes a loader over the archives of a class path and runs the entry point of a class
with that loader as the context loader. Whatever happens meanwhile, the context loader is
afterwards the one that it was before (`launchWith_context`).
-/

namespace AppLauncher

/-- What a launch starts from. -/
structure Launcher where
  /-- The name of the class whose entry point is run. -/
  mainClass : Attempt LauncherError String
  /-- The archives of the class path. -/
  classPath : Attempt LauncherError (List Archive)
  /-- The parent of the loader over the class path. -/
  parent : Loader

/-- What entry points do when they are called with arguments. -/
abbrev Caller := EntryPoint → List String → Attempt Crash Unit

namespace Launcher

/-- What launchers call themselves in logs. -/
def logTarget : String := "springtime_loader::launcher"

/-- The manifest attribute that names the class to start. -/
def startClass : String := "Start-Class"

/-- The archive of a code source: a directory or a packaged artifact. -/
def codeSource (path : Path) : Attempt LauncherError Archive := do
  let files ← (Action.files : Action _)
  if files.exists? path = false then throw (.codeSourceMissing path)
  else if files.isDirectory path then (Archive.ofDirectory path : Action _)
  else ExceptT.adapt .archive (Archive.open? path)

/-- The launcher of an executable archive, in a process with registered classes. -/
def ofArchive (registered : Builtins) (archive : Archive) (layout : Layout) : Launcher where
  mainClass := do
    match ← ExceptT.adapt .archive archive.manifest with
    | none => throw (.missingManifest archive.url)
    | some manifest =>
      match manifest.main.value? startClass with
      | none => throw (.missingStartClass archive.url)
      | some name => return name
  classPath := do
    liftExcept (layout.arrange (← ExceptT.adapt .archive (archive.nestedAll layout.isNested)))
  parent := .registry registered

/-- The launcher of a given class, class path and parent. -/
def fixed (mainClass : String) (archives : List Archive) (parent : Loader) : Launcher where
  mainClass := pure mainClass
  classPath := pure archives
  parent := parent

/-- The caller that records each call before it is made. -/
def recorded (call : Caller) : Caller := fun main arguments => do
  let context ← (Action.context : Action _)
  (Action.emit (.called ⟨main.name, arguments, context.id?.isSome⟩) : Action _)
  call main arguments

/-- Makes a loader over archives, which are given to its handler so that they are not opened
again. -/
def createLoader (parent : Loader) (archives : List Archive) : Action Loader := do
  let handler ← Handler.create
  archives.forM (Handler.register handler)
  let urls := archives.map Archive.url
  Action.log .debug logTarget "Creating class loader"
    [.plain "urls" (", ".intercalate (urls.map Url.text))]
  Loader.ofUrls urls handler parent

/-- Runs the entry point of a class that the context loader finds. -/
def runMain (call : Caller) (mainClass : String) (arguments : List String) :
    Attempt (Interruption LauncherError) Unit := do
  match ← (Action.context : Action _) with
  | .absent => throw (.error .missingContextLoader)
  | loader =>
    let c ← ExceptT.adapt .ofLoader (loader.load mainClass false)
    match c.main? with
    | none => throw (.error (.mainMethodNotFound mainClass))
    | some main =>
      (Action.log .info logTarget "Starting application"
        [.plain "main_class" mainClass] : Action _)
      ExceptT.adapt .ofCrash (call main arguments)

/-- Carries out a computation with a context loader, and puts the previous one back in any case. -/
def withContext {ε α : Type} (loader : Loader) (attempt : Attempt ε α) : Attempt ε α := fun s =>
  let (result, after) := attempt { s with context := loader }
  (result, { after with context := s.context })

/-- Runs the entry point of a class with a loader as the context loader. -/
def launchWith (call : Caller) (arguments : List String) (mainClass : String) (loader : Loader) :
    Attempt (Interruption LauncherError) Unit :=
  withContext loader (runMain call mainClass arguments)

/-- Launches an application. -/
def launch (launcher : Launcher) (call : Caller) (arguments : List String) :
    Attempt (Interruption LauncherError) Unit := do
  let archives ← ExceptT.adapt .error launcher.classPath
  let loader ← (createLoader launcher.parent archives : Action _)
  let mainClass ← ExceptT.adapt .error launcher.mainClass
  launchWith call arguments mainClass loader

/-- A launch leaves the context loader as it was. -/
theorem launchWith_context (call : Caller) (arguments : List String) (mainClass : String)
    (loader : Loader) (s : Store) :
    (launchWith call arguments mainClass loader s).2.context = s.context := rfl

end Launcher

end AppLauncher
