import AppLauncher.Host

/-!
# Applications

An application installs its logger, if it is configured to, and is launched. A process that is an
application reads its configuration from a file and variables, takes itself for the archive that it
launches, and ends with an exit code. The file that it runs from stays as it is: a log that is to go
into it cannot be opened.
-/

namespace AppLauncher.Application

/-- Why an application ends early. -/
inductive Error where
  | config (cause : Config.Error)
  | logging (cause : Logging.Error)
  | launch (cause : LauncherError)
deriving DecidableEq, Repr

/-- What is wrong with a configuration, in words. -/
def configText : Config.Error → String
  | .notFound => "a property is missing"
  | .pathParse => "a path is malformed"
  | .fileParse => "the file is malformed"
  | .type => "a value has the wrong type"
  | .message => "a value has the wrong form"

/-- The cause in words. -/
def Error.message : Error → String
  | config cause => "Error reading configuration: " ++ configText cause
  | logging cause => "Error initializing logging: " ++ cause.message
  | launch cause => "Launch error: " ++ cause.message

/-- How an application ends when it does not return. -/
abbrev Ending := Interruption Error

/-- What applications call themselves in logs. -/
def logTarget : String := "springtime_boot::application"

section

variable (reader : Logging.FilterReader) (call : Caller)

/-- Runs an application with a launcher and a configuration. -/
def run (launcher : Launcher) (settings : Config.Settings) (arguments : List String) :
    ExceptT Ending Procedure Unit := do
  if settings.installLogger then
    ExceptT.adapt (.map .logging) (.mk (Host.initializeLogging reader settings))
  (Host.log .info logTarget "Launching application..." [] : Procedure Unit)
  ExceptT.adapt (.map .launch) (.mk (Host.run (launcher.launch call arguments).run))

/-- The name of the file that a process runs from. -/
def imagePath : Path := ⟨"app"⟩

/-- The configuration of a process. -/
def readSettings (assignments : List (String × String)) :
    ExceptT Ending Procedure Config.Settings := do
  let files := (← (get : Procedure Host)).store.files
  let settings := do
    let configuration ← Config.read files assignments
    configuration.asSettings.mapError .error
  .mk (pure (settings.mapError (.map .config)))

/-- Runs the application that a process is, with the classes that are registered in it. -/
def runImage (registered : Builtins) (assignments : List (String × String))
    (arguments : List String) : ExceptT Ending Procedure Unit := do
  let settings ← readSettings assignments
  let archive ← ExceptT.adapt (fun cause => .error (.launch cause))
    (.mk (Host.run (Launcher.codeSource imagePath).run))
  run reader call (.ofArchive registered archive .jar) settings arguments

/-- A process that has just been started from its image. -/
def start (files : FileSystem) : Host := .start (files.occupy imagePath)

/-- The exit code after a panic. -/
def panicCode : Nat := 101

/-- Runs a process that is an application, and gives its exit code. -/
def execute (registered : Builtins) (assignments : List (String × String))
    (arguments : List String) : Procedure Nat := do
  match ← (runImage reader call registered assignments arguments).run with
  | .error (.panic _) => return panicCode
  | .error (.error cause) =>
    Host.runHook
    Host.log .error logTarget "Application failed to start" [.plain "error" cause.message]
    Host.complain cause.message
    return 1
  | .ok () =>
    Host.runHook
    return 0

end

end AppLauncher.Application
