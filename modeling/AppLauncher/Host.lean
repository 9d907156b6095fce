import AppLauncher.Launch.Launcher
import AppLauncher.Logging.Bootstrap
import AppLauncher.Text.Json

/-!
# Processes

A process has a store, a logger, and what it has written to its standard output and error output.
Whatever a computation on the store leaves behind is delivered in order: records to the logger if
they pass its filter, calls of entry points to standard output.
-/

namespace AppLauncher

/-- A process. -/
structure Host where
  store : Store
  logging : Logging.Bootstrap
  /-- The texts written to standard output, newest first. -/
  printed : List String
  /-- The texts written to error output, newest first. -/
  complaints : List String

/-- A computation in a process. -/
abbrev Procedure := StateM Host

namespace Host

/-- A process that has done nothing yet. -/
def start (files : FileSystem) : Host where
  store := .start files Loader.firstFreeId
  logging := .start
  printed := []
  complaints := []

/-- Writes a line to standard output. -/
def print (h : Host) (text : String) : Host := { h with printed := text :: h.printed }

/-- Writes a line to a file that is open for logging. -/
def printTo (h : Host) (file : Path) (text : String) : Host :=
  match h.store.files.append file (Text.Utf8.encode (text ++ "\n").toList) with
  | .ok files => { h with store.files := files }
  | .error _ => h

/-- Delivers a record. -/
def deliverRecord (h : Host) (record : Record) : Host :=
  match h.logging.logger with
  | none => h
  | some logger =>
    if logger.filter record then
      match logger.file with
      | some file => h.printTo file record.text
      | none => h.print record.text
    else h

/-- The line that a call of an entry point leaves on standard output. -/
def callLine (call : Call) : String :=
  "CALL \x7b\"args\":[" ++ ",".intercalate (call.arguments.map Text.Json.encode) ++
    "],\"context\":" ++ toString call.context ++ ",\"fn\":" ++ Text.Json.encode call.entryPoint ++
    "\x7d"

/-- Delivers what a computation has left behind. -/
def deliver (h : Host) : Event → Host
  | .logged record => h.deliverRecord record
  | .called call => h.print (callLine call)
  | .consulted _ _ => h

/-- Carries out a computation on the store and delivers what it leaves behind. -/
def perform {α : Type} (action : Action α) : Procedure (α × List Event) := fun h =>
  let (a, store) := action { h.store with trail := [] }
  let events := store.trail.reverse
  ((a, events), events.foldl deliver { h with store := { store with trail := [] } })

/-- Carries out a computation on the store. -/
def run {α : Type} (action : Action α) : Procedure α := return (← perform action).1

/-- Logs a record. -/
def log (severity : Severity) (target message : String) (fields : List Field) : Procedure Unit :=
  run (Action.log severity target message fields)

/-- Writes a line to error output. -/
def complain (text : String) : Procedure Unit :=
  modify fun h => { h with complaints := text :: h.complaints }

/-- Changes what a process knows about its logging. -/
def changeLogging {α : Type} (change : Logging.Bootstrap → α × Logging.Bootstrap) : Procedure α :=
  fun h =>
    let (a, logging) := change h.logging
    (a, { h with logging })

/-- Registers a shutdown hook; says whether it is the first one. -/
def registerHook (hook : Logging.Hook) : Procedure Bool := changeLogging (·.registerHook hook)

/-- Runs a hook: its file is brought to the disk, if it has one. -/
def finish (hook : Logging.Hook) : Procedure Unit := do
  changeLogging (·.noteRun hook)
  if let some file := hook.file then
    if let .error fault := (← get).store.files.sync file then
      log .debug Logging.logTarget "Cannot sync log file" [.plain "error" fault.message]

/-- Runs the shutdown hook, if one is registered and has not run. -/
def runHook : Procedure Unit := do
  if let some hook ← changeLogging Logging.Bootstrap.takeHook then finish hook

/-- Makes a logger the one of the process, unless there is one. -/
def setLogger (logger : Logging.Logger) : Procedure (Except Logging.Error Unit) := fun h =>
  match h.logging.logger with
  | some _ => (.error .install, h)
  | none => (.ok (), { h with logging.logger := some logger })

section

variable (reader : Logging.FilterReader)

/-- Installs the logger of a configuration. -/
def install (settings : Config.Settings) : ExceptT (Interruption Logging.Error) Procedure Unit := do
  let logger ← .mk (run (Logging.loggerOf reader settings).run)
  ExceptT.adapt .error (.mk (setLogger logger))
  if let some file := logger.file then
    (log .info Logging.logTarget "Logging to file" [.plain "log_file" file.text] : Procedure Unit)
  if settings.logging.registerHook then
    let _ ← (registerHook ⟨logger.file⟩ : Procedure Bool)

/-- Installs the logger of a configuration, unless that has been done before. -/
def initializeLogging (settings : Config.Settings) :
    Procedure (Except (Interruption Logging.Error) Unit) := do
  if ← changeLogging (·.takeTurn) then
    let result ← (install reader settings).run
    if let .error (.error _) := result then changeLogging (·.giveUpTurn)
    return result
  else
    log .debug Logging.logTarget "Logging already initialized" []
    return .ok ()

end

end Host

end AppLauncher
