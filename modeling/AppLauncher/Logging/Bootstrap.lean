import AppLauncher.Logging.Directive
import AppLauncher.Store

/-!
# Installing a logger

A process installs a logger at most once. An installation that fails changes nothing but the files,
so that another one can be tried, and after one that succeeds all others do nothing. One that panics
never gives up the turn that it has taken, so that no other one takes place. In the same way only
the first shutdown hook that is registered counts, and it runs at most once.
-/

namespace AppLauncher.Logging

/-- Where records go. -/
structure Logger where
  filter : Filter
  /-- The log file; without one records go to standard output. -/
  file : Option Path

/-- A hook that runs at the end of a process. -/
structure Hook where
  /-- The file that is brought to the disk. -/
  file : Option Path
deriving DecidableEq, Repr

/-- What a process knows about its logging. -/
structure Bootstrap where
  /-- Whether an installation has the turn. -/
  initialized : Bool
  logger : Option Logger
  hookRegistered : Bool
  /-- The registered hook, until it is taken to be run. -/
  hook : Option Hook
  /-- The hooks that have run, newest first. -/
  finished : List Hook

/-- What the logging of a process calls itself in logs. -/
def logTarget : String := "springtime_boot::logging"

namespace Bootstrap

/-- A process that has done nothing about its logging. -/
def start : Bootstrap := ⟨false, none, false, none, []⟩

/-- Takes the turn to install a logger; says whether it was free. -/
def takeTurn (b : Bootstrap) : Bool × Bootstrap := (!b.initialized, { b with initialized := true })

/-- Gives up the turn to install a logger. -/
def giveUpTurn (b : Bootstrap) : Unit × Bootstrap := ((), { b with initialized := false })

/-- Registers a hook, unless one has been registered before; says whether it does. -/
def registerHook (b : Bootstrap) (hook : Hook) : Bool × Bootstrap :=
  if b.hookRegistered then (false, b)
  else (true, { b with hookRegistered := true, hook := some hook })

/-- Takes the hook that is to be run. -/
def takeHook (b : Bootstrap) : Option Hook × Bootstrap := (b.hook, { b with hook := none })

/-- Notes that a hook has run. -/
def noteRun (b : Bootstrap) (hook : Hook) : Unit × Bootstrap :=
  ((), { b with finished := hook :: b.finished })

end Bootstrap

/-- Creates a log file, after the directories above it. What has been created stays when the rest
fails. -/
def createFile (path : Path) : Attempt FileSystem.Fault Unit := do
  Action.reshapeFiles (·.makeParents path)
  Action.changeFiles (·.append path [])

/-- Opens the log file of a configuration, if it has one. -/
def openFile (settings : Config.Settings) : Attempt Error (Option Path) :=
  match settings.logging.file.logFile? with
  | none => pure none
  | some path => do
    ExceptT.adapt (.logFile path) (createFile path)
    return some path

/-- The logger of a configuration. -/
def loggerOf (reader : FilterReader) (settings : Config.Settings) :
    Attempt (Interruption Error) Logger := do
  let filter ← ExceptT.mk (pure (filterOf reader settings))
  return ⟨filter, ← ExceptT.adapt .error (openFile settings)⟩

end AppLauncher.Logging
