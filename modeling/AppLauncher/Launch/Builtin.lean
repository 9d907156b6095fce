import AppLauncher.Launch.Error
import AppLauncher.Loader.Load

/-!
# Builtin classes

Loaders of builtin classes, and the one of the classes that are registered in a process, which all
of its launches share.
-/

namespace AppLauncher

namespace Loader

/-- What loaders of builtin classes call themselves in logs. -/
def builtinLogTarget : String := "springtime_loader::entry_point"

/-- A builtin class. -/
def builtinClass (id : Nat) (name : String) (main : Option EntryPoint) : Class :=
  ⟨id, name, .builtin main, none⟩

/-- The classes of definitions; the first definition of a name counts. -/
def builtinClasses (id : Nat) (definitions : Builtins) : Table String Class :=
  definitions.foldl
    (fun classes (name, main) => classes.insertIfNew name (builtinClass id name main)) .empty

/-- Logs the definitions one after the other, given the names that came before. -/
def logDefinitions (before : List String) : Builtins → Action Unit
  | [] => pure ()
  | (name, _) :: rest => do
    if before.contains name then
      Action.log .warn builtinLogTarget "Ignoring duplicate builtin class definition"
        [.quoted "name" name]
    else
      Action.log .debug builtinLogTarget "Registering builtin class" [.quoted "name" name]
    logDefinitions (name :: before) rest

/-- A new loader of builtin classes. -/
def ofDefinitions (definitions : Builtins) : Action Loader := do
  let id ← Action.freshId
  logDefinitions [] definitions
  return .builtin id (builtinClasses id definitions)

/-- The number of the loader of registered classes. -/
def registryId : Nat := 0

/-- The first number that is free for archives, handlers and other loaders. -/
def firstFreeId : Nat := registryId + 1

/-- The loader of the classes that are registered in a process, which all of its launches share. It
is there from the start, and nothing is logged when it is used for the first time. -/
def registry (registered : Builtins) : Loader :=
  .builtin registryId (builtinClasses registryId registered)

/-- A new loader that fails on every class. -/
def ofFailure : Action Loader := return .failing (← Action.freshId)

/-- A new layer over a parent. -/
def ofUrls (urls : List Url) (handler : Nat) (parent : Loader) : Action Loader :=
  return .isolated ⟨← Action.freshId, urls, handler⟩ parent

end Loader

end AppLauncher
