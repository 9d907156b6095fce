import AppLauncher.Config.Binding
import AppLauncher.Event
import AppLauncher.Interruption
import AppLauncher.Logging.Error

/-!
# Filter directives

Levels are turned into a list of directives, the general one first and those that count more behind
those that count less. What a filter of such directives lets pass is up to the reader of filters.
-/

namespace AppLauncher.Logging

/-! ### From a configuration to directives -/

/-- The name under which the general level is configured. -/
def rootName : String := "root"

/-- What becomes talkative when debugging. -/
def debugNames : List String := ["sql", "web", "springtime_boot"]

/-- What becomes talkative when tracing. -/
def traceNames : List String :=
  ["sql", "web", "springtime_boot", "springtime_loader", "springtime_autoconfigure", "hyper",
    "axum"]

/-- A directive: a level for a target, or for all targets. -/
structure Directive where
  target : Option String
  level : Level
deriving DecidableEq, Repr

namespace Directive

/-- The directive as it is written. -/
def text (d : Directive) : String :=
  match d.target with
  | some target => target ++ "=" ++ d.level.directive
  | none => d.level.directive

/-- The directives for a name: one for each target that the name stands for. -/
def ofName (groups : Groups) (name : String) (level : Level) : List Directive :=
  (groups.expand name).map fun target => ⟨some target, level⟩

/-- The names that the flags of a configuration make talkative, each with its level. -/
def flagged (settings : Config.Settings) : List (String × Level) :=
  if settings.trace then traceNames.map fun name => (name, .trace)
  else if settings.debug then debugNames.map fun name => (name, .debug)
  else []

/-- The names with a level of their own, in ascending order. -/
def named (settings : Config.Settings) : List (String × Level) :=
  (settings.logging.level.entries.filter fun entry => entry.1 ≠ rootName).mergeSort fun a b =>
    a.1 ≤ b.1

/-- The directives of a configuration: the general level, then the flags, then the names with a
level of their own. -/
def ofSettings (settings : Config.Settings) : List Directive :=
  let groups := Groups.standard.union settings.logging.group
  ⟨none, (settings.logging.level.get? rootName).getD .standard⟩ ::
    (flagged settings ++ named settings).flatMap fun (name, level) => ofName groups name level

end Directive

/-! ### From directives to a filter -/

/-- A filter of records: what it lets pass. -/
abbrev Filter := Record → Bool

/-- What reads directives, separated by commas, into a filter. It refuses directives that have no
meaning to it, and it may panic. -/
abbrev FilterReader := String → Except (Interruption Unit) Filter

/-- The directives of a configuration as they are given to be read. -/
def filterText (settings : Config.Settings) : String :=
  ",".intercalate ((Directive.ofSettings settings).map Directive.text)

/-- The filter of a configuration. -/
def filterOf (reader : FilterReader) (settings : Config.Settings) :
    Except (Interruption Error) Filter :=
  (reader (filterText settings)).mapError (.map fun () => .invalidFilter)

end AppLauncher.Logging
