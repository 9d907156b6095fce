import AppLauncher.Path
import AppLauncher.Table
import AppLauncher.Text.Blank

/-!
# Log levels, groups and files

What a configuration says about logging is put in these words.
-/

namespace AppLauncher.Logging

/-- The level of a log target. -/
inductive Level where
  | trace
  | debug
  | info
  | warn
  | error
  /-- Fatal errors are logged as errors. -/
  | fatal
  | off
deriving DecidableEq, Repr, Inhabited

namespace Level

/-- The place of a level among the levels, the most talkative first. -/
def rank : Level → Nat
  | trace => 0
  | debug => 1
  | info => 2
  | warn => 3
  | error => 4
  | fatal => 5
  | off => 6

/-- The level that counts where none is configured. -/
def standard : Level := info

/-- The name of a level. -/
def text : Level → String
  | trace => "TRACE"
  | debug => "DEBUG"
  | info => "INFO"
  | warn => "WARN"
  | error => "ERROR"
  | fatal => "FATAL"
  | off => "OFF"

/-- The level as filter directives have it. -/
def directive : Level → String
  | trace => "trace"
  | debug => "debug"
  | info => "info"
  | warn => "warn"
  | error => "error"
  | fatal => "error"
  | off => "off"

/-- The level of a name. Blanks around the name and the case of ASCII letters do not count, and
`false` is another name for `off`. -/
def ofText? (name : String) : Option Level :=
  match String.ofList ((Text.trim name.toList).map Char.toUpper) with
  | "TRACE" => some trace
  | "DEBUG" => some debug
  | "INFO" => some info
  | "WARN" => some warn
  | "ERROR" => some error
  | "FATAL" => some fatal
  | "OFF" => some off
  | "FALSE" => some off
  | _ => none

/-- Every level has its name. -/
theorem ofText?_text (l : Level) : ofText? l.text = some l := by cases l <;> decide +kernel

end Level

/-- Where the log file is, as configured. -/
structure FileConfig where
  name : Option String
  /-- The directory of the standard log file, for when no name is given. -/
  path : Option String
deriving DecidableEq, Repr, Inhabited

/-- The name of the log file in a directory of logs. -/
def standardFile : String := "springtime.log"

/-- The path of the log file. An empty name or directory counts as none, and without either there
is no log file. -/
def FileConfig.logFile? (c : FileConfig) : Option Path :=
  match c.name.filter (· ≠ ""), c.path.filter (· ≠ "") with
  | some name, _ => some ⟨name⟩
  | none, some directory => some ((Path.mk directory).join ⟨standardFile⟩)
  | none, none => none

/-- Groups of log targets that are configured together. -/
abbrev Groups := Table String (List String)

namespace Groups

/-- The groups that are there from the start. -/
def standard : Groups := .ofList
  [("web", ["springtime_web_axum", "axum", "tower_http"]),
    ("sql", ["springtime_migrate_refinery", "refinery_core", "sqlx"])]

/-- The targets that a name stands for: the members of its group, or else itself. -/
def expand (groups : Groups) (name : String) : List String := (groups.get? name).getD [name]

end Groups

end AppLauncher.Logging
