import AppLauncher.Text.Terminal

/-!
# What a run leaves behind

Everything that an observer of a run can see besides its answers: the records that it logs, the
entry points that it calls, and the lists that it shows to listed filters.
-/

namespace AppLauncher

/-- How serious a log record is. -/
inductive Severity where
  | error
  | warn
  | info
  | debug
  | trace
deriving DecidableEq, Repr

namespace Severity

/-- The name of a severity. -/
def text : Severity → String
  | error => "ERROR"
  | warn => "WARN"
  | info => "INFO"
  | debug => "DEBUG"
  | trace => "TRACE"

/-- How much a severity adds to a log: one for errors, more for what is less serious. -/
def rank : Severity → Nat
  | error => 1
  | warn => 2
  | info => 3
  | debug => 4
  | trace => 5

end Severity

/-- A named value of a log record. -/
inductive Field where
  | plain (name value : String)
  | quoted (name value : String)
  /-- A second message, of which only the value is shown. -/
  | message (value : String)
deriving DecidableEq, Repr

/-- The field as it is shown. -/
def Field.text : Field → String
  | plain name value => name ++ "=" ++ value
  | quoted name value => name ++ "=" ++ Text.Quoted.encode value
  | message value => Text.Terminal.encode value

/-- A log record. -/
structure Record where
  severity : Severity
  /-- The part of the program that the record is about. -/
  target : String
  message : String
  fields : List Field
deriving DecidableEq, Repr

/-- The record as it is shown. -/
def Record.text (r : Record) : String :=
  r.severity.text ++ " " ++ r.target ++ ": " ++
    " ".intercalate (Text.Terminal.encode r.message :: r.fields.map Field.text)

/-- The call of an entry point. -/
structure Call where
  entryPoint : String
  arguments : List String
  /-- Whether a context loader was installed. -/
  context : Bool
deriving DecidableEq, Repr

/-- Something that an observer of a run sees. -/
inductive Event where
  | logged (record : Record)
  | called (call : Call)
  /-- A listed filter is asked about candidates. -/
  | consulted (filter : Nat) (candidates : List (Option String))
deriving DecidableEq, Repr

end AppLauncher
