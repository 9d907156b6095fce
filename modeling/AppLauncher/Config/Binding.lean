import AppLauncher.Config.Source
import AppLauncher.Decimal.Shortest
import AppLauncher.Logging.Level

/-!
# Binding

Parts of a configuration are read as typed values. Texts are read as numbers and truth values where
those are asked for, and numbers and truth values as texts; a structure is read from a table by the
names of its fields, or from a list by their order.
-/

namespace AppLauncher.Config

/-- What a binding gives. -/
abbrev Bound (α : Type) := Except Error α

namespace Value

/-- A text with its ASCII letters in lower case. -/
def folded (s : String) : String := String.ofList (s.toList.map Char.toLower)

/-- The truth value that a word stands for. -/
def ofWord? : String → Option Bool
  | "true" => some true
  | "on" => some true
  | "yes" => some true
  | "false" => some false
  | "off" => some false
  | "no" => some false
  | _ => none

/-- Reads a truth value. -/
def asBool : Value → Bound Bool
  | .bool b => .ok b
  | .integer i => .ok (i ≠ 0)
  | .float x => .ok (x != 0)
  | .text s =>
    match folded s with
    | "1" => .ok true
    | "0" => .ok false
    | word => match ofWord? word with
      | some b => .ok b
      | none => .error .type
  | _ => .error .type

/-- The number that stands for a truth value. -/
def ofBool (b : Bool) : Nat := if b then 1 else 0

/-- Reads a number of 64 bits with a sign. -/
def asInteger : Value → Bound Int
  | .integer i => .ok i
  | .bool b => .ok (ofBool b)
  | .float x => .ok x.round.toInt64.toInt
  | .text s =>
    match ofWord? (folded s) with
    | some b => .ok (ofBool b)
    | none => match Text.signed? (Text.wordBound 63) s.toList with
      | some i => .ok i
      | none => .error .type
  | _ => .error .type

/-- Reads a number of 64 bits without a sign. -/
def asUnsigned : Value → Bound Nat
  | .integer i => if 0 ≤ i then .ok i.toNat else .error .type
  | .bool b => .ok (ofBool b)
  | .float x => .ok x.round.toUInt64.toNat
  | .text s =>
    match ofWord? (folded s) with
    | some b => .ok (ofBool b)
    | none => match Text.unsigned? 10 (Text.wordBound 64) s.toList with
      | some n => .ok n
      | none => .error .type
  | _ => .error .type

/-- Reads a number of 16 bits: the lowest ones of a number of 64 bits. -/
def asPort (v : Value) : Bound Nat := (v.asUnsigned).map (· % Text.wordBound 16)

/-- Reads a text. -/
def asText : Value → Bound String
  | .text s => .ok s
  | .bool b => .ok (toString b)
  | .integer i => .ok (toString i)
  | .float x => .ok (Decimal.floatText x)
  | _ => .error .type

/-- Reads a list, given how its items are read. -/
def asList {α : Type} (read : Value → Bound α) : Value → Bound (List α)
  | .list items => items.mapM read
  | _ => .error .message

/-- Reads a table, given how its values are read. -/
def asTable {α : Type} (read : Value → Bound α) : Value → Bound (Table String α)
  | .table entries => return .ofList (← entries.mapM fun (key, value) => return (key, ← read value))
  | _ => .error .message

/-- Reads a value that may be missing or null. -/
def optional {α : Type} (read : Value → Bound α) : Option Value → Bound (Option α)
  | none => .ok none
  | some .null => .ok none
  | some v => some <$> read v

/-- Reads a value that must not be missing. -/
def required {α : Type} (read : Value → Bound α) : Option Value → Bound α
  | none => .error .message
  | some v => read v

/-- A field of a structure, by its name in a table or by its place in a list. A list has to have all
the fields. -/
def field {α : Type} (name : String) (place : Nat) (read : Option Value → Bound α) :
    Value → Bound α
  | .table entries => read (find? name entries)
  | .list items => match items[place]? with
    | some item => read (some item)
    | none => .error .message
  | _ => .error .message

/-- Reads a log level. -/
def asLevel (v : Value) : Bound Logging.Level := do
  match Logging.Level.ofText? (← v.asText) with
  | some level => return level
  | none => .error .message

/-- Reads the place of the log file. -/
def asFileConfig (v : Value) : Bound Logging.FileConfig := do
  let name ← v.field "name" 0 (optional asText)
  let path ← v.field "path" 1 (optional asText)
  return ⟨name, path⟩

end Value

/-- Where a server listens. -/
structure Server where
  port : Nat
  address : Option String
deriving DecidableEq, Repr, Inhabited

/-- Reads where a server listens. -/
def Value.asServer (v : Value) : Bound Server := do
  let port ← v.field "port" 0 (required asPort)
  let address ← v.field "address" 1 (optional asText)
  return ⟨port, address⟩

/-- Reads the part of a configuration that a path leads to. -/
def bind {α : Type} (configuration : Value) (path : String) (read : Value → Bound α) : Bound α :=
  match path? path with
  | none => .error .pathParse
  | some steps =>
    match configuration.get? steps with
    | some value => read value
    | none => .error .notFound

/-- A bound value, or a standard one when there is nothing to bind. -/
def orStandard {α : Type} (standard : α) : Bound α → Bound α
  | .error .notFound => .ok standard
  | bound => bound

/-! ### The configuration of an application -/

/-- What is configured about logging. -/
structure LoggingSettings where
  /-- The levels of log targets and groups. -/
  level : Table String Logging.Level
  group : Logging.Groups
  file : Logging.FileConfig
  /-- Whether the log file is brought to the disk at the end. -/
  registerHook : Bool

/-- What is configured about an application. -/
structure Settings where
  /-- Whether a logger is installed. -/
  installLogger : Bool
  debug : Bool
  trace : Bool
  logging : LoggingSettings

/-- The configuration of logging where nothing is configured. -/
def LoggingSettings.standard : LoggingSettings := ⟨.empty, .empty, ⟨none, none⟩, false⟩

/-- The configuration of an application where nothing is configured. -/
def Settings.standard : Settings := ⟨true, false, false, .standard⟩

/-- Reads what is configured about logging. -/
def Value.asLoggingSettings (v : Value) : Bound LoggingSettings := do
  let level ← v.field "level" 0 (optional (asTable asLevel))
  let group ← v.field "group" 1 (optional (asTable (asList asText)))
  let file ← v.field "file" 2 (optional asFileConfig)
  let registerHook ← v.field "register_shutdown_hook" 3 (optional asBool)
  return ⟨level.getD .empty, group.getD .empty, file.getD ⟨none, none⟩, registerHook.getD false⟩

/-- Reads what is configured about an application. -/
def Value.asSettings (v : Value) : Bound Settings := do
  let installLogger ← v.field "install_tracing_logger" 0 (optional asBool)
  let debug ← v.field "debug" 1 (optional asBool)
  let trace ← v.field "trace" 2 (optional asBool)
  let logging ← v.field "logging" 3 (optional asLoggingSettings)
  return ⟨installLogger.getD true, debug.getD false, trace.getD false, logging.getD .standard⟩

end AppLauncher.Config
