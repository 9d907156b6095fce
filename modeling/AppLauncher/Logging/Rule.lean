import AppLauncher.Logging.Directive
import AppLauncher.Text.Cut
import AppLauncher.Text.Letter

/-!
# Filters by rules

A reader of filters (`Rule.reader`), for directives that are about targets and levels only. They are
read as rules: the rule with the longest target that the target of a record begins with decides
whether the record is logged. Spans and fields, for which directives have brackets, are unknown to
this reader.
-/

namespace AppLauncher.Logging

/-- A rule: how much is logged for the targets that begin with a text. -/
structure Rule where
  target : List Char
  /-- The rank of the least serious events that are logged. -/
  rank : Nat
deriving DecidableEq, Repr

namespace Rule

/-- The rank when nothing is held back. -/
def talkative : Nat := Severity.trace.rank

/-- The rank that a number or a word stands for. -/
def rankOf? (text : List Char) : Option Nat :=
  match Text.unsigned? 10 (talkative + 1) text with
  | some rank => some rank
  | none =>
    match String.ofList (text.map Char.toLower) with
    | "off" => some 0
    | "error" => some Severity.error.rank
    | "warn" => some Severity.warn.rank
    | "info" => some Severity.info.rank
    | "debug" => some Severity.debug.rank
    | "trace" => some Severity.trace.rank
    | _ => none

/-- Whether a character may begin a directive. -/
def canBegin (c : Char) : Bool := Text.isAlphanumeric c || c = '-' || c = ':' || c = '_'

/-- The end of reading a directive that has no meaning. -/
def invalid {α : Type} : Except (Interruption Unit) α := .error (.error ())

/-- Cuts a directive at a place. A place within a character is a defect of the reader, which ends
the program. -/
def cut (role : String) (place : Nat) (text : List Char) :
    Except (Interruption Unit) (List Char × List Char) :=
  (Text.cutAt place text).mapError fun inside => .panic (inside.message role)

/-- Reads a directive whose equals sign stands at a place: a target, and a level unless nothing
follows. -/
def ofParts (place : Nat) (text : List Char) : Except (Interruption Unit) Rule := do
  let (target, _) ← cut "end" place text
  let (_, level) ← cut "start" (place + 1) text
  if level = [] then return ⟨target, talkative⟩
  else match rankOf? level with
    | some rank => return ⟨target, rank⟩
    | none => invalid

/-- Reads a directive. It is a target and a level with an equals sign between them, or one of the
two alone. The place of the equals sign is counted from the
first character that is not blank, but used in the whole directive, so that with blanks before its
target a directive that has a level is never read. -/
def ofText (text : List Char) : Except (Interruption Unit) Rule :=
  let inner := Text.trim text
  match inner with
  | [] => invalid
  | c :: _ =>
    if canBegin c = false then invalid
    else match Text.splitFirst '=' inner with
      | some (before, _) =>
        if before.contains '[' then invalid else ofParts (Text.byteLength before) text
      | none =>
        if inner.contains '[' then invalid
        else match rankOf? text with
          | some rank => .ok ⟨[], rank⟩
          | none => .ok ⟨text, talkative⟩

/-- Reads directives separated by commas. Empty ones do not count. -/
def ofTexts (text : List Char) : Except (Interruption Unit) (List Rule) :=
  ((Text.split ',' text).filter (· ≠ [])).mapM ofText

/-- Of two rules the one with the longer target, the second one if they are equally long. -/
def longer (a : Option Rule) (b : Rule) : Option Rule :=
  match a with
  | none => some b
  | some a => if a.target.length ≤ b.target.length then some b else some a

/-- The rule that decides about a target. -/
def deciding? (rules : List Rule) (target : List Char) : Option Rule :=
  (rules.filter fun rule => rule.target.isPrefixOf target).foldl longer none

/-- Whether a record is logged. -/
def pass (rules : List Rule) : Filter := fun record =>
  match deciding? rules record.target.toList with
  | some rule => record.severity.rank ≤ rule.rank
  | none => false

/-- Reads filters of directives without brackets. -/
def reader : FilterReader := fun text => (ofTexts text.toList).map pass

end Rule

end AppLauncher.Logging
