import AppLauncher.Condition.Message
import AppLauncher.Launch.Builtin
import AppLauncher.Metadata.Basic

/-!
# Filtering candidates

A filter judges many candidates at once from their metadata. Filters are asked in ascending order,
those of one order as they are given; a candidate that one of them rejects is hidden from the later
ones and does not survive.
-/

namespace AppLauncher

namespace Condition

/-- What conditions call themselves in logs. -/
def logTarget : String := "springtime_autoconfigure::condition"

/-- The order of conditions that are asked first. -/
def highestPrecedence : Int := -(Text.wordBound 31 : Int)

/-- The order of conditions that are asked last. -/
def lowestPrecedence : Int := (Text.wordBound 31 : Int) - 1

end Condition

/-- A condition that judges many candidates at once. -/
structure Filter where
  order : Int
  /-- Judges candidates: outcomes belong to the candidates at their positions, hidden candidates
  are passed over, and no outcome means no decision. -/
  outcomes : List (Option String) → Metadata → Action (List (Option Outcome))

namespace Filter

/-- Whether candidates pass, given their outcomes; those rejected are noted. -/
def passing : List (Option Outcome) → List (Option String) → Action (List Bool)
  | outcome :: outcomes, candidate :: candidates => do
    let passes ← match outcome with
      | some ⟨false, message⟩ => do
        Action.log .trace Condition.logTarget "Filtered out auto-configuration candidate"
          [.quoted "candidate" (candidate.getD ""), .message message.text]
        pure false
      | _ => pure true
    return passes :: (← passing outcomes candidates)
  | _, _ => pure []

/-- Which candidates pass a filter, as far as it judges them. -/
def passes (filter : Filter) (candidates : List (Option String)) (metadata : Metadata) :
    Action (List Bool) := do
  passing (← filter.outcomes candidates metadata) candidates

/-- Hides the candidates that do not pass. -/
def hide : List (Option String) → List Bool → List (Option String)
  | candidate :: candidates, pass :: passing =>
    (if pass then candidate else none) :: hide candidates passing
  | candidates, _ => candidates

/-- Asks filters one after the other; each sees the candidates that are left. -/
def ask (metadata : Metadata) (candidates : List (Option String)) :
    List Filter → Action (List (Option String))
  | [] => pure candidates
  | filter :: filters => do
    ask metadata (hide candidates (← filter.passes candidates metadata)) filters

/-- Filters by ascending order, those of one order as they are given. -/
def sorted (filters : List Filter) : List Filter := filters.mergeSort fun a b => a.order ≤ b.order

/-- The candidates that no filter rejects. -/
def survivors (candidates : List String) (filters : List Filter) (metadata : Metadata) :
    Action (List String) := do
  let left ← ask metadata (candidates.map some) (sorted filters)
  let remaining := left.filterMap id
  if left.any Option.isNone then
    Action.log .trace Condition.logTarget "Filtered auto-configuration candidates"
      [.plain "remaining" (toString remaining.length), .plain "total" (toString left.length)]
  return remaining

/-- What a listed filter says about a candidate. The name `<none>` stands for hidden ones. -/
def verdict (accepted rejected : List String) : Option String → Option Outcome
  | none => if rejected.contains "<none>" then some (.noMatch .empty) else none
  | some candidate =>
    if rejected.contains candidate then some (.noMatch ⟨"rejected"⟩)
    else if accepted.contains candidate then some (.matched .empty)
    else none

/-- A filter that accepts and rejects listed candidates. It judges at most the given number of
candidates, and it is seen when it is asked. -/
def listed (number : Nat) (order : Int) (accepted rejected : List String) (limit : Option Nat) :
    Filter where
  order := order
  outcomes candidates _ := do
    Action.emit (.consulted number candidates)
    let outcomes := candidates.map (verdict accepted rejected)
    return match limit with
      | some limit => outcomes.take limit
      | none => outcomes

end Filter

/-- A check of the presence of classes. -/
inductive ClassNameFilter where
  | present
  | missing
deriving DecidableEq, Repr

namespace ClassNameFilter

variable (registered : Builtins)

/-- The loader that answers for a choice of loaders: the chosen one, or else the context loader, or
else the loader of registered classes. -/
def answering (loader : Loader) : Action Loader := do
  match loader with
  | .absent =>
    match ← Action.context with
    | .absent => return .registry registered
    | context => return context
  | loader => return loader

/-- Whether a class can be loaded. -/
def isPresent (loader : Loader) (name : String) : Action Bool := do
  return (← ((← answering registered loader).load name false).run).toBool

/-- Whether a class name passes a filter. -/
def passes (filter : ClassNameFilter) (loader : Loader) (name : String) : Action Bool := do
  let found ← isPresent registered loader name
  return match filter with
    | present => found
    | missing => !found

end ClassNameFilter

end AppLauncher
