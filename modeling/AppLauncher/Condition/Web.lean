import AppLauncher.Condition.Filter

/-!
# Conditions on web applications

A web application is told by marker classes, and further by its scopes, its environment and its
resource loader. The condition judges a running application (`Web.judge`), or candidates in advance
from their metadata and the marker classes alone (`Web.filter`).
-/

namespace AppLauncher

/-- The marks of a type, each with its values. -/
structure Marks where
  list : List (String × List (String × String))
deriving DecidableEq, Repr

namespace Marks

/-- Whether a type has a mark. -/
def contains (m : Marks) (mark : String) : Bool := m.list.any (·.1 = mark)

/-- A value of the first mark of a name. -/
def value? (m : Marks) (mark key : String) : Option String :=
  (m.list.find? (·.1 = mark)).bind fun (_, values) => (values.find? (·.1 = key)).map (·.2)

end Marks

/-- The kind of an environment. -/
inductive EnvironmentKind where
  | standard
  | servletWeb
  | reactiveWeb
deriving DecidableEq, Repr

/-- The kind of a resource loader. -/
inductive ResourceLoaderKind where
  | plain
  | webApplicationContext
  | reactiveWebApplicationContext
deriving DecidableEq, Repr

namespace Web

/-- The mark of types for web applications. -/
def mark : String := "ConditionalOnWebApplication"

/-- The key under which the mark has the type of application. -/
def typeKey : String := "type"

/-- A class that servlet applications have. -/
def servletClass : String :=
  "org.springframework.web.context.support.GenericWebApplicationContext"

/-- A class that reactive applications have. -/
def reactiveClass : String := "org.springframework.web.reactive.HandlerResult"

/-- A scope that servlet applications register. -/
def sessionScope : String := "session"

/-- The type of web application that is asked for. -/
inductive Kind where
  | any
  | servlet
  | reactive
deriving DecidableEq, Repr

namespace Kind

/-- The name of a type. -/
def text : Kind → String
  | any => "ANY"
  | servlet => "SERVLET"
  | reactive => "REACTIVE"

/-- The type of a name. -/
def ofText? : String → Option Kind
  | "ANY" => some any
  | "SERVLET" => some servlet
  | "REACTIVE" => some reactive
  | _ => none

/-- What is said about a name that no type has. -/
def unknown (name : String) : String := "Unknown web application type: " ++ name

/-- The type that a value asks for. Values that name no type ask for any. -/
def ofValue (value : String) : Kind := (ofText? value).getD any

end Kind

section

variable (registered : Builtins)

/-! ### Judging candidates in advance -/

/-- What is said when marker classes are missing. -/
def missingClasses (which : String) : Message :=
  ((Message.ofMark mark []).missing (which ++ " web application classes")).atAll

/-- The outcome for a candidate that asks for a type of application, if it can be rejected. -/
def advance (loader : Loader) (kind : Kind) : Action (Option Outcome) := do
  let servlet ← ClassNameFilter.isPresent registered loader servletClass
  match kind, servlet with
  | .servlet, false => return some (.noMatch (missingClasses "servlet"))
  | .servlet, true => return none
  | .reactive, _ =>
    if ← ClassNameFilter.isPresent registered loader reactiveClass then
      otherwise servlet
    else return some (.noMatch (missingClasses "reactive"))
  | .any, servlet => otherwise servlet
where
  /-- The outcome when some marker class is enough. -/
  otherwise (servlet : Bool) : Action (Option Outcome) := do
    if servlet then return none
    else if ← ClassNameFilter.isPresent registered loader reactiveClass then return none
    else return some (.noMatch (missingClasses "reactive or servlet"))

/-- The outcome for a candidate; those that are hidden or ask for nothing get none. -/
def judgeCandidate (loader : Loader) (metadata : Metadata) (candidate : Option String) :
    Action (Option Outcome) :=
  match candidate.bind fun candidate => metadata.get? candidate mark with
  | some value => advance registered loader (.ofValue value)
  | none => pure none

/-- The filter that judges candidates by marker classes. -/
def filter (loader : Loader) : Filter where
  order := Condition.highestPrecedence + 20
  outcomes candidates metadata := candidates.mapM (judgeCandidate registered loader metadata)

/-! ### Judging a running application -/

/-- What a condition knows about the running application. -/
structure Context where
  loader : Loader
  /-- The registered scopes, if there is a bean factory to ask. -/
  scopes : Option (List String)
  environment : EnvironmentKind
  resourceLoader : ResourceLoaderKind

/-- The start of a message without a condition. -/
def bare : Message.Builder := Message.ofCondition "" []

/-- Whether an application is a servlet application. -/
def isServlet (context : Context) : Action Outcome := do
  if ← ClassNameFilter.isPresent registered context.loader servletClass then
    return if (context.scopes.getD []).contains sessionScope then
        .matched (bare.foundExactly "'session' scope")
      else if context.environment = .servletWeb then
        .matched (bare.foundExactly "ConfigurableWebEnvironment")
      else if context.resourceLoader = .webApplicationContext then
        .matched (bare.foundExactly "WebApplicationContext")
      else .noMatch (bare.because "not a servlet web application")
  else return .noMatch (bare.missing "servlet web application classes").atAll

/-- Whether an application is a reactive application. -/
def isReactive (context : Context) : Action Outcome := do
  if ← ClassNameFilter.isPresent registered context.loader reactiveClass then
    return if context.environment = .reactiveWeb then
        .matched (bare.foundExactly "ConfigurableReactiveWebEnvironment")
      else if context.resourceLoader = .reactiveWebApplicationContext then
        .matched (bare.foundExactly "ReactiveWebApplicationContext")
      else .noMatch (bare.because "not a reactive web application")
  else return .noMatch (bare.missing "reactive web application classes").atAll

/-- Whether an application is a web application of any type. -/
def isAny (context : Context) (required : Bool) : Action Outcome := do
  let builder := Message.ofMark mark [if required then "(required)" else ""]
  let servlet ← isServlet registered context
  if servlet.isMatch && required then return .matched (builder.because servlet.message.text)
  else
    let reactive ← isReactive registered context
    if reactive.isMatch && required then return .matched (builder.because reactive.message.text)
    else return ⟨servlet.isMatch || reactive.isMatch,
      ((builder.because servlet.message.text).append "and").append reactive.message.text⟩

/-- The type of application that a type asks for. -/
def kindOf (marks : Marks) : Kind := ((marks.value? mark typeKey).map Kind.ofValue).getD .any

/-- Judges a type: one with the mark belongs into web applications, any other one outside. -/
def judge (context : Context) (marks : Marks) : Action Outcome := do
  let required := marks.contains mark
  let outcome ← match kindOf marks with
    | .servlet => isServlet registered context
    | .reactive => isReactive registered context
    | .any => isAny registered context required
  return ⟨required = outcome.isMatch, outcome.message⟩

/-- Whether a type passes; the outcome is noted. -/
def passes (context : Context) (marks : Marks) : Action Bool := do
  let outcome ← judge registered context marks
  Action.log .trace Condition.logTarget "Evaluated condition"
    [.plain "matched" (toString outcome.isMatch), .message outcome.message.text]
  return outcome.isMatch

end

end Web

end AppLauncher
