import AppLauncher.Loader.Handler

/-!
# Looking through the urls of a layer

The urls of a layer are opened one after the other, as far as they are needed. A url that cannot be
opened is passed over.
-/

namespace AppLauncher

namespace Layer

/-- Opens one of the urls, or notes why it is passed over. -/
def connect? (layer : Layer) (note : String) (url : Url) : Action (Option Connection) := do
  match ← (Handler.connect layer.handler .quick url).run with
  | .ok connection => return some connection
  | .error cause =>
    Action.log .debug logTarget note [.plain "url" url.text, .plain "error" cause.message]
    return none

/-- What is noted about a url that is passed over in a search. -/
def passedOver : String := "Ignoring connection error"

/-- Notes that an archive is passed over because it cannot be read. -/
def noteUnreadable (what : String) (url : Url) (cause : ArchiveError) : Action Unit :=
  Action.log .debug logTarget ("Ignoring unreadable " ++ what)
    [.plain "url" url.text, .plain "error" cause.message]

/-- The first answer that a visit gives, going through urls in order. -/
def search {α : Type} (layer : Layer) (visit : Connection → Action (Option α)) :
    List Url → Action (Option α)
  | [] => pure none
  | url :: urls => do
    match ← layer.connect? passedOver url with
    | none => search layer visit urls
    | some connection =>
      match ← visit connection with
      | some answer => return some answer
      | none => search layer visit urls

/-- All answers that a visit gives, going through urls in order. -/
def collect {α : Type} (layer : Layer) (visit : Connection → Action (Option α)) :
    List Url → Action (List α)
  | [] => pure []
  | url :: urls => do
    match ← layer.connect? passedOver url with
    | none => collect layer visit urls
    | some connection =>
      let answer ← visit connection
      return answer.toList ++ (← collect layer visit urls)

/-- The resource of a name in an archive; an archive that cannot be read has none. -/
def resourceIn (name : String) (connection : Connection) : Action (Option Resource) := do
  match ← (connection.archive.find? name).run with
  | .ok (some _) => return some ⟨connection.archive, name⟩
  | _ => return none

/-- Drops the cached indexes of the packaged archives that the urls lead to. -/
def clearCache (layer : Layer) : Action Unit :=
  layer.urls.forM fun url => do
    match ← layer.connect? (passedOver ++ " while clearing cache") url with
    | some connection =>
      if connection.archive.isPackaged then connection.archive.clearCache else pure ()
    | none => pure ()

end Layer

namespace Loader

/-- The first resource of a name in a loader, its parent left out. -/
def findResource? (loader : Loader) (name : String) : Action (Option Resource) :=
  match loader with
  | isolated layer _ => layer.search (Layer.resourceIn name) layer.urls
  | _ => pure none

/-- All resources of a name in a loader, its parent left out. -/
def findResources (loader : Loader) (name : String) : Action (List Resource) :=
  match loader with
  | isolated layer _ => layer.collect (Layer.resourceIn name) layer.urls
  | _ => pure []

/-- The first resource of a name, the outermost loader being asked first. -/
def resource? (loader : Loader) (name : String) : Action (Option Resource) := do
  match loader with
  | isolated layer parent =>
    match ← parent.resource? name with
    | some resource => return some resource
    | none => (isolated layer parent).findResource? name
  | loader => loader.findResource? name

/-- All resources of a name, those of the outermost loader first. -/
def resources (loader : Loader) (name : String) : Action (List Resource) := do
  match loader with
  | isolated layer parent =>
    return (← parent.resources name) ++ (← (isolated layer parent).findResources name)
  | loader => loader.findResources name

/-- A package that a loader has defined itself. -/
def package? (loader : Loader) (name : String) : Action (Option Package) :=
  match loader with
  | isolated layer _ => Layer.package? layer.id name
  | _ => pure none

/-- Drops the cached indexes of the archives of a loader. -/
def clearCache (loader : Loader) : Action Unit :=
  match loader with
  | isolated layer _ => layer.clearCache
  | _ => pure ()

end Loader

namespace Resource

/-- The content of a resource. -/
def read (r : Resource) : Attempt ArchiveError (List UInt8) := do
  match ← r.archive.read? r.name with
  | some content => pure content
  | none => throw (.missingEntry r.archive.url r.name)

end Resource

end AppLauncher
