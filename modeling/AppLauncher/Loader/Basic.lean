import AppLauncher.Archive.Basic
import AppLauncher.Loader.Package
import AppLauncher.Table

/-!
# Classes and their loaders

A loader is a chain: layers that load from archives, down to a loader of builtin classes, to one
that fails, or to none. Each layer and each loader at the end of a chain has a number of its own,
and a class is told apart from others by the number of what defined it and by its name.
-/

namespace AppLauncher

/-- An entry point of an application, told apart from others by its name. What it does is up to
those who call it. -/
structure EntryPoint where
  name : String
deriving DecidableEq, Repr

/-- Definitions of builtin classes: names, and the entry points of those that have one. -/
abbrev Builtins := List (String × Option EntryPoint)

namespace Class

/-- Where a class comes from. -/
inductive Source where
  | builtin (main : Option EntryPoint)
  /-- An entry of an archive, and the url under which the archive was asked for. -/
  | archived (url : Url) (archive : Archive) (entry : String)
deriving DecidableEq, Repr

end Class

/-- A loaded class. -/
structure Class where
  /-- The number of the loader that defined the class. -/
  definer : Nat
  name : String
  source : Class.Source
  package : Option Package
deriving DecidableEq, Repr

namespace Class

/-- What tells a class apart: its definer and its name. -/
def key (c : Class) : Nat × String := (c.definer, c.name)

/-- The entry point of a class. -/
def main? (c : Class) : Option EntryPoint :=
  match c.source with
  | .builtin main => main
  | .archived _ _ _ => none

end Class

/-- A link of a chain of loaders: a list of urls and the handler that opens them. -/
structure Layer where
  id : Nat
  urls : List Url
  handler : Nat
deriving DecidableEq, Repr

/-- A chain of loaders, innermost first. -/
inductive Loader where
  /-- No loader: it has nothing. -/
  | absent
  /-- A loader of builtin classes. -/
  | builtin (id : Nat) (classes : Table String Class)
  /-- A loader that fails on every class. -/
  | failing (id : Nat)
  /-- A layer before its parent. -/
  | isolated (layer : Layer) (parent : Loader)

namespace Loader

instance : Inhabited Loader := ⟨absent⟩

/-- The number of a loader. -/
def id? : Loader → Option Nat
  | absent => none
  | builtin id _ => some id
  | failing id => some id
  | isolated layer _ => some layer.id

/-- The loader that is asked before a loader looks itself. -/
def parent : Loader → Loader
  | isolated _ parent => parent
  | _ => absent

/-- The urls of a loader. -/
def urls : Loader → List Url
  | isolated layer _ => layer.urls
  | _ => []

/-- The layers of a chain, innermost first. -/
def layers : Loader → List Layer
  | isolated layer parent => layer :: parent.layers
  | _ => []

end Loader

/-- A resource: an archive and the name of an entry that it has. -/
structure Resource where
  archive : Archive
  name : String
deriving DecidableEq, Repr

/-- The resource as it is shown. -/
def Resource.text (r : Resource) : String := r.archive.url.text ++ r.name

/-- Why a connection to an archive cannot be opened. -/
inductive ConnectionError where
  | notFound (url : Url)
  | archive (url : Url) (source : ArchiveError)
deriving DecidableEq, Repr

/-- The cause in words. -/
def ConnectionError.message : ConnectionError → String
  | notFound url => "Cannot open connection to " ++ url.text
  | archive url source => "Error opening connection to " ++ url.text ++ ": " ++ source.message

/-- Why a class cannot be loaded. -/
inductive LoaderError where
  | classNotFound (name : String)
  | packageAlreadyDefined (name : String)
  | classRead (name : String) (source : ArchiveError)
  /-- A package was refused as defined already, and yet it is not there. -/
  | packageVanished (name : String)
deriving DecidableEq, Repr

/-- The cause in words. -/
def LoaderError.message : LoaderError → String
  | classNotFound name => "Class not found: " ++ name
  | packageAlreadyDefined name => "Package " ++ name ++ " has already been defined"
  | classRead name source => "Error reading class " ++ name ++ ": " ++ source.message
  | packageVanished name =>
    "Package " ++ name ++ " has already been defined but it could not be found"

end AppLauncher
