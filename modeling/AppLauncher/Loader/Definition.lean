import AppLauncher.Store

/-!
# Definitions of packages and classes

A layer defines each package and each class once. A second definition of a package is refused, and
a second definition of a class gives way to the first.
-/

namespace AppLauncher

namespace Layer

/-- What loaders call themselves in logs. -/
def logTarget : String := "springtime_loader::class_loader"

/-- A package that a layer has defined. -/
def package? (layer : Nat) (name : String) : Action (Option Package) := fun s =>
  ((s.definitions layer).packages.get? name, s)

/-- A class that a layer has defined. -/
def class? (layer : Nat) (name : String) : Action (Option Class) := fun s =>
  ((s.definitions layer).classes.get? name, s)

/-- All packages that a layer has defined. -/
def packages (layer : Nat) : Action (List Package) := fun s =>
  ((s.definitions layer).packages.values, s)

/-- Defines a package, unless the layer has one of that name. -/
def definePackage (layer : Nat) (name : String) (manifest : Option Manifest) (url : Url) :
    Attempt LoaderError Package := fun s =>
  let held := s.definitions layer
  if held.packages.contains name then (.error (.packageAlreadyDefined name), s)
  else
    let package := Package.define name manifest url
    let ((), s) := Action.log .debug logTarget "Defined package"
      [.quoted "package" name, .plain "url" url.text] s
    let held := { held with packages := held.packages.insert name package }
    (.ok package, { s with loaders := s.loaders.insert layer held })

/-- The package of a name after an attempt to define it: when another definition was first, that
one. -/
def converge (layer : Nat) (name : String) (result : Except LoaderError Package) :
    Attempt LoaderError Package :=
  match result with
  | .ok package => pure package
  | .error (.packageAlreadyDefined _) => do
    match ← (package? layer name : Action _) with
    | some package => pure package
    | none => throw (.packageVanished name)
  | .error cause => throw cause

/-- The package of a name, defined now from the given manifest unless the layer has it. -/
def packageOrDefine (layer : Nat) (name : String) (manifest : Action (Option Manifest))
    (url : Url) : Attempt LoaderError Package := do
  match ← (package? layer name : Action _) with
  | some package => pure package
  | none =>
    let manifest ← (manifest : Action _)
    converge layer name (← (definePackage layer name manifest url).result)

/-- Keeps a class, unless the layer has one of its name; gives the class that the layer has
then. -/
def keepClass (layer : Nat) (c : Class) : Action Class := fun s =>
  let held := s.definitions layer
  match held.classes.get? c.name with
  | some first => (first, s)
  | none =>
    let held := { held with classes := held.classes.insert c.name c }
    (c, { s with loaders := s.loaders.insert layer held })

/-- Defines a class from an entry of an archive, after the package of the class. -/
def defineClass (layer : Nat) (name : String) (manifest : Action (Option Manifest)) (url : Url)
    (archive : Archive) (entry : String) : Attempt LoaderError Class := do
  let package ← match Text.beforeLastDot? name with
    | some packageName => some <$> packageOrDefine layer packageName manifest url
    | none => pure none
  (Action.log .trace logTarget "Found class"
    [.quoted "class" name, .plain "url" url.text] : Action _)
  (keepClass layer ⟨layer, name, .archived url archive entry, package⟩ : Action _)

end Layer

namespace Disturbance

/-- Carries out a disturbance. A refused definition stays without effect. -/
def perform : Disturbance → Action Unit
  | definePackage layer name manifest url => do
    let _ ← (Layer.definePackage layer name manifest url).run
  | defineClass layer name manifest url archive entry => do
    let _ ← (Layer.defineClass layer name (pure manifest) url archive entry).run

end Disturbance

end AppLauncher
