import AppLauncher.Archive.Manifest
import AppLauncher.Archive.Entry
import AppLauncher.Archive.Url

/-!
# Packages

What a manifest says about a package. The attributes of the section of the package count before
those of the manifest as a whole, each on its own.
-/

namespace AppLauncher

/-- Who stands behind one side of a package. -/
structure Package.Credit where
  title : Option String
  version : Option String
  vendor : Option String
deriving DecidableEq, Repr, Inhabited

/-- A package of classes. -/
structure Package where
  name : String
  specification : Package.Credit
  implementation : Package.Credit
  /-- The archive that seals the package, when it is sealed. -/
  sealedBase : Option Url
deriving DecidableEq, Repr, Inhabited

namespace Package

/-- A package about which nothing is said. -/
def ofName (name : String) : Package := ⟨name, ⟨none, none, none⟩, ⟨none, none, none⟩, none⟩

/-- The three attributes of one side of a package. -/
def creditOf (value? : String → Option String) (side : String) : Credit :=
  ⟨value? (side ++ "-Title"), value? (side ++ "-Version"), value? (side ++ "-Vendor")⟩

/-- What a manifest says about a package. -/
def ofManifest (name : String) (manifest : Manifest) (url : Url) : Package :=
  let value? := manifest.value? (Entry.ofPackage name)
  let isSealed := (value? "Sealed").any fun text => Text.sameIgnoringCase text "true"
  { name
    specification := creditOf value? "Specification"
    implementation := creditOf value? "Implementation"
    sealedBase := if isSealed then some url else none }

/-- What the manifest of an archive says about a package, if the archive has one. -/
def define (name : String) (manifest : Option Manifest) (url : Url) : Package :=
  match manifest with
  | some manifest => ofManifest name manifest url
  | none => ofName name

/-- Whether a package is sealed. -/
def isSealed (p : Package) : Bool := p.sealedBase.isSome

end Package

end AppLauncher
