import AppLauncher.Proofs.Loader.Running

/-!
# Which manifest the package of a class comes from

The package of a class is chosen by one search and the class by another.  The first one wants the
class, the directory of the package and a manifest in a packaged archive (`Archive.Body.fit?`), the
second one only wants the class.  So the two can end at different urls, and the package is then made
from the manifest of an archive that the class is not from: `Loader.package_of_load` says which
package it is, and that it is the one of the archive of the class just when the first search finds
nothing or an archive whose manifest says the same.
-/

namespace AppLauncher

open Archive (Body)

/-- A package of a layer outside a chain is not touched when the chain is asked. -/
lemma Store.Evolves.packageOf_of_not_mem {loader : Loader} {s t : Store}
    (h : s.Evolves loader t) {id : Nat} (hid : id ∉ loader.ids) (name : String) :
    t.packageOf id name = s.packageOf id name := by
  induction h with
  | refl => rfl
  | kept _ hk ih => rw [hk.packageOf, ih]
  | packaged _ hl _ ih =>
    rw [packageOf_withPackage, if_neg, ih]
    rintro ⟨rfl, -⟩
    exact hid (List.mem_map_of_mem hl)
  | defined _ _ _ _ _ _ _ ih => rw [packageOf_withClass, ih]
  | files _ _ ih | read _ _ _ ih => exact ih

namespace Layer

variable {layer : Layer} {name packageName : String} {s t : Store}

/-- The package that a layer has after preparing for a class whose package it did not have: it is
made from the first manifest that is fit. -/
lemma Prepares.packageOf (h : layer.Prepares name s t)
    (hname : Text.beforeLastDot? name = some packageName)
    (hnone : s.packageOf layer.id packageName = none) :
    t.packageOf layer.id packageName =
      (layer.firstFit? s name packageName).map fun (url, manifest) =>
        Package.ofManifest packageName manifest url := by
  cases h with
  | undotted hno =>
    rw [hname] at hno
    cases hno
  | held hother hp =>
    rw [hname] at hother
    cases hother
    rw [hnone] at hp
    cases hp
  | unfit hother _ hfirst hlooks =>
    rw [hname] at hother
    cases hother
    rw [hfirst, hlooks.packageOf, hnone]
    rfl
  | fit hother _ hfirst _ _ _ _ =>
    rw [hname] at hother
    cases hother
    rw [hfirst, Store.packageOf_withPackage, if_pos ⟨rfl, rfl⟩]
    rfl

/-- The package of a class that is taken from a packaged archive: the one that the layer has, or
else the one that the manifest of the archive gives. -/
lemma Takes.package {c : Class} (h : layer.Takes name s c t)
    (hname : Text.beforeLastDot? name = some packageName) {url : Url} {a : Archive}
    {entry : String} (hsource : c.source = .archived url a entry) (ha : a.isPackaged = true) :
    c.package = some ((s.packageOf layer.id packageName).getD
      (Package.define packageName (a.body.manifest s.files).toOption.join url)) := by
  cases h with
  | intro _ _ hlooks _ hmanifest hp _ =>
    cases hsource
    rw [hmanifest ha] at hp
    cases hp with
    | undotted hno =>
      rw [hname] at hno
      cases hno
    | dotted hother hp =>
      rw [hname] at hother
      cases hother
      cases hp with
      | held hheld =>
        rw [← hlooks.packageOf, hheld]
        rfl
      | defined hnone _ =>
        rw [← hlooks.packageOf, hnone]
        rfl

end Layer

namespace Loader

variable {loader parent : Loader} {layer : Layer} {s t : Store} {name packageName : String}
  {c : Class}

/-- A class that a parent has found is not defined by the layer below. -/
lemma Proper.definer_ne (hl : (Loader.isolated layer parent).Proper) (hs : s.Sound parent)
    (hc : s.settled? name parent = some c) : c.definer ≠ layer.id := by
  have hnot := (List.nodup_cons.mp hl.nodup).1
  have hstart : s.settled? name (parent.ancestor 0) = some c := hc
  rcases hl.parent.origin hs hstart with
    ⟨above, habove, -, hdef, -⟩ | ⟨depth, id, classes, main, hanc, rfl⟩
  · rintro heq
    have hmem : above.id ∈ parent.definers :=
      parent.sublist_definers.subset (List.mem_map_of_mem habove)
    rw [← hdef, heq] at hmem
    exact hnot hmem
  · rintro rfl
    exact hnot (mem_definers_of_ancestor hanc)

/-- The package of a class that a layer takes from a packaged archive, when it did not have the
package: it is made from the first manifest that is fit, or else from that of the archive. -/
lemma Finds.package (h : Finds name (.isolated layer parent) s (.ok c) t)
    (hl : (Loader.isolated layer parent).Proper) (hs : s.Orderly (.isolated layer parent))
    (hname : Text.beforeLastDot? name = some packageName)
    (hnone : s.packageOf layer.id packageName = none) (hdef : c.definer = layer.id)
    {url : Url} {a : Archive} {entry : String} (hsource : c.source = .archived url a entry)
    (ha : a.isPackaged = true) :
    c.package = some (((layer.firstFit? s name packageName).map fun (v, manifest) =>
        Package.ofManifest packageName manifest v).getD
      (Package.define packageName (a.body.manifest s.files).toOption.join url)) := by
  have hnot : layer.id ∉ parent.ids := (List.nodup_cons.mp hl.nodup_ids).1
  cases h with
  | known hc =>
    -- a class of the package would have come with the package
    obtain ⟨hcname, -, -, hattr⟩ := hs.sound layer (.head _) name c hc
    unfold Store.Attributed at hattr
    rw [hcname, hname, hdef] at hattr
    obtain ⟨p, -, hp⟩ := hattr
    rw [hnone] at hp
    cases hp
  | inherited _ hp hf =>
    have hsound : t.Sound parent := fun l hmem =>
      ((hp.evolves (.head _)).trans (.of_parent hf.evolves)).sound hs.sound l (.tail _ hmem)
    exact absurd hdef (hl.definer_ne hsound (hf.settled?_of_ok hl.parent.nodup_ids))
  | defined _ hp hf _ ht =>
    rw [ht.package hname hsource ha, hf.evolves.packageOf_of_not_mem hnot,
      hp.packageOf hname hnone, (hp.still.trans hf.still).files]

/-- In every run on a chain: when a layer that does not have the package of a class yet takes the
class from a packaged archive, the package is made from the manifest of the first archive that is
fit to define it, and if there is none from the manifest of the archive of the class.  So it is
what the archive of the class says just if every archive that the first search ends at says the
same. -/
theorem package_of_load (hl : loader.Proper) (hs : s.Fresh loader) (steps : List Step) {depth : Nat}
    (hlayer : loader.ancestor depth = .isolated layer parent)
    (hname : Text.beforeLastDot? name = some packageName)
    (hnone : (Layer.package? layer.id packageName (loader.run steps s)).1 = none)
    (hload : (Loader.isolated layer parent).load name false (loader.run steps s) = (.ok c, t))
    (hdef : c.definer = layer.id) {url : Url} {a : Archive} {entry : String}
    (hsource : c.source = .archived url a entry) (ha : a.isPackaged = true) :
    let own := Package.define packageName
      (a.body.manifest (loader.run steps s).files).toOption.join url
    (c.package = some (match layer.firstFit? (loader.run steps s) name packageName with
      | some (v, manifest) => Package.ofManifest packageName manifest v
      | none => own)) ∧
    (c.package = some own ↔ ∀ v manifest,
      layer.firstFit? (loader.run steps s) name packageName = some (v, manifest) →
        Package.ofManifest packageName manifest v = own) := by
  intro own
  have hproper := hlayer ▸ hl.ancestor depth
  have horderly := hlayer ▸ (run_orderly steps hl hs.orderly).ancestor depth
  rw [load_false] at hload
  obtain ⟨r, u, hrun, hfinds⟩ := finds_find name hproper.nodup_ids horderly.undisturbed
  rw [hrun] at hload
  cases hload
  have hpackage := hfinds.package hproper horderly hname hnone hdef hsource ha
  rw [hpackage]
  cases layer.firstFit? (loader.run steps s) name packageName with
  | none => exact ⟨rfl, iff_of_true rfl fun _ _ h => by cases h⟩
  | some found =>
    obtain ⟨v, manifest⟩ := found
    refine ⟨rfl, fun h v' manifest' hfound => ?_, fun h => ?_⟩
    · cases hfound
      exact Option.some.inj h
    · exact congrArg some (h v manifest rfl)

/-! ### Two libraries -/

/-- A library with a manifest that gives its title, and with entries that have no content. -/
def library (title : String) (entries : List String) : List UInt8 :=
  Tar.member Manifest.entryName
      (Text.Utf8.encode ("Implementation-Title:" ++ title).toList) ++
    entries.flatMap fun name => Tar.member name []

/-- Two libraries with one class; only the second one has an entry for the package. -/
def libraryFiles : FileSystem where
  root := .directory (.cons "first.jar" (.file (library "first" ["p/X.class"]))
    (.cons "second.jar" (.file (library "second" ["p/", "p/X.class"])) .nil))
  working := []

/-- A layer over both libraries. -/
def libraryLayer : Layer := ⟨1, [.packaged ⟨"first.jar"⟩ [], .packaged ⟨"second.jar"⟩ []], 2⟩

/-- A store in which the libraries have not been opened yet. -/
def libraryStore : Store := .start libraryFiles 3

/-- Whether a class is one that the layer takes from the first library, with a package that the
manifest of the library does not give. -/
def isMisattributed : Except LoaderError Class → Bool
  | .ok ⟨definer, _, .archived url a _, package⟩ =>
    decide (definer = 1 ∧ url = .packaged ⟨"first.jar"⟩ [] ∧ a.isPackaged = true ∧
      package ≠ some (Package.define "p" (a.body.manifest libraryFiles).toOption.join
        (.packaged ⟨"first.jar"⟩ [])))
  | _ => false

/-- The class is taken from the first library. -/
lemma load_library : ∃ c t a entry,
    (Loader.isolated libraryLayer .absent).load "p.X" false libraryStore = (.ok c, t) ∧
      c.definer = 1 ∧ c.source = .archived (.packaged ⟨"first.jar"⟩ []) a entry ∧
      a.isPackaged = true ∧ c.package ≠ some (Package.define "p"
        (a.body.manifest libraryFiles).toOption.join (.packaged ⟨"first.jar"⟩ [])) := by
  have hfound : isMisattributed
      ((Loader.isolated libraryLayer .absent).load "p.X" false libraryStore).1 = true := by
    decide +kernel
  rcases hrun : (Loader.isolated libraryLayer .absent).load "p.X" false libraryStore with ⟨r, t⟩
  rw [hrun] at hfound
  unfold isMisattributed at hfound
  dsimp only at hfound
  split at hfound
  · obtain ⟨rfl, rfl, ha, hp⟩ := of_decide_eq_true hfound
    exact ⟨_, t, _, _, rfl, rfl, rfl, ha, hp⟩
  · cases hfound

/-- The package of a class can be made from the manifest of a library that the class is not from. -/
theorem package_of_other_library : ∃ c t url a entry,
    (Layer.package? libraryLayer.id "p" libraryStore).1 = none ∧
      (Loader.isolated libraryLayer .absent).load "p.X" false libraryStore = (.ok c, t) ∧
      c.source = .archived url a entry ∧ a.isPackaged = true ∧
      c.package ≠ some (Package.define "p" (a.body.manifest libraryFiles).toOption.join url) := by
  obtain ⟨c, t, a, entry, hload, -, hsource, ha, hp⟩ := load_library
  exact ⟨c, t, _, a, entry, rfl, hload, hsource, ha, hp⟩

/-- With the two libraries, the package is that of the library of the class just if the manifest
that the first search finds says the same. -/
theorem package_of_load_library : ∃ c t a,
    (Loader.isolated libraryLayer .absent).load "p.X" false libraryStore = (.ok c, t) ∧
      (c.package = some (Package.define "p" (Body.manifest libraryStore.files a).toOption.join
          (.packaged ⟨"first.jar"⟩ [])) ↔
        ∀ v manifest, libraryLayer.firstFit? libraryStore "p.X" "p" = some (v, manifest) →
          Package.ofManifest "p" manifest v =
            Package.define "p" (Body.manifest libraryStore.files a).toOption.join
              (.packaged ⟨"first.jar"⟩ [])) := by
  obtain ⟨c, t, a, entry, hload, hdef, hsource, ha, -⟩ := load_library
  have hproper : (Loader.isolated libraryLayer .absent).Proper :=
    .isolated ((proper_builtinClasses 0 []).ancestor 1) (by decide)
  have hlayer : (Loader.isolated libraryLayer .absent).ancestor 0 =
      .isolated libraryLayer .absent := rfl
  have hname : Text.beforeLastDot? "p.X" = some "p" := by decide
  obtain ⟨-, hown⟩ := package_of_load hproper (fresh_start _ libraryFiles 3) [] hlayer hname rfl
    hload hdef hsource ha
  exact ⟨c, t, a.body, hload, hown⟩

end Loader

end AppLauncher
