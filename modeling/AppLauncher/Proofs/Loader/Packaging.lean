import AppLauncher.Proofs.Handler.Numbering
import AppLauncher.Proofs.Loader.Attribution
import AppLauncher.Proofs.Loader.Convergence
import AppLauncher.Proofs.Text.Splitting

/-!
# Which manifest defines a package

A layer that is asked for a class looks for a manifest for the package of the class first, then it
asks its parent, and only then it looks for the class at its own urls (`Loader.Obtains`).  What this
makes of the package is said by `Layer.Packages`: the first manifest that is fit counts, whoever
gives the class in the end; when there is none, the manifest at the url of the class counts, if the
layer takes the class itself; otherwise the package stays undefined.  In no case another package is
touched.

The archive that a class is taken from may have kept its manifest for long.  So the manifest is
spoken of as the one that the archive gives (`Store.manifestOf`), which is the same before the class
is defined and after it (`Store.manifestOf_self`).  `Layer.findClass_package` follows the search at
the own urls, `Loader.find_packages` the whole of it, and reading the class changes nothing of this
(`Layer.Packages.of_yields`).
-/

namespace AppLauncher

/-! ### What a manifest says about a package -/

/-- What a manifest says about a package under a key: the section of the package counts if it has
the key, and else the main section. -/
lemma Manifest.value?_eq (manifest : Manifest) (sectionName key : String) :
    manifest.value? sectionName key =
      match (manifest.attributes? sectionName).bind (·.value? key) with
      | some value => some value
      | none => manifest.main.value? key := by
  unfold value?
  cases (manifest.attributes? sectionName).bind (·.value? key) <;> rfl

/-- A package is made from a manifest key by key. -/
lemma Package.ofManifest_eq (name : String) (manifest : Manifest) (url : Url) :
    let value? := fun key : String =>
      match (manifest.attributes? (Entry.ofPackage name)).bind (·.value? key) with
      | some value => some value
      | none => manifest.main.value? key
    ofManifest name manifest url =
      { name
        specification := ⟨value? "Specification-Title", value? "Specification-Version",
          value? "Specification-Vendor"⟩
        implementation := ⟨value? "Implementation-Title", value? "Implementation-Version",
          value? "Implementation-Vendor"⟩
        sealedBase := if (value? "Sealed").any (Text.sameIgnoringCase · "true") then some url
          else none } := by
  intro value?
  have hvalue : manifest.value? (Entry.ofPackage name) = value? :=
    funext (manifest.value?_eq (Entry.ofPackage name))
  unfold ofManifest
  rw [hvalue]
  rfl

/-! ### Other packages -/

namespace Layer

variable {name other : String} {s t : Store}

/-- Preparing for a class defines no package but that of the class. -/
lemma Prepares.packageOf_of_ne {layer : Layer} (h : layer.Prepares name s t)
    (hother : Text.beforeLastDot? name ≠ some other) (id : Nat) :
    t.packageOf id other = s.packageOf id other := by
  cases h with
  | undotted | held => rfl
  | unfit _ _ _ hlooks => exact hlooks.packageOf id other
  | fit hname _ _ _ hlooks _ _ =>
    rw [Store.packageOf_withPackage, if_neg, hlooks.packageOf]
    rintro ⟨-, rfl⟩
    exact hother hname

/-- Taking a class defines no package but that of the class. -/
lemma Takes.packageOf_of_ne {layer : Layer} {c : Class} (h : layer.Takes name s c t)
    (hother : Text.beforeLastDot? name ≠ some other) (id : Nat) :
    t.packageOf id other = s.packageOf id other := by
  cases h with
  | intro _ _ hlooks _ _ hp hq =>
    rw [hq.packageOf, ← hlooks.packageOf]
    cases hp with
    | undotted => rfl
    | dotted hname hp =>
      cases hp with
      | held => rfl
      | defined _ hr =>
        rw [Store.packageOf_withPackage, if_neg, hr.packageOf]
        rintro ⟨-, rfl⟩
        exact hother hname

end Layer

/-- Finding a class defines no package but that of the class, in whatever layer of the chain. -/
lemma Loader.Finds.packageOf_of_ne {name other : String} {loader : Loader} {s t : Store}
    {r : Except LoaderError Class} (h : Finds name loader s r t)
    (hother : Text.beforeLastDot? name ≠ some other) (id : Nat) :
    t.packageOf id other = s.packageOf id other := by
  induction h with
  | absent | provided | unprovided | failing | known => rfl
  | inherited _ hp _ ih | failed _ hp _ _ ih => rw [ih, hp.packageOf_of_ne hother]
  | missing _ hp _ _ hlooks ih => rw [hlooks.packageOf, ih, hp.packageOf_of_ne hother]
  | defined _ hp _ _ ht ih =>
    rw [Store.packageOf_withClass, ht.packageOf_of_ne hother, ih, hp.packageOf_of_ne hother]

/-! ### The package of a class that a layer takes -/

namespace Layer

variable {name packageName : String} {s t : Store}

/-- A layer has taken a class from one of its urls. -/
structure Took (layer : Layer) (t : Store) (c : Class) (url : Url) (a : Archive) : Prop where
  mem : url ∈ layer.urls
  source : c.source = .archived url a (Entry.ofClass c.name)
  held : (t.held layer.handler).get? url.key = some a

/-- What a layer has made of the package of a class, which it had not defined, by the time that it
has been asked for the class. -/
structure Packages (layer : Layer) (className packageName : String) (s t : Store) : Prop where
  /-- The first manifest that is fit counts. -/
  fit : ∀ url manifest, layer.firstFit? s className packageName = some (url, manifest) →
    t.packageOf layer.id packageName = some (Package.ofManifest packageName manifest url)
  /-- When none is, the manifest at the url counts that the layer has taken the class from. -/
  own : layer.firstFit? s className packageName = none →
    ∀ c, t.classOf layer.id className = some c → ∃ url a, layer.Took t c url a ∧
      t.packageOf layer.id packageName = some (Package.define packageName (t.manifestOf a) url)
  /-- Otherwise the package stays undefined. -/
  neither : layer.firstFit? s className packageName = none →
    t.classOf layer.id className = none → t.packageOf layer.id packageName = none
  others : ∀ id other, other ≠ packageName → t.packageOf id other = s.packageOf id other

/-- The package of a class that is defined from an archive: the one that is there, or else the one
that the manifest of the archive gives. -/
lemma defineClass_package {layer : Nat} (a : Archive) (hs : s.Undisturbed)
    (hnew : s.classOf layer name = none) (hname : Text.beforeLastDot? name = some packageName)
    (url : Url) (entry : String) : ∃ p t, defineClass layer name (ownManifest a) url a entry s =
        (.ok ⟨layer, name, .archived url a entry, some p⟩, t) ∧
      t.handlers = s.handlers ∧
      t.classOf layer name = some ⟨layer, name, .archived url a entry, some p⟩ ∧
      t.packageOf layer packageName = some p ∧
      p = (s.packageOf layer packageName).getD
        (Package.define packageName (t.manifestOf a) url) := by
  cases hp : s.packageOf layer packageName with
  | some p =>
    obtain ⟨u, hq, hrun⟩ := defineClass_of_package hname
      (packageOrDefine_of_some hp (ownManifest a) url) hnew a entry
    refine ⟨p, _, hrun, hq.handlers, ?_, ?_, rfl⟩
    · rw [Store.classOf_withClass, if_pos ⟨rfl, rfl⟩]
    · rw [Store.packageOf_withClass, hq.packageOf, hp]
  | none =>
    have hread : ownManifest a s = (s.manifestOf a, (a.manifest s).2) := run_ownManifest a s
    have hreads := (ownManifest_spec a hs).1
    obtain ⟨u, hdefined, hpackage⟩ := packageOrDefine_of_none hp hreads url
    rw [hread] at hreads hdefined hpackage
    dsimp only at hreads hdefined hpackage
    have hnone : (u.withPackage layer packageName
        (Package.define packageName (s.manifestOf a) url)).classOf layer name = none := by
      rw [Store.classOf_withPackage, hdefined.classOf, hreads.classOf, hnew]
    obtain ⟨v, hq, hrun⟩ := defineClass_of_package hname hpackage hnone a entry
    refine ⟨_, _, hrun, ?_, ?_, ?_, ?_⟩
    · exact hq.handlers.trans (hdefined.handlers.trans hreads.handlers)
    · rw [Store.classOf_withClass, if_pos ⟨rfl, rfl⟩]
    · rw [Store.packageOf_withClass, hq.packageOf, Store.packageOf_withPackage, if_pos ⟨rfl, rfl⟩]
    · -- nothing has been read since the manifest was
      have hlast := hreads.undisturbed hs
      rw [Option.getD_none, ← Store.manifestOf_self a hs]
      refine congrArg (Package.define packageName · url) ?_
      refine (Store.manifestOf_congr hlast ?_ ?_ ?_).symm
      · exact hq.undisturbed (hdefined.undisturbed hlast)
      · exact hq.files.trans hdefined.files
      · exact congrArg (·.get? a.id) (hq.manifests.trans hdefined.manifests)

/-- A class is taken from the first url that has it, with the package that is there or the one that
the manifest of the archive gives, or no url has it. -/
lemma findClass_package (layer : Layer) (hs : s.Undisturbed)
    (hnew : s.classOf layer.id name = none) (hname : Text.beforeLastDot? name = some packageName) :
    (∃ c t url entry a, layer.findClass name s = (.ok c, t) ∧
      layer.firstFile? s name = some (url, entry) ∧ t.classOf layer.id name = some c ∧
      layer.Took t c url a ∧ t.packageOf layer.id packageName =
        some ((s.packageOf layer.id packageName).getD
          (Package.define packageName (t.manifestOf a) url))) ∨
    (∃ t, layer.findClass name s = (.error (.classNotFound name), t) ∧
      layer.firstFile? s name = none ∧ s.Looks layer.reach t) := by
  obtain ⟨t, hlooks, hsearch⟩ := search_spec (visits_classIn (Entry.ofClass name)) layer
    (fun _ h => h) hs
  rw [run_findClass]
  split at hsearch
  · rename_i url entry hfirst
    obtain ⟨hurl, a, ha, -, hrun⟩ := hsearch
    have hnone : t.classOf layer.id name = none := by
      rw [hlooks.classOf, hnew]
    obtain ⟨p, u, hdefine, hhandlers, hclass, hpackage, hp⟩ := defineClass_package a
      (hlooks.undisturbed hs) hnone hname url (Entry.ofClass name)
    rw [hrun]
    refine .inl ⟨_, u, url, entry, a, hdefine, hfirst, hclass, ⟨hurl, rfl, ?_⟩, ?_⟩
    · rw [Store.held_of_handlers hhandlers, ha]
    · rw [hpackage, hp, hlooks.packageOf]
  · rename_i hfirst
    rw [hsearch]
    exact .inr ⟨t, rfl, hfirst, hlooks⟩

end Layer

/-! ### The package of a class that is asked for -/

/-- Reading a class reads no manifest. -/
lemma Class.Yields.manifestOf {c : Class} {s t : Store} {r : Except LoaderError (List UInt8)}
    (h : c.Yields s r t) (hs : s.Undisturbed) (a : Archive) : t.manifestOf a = s.manifestOf a := by
  have ht := h.undisturbed hs
  cases h with
  | kept | builtin => rfl
  | read _ _ hq | failed _ _ hq =>
    exact Store.manifestOf_congr hs ht hq.files (congrArg (·.get? a.id) hq.manifests)

/-- Reading a class leaves a class where it has been taken from. -/
lemma Layer.Took.of_yields {layer : Layer} {s t : Store} {c d : Class} {url : Url} {a : Archive}
    {r : Except LoaderError (List UInt8)} (h : layer.Took s c url a) (hy : d.Yields s r t) :
    layer.Took t c url a :=
  ⟨h.mem, h.source, (hy.opens layer.reach).get?_of_get? h.held⟩

namespace Layer.Packages

variable {layer : Layer} {name packageName : String} {s t u : Store} {c : Class}

/-- When the layer has not taken the class, it has the package that was prepared. -/
lemma of_not_classOf (hpackage : t.packageOf layer.id packageName =
      (layer.firstFit? s name packageName).map fun (url, manifest) =>
        Package.ofManifest packageName manifest url)
    (hnone : t.classOf layer.id name = none)
    (hothers : ∀ id other, other ≠ packageName → t.packageOf id other = s.packageOf id other) :
    layer.Packages name packageName s t := by
  refine ⟨fun url manifest hfirst => ?_, fun _ c hc => ?_, fun hfirst _ => ?_, hothers⟩
  · rw [hpackage, hfirst]
    rfl
  · rw [hnone] at hc
    cases hc
  · rw [hpackage, hfirst]
    rfl

/-- When the layer has taken the class, it has the package that was prepared, or the one that comes
with the class. -/
lemma of_took {url : Url} {a : Archive}
    (hprepared : u.packageOf layer.id packageName =
      (layer.firstFit? s name packageName).map fun (url, manifest) =>
        Package.ofManifest packageName manifest url)
    (hclass : t.classOf layer.id name = some c) (htook : layer.Took t c url a)
    (hpackage : t.packageOf layer.id packageName =
      some ((u.packageOf layer.id packageName).getD
        (Package.define packageName (t.manifestOf a) url)))
    (hothers : ∀ id other, other ≠ packageName → t.packageOf id other = s.packageOf id other) :
    layer.Packages name packageName s t := by
  rw [hprepared] at hpackage
  refine ⟨fun url manifest hfirst => ?_, fun hfirst d hd => ?_, fun _ hnone => ?_, hothers⟩
  · rw [hpackage, hfirst]
    rfl
  · rw [hclass] at hd
    cases hd
    refine ⟨url, a, htook, ?_⟩
    rw [hpackage, hfirst]
    rfl
  · rw [hclass] at hnone
    cases hnone

/-- Reading a class does not touch packages. -/
lemma of_yields (h : layer.Packages name packageName s t) (ht : t.Undisturbed)
    {r : Except LoaderError (List UInt8)} (hy : c.Yields t r u) :
    layer.Packages name packageName s u := by
  refine ⟨fun url manifest hfirst => ?_, fun hfirst d hd => ?_, fun hfirst hnone => ?_,
    fun id other hother => ?_⟩
  · rw [hy.packageOf, h.fit url manifest hfirst]
  · rw [hy.classOf] at hd
    obtain ⟨url, a, htook, hpackage⟩ := h.own hfirst d hd
    refine ⟨url, a, htook.of_yields hy, ?_⟩
    rw [hy.packageOf, hy.manifestOf ht, hpackage]
  · rw [hy.classOf] at hnone
    rw [hy.packageOf, h.neither hfirst hnone]
  · rw [hy.packageOf, h.others id other hother]

end Layer.Packages

namespace Loader

variable {layer : Layer} {parent : Loader} {name packageName : String} {s t : Store}
  {r : Except LoaderError Class}

/-- How a layer finds a class that it has not defined.  Once the package of the class has been
prepared, the parent gives the class, or fails for another reason than that it does not have it;
otherwise the layer takes the class from the first of its urls that has it then.  Only a class that
is taken is defined by the layer afterwards. -/
inductive Obtains (layer : Layer) (parent : Loader) (name : String) (s : Store) :
    Except LoaderError Class → Store → Prop where
  | inherited {u v t : Store} {c : Class} : layer.preparePackage name s = (.ok (), u) →
      parent.load name false u = (.ok c, v) → t.classOf layer.id name = none →
      Obtains layer parent name s (.ok c) t
  | failed {u v t : Store} {cause : LoaderError} : layer.preparePackage name s = (.ok (), u) →
      parent.load name false u = (.error cause, v) → (∀ other, cause ≠ .classNotFound other) →
      t.classOf layer.id name = none → Obtains layer parent name s (.error cause) t
  | missing {u v t : Store} {other : String} : layer.preparePackage name s = (.ok (), u) →
      parent.load name false u = (.error (.classNotFound other), v) →
      layer.firstFile? v name = none → t.classOf layer.id name = none →
      Obtains layer parent name s (.error (.classNotFound name)) t
  | taken {u v t : Store} {other : String} {c : Class} {url : Url} {entry : Entry} {a : Archive} :
      layer.preparePackage name s = (.ok (), u) →
      parent.load name false u = (.error (.classNotFound other), v) →
      layer.firstFile? v name = some (url, entry) → t.classOf layer.id name = some c →
      layer.Took t c url a → Obtains layer parent name s (.ok c) t

/-- Reading a class that a layer has found does not change how it was found. -/
lemma Obtains.of_yields {u : Store} {c : Class} {content : Except LoaderError (List UInt8)}
    (h : Obtains layer parent name s r t) (hy : c.Yields t content u) :
    Obtains layer parent name s r u := by
  cases h with
  | inherited hprepare hparent hnone =>
    exact .inherited hprepare hparent (by rw [hy.classOf, hnone])
  | failed hprepare hparent hcause hnone =>
    exact .failed hprepare hparent hcause (by rw [hy.classOf, hnone])
  | missing hprepare hparent hfirst hnone =>
    exact .missing hprepare hparent hfirst (by rw [hy.classOf, hnone])
  | taken hprepare hparent hfirst hclass htook =>
    exact .taken hprepare hparent hfirst (by rw [hy.classOf, hclass]) (htook.of_yields hy)

/-- Finding a class that a layer has not defined makes of its package what `Layer.Packages` says. -/
lemma find_packages (hids : (isolated layer parent).ids.Nodup) (hs : s.Undisturbed)
    (hname : Text.beforeLastDot? name = some packageName)
    (hpackage : s.packageOf layer.id packageName = none)
    (hclass : s.classOf layer.id name = none) :
    ∃ r t, (isolated layer parent).find name s = (r, t) ∧ t.Undisturbed ∧
      layer.Packages name packageName s t ∧ Obtains layer parent name s r t := by
  obtain ⟨hnot, hparent⟩ := List.nodup_cons.mp hids
  obtain ⟨r, t, hrun, hfinds⟩ := finds_find name hids hs
  have hothers : ∀ id other, other ≠ packageName → t.packageOf id other = s.packageOf id other := by
    intro id other hother
    refine hfinds.packageOf_of_ne ?_ id
    rw [hname]
    exact fun h => hother (Option.some.inj h).symm
  refine ⟨r, t, hrun, hfinds.still.undisturbed hs, ?_⟩
  -- the package that is prepared stays while the parent looks for the class
  obtain ⟨u, hprepare, hprepares⟩ := layer.preparePackage_spec name hs
  obtain ⟨rp, v, hfind, hfound⟩ := finds_find name hparent (hprepares.still.undisturbed hs)
  have hnone : v.classOf layer.id name = none := by
    rw [hfound.classOf_of_not_mem hnot, hprepares.classOf, hclass]
  have hprepared := hprepares.packageOf hname hpackage
  rw [← hfound.evolves.packageOf_of_not_mem hnot] at hprepared
  rw [run_find_of_not_classOf hclass hprepare, hfind] at hrun
  rw [← load_false] at hfind
  rcases rp with cause | c
  · cases cause with
    | classNotFound other =>
      have hv := (hprepares.still.trans hfound.still).undisturbed hs
      dsimp only at hrun
      rcases layer.findClass_package hv hnone hname with
        ⟨c, w, url, entry, a, htaken, hfirst, hc, htook, hp⟩ | ⟨w, hmissing, hfirst, hlooks⟩
      · rw [htaken] at hrun
        cases hrun
        exact ⟨.of_took hprepared hc htook hp hothers, .taken hprepare hfind hfirst hc htook⟩
      · rw [hmissing] at hrun
        cases hrun
        have hw : t.classOf layer.id name = none := by
          rw [hlooks.classOf, hnone]
        refine ⟨.of_not_classOf ?_ hw hothers, .missing hprepare hfind hfirst hw⟩
        rw [hlooks.packageOf, hprepared]
    | _ =>
      cases hrun
      exact ⟨.of_not_classOf hprepared hnone hothers,
        .failed hprepare hfind (fun _ h => by cases h) hnone⟩
  · cases hrun
    exact ⟨.of_not_classOf hprepared hnone hothers, .inherited hprepare hfind hnone⟩

/-- Every package `p` that a layer has not defined, and every class `p.x` that it has not defined
either: once the layer has been asked for the class,

* the package is made from the first manifest that is fit, whoever gives the class; if there is
  none, from the manifest at the url that the layer has taken the class from, or from nothing if no
  manifest can be read there; and if the layer has not taken the class, the package stays undefined;
* no other package has changed;
* the class has been taken from the first url that has it, if the parent does not have it, and the
  answer is the class that has been found, unless this was to be read and cannot be;
* what is made from a manifest has each attribute from the section of the package, if the section
  has it, and else from the main section. -/
theorem load_makes_package {p x : String} {resolve : Bool}
    (hids : (isolated layer parent).ids.Nodup) (hs : s.Undisturbed) (hx : '.' ∉ x.toList)
    (hpackage : (Layer.package? layer.id p s).1 = none)
    (hclass : (Layer.class? layer.id (p ++ "." ++ x) s).1 = none)
    (hload : (isolated layer parent).load (p ++ "." ++ x) resolve s = (r, t)) :
    layer.Packages (p ++ "." ++ x) p s t ∧
      (∃ found, Obtains layer parent (p ++ "." ++ x) s found t ∧
        (r = found ∨ resolve = true ∧ ∃ c cause, found = .ok c ∧
          r = .error (.classRead c.name cause))) ∧
      ∀ (manifest : Manifest) (url : Url),
        let value? := fun key : String =>
          match (manifest.attributes? (Entry.ofPackage p)).bind (·.value? key) with
          | some value => some value
          | none => manifest.main.value? key
        Package.ofManifest p manifest url =
          { name := p
            specification := ⟨value? "Specification-Title", value? "Specification-Version",
              value? "Specification-Vendor"⟩
            implementation := ⟨value? "Implementation-Title", value? "Implementation-Version",
              value? "Implementation-Vendor"⟩
            sealedBase := if (value? "Sealed").any (Text.sameIgnoringCase · "true") then some url
              else none } := by
  have hname := Text.beforeLastDot?_append p hx
  obtain ⟨found, u, hfind, hu, hpackages, hobtains⟩ := find_packages hids hs hname hpackage hclass
  rw [run_load, hfind] at hload
  rcases found with cause | c
  · cases hload
    exact ⟨hpackages, ⟨_, hobtains, .inl rfl⟩, Package.ofManifest_eq p⟩
  · cases resolve with
    | false =>
      cases hload
      exact ⟨hpackages, ⟨_, hobtains, .inl rfl⟩, Package.ofManifest_eq p⟩
    | true =>
      obtain ⟨content, v, hcontent, hyields⟩ := c.content_spec u
      dsimp only at hload
      rw [hcontent] at hload
      cases hload
      refine ⟨hpackages.of_yields hu hyields, ⟨_, hobtains.of_yields hyields, ?_⟩,
        Package.ofManifest_eq p⟩
      cases hyields with
      | kept | builtin | read => exact .inl rfl
      | failed => exact .inr ⟨rfl, c, _, rfl, rfl⟩

/-- The layer over both libraries, with a parent that provides their class. -/
def delegatingChain : Loader :=
  .isolated libraryLayer (.builtin 0 (builtinClasses 0 [("p.X", none)]))

/-- Three packages: one is made from the second library although the parent gives the class, one is
made from nothing along with a class from a directory, and one stays undefined because nothing is
fit and the parent gives the class. -/
theorem load_makes_package_sampleChain :
    (∃ manifest, manifest.value? "p/" "Implementation-Title" = some "second" ∧
      (Layer.package? 1 "p" (delegatingChain.load "p.X" false libraryStore).2).1 =
        some (Package.ofManifest "p" manifest (.packaged ⟨"second.jar"⟩ []))) ∧
    (∃ manifest?, (Layer.package? 1 "p" (sampleChain.parent.load "p.A" true sampleStore).2).1 =
      some (Package.define "p" manifest? (.directory ⟨"d"⟩))) ∧
    (Layer.package? 2 "p" (sampleChain.load "p.A" true sampleStore).2).1 = none := by
  have hX : "p" ++ "." ++ "X" = "p.X" := rfl
  have hA : "p" ++ "." ++ "A" = "p.A" := rfl
  have hids : sampleChain.ids.Nodup := proper_sampleChain.nodup_ids
  have hsample : sampleStore.Undisturbed := rfl
  refine ⟨?_, ?_, ?_⟩
  · have hdelegating : delegatingChain.ids.Nodup := List.pairwise_singleton _ 1
    have hlibrary : libraryStore.Undisturbed := rfl
    have hfit : (libraryLayer.firstFit? libraryStore "p.X" "p").map (fun (url, manifest) =>
        (url, manifest.value? "p/" "Implementation-Title")) =
          some (.packaged ⟨"second.jar"⟩ [], some "second") := by
      decide +kernel
    obtain ⟨⟨url, manifest⟩, hfirst, hfound⟩ := Option.map_eq_some_iff.mp hfit
    obtain ⟨rfl, htitle⟩ := Prod.mk.inj hfound
    rcases hload : delegatingChain.load ("p" ++ "." ++ "X") false libraryStore with ⟨r, t⟩
    have hpackages := (load_makes_package hdelegating hlibrary (by decide) rfl rfl hload).1
    rw [hX] at hload hpackages
    rw [hload]
    exact ⟨manifest, htitle, hpackages.fit _ manifest hfirst⟩
  · have htaken : ((Layer.class? 1 "p.A"
        (sampleChain.parent.load "p.A" true sampleStore).2).1).isSome = true := by
      decide +kernel
    rcases hload : sampleChain.parent.load ("p" ++ "." ++ "A") true sampleStore with ⟨r, t⟩
    have hpackages := (load_makes_package (List.nodup_cons.mp hids).2 hsample (by decide) rfl rfl
      hload).1
    rw [hA] at hload hpackages
    rw [hload] at htaken ⊢
    obtain ⟨c, hc⟩ := Option.isSome_iff_exists.mp htaken
    obtain ⟨url, a, htook, hpackage⟩ := hpackages.own (by decide +kernel) c hc
    obtain rfl := List.mem_singleton.mp htook.mem
    exact ⟨_, hpackage⟩
  · have huntaken :
        (Layer.class? 2 "p.A" (sampleChain.load "p.A" true sampleStore).2).1 = none := by
      decide +kernel
    rcases hload : sampleChain.load ("p" ++ "." ++ "A") true sampleStore with ⟨r, t⟩
    have hpackages := (load_makes_package hids hsample (by decide) rfl rfl hload).1
    rw [hA] at hload hpackages
    rw [hload] at huntaken ⊢
    exact hpackages.neither (by decide +kernel) huntaken

end Loader

end AppLauncher
