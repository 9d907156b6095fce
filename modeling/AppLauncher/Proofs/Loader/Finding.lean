import AppLauncher.Proofs.Loader.Answers
import AppLauncher.Proofs.Loader.Chain
import AppLauncher.Proofs.Loader.Definition

/-!
# What finding a class does

`Loader.Finds` is the big-step relation of finding a class: from a loader and a store to the result
and the store afterwards.  Its constructors are the ways in which a search through a chain can go,
and all that later arguments know of the search.  `Loader.finds_find` says that the computation goes
one of these ways, if the layers of the chain have numbers of their own: what a parent defines is
then nothing of the layer below it.
-/

namespace AppLauncher

open Archive (Body)

/-! ### Preparing the package -/

namespace Layer

/-- The first of the urls of a layer at which an archive is fit to define the package of a class,
and the manifest of the archive. -/
def firstFit? (layer : Layer) (s : Store) (className packageName : String) :
    Option (Url × Manifest) :=
  Handler.first? s.files (s.bodies layer.handler) (Body.fit? className packageName s.files)
    layer.urls

/-- The first of the urls of a layer at which an archive has a class, and the entry of the class. -/
def firstFile? (layer : Layer) (s : Store) (className : String) : Option (Url × Entry) :=
  Handler.first? s.files (s.bodies layer.handler) (Body.file? (Entry.ofClass className) s.files)
    layer.urls

/-- What a layer does about the package of a class before it looks for the class. -/
inductive Prepares (layer : Layer) (name : String) (s : Store) : Store → Prop where
  | undotted : Text.beforeLastDot? name = none → Prepares layer name s s
  | held {packageName : String} {p : Package} : Text.beforeLastDot? name = some packageName →
      s.packageOf layer.id packageName = some p → Prepares layer name s s
  | unfit {packageName : String} {t : Store} : Text.beforeLastDot? name = some packageName →
      s.packageOf layer.id packageName = none →
      layer.firstFit? s name packageName = none →
      s.Looks layer.reach t → Prepares layer name s t
  | fit {packageName : String} {t : Store} {url : Url} {manifest : Manifest} {a : Archive} :
      Text.beforeLastDot? name = some packageName →
      s.packageOf layer.id packageName = none →
      layer.firstFit? s name packageName = some (url, manifest) →
      url ∈ layer.urls → s.Looks layer.reach t →
      (t.held layer.handler).get? url.key = some a →
      a.body.fit? name packageName s.files = some manifest →
      Prepares layer name s
        (t.withPackage layer.id packageName (Package.ofManifest packageName manifest url))

/-- Preparing the package always succeeds. -/
lemma preparePackage_spec (layer : Layer) (name : String) {s : Store} (hs : s.Undisturbed) :
    ∃ t, layer.preparePackage name s = (.ok (), t) ∧ layer.Prepares name s t := by
  unfold preparePackage
  cases hname : Text.beforeLastDot? name with
  | none => exact ⟨s, rfl, .undotted hname⟩
  | some packageName =>
    dsimp only
    rw [Attempt.run_bind_lift, run_package?]
    dsimp only
    cases hp : s.packageOf layer.id packageName with
    | some p => exact ⟨s, rfl, .held hname hp⟩
    | none =>
      obtain ⟨t, hlooks, hsearch⟩ := search_spec (visits_fittingManifest? name packageName) layer
        (fun _ h => h) hs
      dsimp only
      rw [Attempt.run_bind_lift]
      split at hsearch
      · rename_i url manifest hfirst
        obtain ⟨hurl, a, ha, hfit, hrun⟩ := hsearch
        have hnone : t.packageOf layer.id packageName = none := by
          rw [hlooks.packageOf, hp]
        obtain ⟨u, hq, hdefine⟩ := definePackage_of_none hnone (some manifest) url
        rw [hrun]
        dsimp only
        refine ⟨u.withPackage layer.id packageName (Package.ofManifest packageName manifest url),
          ?_, .fit hname hp hfirst hurl (hlooks.quiet hq) ?_ hfit⟩
        · rw [Attempt.run_bind, Attempt.run_result, hdefine]
          rfl
        · rw [hq.held, ha]
      · rename_i hfirst
        rw [hsearch]
        exact ⟨t, rfl, .unfit hname hp hfirst hlooks⟩

/-! ### Taking a class from an archive -/

/-- The manifest of the archive that a class comes from; one that cannot be read does not count. -/
def ownManifest (a : Archive) : Action (Option Manifest) := do
  match ← a.manifest.run with
  | .ok manifest => return manifest
  | .error _ => return none

/-- The manifest that counts is the one that the archive gives. -/
lemma run_ownManifest (a : Archive) (s : Store) :
    ownManifest a s = ((a.manifest s).1.toOption.join, (a.manifest s).2) := by
  unfold ownManifest
  rw [Action.run_bind, Attempt.run_run]
  rcases a.manifest s with ⟨cause | manifest, t⟩ <;> rfl

/-- Asking for the manifest only reads, and a packaged archive gives that of its body. -/
lemma ownManifest_spec (a : Archive) {s : Store} (hs : s.Undisturbed) :
    s.Reads (ownManifest a s).2 ∧
      (a.isPackaged = true → (ownManifest a s).1 = (a.body.manifest s.files).toOption.join) := by
  rw [run_ownManifest]
  refine ⟨Archive.manifest_reads a hs, fun hpack => ?_⟩
  obtain ⟨t, ht, -⟩ := Archive.manifest_spec a hpack hs
  rw [ht]

/-- A layer takes a class from the first url that has it. -/
inductive Takes (layer : Layer) (name : String) (s : Store) : Class → Store → Prop where
  | intro {url : Url} {entry : Entry} {a : Archive} {manifest : Option Manifest}
      {package : Option Package} {t u v : Store} :
      layer.firstFile? s name = some (url, entry) →
      url ∈ layer.urls → s.Looks layer.reach t →
      (t.held layer.handler).get? url.key = some a →
      (a.isPackaged = true → manifest = (a.body.manifest s.files).toOption.join) →
      Attributes layer.id name (Package.define · manifest url) t package u → u.Quiet v →
      Takes layer name s ⟨layer.id, name, .archived url a (Entry.ofClass name), package⟩ v

/-- A class that the layer has not defined is taken from an archive, or no archive has it. -/
lemma findClass_spec (layer : Layer) {name : String} {s : Store} (hs : s.Undisturbed)
    (hnew : s.classOf layer.id name = none) :
    (∃ c t, layer.findClass name s = (.ok c, t.withClass layer.id c) ∧ layer.Takes name s c t) ∨
    (∃ t, layer.findClass name s = (.error (.classNotFound name), t) ∧ s.Looks layer.reach t ∧
      layer.firstFile? s name = none) := by
  obtain ⟨t, hlooks, hsearch⟩ := search_spec (visits_classIn (Entry.ofClass name)) layer
    (fun _ h => h) hs
  unfold findClass
  dsimp only
  rw [Attempt.run_bind_lift]
  split at hsearch
  · rename_i url entry hfirst
    obtain ⟨hurl, a, ha, -, hrun⟩ := hsearch
    rw [hrun]
    dsimp only
    have ht := hlooks.undisturbed hs
    have hnone : t.classOf layer.id name = none := by
      rw [hlooks.classOf, hnew]
    obtain ⟨hreads, hmanifest⟩ := ownManifest_spec a ht
    obtain ⟨p, u, v, hp, hq, hdefine⟩ := defineClass_spec hreads hnone url a (Entry.ofClass name)
    refine .inl ⟨_, v, hdefine, .intro hfirst hurl hlooks ha ?_ hp hq⟩
    intro hpack
    rw [hmanifest hpack, hlooks.files]
  · rename_i hfirst
    rw [hsearch]
    exact .inr ⟨t, rfl, hlooks, hfirst⟩

end Layer

/-! ### Finding a class -/

namespace Loader

/-- Finding the class of a name, from a loader and a store to a result and a store. -/
inductive Finds (name : String) : Loader → Store → Except LoaderError Class → Store → Prop where
  | absent {s : Store} : Finds name .absent s (.error (.classNotFound name)) s
  | provided {s : Store} {id : Nat} {classes : Table String Class} {c : Class} :
      classes.get? name = some c → Finds name (.builtin id classes) s (.ok c) s
  | unprovided {s : Store} {id : Nat} {classes : Table String Class} :
      classes.get? name = none →
      Finds name (.builtin id classes) s (.error (.classNotFound name)) s
  | failing {s : Store} {id : Nat} :
      Finds name (.failing id) s (.error (.classRead name (.missingEntry failingUrl name))) s
  | known {layer : Layer} {parent : Loader} {s : Store} {c : Class} :
      s.classOf layer.id name = some c → Finds name (.isolated layer parent) s (.ok c) s
  | inherited {layer : Layer} {parent : Loader} {s t u : Store} {c : Class} :
      s.classOf layer.id name = none → layer.Prepares name s t →
      Finds name parent t (.ok c) u → Finds name (.isolated layer parent) s (.ok c) u
  | failed {layer : Layer} {parent : Loader} {s t u : Store} {cause : LoaderError} :
      s.classOf layer.id name = none → layer.Prepares name s t →
      Finds name parent t (.error cause) u → (∀ other, cause ≠ .classNotFound other) →
      Finds name (.isolated layer parent) s (.error cause) u
  | missing {layer : Layer} {parent : Loader} {s t u v : Store} {other : String} :
      s.classOf layer.id name = none → layer.Prepares name s t →
      Finds name parent t (.error (.classNotFound other)) u →
      layer.firstFile? u name = none →
      u.Looks layer.reach v →
      Finds name (.isolated layer parent) s (.error (.classNotFound name)) v
  | defined {layer : Layer} {parent : Loader} {s t u v : Store} {other : String} {c : Class} :
      s.classOf layer.id name = none → layer.Prepares name s t →
      Finds name parent t (.error (.classNotFound other)) u →
      u.classOf layer.id name = none → layer.Takes name u c v →
      Finds name (.isolated layer parent) s (.ok c) (v.withClass layer.id c)

end Loader

/-! ### What stays the same while a class is looked for -/

namespace Layer

variable {name : String} {s t : Store}

/-- Preparing a package is still. -/
lemma Prepares.still {layer : Layer} (h : layer.Prepares name s t) : s.Still t := by
  cases h with
  | undotted | held => exact .refl s
  | unfit _ _ _ hlooks => exact hlooks.toStill
  | fit _ _ _ _ hlooks _ _ => exact hlooks.toStill.trans (Store.still_withPackage _ _ _ _)

/-- Preparing a package defines no class. -/
lemma Prepares.classOf {layer : Layer} (h : layer.Prepares name s t) (id : Nat) (other : String) :
    t.classOf id other = s.classOf id other := by
  cases h with
  | undotted | held => rfl
  | unfit _ _ _ hlooks => exact hlooks.classOf id other
  | fit _ _ _ _ hlooks _ _ => rw [Store.classOf_withPackage, hlooks.classOf]

/-- Preparing a package opens archives at the urls of the layer. -/
lemma Prepares.opens {layer : Layer} (h : layer.Prepares name s t) :
    Store.Opens layer.reach s t := by
  cases h with
  | undotted | held => exact .refl s
  | unfit _ _ _ hlooks => exact hlooks.opens
  | fit _ _ _ _ hlooks _ _ => exact .same hlooks.opens rfl rfl

/-- Supplying the package of a class is still. -/
lemma Attributes.still {layer : Nat} {new : String → Package} {p : Option Package}
    (h : Attributes layer name new s p t) : s.Still t := by
  cases h with
  | undotted => exact .refl s
  | dotted _ hp =>
    cases hp with
    | held => exact .refl s
    | defined _ hr => exact hr.toStill.trans (Store.still_withPackage _ _ _ _)

/-- Supplying the package of a class defines no class. -/
lemma Attributes.classOf {layer : Nat} {new : String → Package} {p : Option Package}
    (h : Attributes layer name new s p t) (id : Nat) (other : String) :
    t.classOf id other = s.classOf id other := by
  cases h with
  | undotted => rfl
  | dotted _ hp =>
    cases hp with
    | held => rfl
    | defined _ hr => rw [Store.classOf_withPackage, hr.classOf]

/-- Supplying the package of a class opens no archive. -/
lemma Attributes.handlers {layer : Nat} {new : String → Package} {p : Option Package}
    (h : Attributes layer name new s p t) : t.handlers = s.handlers := by
  cases h with
  | undotted => rfl
  | dotted _ hp =>
    cases hp with
    | held => rfl
    | defined _ hr => exact hr.handlers

/-- Taking a class is still. -/
lemma Takes.still {layer : Layer} {c : Class} (h : layer.Takes name s c t) : s.Still t := by
  cases h with
  | intro _ _ hlooks _ _ hp hq => exact (hlooks.toStill.trans hp.still).trans hq.toStill

/-- Before a class is defined no other class is. -/
lemma Takes.classOf {layer : Layer} {c : Class} (h : layer.Takes name s c t) (id : Nat)
    (other : String) : t.classOf id other = s.classOf id other := by
  cases h with
  | intro _ _ hlooks _ _ hp hq => rw [hq.classOf, hp.classOf, hlooks.classOf]

/-- Taking a class opens archives at the urls of the layer. -/
lemma Takes.opens {layer : Layer} {c : Class} (h : layer.Takes name s c t) :
    Store.Opens layer.reach s t := by
  cases h with
  | intro _ _ hlooks _ _ hp hq =>
    exact .same (.same hlooks.opens hp.still.files hp.handlers) hq.files hq.handlers

end Layer

namespace Loader

variable {name : String} {loader : Loader} {s t : Store} {r : Except LoaderError Class}

/-- Finding a class is still. -/
lemma Finds.still (h : Finds name loader s r t) : s.Still t := by
  induction h with
  | absent | provided | unprovided | failing | known => exact .refl _
  | inherited _ hp _ ih | failed _ hp _ _ ih => exact hp.still.trans ih
  | missing _ hp _ _ hlooks ih => exact (hp.still.trans ih).trans hlooks.toStill
  | defined _ hp _ _ ht ih =>
    exact ((hp.still.trans ih).trans ht.still).trans (Store.still_withClass _ _ _)

/-- Finding a class defines no class of a layer outside the chain. -/
lemma Finds.classOf_of_not_mem (h : Finds name loader s r t) {id : Nat}
    (hid : id ∉ loader.ids) (other : String) :
    t.classOf id other = s.classOf id other := by
  induction h with
  | absent | provided | unprovided | failing | known => rfl
  | inherited _ hp _ ih | failed _ hp _ _ ih =>
    rw [ih fun h => hid (.tail _ h), hp.classOf]
  | missing _ hp _ _ hlooks ih =>
    rw [hlooks.classOf, ih fun h => hid (.tail _ h), hp.classOf]
  | defined _ hp _ _ ht ih =>
    rw [Store.classOf_withClass, if_neg, ht.classOf, ih fun h => hid (.tail _ h), hp.classOf]
    rintro ⟨rfl, -⟩
    exact hid (.head _)

/-- Finding a class opens archives at the urls of the chain. -/
lemma Finds.opens (h : Finds name loader s r t) : Store.Opens loader.reach s t := by
  induction h with
  | absent | provided | unprovided | failing | known => exact .refl _
  | inherited _ hp _ ih | failed _ hp _ _ ih =>
    exact hp.opens.of_layer.trans ih.of_parent
  | missing _ hp _ _ hlooks ih =>
    exact (hp.opens.of_layer.trans ih.of_parent).trans hlooks.opens.of_layer
  | defined _ hp _ _ ht ih =>
    exact .same ((hp.opens.of_layer.trans ih.of_parent).trans ht.opens.of_layer) rfl rfl

/-- The computation goes one of the ways of `Finds`. -/
theorem finds_find (name : String) (hids : loader.ids.Nodup) (hs : s.Undisturbed) :
    ∃ r t, loader.find name s = (r, t) ∧ Finds name loader s r t := by
  induction loader generalizing s with
  | absent => exact ⟨_, s, rfl, .absent⟩
  | builtin id classes =>
    unfold find
    cases h : classes.get? name with
    | none => exact ⟨_, s, rfl, .unprovided h⟩
    | some c => exact ⟨_, s, rfl, .provided h⟩
  | failing id => exact ⟨_, s, rfl, .failing⟩
  | isolated layer parent ih =>
    obtain ⟨hnot, hparent⟩ := List.nodup_cons.mp hids
    unfold find
    rw [Attempt.run_bind_lift, Layer.run_class?]
    dsimp only
    cases hknown : s.classOf layer.id name with
    | some c => exact ⟨_, s, rfl, .known hknown⟩
    | none =>
      obtain ⟨t, ht, hprepared⟩ := layer.preparePackage_spec name hs
      obtain ⟨r, u, hu, hfound⟩ := ih hparent (hprepared.still.undisturbed hs)
      dsimp only
      rw [Attempt.run_bind_ok ht, Attempt.run_bind, Attempt.run_result, hu]
      dsimp only
      rcases r with cause | c
      · cases cause with
        | classNotFound other =>
          have hnew : u.classOf layer.id name = none := by
            rw [hfound.classOf_of_not_mem hnot, hprepared.classOf, hknown]
          have hu := (hprepared.still.trans hfound.still).undisturbed hs
          rcases layer.findClass_spec hu hnew with ⟨c, v, hv, htakes⟩ | ⟨v, hv, hlooks, hfirst⟩
          · exact ⟨_, _, hv, .defined hknown hprepared hfound hnew htakes⟩
          · exact ⟨_, v, hv, .missing hknown hprepared hfound hfirst hlooks⟩
        | _ =>
          exact ⟨_, u, rfl, .failed hknown hprepared hfound fun _ h => by cases h⟩
      · exact ⟨_, u, rfl, .inherited hknown hprepared hfound⟩

end Loader

end AppLauncher
