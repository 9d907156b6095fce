import AppLauncher.Proofs.Laws

/-!
# Computations that start nothing

Opening archives, making loaders and loading classes leave the context loader alone and call no
entry point (`Store.Calm`), whatever the archives and handlers hold and whatever has been scheduled
to happen meanwhile.  None of the changes that come with them touches either, so being calm is a law
(`Store.calm_law`), and all of them obey it.
-/

namespace AppLauncher

/-! ### Calm computations -/

namespace Store

/-- The calls of entry points that an observer has seen, newest first. -/
def calls (s : Store) : List Call :=
  s.trail.filterMap fun event =>
    match event with
    | .called call => some call
    | _ => none

/-- The context loader is the same, and no entry point has been called. -/
structure Calm (s t : Store) : Prop where
  context : t.context = s.context
  calls : t.calls = s.calls

/-- Nothing has happened yet. -/
lemma Calm.refl (s : Store) : s.Calm s := ⟨rfl, rfl⟩

/-- What is calm twice is calm. -/
lemma Calm.trans {s t u : Store} (h : s.Calm t) (g : t.Calm u) : s.Calm u :=
  ⟨g.context.trans h.context, g.calls.trans h.calls⟩

/-- Being calm is a law of loading. -/
lemma calm_law : LoadingLaw Calm where
  refl := Calm.refl
  trans := Calm.trans
  logged _ _ := ⟨rfl, rfl⟩
  numbered _ := ⟨rfl, rfl⟩
  indexed _ _ := ⟨rfl, rfl⟩
  read _ _ := ⟨rfl, rfl⟩
  scheduled _ _ := ⟨rfl, rfl⟩
  packaged _ _ _ _ _ := ⟨rfl, rfl⟩
  defined _ _ _ _ _ _ := ⟨rfl, rfl⟩
  held _ _ := ⟨rfl, rfl⟩
  kept _ _ := ⟨rfl, rfl⟩

end Store

variable {ε α : Type}

/-- A computation leaves the context loader alone and calls no entry point. -/
def Action.IsCalm (x : Action α) : Prop := ∀ s : Store, s.Calm (x s).2

/-- An attempt leaves the context loader alone and calls no entry point. -/
def Attempt.IsCalm (x : Attempt ε α) : Prop := ∀ s : Store, s.Calm (x s).2

/-- What a calm attempt leaves behind. -/
lemma Attempt.IsCalm.of_run {x : Attempt ε α} (hx : x.IsCalm) {s t : Store} {r : Except ε α}
    (h : x s = (r, t)) : s.Calm t :=
  Attempt.Obeys.of_run hx h

/-! ### What is calm -/

/-- Logging is calm. -/
lemma Action.isCalm_log (severity : Severity) (target message : String) (fields : List Field) :
    (log severity target message fields).IsCalm :=
  obeys_log Store.calm_law.toAskingLaw severity target message fields

/-- A manifest is read calmly. -/
lemma Archive.isCalm_manifest (archive : Archive) : archive.manifest.IsCalm :=
  archive.obeys_manifest Store.calm_law.toAskingLaw

/-- The nested archives are opened calmly. -/
lemma Archive.isCalm_nestedAll (archive : Archive) (filter : Entry → Bool) :
    (archive.nestedAll filter).IsCalm :=
  archive.obeys_nestedAll Store.calm_law.toAskingLaw filter

/-- A class is found calmly. -/
lemma Loader.isCalm_find (loader : Loader) (name : String) : (loader.find name).IsCalm :=
  loader.obeys_find Store.calm_law.toOpeningLaw name

/-- A class is loaded calmly. -/
lemma Loader.isCalm_load (loader : Loader) (name : String) (resolve : Bool) :
    (loader.load name resolve).IsCalm :=
  loader.obeys_load Store.calm_law name resolve

/-- A loader over archives is made calmly. -/
lemma Launcher.isCalm_createLoader (parent : Loader) (archives : List Archive) :
    (createLoader parent archives).IsCalm :=
  obeys_createLoader Store.calm_law.toOpeningLaw parent archives

end AppLauncher
