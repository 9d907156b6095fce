import AppLauncher.Proofs.Loader.Running

/-!
# Definitions that others may make first

Between the moment when a layer finds that it lacks a package or a class and the moment when it
defines it, anything may have been defined.  Whatever has happened, a definition ends with what the
layer holds then: the package that it gives is the one held under the name
(`Layer.packageOrDefine_holds`), and so is the class (`Layer.defineClass_holds`).  Preparing the
package of a class cannot fail (`Layer.exists_preparePackage`), and taking a class fails only when
no archive has it (`Layer.findClass_cases`), so a package that is refused as defined already has
never vanished (`Loader.find_ne_packageVanished`).
-/

namespace AppLauncher

namespace Layer

/-! ### A definition gives what is held -/

/-- A package that is defined, or refused because there is one, is the one that is held then. -/
lemma converge_holds (layer : Nat) (name : String) (manifest : Option Manifest) (url : Url)
    (s : Store) : ∃ p t, ((definePackage layer name manifest url).result >>=
      converge layer name : Attempt LoaderError Package) s = (.ok p, t) ∧
      t.packageOf layer name = some p := by
  rw [Attempt.run_bind, Attempt.run_result]
  dsimp only
  cases hpackage : s.packageOf layer name with
  | none =>
    obtain ⟨t, -, hdefined⟩ := definePackage_of_none hpackage manifest url
    rw [hdefined]
    exact ⟨_, _, rfl, by rw [Store.packageOf_withPackage, if_pos ⟨rfl, rfl⟩]⟩
  | some p =>
    rw [definePackage_of_some hpackage]
    refine ⟨p, s, ?_, hpackage⟩
    unfold converge
    dsimp only
    rw [Attempt.run_bind_lift, run_package?]
    dsimp only
    rw [hpackage]
    rfl

/-- The package of a class that is defined is the one that is held then. -/
lemma packageOrDefine_holds (layer : Nat) (name : String) (manifest : Action (Option Manifest))
    (url : Url) (s : Store) : ∃ p t, packageOrDefine layer name manifest url s = (.ok p, t) ∧
      t.packageOf layer name = some p := by
  unfold packageOrDefine
  rw [Attempt.run_bind_lift, run_package?]
  dsimp only
  cases hpackage : s.packageOf layer name with
  | some p => exact ⟨p, s, rfl, hpackage⟩
  | none =>
    dsimp only
    rw [Attempt.run_bind_lift]
    exact converge_holds layer name _ url _

/-- A class that is kept, or gives way to another one, is the one that is held then. -/
lemma keepClass_holds (layer : Nat) (c : Class) (s : Store) :
    ∃ d t, keepClass layer c s = (d, t) ∧ t.classOf layer c.name = some d := by
  cases hclass : s.classOf layer c.name with
  | none =>
    refine ⟨c, _, keepClass_of_none hclass, ?_⟩
    rw [Store.classOf_withClass, if_pos ⟨rfl, rfl⟩]
  | some d => exact ⟨d, s, keepClass_of_some hclass, hclass⟩

/-- Defining a class always succeeds, with the class that is held then. -/
lemma defineClass_holds (layer : Nat) (name : String) (manifest : Action (Option Manifest))
    (url : Url) (archive : Archive) (entry : String) (s : Store) :
    ∃ c t, defineClass layer name manifest url archive entry s = (.ok c, t) ∧
      t.classOf layer name = some c := by
  have hkept : ∀ (package : Option Package) (t : Store), ∃ c u,
      (do (Action.log .trace logTarget "Found class"
            [.quoted "class" name, .plain "url" url.text] : Action _)
          (keepClass layer ⟨layer, name, .archived url archive entry, package⟩ : Action _) :
        Attempt LoaderError Class) t = (.ok c, u) ∧ u.classOf layer name = some c := by
    intro package t
    rw [Attempt.run_bind_lift, Attempt.run_lift]
    obtain ⟨d, u, hrun, hheld⟩ := keepClass_holds layer
      ⟨layer, name, .archived url archive entry, package⟩
      (Action.log .trace logTarget "Found class" [.quoted "class" name, .plain "url" url.text] t).2
    rw [hrun]
    exact ⟨d, u, rfl, hheld⟩
  unfold defineClass
  cases Text.beforeLastDot? name with
  | none => exact hkept none s
  | some packageName =>
    obtain ⟨p, t, hpackage, -⟩ := packageOrDefine_holds layer packageName manifest url s
    dsimp only
    rw [Attempt.run_bind, Attempt.run_map, hpackage]
    exact hkept (some p) t

/-! ### What cannot fail -/

variable (layer : Layer) (name : String) (s : Store)

/-- Preparing a package does not fail. -/
lemma exists_preparePackage : ∃ t, layer.preparePackage name s = (.ok (), t) := by
  unfold preparePackage
  cases Text.beforeLastDot? name with
  | none => exact ⟨s, rfl⟩
  | some packageName =>
    dsimp only
    rw [Attempt.run_bind_lift, run_package?]
    dsimp only
    cases s.packageOf layer.id packageName with
    | some p => exact ⟨s, rfl⟩
    | none =>
      dsimp only
      rw [Attempt.run_bind_lift]
      rcases (layer.search (fittingManifest? name packageName) layer.urls s).1 with
        _ | ⟨url, manifest⟩
      · exact ⟨_, rfl⟩
      · obtain ⟨p, t, hconverge, -⟩ := converge_holds layer.id packageName (some manifest) url
          (layer.search (fittingManifest? name packageName) layer.urls s).2
        refine ⟨t, ?_⟩
        dsimp only
        rw [← bind_assoc, Attempt.run_bind, hconverge]
        rfl

/-- A class is taken from the archive at which the search for it ends. -/
lemma run_findClass : layer.findClass name s =
    match layer.search (classIn (Entry.ofClass name)) layer.urls s with
    | (none, t) => (.error (.classNotFound name), t)
    | (some connection, t) => defineClass layer.id name (ownManifest connection.archive)
        connection.url connection.archive (Entry.ofClass name) t := by
  unfold findClass
  dsimp only
  rw [Attempt.run_bind_lift]
  rcases layer.search (classIn (Entry.ofClass name)) layer.urls s with ⟨_ | connection, t⟩ <;> rfl

/-- A class is taken, or it is not found. -/
lemma findClass_cases : (∃ c t, layer.findClass name s = (.ok c, t)) ∨
    ∃ t, layer.findClass name s = (.error (.classNotFound name), t) := by
  rw [run_findClass]
  rcases layer.search (classIn (Entry.ofClass name)) layer.urls s with ⟨_ | connection, t⟩
  · exact .inr ⟨t, rfl⟩
  · obtain ⟨c, u, hrun, -⟩ := defineClass_holds layer.id name (ownManifest connection.archive)
      connection.url connection.archive (Entry.ofClass name) t
    exact .inl ⟨c, u, hrun⟩

end Layer

namespace Loader

variable {layer : Layer} {parent : Loader} {name : String} {s t u : Store}

/-- A class that a layer has defined is found without a look at anything else. -/
lemma run_find_of_classOf {c : Class} (h : s.classOf layer.id name = some c) :
    (isolated layer parent).find name s = (.ok c, s) := by
  unfold find
  rw [Attempt.run_bind_lift, Layer.run_class?]
  dsimp only
  rw [h]
  rfl

/-- A class that a layer has not defined is looked for in the parent first, once its package has
been prepared. -/
lemma run_find_of_not_classOf (h : s.classOf layer.id name = none)
    (hprepared : layer.preparePackage name s = (.ok (), t)) :
    (isolated layer parent).find name s =
      match parent.find name t with
      | (.ok c, u) => (.ok c, u)
      | (.error (.classNotFound _), u) => layer.findClass name u
      | (.error cause, u) => (.error cause, u) := by
  rw [find, Attempt.run_bind_lift, Layer.run_class?]
  dsimp only
  rw [h]
  dsimp only
  rw [Attempt.run_bind_ok hprepared, Attempt.run_bind, Attempt.run_result]
  dsimp only
  rcases parent.find name t with ⟨cause | c, u⟩
  · cases cause with
    | _ => rfl
  · rfl

/-- Finding a class never ends with a package that has vanished. -/
lemma find_ne_packageVanished (loader : Loader) (name packageName : String) (s : Store) :
    (loader.find name s).1 ≠ .error (.packageVanished packageName) := by
  induction loader generalizing s with
  | absent =>
    intro h
    cases h
  | builtin id classes =>
    unfold find
    cases classes.get? name with
    | none =>
      intro h
      cases h
    | some c =>
      intro h
      cases h
  | failing id =>
    intro h
    cases h
  | isolated layer parent ih =>
    cases hknown : s.classOf layer.id name with
    | some c =>
      rw [run_find_of_classOf hknown]
      intro h
      cases h
    | none =>
      obtain ⟨t, hprepared⟩ := layer.exists_preparePackage name s
      have hparent := ih t
      rw [run_find_of_not_classOf hknown hprepared]
      rcases hfind : parent.find name t with ⟨cause | c, u⟩
      · rw [hfind] at hparent
        cases cause with
        | classNotFound other =>
          dsimp only
          rcases layer.findClass_cases name u with ⟨c, v, htaken⟩ | ⟨v, hnone⟩
          · rw [htaken]
            intro h
            cases h
          · rw [hnone]
            intro h
            cases h
        | packageVanished other =>
          intro h
          exact hparent h
        | _ =>
          intro h
          cases h
      · intro h
        cases h

/-- Loading a class is finding it, and reading it if that is asked for and the loader has urls. -/
lemma run_load (loader : Loader) (name : String) (resolve : Bool) (s : Store) :
    loader.load name resolve s =
      match loader.find name s with
      | (.error cause, t) => (.error cause, t)
      | (.ok c, t) =>
        match loader, resolve with
        | isolated _ _, true => ((c.content t).1.map fun _ => c, (c.content t).2)
        | _, _ => (.ok c, t) := by
  unfold load
  rw [Attempt.run_bind]
  rcases loader.find name s with ⟨cause | c, t⟩
  · rfl
  · cases loader with
    | isolated layer parent =>
      cases resolve with
      | false => rfl
      | true =>
        dsimp only
        rw [if_pos rfl, Attempt.run_bind]
        rcases c.content t with ⟨cause | content, u⟩ <;> rfl
    | _ => rfl

/-- Loading a class never ends with a package that has vanished, either. -/
lemma load_ne_packageVanished (loader : Loader) (name packageName : String) (resolve : Bool)
    (s : Store) : (loader.load name resolve s).1 ≠ .error (.packageVanished packageName) := by
  have hthere := loader.find_ne_packageVanished name packageName s
  rw [run_load]
  rcases hfind : loader.find name s with ⟨cause | c, t⟩
  · rw [hfind] at hthere
    exact hthere
  · dsimp only
    split
    · obtain ⟨r, u, hcontent, hyields⟩ := c.content_spec t
      rw [hcontent]
      intro h
      cases hyields with
      | _ => cases h
    · intro h
      cases h

end Loader

end AppLauncher
