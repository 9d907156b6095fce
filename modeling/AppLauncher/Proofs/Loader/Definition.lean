import AppLauncher.Loader.Definition
import AppLauncher.Proofs.Archive.Body

/-!
# What defining packages and classes does

A layer defines a package or a class by one insertion into its tables: `Store.withPackage` and
`Store.withClass`.  The tables are seen through `Store.packageOf` and `Store.classOf`, and the
lemmas about the two insertions are all that later arguments know of them.  `definePackage`,
`packageOrDefine` and `defineClass` are reduced to these insertions.
-/

namespace AppLauncher

namespace Store

/-- The package that a layer has defined under a name. -/
def packageOf (s : Store) (layer : Nat) (name : String) : Option Package :=
  (s.definitions layer).packages.get? name

/-- The class that a layer has defined under a name. -/
def classOf (s : Store) (layer : Nat) (name : String) : Option Class :=
  (s.definitions layer).classes.get? name

/-- The store in which a layer has defined one more package. -/
def withPackage (s : Store) (layer : Nat) (name : String) (p : Package) : Store :=
  let held := s.definitions layer
  { s with loaders := s.loaders.insert layer ⟨held.classes, held.packages.insert name p⟩ }

/-- The store in which a layer has defined one more class. -/
def withClass (s : Store) (layer : Nat) (c : Class) : Store :=
  let held := s.definitions layer
  { s with loaders := s.loaders.insert layer ⟨held.classes.insert c.name c, held.packages⟩ }

/-- Defining a package leaves the rest still. -/
lemma still_withPackage (s : Store) (layer : Nat) (name : String) (p : Package) :
    s.Still (s.withPackage layer name p) :=
  ⟨rfl, rfl, rfl, rfl⟩

/-- Defining a class leaves the rest still. -/
lemma still_withClass (s : Store) (layer : Nat) (c : Class) : s.Still (s.withClass layer c) :=
  ⟨rfl, rfl, rfl, rfl⟩

variable (s : Store)

/-- What a layer has defined after its definitions have been replaced. -/
lemma definitions_insert (layer id : Nat) (d : Definitions) :
    ({ s with loaders := s.loaders.insert layer d } : Store).definitions id =
      if layer = id then d else s.definitions id := by
  unfold definitions Table.getD
  rw [Table.get?_insert]
  split <;> rfl

/-- A new package is found under its layer and name. -/
lemma packageOf_withPackage (layer id : Nat) (name other : String) (p : Package) :
    (s.withPackage layer name p).packageOf id other =
      if layer = id ∧ name = other then some p else s.packageOf id other := by
  unfold packageOf withPackage
  rw [definitions_insert]
  by_cases hid : layer = id
  · subst hid
    rw [if_pos rfl, Table.get?_insert]
    by_cases hname : name = other
    · rw [if_pos hname, if_pos ⟨rfl, hname⟩]
    · rw [if_neg hname, if_neg fun h => hname h.2]
  · rw [if_neg hid, if_neg fun h => hid h.1]

/-- A new package is no class. -/
@[simp] lemma classOf_withPackage (layer id : Nat) (name other : String) (p : Package) :
    (s.withPackage layer name p).classOf id other = s.classOf id other := by
  unfold classOf withPackage
  rw [definitions_insert]
  split
  · rename_i hid
    rw [hid]
  · rfl

/-- A new class is found under its layer and name. -/
lemma classOf_withClass (layer id : Nat) (other : String) (c : Class) :
    (s.withClass layer c).classOf id other =
      if layer = id ∧ c.name = other then some c else s.classOf id other := by
  unfold classOf withClass
  rw [definitions_insert]
  by_cases hid : layer = id
  · subst hid
    rw [if_pos rfl, Table.get?_insert]
    by_cases hname : c.name = other
    · rw [if_pos hname, if_pos ⟨rfl, hname⟩]
    · rw [if_neg hname, if_neg fun h => hname h.2]
  · rw [if_neg hid, if_neg fun h => hid h.1]

/-- A new class is no package. -/
@[simp] lemma packageOf_withClass (layer id : Nat) (other : String) (c : Class) :
    (s.withClass layer c).packageOf id other = s.packageOf id other := by
  unfold packageOf withClass
  rw [definitions_insert]
  split
  · rename_i hid
    rw [hid]
  · rfl

/-- A package that a layer has stays when the layer defines another one. -/
lemma packageOf_withPackage_of_some {s : Store} {layer id : Nat} {name other : String}
    {p q : Package} (hnew : s.packageOf layer name = none) (h : s.packageOf id other = some q) :
    (s.withPackage layer name p).packageOf id other = some q := by
  rw [packageOf_withPackage, if_neg ?_, h]
  rintro ⟨rfl, rfl⟩
  rw [hnew] at h
  cases h

/-- A class that a layer has stays when the layer defines another one. -/
lemma classOf_withClass_of_some {s : Store} {layer id : Nat} {other : String} {c d : Class}
    (hnew : s.classOf layer c.name = none) (h : s.classOf id other = some d) :
    (s.withClass layer c).classOf id other = some d := by
  rw [classOf_withClass, if_neg ?_, h]
  rintro ⟨rfl, rfl⟩
  rw [hnew] at h
  cases h

variable {s} {t : Store}

/-- The packages that layers have defined are among what is kept. -/
lemma Keeps.packageOf (h : s.Keeps t) (layer : Nat) (name : String) :
    t.packageOf layer name = s.packageOf layer name := by
  unfold Store.packageOf definitions
  rw [h.loaders]

/-- The classes that layers have defined are among what is kept. -/
lemma Keeps.classOf (h : s.Keeps t) (layer : Nat) (name : String) :
    t.classOf layer name = s.classOf layer name := by
  unfold Store.classOf definitions
  rw [h.loaders]

end Store

namespace Layer

variable {layer : Nat} {name : String} {s : Store}

/-- A layer is asked for a package without a change. -/
lemma run_package? (layer : Nat) (name : String) (s : Store) :
    package? layer name s = (s.packageOf layer name, s) := rfl

/-- A layer is asked for a class without a change. -/
lemma run_class? (layer : Nat) (name : String) (s : Store) :
    class? layer name s = (s.classOf layer name, s) := rfl

/-- A package that is there already is not defined again, and nothing changes. -/
lemma definePackage_of_some {p : Package} (h : s.packageOf layer name = some p)
    (manifest : Option Manifest) (url : Url) :
    definePackage layer name manifest url s = (.error (.packageAlreadyDefined name), s) := by
  unfold Store.packageOf at h
  unfold definePackage Table.contains
  dsimp only
  rw [h, Option.isSome_some, if_pos rfl]

/-- A package that is not there is defined. -/
lemma definePackage_of_none (h : s.packageOf layer name = none) (manifest : Option Manifest)
    (url : Url) : ∃ t, s.Quiet t ∧ definePackage layer name manifest url s =
      (.ok (Package.define name manifest url),
        t.withPackage layer name (Package.define name manifest url)) := by
  unfold Store.packageOf at h
  refine ⟨_, Store.quiet_log .debug logTarget "Defined package"
    [.quoted "package" name, .plain "url" url.text] s, ?_⟩
  unfold definePackage Table.contains
  dsimp only
  rw [h, Option.isSome_none, if_neg (by simp)]
  rfl

/-- A class gives way to the one that is kept under its name. -/
lemma keepClass_of_some {c d : Class} (h : s.classOf layer c.name = some d) :
    keepClass layer c s = (d, s) := by
  unfold Store.classOf at h
  unfold keepClass
  dsimp only
  rw [h]

/-- A class of a new name is kept. -/
lemma keepClass_of_none {c : Class} (h : s.classOf layer c.name = none) :
    keepClass layer c s = (c, s.withClass layer c) := by
  unfold Store.classOf at h
  unfold keepClass
  dsimp only
  rw [h]
  rfl

/-- A successful definition converges to the package defined. -/
lemma converge_ok (p : Package) : converge layer name (.ok p) s = (.ok p, s) := rfl

/-- After this, a layer has the given package under the name: it had it, or it has defined the
given new one. -/
inductive Supplies (layer : Nat) (name : String) (new : Package) (s : Store) :
    Package → Store → Prop where
  | held {p : Package} : s.packageOf layer name = some p → Supplies layer name new s p s
  | defined {t : Store} : s.packageOf layer name = none → s.Reads t →
      Supplies layer name new s new (t.withPackage layer name new)

/-- A package that is there is given back. -/
lemma packageOrDefine_of_some {p : Package} (h : s.packageOf layer name = some p)
    (manifest : Action (Option Manifest)) (url : Url) :
    packageOrDefine layer name manifest url s = (.ok p, s) := by
  unfold packageOrDefine
  rw [Attempt.run_bind_lift, run_package?]
  dsimp only
  rw [h]
  rfl

/-- A package that is not there is defined from the manifest that is found, once this has been
read. -/
lemma packageOrDefine_of_none (h : s.packageOf layer name = none)
    {manifest : Action (Option Manifest)} (hm : s.Reads (manifest s).2) (url : Url) :
    ∃ t, (manifest s).2.Quiet t ∧ packageOrDefine layer name manifest url s =
      (.ok (Package.define name (manifest s).1 url),
        t.withPackage layer name (Package.define name (manifest s).1 url)) := by
  have hnone : (manifest s).2.packageOf layer name = none := by
    rw [hm.packageOf, h]
  obtain ⟨t, hq, hd⟩ := definePackage_of_none hnone (manifest s).1 url
  refine ⟨t, hq, ?_⟩
  unfold packageOrDefine
  rw [Attempt.run_bind_lift, run_package?]
  dsimp only
  rw [h]
  dsimp only
  rw [Attempt.run_bind_lift, Attempt.run_bind, Attempt.run_result, hd]
  exact converge_ok _

/-- The package that is there, or else the package that is defined now. -/
lemma packageOrDefine_spec (layer : Nat) (name : String) {manifest : Action (Option Manifest)}
    (hm : s.Reads (manifest s).2) (url : Url) :
    ∃ p t, packageOrDefine layer name manifest url s = (.ok p, t) ∧
      Supplies layer name (Package.define name (manifest s).1 url) s p t := by
  cases hp : s.packageOf layer name with
  | some p => exact ⟨p, s, packageOrDefine_of_some hp manifest url, .held hp⟩
  | none =>
    obtain ⟨t, hq, hrun⟩ := packageOrDefine_of_none hp hm url
    exact ⟨_, _, hrun, .defined hp (hm.trans hq.toReads)⟩

/-- What a layer does about the package of a class that it is about to define, and the package that
the class gets.  The new package, if one is needed, is a function of the name of the package. -/
inductive Attributes (layer : Nat) (name : String) (new : String → Package) (s : Store) :
    Option Package → Store → Prop where
  | undotted : Text.beforeLastDot? name = none → Attributes layer name new s none s
  | dotted {packageName : String} {p : Package} {t : Store} :
      Text.beforeLastDot? name = some packageName →
      Supplies layer packageName (new packageName) s p t → Attributes layer name new s (some p) t

/-- A class that the layer does not have is kept once it has been noted. -/
lemma run_note_keepClass {c : Class} (h : s.classOf layer c.name = none) (url : Url) :
    ∃ t, s.Quiet t ∧
      (do (Action.log .trace logTarget "Found class"
            [.quoted "class" c.name, .plain "url" url.text] : Action _)
          (keepClass layer c : Action _) : Attempt LoaderError Class) s =
        (.ok c, t.withClass layer c) := by
  have hq := Store.quiet_log .trace logTarget "Found class"
    [.quoted "class" c.name, .plain "url" url.text] s
  refine ⟨_, hq, ?_⟩
  have hnew := (hq.classOf layer c.name).trans h
  rw [Attempt.run_bind_lift, Attempt.run_lift, keepClass_of_none hnew]

/-- Once the package of its name is there, a class that the layer does not have is defined. -/
lemma defineClass_of_package {packageName : String} {manifest : Action (Option Manifest)}
    {url : Url} {p : Package} {t : Store} (hname : Text.beforeLastDot? name = some packageName)
    (hp : packageOrDefine layer packageName manifest url s = (.ok p, t))
    (hnew : t.classOf layer name = none) (a : Archive) (entry : String) :
    ∃ u, t.Quiet u ∧ defineClass layer name manifest url a entry s =
      (.ok ⟨layer, name, .archived url a entry, some p⟩,
        u.withClass layer ⟨layer, name, .archived url a entry, some p⟩) := by
  obtain ⟨u, hq, hrun⟩ := run_note_keepClass
    (c := ⟨layer, name, .archived url a entry, some p⟩) hnew url
  refine ⟨u, hq, ?_⟩
  unfold defineClass
  rw [hname]
  dsimp only
  rw [Attempt.run_bind, Attempt.run_map, hp]
  exact hrun

/-- A class that the layer does not have is defined with the package of its name. -/
lemma defineClass_spec {manifest : Action (Option Manifest)} (hm : s.Reads (manifest s).2)
    (hnew : s.classOf layer name = none) (url : Url) (a : Archive) (entry : String) :
    ∃ p t u, Attributes layer name (Package.define · (manifest s).1 url) s p t ∧ t.Quiet u ∧
      defineClass layer name manifest url a entry s =
        (.ok ⟨layer, name, .archived url a entry, p⟩,
          u.withClass layer ⟨layer, name, .archived url a entry, p⟩) := by
  cases hname : Text.beforeLastDot? name with
  | none =>
    obtain ⟨u, hq, hrun⟩ := run_note_keepClass
      (c := ⟨layer, name, .archived url a entry, none⟩) hnew url
    refine ⟨none, s, u, .undotted hname, hq, ?_⟩
    unfold defineClass
    rw [hname]
    dsimp only
    rw [Attempt.run_bind, Attempt.run_pure]
    exact hrun
  | some packageName =>
    obtain ⟨p, t, ht, hp⟩ := packageOrDefine_spec layer packageName hm url
    have hnone : t.classOf layer name = none := by
      cases hp with
      | held => exact hnew
      | defined _ hr => rw [Store.classOf_withPackage, hr.classOf, hnew]
    obtain ⟨u, hq, hrun⟩ := defineClass_of_package hname ht hnone a entry
    exact ⟨some p, t, u, .dotted hname hp, hq, hrun⟩

end Layer

end AppLauncher
