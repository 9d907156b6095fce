import AppLauncher.Proofs.Loader.Finding

/-!
# How the definitions of a chain evolve

Whatever is asked of a chain, its definitions only grow: packages and classes are added under names
that are free, each class together with its package, and a class only where the loaders above have
not settled on one.  `Store.Evolves` is generated by these steps, and what they preserve holds along
every run.  Packages stay (`Evolves.packageOf_of_some`), contents that have been read stay
(`Evolves.contents_of_some`), and so does the class that a chain has settled on
(`Evolves.settled?_of_some`), although a class that a parent gives is not kept by its children.
-/

namespace AppLauncher

/-! ### The class that a chain has settled on -/

namespace Store

/-- The class that a chain gives whatever the archives hold: one that a layer has defined, or a
builtin one. -/
def settled? (s : Store) (name : String) : Loader → Option Class
  | .absent => none
  | .builtin _ classes => classes.get? name
  | .failing _ => none
  | .isolated layer parent => (s.classOf layer.id name).or (s.settled? name parent)

variable {s t : Store} {layer : Layer} {parent : Loader} {name : String} {c : Class}

/-- A chain has settled on the class that its innermost layer has defined. -/
lemma settled?_of_classOf (h : s.classOf layer.id name = some c) :
    s.settled? name (.isolated layer parent) = some c := by
  rw [settled?, h, Option.some_or]

/-- A layer that has not defined a class has what its parent has. -/
lemma settled?_of_not_classOf (h : s.classOf layer.id name = none) :
    s.settled? name (.isolated layer parent) = s.settled? name parent := by
  rw [settled?, h, Option.none_or]

/-- What a chain has settled on is a matter of the classes that its layers have defined. -/
lemma settled?_congr {loader : Loader}
    (h : ∀ layer ∈ loader.layers, t.classOf layer.id name = s.classOf layer.id name) :
    t.settled? name loader = s.settled? name loader := by
  induction loader with
  | absent | builtin | failing => rfl
  | isolated layer parent ih =>
    rw [settled?, settled?, h layer (.head _), ih fun l hl => h l (.tail _ hl)]

end Store

/-- Preparing a package does not change what a chain has settled on. -/
lemma Layer.Prepares.settled? {layer : Layer} {name : String} {s t : Store}
    (h : layer.Prepares name s t) (other : String) (loader : Loader) :
    t.settled? other loader = s.settled? other loader :=
  Store.settled?_congr fun l _ => h.classOf l.id other

namespace Loader

variable {name : String} {loader : Loader} {s t : Store} {r : Except LoaderError Class} {c : Class}

/-- A search that fails defines no class. -/
lemma Finds.classOf_of_error {cause : LoaderError} (h : Finds name loader s (.error cause) t)
    (id : Nat) (other : String) : t.classOf id other = s.classOf id other := by
  generalize hr : (.error cause : Except LoaderError Class) = r at h
  induction h generalizing cause with
  | absent | unprovided | failing => rfl
  | provided | known | inherited | defined => cases hr
  | failed _ hp _ _ ih => rw [ih rfl, hp.classOf]
  | missing _ hp _ _ hlooks ih => rw [hlooks.classOf, ih rfl, hp.classOf]

/-- A search finds the class that the chain has settled on. -/
lemma Finds.eq_of_settled? (h : Finds name loader s r t) (hc : s.settled? name loader = some c) :
    r = .ok c := by
  induction h with
  | absent | failing => cases hc
  | provided hget =>
    rw [Store.settled?, hget] at hc
    rw [Option.some.inj hc]
  | unprovided hget =>
    rw [Store.settled?, hget] at hc
    cases hc
  | known hknown =>
    rw [Store.settled?_of_classOf hknown] at hc
    rw [Option.some.inj hc]
  | inherited hnew hp _ ih =>
    rw [Store.settled?_of_not_classOf hnew, ← hp.settled?] at hc
    exact ih hc
  | failed hnew hp _ _ ih | missing hnew hp _ _ _ ih | defined hnew hp _ _ _ ih =>
    rw [Store.settled?_of_not_classOf hnew, ← hp.settled?] at hc
    cases ih hc

/-- A chain has settled on the class that it has found. -/
lemma Finds.settled?_of_ok (hids : loader.ids.Nodup)
    (h : Finds name loader s (.ok c) t) : t.settled? name loader = some c := by
  generalize hr : (.ok c : Except LoaderError Class) = r at h
  induction h with
  | absent | unprovided | failing | failed | missing => cases hr
  | provided hget =>
    cases hr
    exact hget
  | known hknown =>
    cases hr
    exact Store.settled?_of_classOf hknown
  | inherited hnew hp hf ih =>
    obtain ⟨hnot, hparent⟩ := List.nodup_cons.mp hids
    rw [Store.settled?_of_not_classOf, ih hparent hr]
    rw [hf.classOf_of_not_mem hnot, hp.classOf, hnew]
  | @defined layer _ _ _ _ v _ c' _ _ _ _ htakes _ =>
    cases hr
    refine Store.settled?_of_classOf ?_
    have hname : c.name = name := by
      cases htakes
      rfl
    rw [Store.classOf_withClass, if_pos ⟨rfl, hname⟩]

end Loader

/-! ### The package of a class -/

namespace Store

/-- A class has the package that its definer holds under the name before the last dot; it has none
when there is no dot. -/
def Attributed (s : Store) (c : Class) : Prop :=
  match Text.beforeLastDot? c.name with
  | none => c.package = none
  | some packageName => ∃ p, c.package = some p ∧ s.packageOf c.definer packageName = some p

/-- The package of a class stays in place as long as packages do. -/
lemma Attributed.mono {s t : Store} {c : Class} (h : s.Attributed c)
    (hp : ∀ name p, s.packageOf c.definer name = some p → t.packageOf c.definer name = some p) :
    t.Attributed c := by
  unfold Attributed at h ⊢
  split at h
  · exact h
  · obtain ⟨p, hpackage, hheld⟩ := h
    exact ⟨p, hpackage, hp _ _ hheld⟩

/-- A class keeps its package when another class is defined. -/
lemma Attributed.withClass {s : Store} {layer : Nat} {c d : Class} (h : s.Attributed c) :
    (s.withClass layer d).Attributed c :=
  h.mono fun name p hp => by rw [packageOf_withClass, hp]

end Store

/-- A class is defined with the package of its name. -/
lemma Layer.Attributes.attributed {layer : Nat} {name : String} {new : String → Package}
    {s t : Store} {p : Option Package} (h : Layer.Attributes layer name new s p t)
    (source : Class.Source) : t.Attributed ⟨layer, name, source, p⟩ := by
  unfold Store.Attributed
  cases h with
  | undotted hname =>
    dsimp only
    rw [hname]
  | dotted hname hp =>
    dsimp only
    rw [hname]
    refine ⟨_, rfl, ?_⟩
    cases hp with
    | held hheld => exact hheld
    | defined => rw [Store.packageOf_withPackage, if_pos ⟨rfl, rfl⟩]

/-- A class comes from the entry of its name in an archive. -/
def Class.IsArchived (c : Class) : Prop :=
  ∃ url a, c.source = .archived url a (Entry.ofClass c.name)

/-! ### Evolution -/

namespace Store

/-- The store in which the content of one more class has been read. -/
def withContent (s : Store) (key : Nat × String) (content : List UInt8) : Store :=
  { s with contents := s.contents.insert key content }

/-- What can become of a store while a chain is asked, archives are registered and files are
changed. -/
inductive Evolves (loader : Loader) (s : Store) : Store → Prop where
  | refl : Evolves loader s s
  | kept {t u : Store} : Evolves loader s t → t.Keeps u → Evolves loader s u
  | files {t : Store} (files : FileSystem) : Evolves loader s t →
      Evolves loader s { t with files := files }
  | packaged {t : Store} {layer : Layer} {name : String} {p : Package} : Evolves loader s t →
      layer ∈ loader.layers → t.packageOf layer.id name = none →
      Evolves loader s (t.withPackage layer.id name p)
  | defined {t : Store} {depth : Nat} {layer : Layer} {parent : Loader} {c : Class} :
      Evolves loader s t → loader.ancestor depth = .isolated layer parent →
      t.classOf layer.id c.name = none → t.settled? c.name parent = none →
      c.definer = layer.id → c.IsArchived → t.Attributed c →
      Evolves loader s (t.withClass layer.id c)
  | read {t : Store} {layer : Layer} {name : String} {content : List UInt8} :
      Evolves loader s t → layer ∈ loader.layers → t.contents.get? (layer.id, name) = none →
      Evolves loader s (t.withContent (layer.id, name) content)

namespace Evolves

variable {loader : Loader} {s t u : Store}

/-- A computation that keeps what loaders have defined lets a store evolve. -/
lemma of_keeps (h : s.Keeps t) : s.Evolves loader t := .kept .refl h

/-- One evolution after the other is an evolution. -/
lemma trans (h : s.Evolves loader t) (g : t.Evolves loader u) : s.Evolves loader u := by
  induction g with
  | refl => exact h
  | kept _ hk ih => exact .kept ih hk
  | files files _ ih => exact .files files ih
  | packaged _ hl hnew ih => exact .packaged ih hl hnew
  | defined _ hl hnew hp hd ha hat ih => exact .defined ih hl hnew hp hd ha hat
  | read _ hl hnew ih => exact .read ih hl hnew

/-- What becomes of a store when a parent is asked can become of it when a child is. -/
lemma of_ancestor {depth : Nat} (h : s.Evolves (loader.ancestor depth) t) :
    s.Evolves loader t := by
  induction h with
  | refl => exact .refl
  | kept _ hk ih => exact .kept ih hk
  | files files _ ih => exact .files files ih
  | packaged _ hl hnew ih => exact .packaged ih (Loader.layers_ancestor depth loader hl) hnew
  | defined _ hl hnew hp hd ha hat ih =>
    rw [Loader.ancestor_ancestor] at hl
    exact .defined ih hl hnew hp hd ha hat
  | read _ hl hnew ih => exact .read ih (Loader.layers_ancestor depth loader hl) hnew

/-- What becomes of a store when the parent of a layer is asked. -/
lemma of_parent {layer : Layer} {parent : Loader} (h : s.Evolves parent t) :
    s.Evolves (.isolated layer parent) t := by
  have habove : s.Evolves ((Loader.isolated layer parent).ancestor 1) t := h
  exact habove.of_ancestor

/-- Nothing is scheduled while a store evolves. -/
lemma undisturbed (h : s.Evolves loader t) (hs : s.Undisturbed) : t.Undisturbed := by
  induction h with
  | refl => exact hs
  | kept _ hk ih => exact hk.undisturbed ih
  | files _ _ ih | packaged _ _ _ ih | defined _ _ _ _ _ _ _ ih | read _ _ _ ih => exact ih

/-- A package stays. -/
lemma packageOf_of_some (h : s.Evolves loader t) {layer : Nat} {name : String} {p : Package}
    (hp : s.packageOf layer name = some p) : t.packageOf layer name = some p := by
  induction h with
  | refl => exact hp
  | kept _ hk ih => rw [hk.packageOf, ih]
  | packaged _ _ hnew ih => exact packageOf_withPackage_of_some hnew ih
  | defined _ _ _ _ _ _ _ ih => rw [packageOf_withClass, ih]
  | files _ _ ih | read _ _ _ ih => exact ih

/-- A content that has been read stays. -/
lemma contents_of_some (h : s.Evolves loader t) {key : Nat × String} {content : List UInt8}
    (hc : s.contents.get? key = some content) : t.contents.get? key = some content := by
  induction h with
  | refl => exact hc
  | kept _ hk ih => rw [hk.contents, ih]
  | files _ _ ih | packaged _ _ _ ih | defined _ _ _ _ _ _ _ ih => exact ih
  | read _ _ hnew ih =>
    unfold withContent
    rw [Table.get?_insert, if_neg, ih]
    rintro rfl
    rw [hnew] at ih
    cases ih

/-- No contents are read of what is not defined by a layer of the chain. -/
lemma contents_of_not_mem (h : s.Evolves loader t) {id : Nat}
    (hid : id ∉ loader.ids) (name : String) :
    t.contents.get? (id, name) = s.contents.get? (id, name) := by
  induction h with
  | refl => rfl
  | kept _ hk ih => rw [hk.contents, ih]
  | files _ _ ih | packaged _ _ _ ih | defined _ _ _ _ _ _ _ ih => exact ih
  | read _ hl _ ih =>
    unfold withContent
    rw [Table.get?_insert, if_neg, ih]
    rintro heq
    exact hid ((Prod.mk.inj heq).1 ▸ List.mem_map_of_mem hl)

end Evolves

/-- What a class table of the chain holds is what it says: each class under its name, defined by its
layer from the entry of its name, with the package of its name. -/
def Sound (loader : Loader) (s : Store) : Prop :=
  ∀ layer ∈ loader.layers, ∀ name c, s.classOf layer.id name = some c →
    c.name = name ∧ c.definer = layer.id ∧ c.IsArchived ∧ s.Attributed c

/-- Soundness is preserved. -/
lemma Evolves.sound {loader : Loader} {s t : Store} (h : s.Evolves loader t)
    (hs : s.Sound loader) : t.Sound loader := by
  induction h with
  | refl => exact hs
  | kept hst hk ih =>
    intro layer hl name c hc
    rw [hk.classOf] at hc
    obtain ⟨hname, hdef, harch, hattr⟩ := ih layer hl name c hc
    refine ⟨hname, hdef, harch, hattr.mono fun other p hp => ?_⟩
    rw [hk.packageOf, hp]
  | packaged hst _ hnew ih =>
    intro layer hl name c hc
    rw [classOf_withPackage] at hc
    obtain ⟨hname, hdef, harch, hattr⟩ := ih layer hl name c hc
    exact ⟨hname, hdef, harch, hattr.mono fun _ _ hp => packageOf_withPackage_of_some hnew hp⟩
  | defined hst _ _ _ hd ha hat ih =>
    intro layer hl name c hc
    rw [classOf_withClass] at hc
    split at hc
    · rename_i heq
      obtain ⟨hid, rfl⟩ := heq
      cases hc
      exact ⟨rfl, hd.trans hid, ha, hat.withClass⟩
    · obtain ⟨hname, hdef, harch, hattr⟩ := ih layer hl name c hc
      exact ⟨hname, hdef, harch, hattr.withClass⟩
  | files _ _ ih | read _ _ _ ih => exact ih

end Store

/-! ### What a chain has settled on stays -/

namespace Store

variable {loader : Loader} {s t : Store} {name : String} {c : Class}

/-- A class that is defined where the parent has none does not come before what a chain has settled
on already. -/
lemma settled?_withClass_of_some (hids : loader.ids.Nodup) {depth depth' : Nat}
    {layer : Layer} {parent : Loader} {d : Class}
    (hlayer : loader.ancestor depth = .isolated layer parent)
    (hnew : s.classOf layer.id d.name = none) (hparent : s.settled? d.name parent = none)
    (hc : s.settled? name (loader.ancestor depth') = some c) :
    (s.withClass layer.id d).settled? name (loader.ancestor depth') = some c := by
  generalize hl : loader.ancestor depth' = l at hc ⊢
  induction l generalizing depth' with
  | absent | builtin | failing => exact hc
  | isolated layer' parent' ih =>
    cases hknown : s.classOf layer'.id name with
    | some e =>
      rw [settled?_of_classOf hknown] at hc
      rw [settled?_of_classOf (classOf_withClass_of_some hnew hknown), hc]
    | none =>
      rw [settled?_of_not_classOf hknown] at hc
      -- the new class is not one of this layer, whose parent has settled on the name
      have hother : ¬(layer.id = layer'.id ∧ d.name = name) := by
        rintro ⟨hid, rfl⟩
        rw [(Loader.ancestor_unique hids hlayer hl hid).2, hc] at hparent
        cases hparent
      have hstill : (s.withClass layer.id d).classOf layer'.id name = none := by
        rw [classOf_withClass, if_neg hother, hknown]
      rw [settled?_of_not_classOf hstill, ih (Loader.ancestor_succ_of_ancestor hl) hc]

/-- The class that a loader of the chain has settled on stays. -/
lemma Evolves.settled?_of_some (h : s.Evolves loader t) (hids : loader.ids.Nodup)
    {depth : Nat} (hc : s.settled? name (loader.ancestor depth) = some c) :
    t.settled? name (loader.ancestor depth) = some c := by
  induction h with
  | refl => exact hc
  | kept _ hk ih => rw [settled?_congr fun l _ => hk.classOf l.id name, ih]
  | packaged _ _ _ ih => rw [settled?_congr fun l _ => classOf_withPackage _ _ _ _ _ _, ih]
  | defined _ hl hnew hp _ _ _ ih => exact settled?_withClass_of_some hids hl hnew hp ih
  | files _ _ ih | read _ _ _ ih =>
    rw [← ih]
    exact settled?_congr fun _ _ => rfl

end Store

/-! ### Finding a class lets a store evolve -/

namespace Layer

variable {layer : Layer} {parent loader : Loader} {name : String} {s t : Store}

/-- Preparing a package is an evolution. -/
lemma Prepares.evolves (h : layer.Prepares name s t) (hl : layer ∈ loader.layers) :
    s.Evolves loader t := by
  cases h with
  | undotted | held => exact .refl
  | unfit _ _ _ hlooks => exact .of_keeps hlooks.toKeeps
  | fit _ hnone _ _ hlooks _ _ =>
    exact .packaged (.of_keeps hlooks.toKeeps) hl (by rw [hlooks.packageOf, hnone])

/-- Supplying the package of a class is an evolution. -/
lemma Attributes.evolves {new : String → Package} {p : Option Package}
    (h : Attributes layer.id name new s p t) (hl : layer ∈ loader.layers) :
    s.Evolves loader t := by
  cases h with
  | undotted => exact .refl
  | dotted _ hp =>
    cases hp with
    | held => exact .refl
    | defined hnone hr =>
      exact .packaged (.of_keeps hr.toKeeps) hl (by rw [hr.packageOf, hnone])

/-- Taking a class is an evolution. -/
lemma Takes.evolves {c : Class} (h : layer.Takes name s c t) (hl : layer ∈ loader.layers) :
    s.Evolves loader t := by
  cases h with
  | intro _ _ hlooks _ _ hp hq =>
    exact .kept ((Store.Evolves.of_keeps hlooks.toKeeps).trans (hp.evolves hl)) hq.toKeeps

/-- A class that is taken is what it says. -/
lemma Takes.sound {c : Class} (h : layer.Takes name s c t) :
    c.name = name ∧ c.definer = layer.id ∧ c.IsArchived ∧ t.Attributed c := by
  cases h with
  | intro _ _ _ _ _ hp hq =>
    refine ⟨rfl, rfl, ⟨_, _, rfl⟩, (hp.attributed _).mono fun _ _ hheld => ?_⟩
    rw [hq.packageOf, hheld]

end Layer

/-- Finding a class is an evolution. -/
lemma Loader.Finds.evolves {loader : Loader} {name : String} {s t : Store}
    {r : Except LoaderError Class} (h : Loader.Finds name loader s r t) : s.Evolves loader t := by
  induction h with
  | absent | provided | unprovided | failing | known => exact .refl
  | inherited _ hp _ ih | failed _ hp _ _ ih =>
    exact (hp.evolves (.head _)).trans (.of_parent ih)
  | missing _ hp _ _ hlooks ih =>
    exact .kept ((hp.evolves (.head _)).trans (.of_parent ih)) hlooks.toKeeps
  | @defined layer parent s t u v other c _ hp hf hnew ht ih =>
    obtain ⟨rfl, hd, ha, hat⟩ := ht.sound
    have hparent : v.settled? c.name parent = none := by
      rw [Store.settled?_congr fun l _ => ht.classOf l.id c.name,
        Store.settled?_congr fun l _ => hf.classOf_of_error l.id c.name,
        Option.eq_none_iff_forall_ne_some]
      intro d hd
      cases hf.eq_of_settled? hd
    have hevolves := ((hp.evolves (.head _)).trans (.of_parent ih)).trans (ht.evolves (.head _))
    have hlayer : (isolated layer parent).ancestor 0 = .isolated layer parent := rfl
    exact .defined hevolves hlayer (by rw [ht.classOf, hnew]) hparent hd ha hat

end AppLauncher
