import AppLauncher.Proofs.Loader.Resemblance

/-!
# Loading side by side

What a chain does on one of two stores that resemble each other, it does on the other one, too: the
answers are alike and the stores resemble each other again.  This is shown for each function that
loading is made of, in the order of their definitions, up to `Loader.Padding.find` and
`Loader.Padding.load`; the chain of the second store may have broken urls between those of the first
one (`Loader.Padding`).

Answers are alike if they differ in the numbers of archives at most, and in how paths are written if
this is allowed for: for classes this is `Class.Alike`, for resources `Resource.Alike`.  Finding a
class fails with the very same cause on both sides; reading it can show how the path of a malformed
archive is written.
-/

namespace AppLauncher

open Archive (Body)

variable {k : Closeness} {reach : Nat → Url → Prop} {start s t : Store}

/-! ### Definitions -/

namespace Store.Resembles

/-- Stores resemble each other as long as archives stay as they are, if the same has been defined
and read. -/
lemma of_sameArchives {s' t' : Store} (h : Resembles k reach start s t) (hs : s.SameArchives s')
    (ht : t.SameArchives t')
    (hpackages : ∀ id, (s'.definitions id).packages = (t'.definitions id).packages)
    (hclasses : ∀ id name,
      Option.Rel (Class.Alike k start.files) (s'.classOf id name) (t'.classOf id name))
    (hcontents : s'.contents = t'.contents) : Resembles k reach start s' t' := by
  refine ⟨h.left.of_sameArchives hs, h.right.of_sameArchives ht, fun handler url hurl => ?_,
    fun hk handler key => ?_, hpackages, hclasses, hcontents⟩
  · unfold usable?
    rw [hs.files, ht.files, bodies_of_handlers hs.handlers, bodies_of_handlers ht.handlers]
    exact h.usable handler url hurl
  · unfold readable?
    rw [bodies_of_handlers hs.handlers, bodies_of_handlers ht.handlers]
    exact h.readable hk handler key

/-- Stores resemble each other when one package has been defined in both. -/
lemma withPackage (h : Resembles k reach start s t) (layer : Nat) (name : String) (p : Package) :
    Resembles k reach start (s.withPackage layer name p) (t.withPackage layer name p) := by
  refine h.of_sameArchives ⟨rfl, rfl, rfl, rfl, Nat.le_refl _⟩ ⟨rfl, rfl, rfl, rfl, Nat.le_refl _⟩
    (fun id => ?_) (fun id other => ?_) h.contents
  · unfold Store.withPackage
    rw [definitions_insert, definitions_insert]
    split
    · dsimp only
      rw [h.packages]
    · exact h.packages id
  · rw [classOf_withPackage, classOf_withPackage]
    exact h.classes id other

/-- Stores resemble each other when alike classes have been defined in both. -/
lemma withClass (h : Resembles k reach start s t) (layer : Nat) {c d : Class}
    (hcd : c.Alike k start.files d) :
    Resembles k reach start (s.withClass layer c) (t.withClass layer d) := by
  refine h.of_sameArchives ⟨rfl, rfl, rfl, rfl, Nat.le_refl _⟩ ⟨rfl, rfl, rfl, rfl, Nat.le_refl _⟩
    (fun id => ?_) (fun id other => ?_) h.contents
  · unfold Store.withClass
    rw [definitions_insert, definitions_insert]
    split
    · exact h.packages layer
    · exact h.packages id
  · rw [classOf_withClass, classOf_withClass, hcd.name]
    split
    · exact .some hcd
    · exact h.classes id other

/-- Stores resemble each other when one content has been read in both. -/
lemma withContent (h : Resembles k reach start s t) (key : Nat × String) (content : List UInt8) :
    Resembles k reach start (s.withContent key content) (t.withContent key content) := by
  refine h.of_sameArchives ⟨rfl, rfl, rfl, rfl, Nat.le_refl _⟩ ⟨rfl, rfl, rfl, rfl, Nat.le_refl _⟩
    h.packages h.classes ?_
  unfold Store.withContent
  rw [h.contents]

/-- Stores resemble each other after quiet computations on both. -/
lemma quiet {s' t' : Store} (h : Resembles k reach start s t) (hs : s.Quiet s') (ht : t.Quiet t')
    (hnext : s.next ≤ s'.next) (hnext' : t.next ≤ t'.next) : Resembles k reach start s' t' :=
  h.idle (.of_quiet h.left hs hnext) (.of_quiet h.right ht hnext')

end Store.Resembles

namespace Layer

open Attempt

variable {id : Nat} {name : String} {url : Url} {a b : Archive}

/-- Layers have the same packages on both sides. -/
lemma matches_package? (h : Store.Resembles k reach start s t) (id : Nat) (name : String) :
    (package? id name).Matches k reach start Eq (package? id name) s t :=
  ⟨h, h.packageOf id name⟩

/-- Layers have alike classes on both sides. -/
lemma matches_class? (h : Store.Resembles k reach start s t) (id : Nat) (name : String) :
    (class? id name).Matches k reach start (Option.Rel (Class.Alike k start.files)) (class? id name)
      s t :=
  ⟨h, h.classes id name⟩

/-- A package is defined on both sides, or refused on both. -/
lemma matches_definePackage (h : Store.Resembles k reach start s t) (id : Nat) (name : String)
    (manifest : Option Manifest) (url : Url) :
    (definePackage id name manifest url).Matches k reach start Eq Eq
      (definePackage id name manifest url) s t := by
  have hsame := h.packageOf id name
  cases hs : s.packageOf id name with
  | some p =>
    have ht : t.packageOf id name = some p := hsame.symm.trans hs
    refine ⟨?_, ?_⟩
    · rw [definePackage_of_some hs, definePackage_of_some ht]
      exact h
    · rw [definePackage_of_some hs, definePackage_of_some ht]
      exact .error rfl
  | none =>
    have ht : t.packageOf id name = none := hsame.symm.trans hs
    obtain ⟨s', hq, hrun⟩ := definePackage_of_none hs manifest url
    obtain ⟨t', hq', hrun'⟩ := definePackage_of_none ht manifest url
    have hnext := obeys_definePackage Store.next_law.toAskingLaw id name manifest url s
    have hnext' := obeys_definePackage Store.next_law.toAskingLaw id name manifest url t
    rw [hrun] at hnext
    rw [hrun'] at hnext'
    refine ⟨?_, ?_⟩
    · rw [hrun, hrun']
      exact (h.quiet hq hq' hnext hnext').withPackage id name _
    · rw [hrun, hrun']
      exact .ok rfl

/-- The same package is given back on both sides after an attempt to define it. -/
lemma matches_converge (h : Store.Resembles k reach start s t) (id : Nat) (name : String)
    (result : Except LoaderError Package) :
    (converge id name result).Matches k reach start Eq Eq (converge id name result) s t := by
  cases result with
  | ok package => exact matches_pure h rfl
  | error cause =>
    cases cause with
    | packageAlreadyDefined other =>
      refine (matches_lift (matches_package? h id name)).bind ?_
      rintro package? _ rfl h
      cases package? with
      | none => exact matches_throw h rfl
      | some package => exact matches_pure h rfl
    | _ => exact matches_throw h rfl

/-- A package is defined and given back on both sides. -/
lemma matches_define (h : Store.Resembles k reach start s t) (id : Nat) (name : String)
    (manifest : Option Manifest) (url : Url) :
    Attempt.Matches k reach start Eq Eq
      ((definePackage id name manifest url).result >>= converge id name)
      ((definePackage id name manifest url).result >>= converge id name) s t := by
  refine (matches_definePackage h id name manifest url).result.bind ?_
  intro r r' hr h
  rw [hr.eq]
  exact matches_converge h id name r'

/-- A package is given back or defined on both sides, if the same manifest is found. -/
lemma matches_packageOrDefine {manifest manifest' : Action (Option Manifest)}
    (h : Store.Resembles k reach start s t) (hm : manifest.Matches k reach start Eq manifest' s t)
    (id : Nat) (name : String) (url : Url) :
    (packageOrDefine id name manifest url).Matches k reach start Eq Eq
      (packageOrDefine id name manifest' url) s t := by
  refine (matches_lift (matches_package? h id name)).bind ?_
  rintro package? _ rfl h
  cases package? with
  | some package => exact matches_pure h rfl
  | none =>
    refine (matches_lift hm).bind ?_
    rintro manifest _ rfl h
    exact matches_define h id name manifest url

/-- Alike classes are kept on both sides, or give way to classes that are. -/
lemma matches_keepClass (h : Store.Resembles k reach start s t) (id : Nat) {c d : Class}
    (hcd : c.Alike k start.files d) :
    (keepClass id c).Matches k reach start (Class.Alike k start.files) (keepClass id d) s t := by
  have hrel := h.classes id c.name
  cases hs : s.classOf id c.name with
  | none =>
    cases ht : t.classOf id d.name with
    | none =>
      refine ⟨?_, ?_⟩
      · rw [keepClass_of_none hs, keepClass_of_none ht]
        exact h.withClass id hcd
      · rw [keepClass_of_none hs, keepClass_of_none ht]
        exact hcd
    | some d' =>
      rw [hs, hcd.name, ht] at hrel
      cases hrel
  | some c' =>
    cases ht : t.classOf id d.name with
    | none =>
      rw [hs, hcd.name, ht] at hrel
      cases hrel
    | some d' =>
      rw [hs, hcd.name, ht] at hrel
      refine ⟨?_, ?_⟩
      · rw [keepClass_of_some hs, keepClass_of_some ht]
        exact h
      · rw [keepClass_of_some hs, keepClass_of_some ht]
        cases hrel with
        | some hcd' => exact hcd'

/-- Alike classes are defined on both sides from alike archives, if the same manifest is found. -/
lemma matches_defineClass {manifest manifest' : Action (Option Manifest)}
    (h : Store.Resembles k reach start s t) (hm : manifest.Matches k reach start Eq manifest' s t)
    (hab : a.body.Like k start.files b.body) (id : Nat) (name : String) (url : Url)
    (entry : String) : (defineClass id name manifest url a entry).Matches k reach start Eq
      (Class.Alike k start.files) (defineClass id name manifest' url b entry) s t := by
  have hkept : ∀ (package : Option Package) {s t : Store}, Store.Resembles k reach start s t →
      Attempt.Matches k reach start Eq (Class.Alike k start.files)
        (do (Action.log .trace logTarget "Found class"
              [.quoted "class" name, .plain "url" url.text] : Action _)
            (keepClass id ⟨id, name, .archived url a entry, package⟩ : Action _) :
          Attempt LoaderError Class)
        (do (Action.log .trace logTarget "Found class"
              [.quoted "class" name, .plain "url" url.text] : Action _)
            (keepClass id ⟨id, name, .archived url b entry, package⟩ : Action _) :
          Attempt LoaderError Class) s t := by
    intro package s t h
    refine (matches_lift (Action.matches_log h _ _ _ _)).bind fun _ _ _ h => ?_
    exact matches_lift (matches_keepClass h id ⟨rfl, rfl, rfl, .archived hab⟩)
  unfold defineClass
  cases Text.beforeLastDot? name with
  | none =>
    refine (matches_pure h rfl).bind ?_
    rintro package _ rfl h
    exact hkept package h
  | some packageName =>
    refine ((matches_packageOrDefine h hm id packageName url).map fun _ _ => congrArg some).bind ?_
    rintro package _ rfl h
    exact hkept package h

/-- Archives that are held with alike bodies give the same manifest on both sides. -/
lemma matches_ownManifest {handler : Nat} (h : Store.Resembles k reach start s t)
    (hheld : s.HoldAlike k start.files handler url t a b) :
    (ownManifest a).Matches k reach start Eq (ownManifest b) s t := by
  have hreads := a.manifest_reads h.left.undisturbed
  have hreads' := b.manifest_reads h.right.undisturbed
  refine ⟨?_, ?_⟩
  · rw [run_ownManifest, run_ownManifest]
    refine h.keeps hreads.toKeeps hreads'.toKeeps (h.left.manifest hheld.left)
      (h.right.manifest hheld.right) (fun handler url hurl => ?_) fun hk handler key => ?_
    · unfold Store.usable?
      rw [hreads.files, hreads'.files, hreads.bodies, hreads'.bodies]
      exact h.usable handler url hurl
    · unfold Store.readable?
      rw [hreads.bodies, hreads'.bodies]
      exact h.readable hk handler key
  · rw [run_ownManifest, run_ownManifest]
    exact h.left.manifestOf_eq h.right hheld.left hheld.right hheld.alike.1

variable {handler : Nat} {urls padded : List Url}

/-- The package of a class is prepared on both sides. -/
lemma matches_preparePackage (hpad : start.Padding reach handler urls padded)
    (hurls : ∀ url ∈ padded, reach handler url) (h : Store.Resembles k reach start s t) (id : Nat)
    (name : String) : (preparePackage ⟨id, urls, handler⟩ name).Matches k reach start Eq Eq
      (preparePackage ⟨id, padded, handler⟩ name) s t := by
  unfold preparePackage
  cases Text.beforeLastDot? name with
  | none => exact matches_pure h rfl
  | some packageName =>
    refine (matches_lift (matches_package? h id packageName)).bind ?_
    rintro package? _ rfl h
    cases package? with
    | some package => exact matches_pure h rfl
    | none =>
      obtain ⟨hstores, hrel⟩ := search_resembles ⟨id, urls, handler⟩
        ⟨id, padded, handler⟩ (asks_fittingManifest? name packageName) rfl hpad hurls h
      refine (matches_lift ⟨hstores, hrel⟩).bind ?_
      rintro found? found?' (⟨v, a, b, manifest, rfl, rfl, -⟩ | _) h
      · dsimp only
        rw [← bind_assoc]
        refine (matches_define h id packageName (some manifest) v).bind ?_
        intro _ _ _ h
        exact matches_pure h rfl
      · exact matches_pure h rfl

/-- A class is taken from alike archives on both sides, or not found on both. -/
lemma matches_findClass (hpad : start.Padding reach handler urls padded)
    (hurls : ∀ url ∈ padded, reach handler url) (h : Store.Resembles k reach start s t) (id : Nat)
    (name : String) : (findClass ⟨id, urls, handler⟩ name).Matches k reach start Eq
      (Class.Alike k start.files) (findClass ⟨id, padded, handler⟩ name) s t := by
  obtain ⟨hstores, hrel⟩ := search_resembles ⟨id, urls, handler⟩
    ⟨id, padded, handler⟩ (asks_classIn (Entry.ofClass name)) rfl hpad hurls h
  unfold findClass
  refine (matches_lift ⟨hstores, hrel⟩).bind ?_
  rintro found? found?' (⟨v, a, b, entry, rfl, rfl, hheld⟩ | _) h
  · exact matches_defineClass h (matches_ownManifest h hheld) hheld.alike id name v _
  · exact matches_throw h rfl

end Layer

/-! ### Contents -/

/-- Alike archives have the same contents on both sides. -/
lemma Archive.matches_read? (h : Store.Resembles k reach start s t) {a b : Archive}
    (hab : a.body.Like k start.files b.body) (name : String) :
    (a.read? name).Matches k reach start (k.Like ArchiveError.Alike) Eq (b.read? name) s t := by
  refine ⟨?_, ?_⟩
  · exact h.quiet (a.quiet_read? name s) (b.quiet_read? name t)
      (a.obeys_read? Store.next_law.toAskingLaw name s)
      (b.obeys_read? Store.next_law.toAskingLaw name t)
  · rw [read?_spec, read?_spec, h.left.files, h.right.files]
    exact hab.read? name

namespace Class

open Attempt

/-- An entry is read on both sides from alike archives. -/
lemma matches_readEntry (h : Store.Resembles k reach start s t) {a b : Archive}
    (hab : a.body.Like k start.files b.body) (url : Url) (entry : String) :
    (readEntry url a entry).Matches k reach start (k.Like ArchiveError.Alike) Eq
      (readEntry url b entry) s t := by
  refine (Archive.matches_read? h hab entry).bind ?_
  rintro content? _ rfl h
  cases content? with
  | some content => exact matches_pure h rfl
  | none => exact matches_throw h (.of_refl (.refl _))

/-- Alike classes have the same content on both sides. -/
lemma matches_content (h : Store.Resembles k reach start s t) {c d : Class}
    (hcd : c.Alike k start.files d) :
    c.content.Matches k reach start (k.Like LoaderError.Alike) Eq d.content s t := by
  have hkey : c.key = d.key := by
    unfold Class.key
    rw [hcd.definer, hcd.name]
  have hkept : c.kept?.Matches k reach start Eq d.kept? s t := by
    refine ⟨h, ?_⟩
    show s.contents.get? c.key = t.contents.get? d.key
    rw [h.contents, hkey]
  refine (matches_lift hkept).bind ?_
  rintro content? _ rfl h
  cases content? with
  | some content => exact matches_pure h rfl
  | none =>
    have hsource := hcd.source
    generalize c.source = x at hsource
    generalize d.source = y at hsource
    cases hsource with
    | builtin main => exact matches_pure h rfl
    | @archived url a b entry hab =>
      have hread : Attempt.Matches k reach start (k.Like LoaderError.Alike) Eq
          (ExceptT.adapt (LoaderError.classRead c.name) (readEntry url a entry))
          (ExceptT.adapt (LoaderError.classRead d.name) (readEntry url b entry)) _ _ :=
        (matches_readEntry h hab url entry).adapt fun cause cause' hcause => by
          rw [hcd.name]
          exact ⟨.classRead hcause.1, fun hk => congrArg _ (hcause.2 hk)⟩
      have hkeep : ∀ content {s t : Store}, Store.Resembles k reach start s t →
          (c.keep content).Matches k reach start Eq (d.keep content) s t := by
        intro content s t h
        refine ⟨?_, rfl⟩
        show Store.Resembles k reach start (s.withContent c.key content)
          (t.withContent d.key content)
        rw [hkey]
        exact h.withContent d.key content
      refine hread.bind ?_
      rintro content _ rfl h
      exact (matches_lift (hkeep content h)).bind fun _ _ _ h => matches_pure h rfl

end Class

/-! ### Chains -/

namespace Loader

open Attempt

/-- The loaders of two chains are the same, but for broken urls that are put between others. -/
inductive Padding (reach : Nat → Url → Prop) (start : Store) : Loader → Loader → Prop where
  | absent : Padding reach start absent absent
  | builtin (id : Nat) (classes : Table String Class) :
      Padding reach start (builtin id classes) (builtin id classes)
  | failing (id : Nat) : Padding reach start (failing id) (failing id)
  | isolated {id handler : Nat} {urls padded : List Url} {parent parent' : Loader} :
      start.Padding reach handler urls padded → Padding reach start parent parent' →
      Padding reach start (isolated ⟨id, urls, handler⟩ parent)
        (isolated ⟨id, padded, handler⟩ parent')

namespace Padding

variable {loader padded : Loader}

/-- Nothing need be put into a chain. -/
lemma refl (reach : Nat → Url → Prop) (start : Store) (loader : Loader) :
    loader.Padding reach start loader := by
  induction loader with
  | absent => exact .absent
  | builtin id classes => exact .builtin id classes
  | failing id => exact .failing id
  | isolated layer parent ih => exact .isolated (.refl reach start layer.handler layer.urls) ih

/-- The loaders further up are padded, too. -/
lemma ancestor (h : loader.Padding reach start padded) (depth : Nat) :
    (loader.ancestor depth).Padding reach start (padded.ancestor depth) := by
  induction depth generalizing loader padded with
  | zero => exact h
  | succ depth ih =>
    refine ih ?_
    cases h with
    | isolated _ hparent => exact hparent
    | _ => exact .absent

end Padding

variable {loader padded : Loader}

/-- The urls of the parent of a layer are reached if those of the layer's chain are. -/
lemma reach_parent {layer : Layer} {parent : Loader}
    (hreach : ∀ handler url, (isolated layer parent).reach handler url → reach handler url) :
    ∀ handler url, parent.reach handler url → reach handler url :=
  fun handler url hurl => hreach handler url (reach_of_parent hurl)

/-- The urls of a layer are reached if those of its chain are. -/
lemma reach_layer {layer : Layer} {parent : Loader}
    (hreach : ∀ handler url, (isolated layer parent).reach handler url → reach handler url) :
    ∀ url ∈ layer.urls, reach layer.handler url :=
  fun url hurl => hreach layer.handler url ⟨layer, .head _, rfl, hurl⟩

/-- Alike classes are found on both sides, or finding fails on both with one cause. -/
lemma Padding.find (hpad : loader.Padding reach start padded)
    (hreach : ∀ handler url, padded.reach handler url → reach handler url)
    (h : Store.Resembles k reach start s t) (name : String) :
    (loader.find name).Matches k reach start Eq (Class.Alike k start.files) (padded.find name)
      s t := by
  induction hpad generalizing s t with
  | absent => exact matches_throw h rfl
  | builtin id classes =>
    unfold Loader.find
    cases classes.get? name with
    | none => exact matches_throw h rfl
    | some c => exact matches_pure h (.refl c)
  | failing id => exact matches_throw h rfl
  | @isolated id handler urls padded parent parent' hpad _ ih =>
    have hurls := reach_layer hreach
    unfold Loader.find
    refine (matches_lift (Layer.matches_class? h id name)).bind ?_
    rintro c? d? (hcd | _) h
    · exact matches_pure h hcd
    · refine (Layer.matches_preparePackage hpad hurls h id name).bind fun _ _ _ h => ?_
      refine (ih (reach_parent hreach) h).result.bind ?_
      rintro r r' (hcd | rfl) h
      · exact matches_pure h hcd
      · rename_i cause
        cases cause with
        | classNotFound other => exact Layer.matches_findClass hpad hurls h id name
        | _ => exact matches_throw h rfl

/-- Alike classes are loaded on both sides, or loading fails on both with alike causes. -/
lemma Padding.load (hpad : loader.Padding reach start padded)
    (hreach : ∀ handler url, padded.reach handler url → reach handler url)
    (h : Store.Resembles k reach start s t) (name : String) (resolve : Bool) :
    (loader.load name resolve).Matches k reach start (k.Like LoaderError.Alike)
      (Class.Alike k start.files) (padded.load name resolve) s t := by
  have hfind : (loader.find name).Matches k reach start (k.Like LoaderError.Alike)
      (Class.Alike k start.files) (padded.find name) s t :=
    (hpad.find hreach h name).mono fun cause _ heq => heq ▸ .of_refl (.refl cause)
  refine hfind.bind fun c d hcd h => ?_
  cases hpad with
  | isolated _ _ =>
    cases resolve with
    | false => exact matches_pure h hcd
    | true =>
      refine (Class.matches_content h hcd).bind fun _ _ _ h => ?_
      exact matches_pure h hcd
  | _ => exact matches_pure h hcd

end Loader

/-! ### Resources -/

/-- Two resources have one name, in archives with alike bodies. -/
structure Resource.Alike (k : Closeness) (files : FileSystem) (r r' : Resource) : Prop where
  name : r.name = r'.name
  archive : r.archive.body.Like k files r'.archive.body

namespace Loader

variable {loader padded : Loader}

/-- Alike resources are found on both sides. -/
lemma Padding.findResource? (hpad : loader.Padding reach start padded)
    (hreach : ∀ handler url, padded.reach handler url → reach handler url)
    (h : Store.Resembles k reach start s t) (name : String) :
    (loader.findResource? name).Matches k reach start (Option.Rel (Resource.Alike k start.files))
      (padded.findResource? name) s t := by
  cases hpad with
  | @isolated id handler urls padded parent parent' hpad _ =>
    obtain ⟨hstores, hrel⟩ := Layer.search_resembles ⟨id, urls, handler⟩
      ⟨id, padded, handler⟩ (Layer.asks_resourceIn name) rfl hpad (reach_layer hreach) h
    refine ⟨hstores, optionRel_mono ?_ hrel⟩
    rintro _ _ ⟨v, a, b, entry, rfl, rfl, hheld⟩
    exact ⟨rfl, hheld.alike⟩
  | _ => exact Action.matches_pure h .none

/-- The same number of alike resources is found on both sides. -/
lemma Padding.findResources (hpad : loader.Padding reach start padded)
    (hreach : ∀ handler url, padded.reach handler url → reach handler url)
    (h : Store.Resembles k reach start s t) (name : String) :
    (loader.findResources name).Matches k reach start (List.Forall₂ (Resource.Alike k start.files))
      (padded.findResources name) s t := by
  cases hpad with
  | @isolated id handler urls padded parent parent' hpad _ =>
    have halike : ∀ (url : Url) (a b : Archive) (_ : Entry), a.body.Like k start.files b.body →
        Resource.Alike k start.files ⟨a, name⟩ ⟨b, name⟩ := fun _ _ _ _ hab => ⟨rfl, hab⟩
    obtain ⟨hstores, hrel⟩ := Layer.collect_resembles ⟨id, urls, handler⟩ ⟨id, padded, handler⟩
      (Layer.asks_resourceIn name) rfl hpad (reach_layer hreach) halike h
    exact ⟨hstores, hrel⟩
  | _ => exact Action.matches_pure h .nil

/-- Asking for a resource gives alike resources on both sides. -/
lemma Padding.resource? (hpad : loader.Padding reach start padded)
    (hreach : ∀ handler url, padded.reach handler url → reach handler url)
    (h : Store.Resembles k reach start s t) (name : String) :
    (loader.resource? name).Matches k reach start (Option.Rel (Resource.Alike k start.files))
      (padded.resource? name) s t := by
  induction hpad generalizing s t with
  | absent => exact Action.matches_pure h .none
  | builtin id classes => exact Action.matches_pure h .none
  | failing id => exact Action.matches_pure h .none
  | isolated hpad hparent ih =>
    refine (ih (reach_parent hreach) h).bind ?_
    rintro r? r'? (hr | _) h
    · exact Action.matches_pure h (.some hr)
    · exact Padding.findResource? (.isolated hpad hparent) hreach h name

/-- Asking for all resources gives alike resources on both sides. -/
lemma Padding.resources (hpad : loader.Padding reach start padded)
    (hreach : ∀ handler url, padded.reach handler url → reach handler url)
    (h : Store.Resembles k reach start s t) (name : String) :
    (loader.resources name).Matches k reach start (List.Forall₂ (Resource.Alike k start.files))
      (padded.resources name) s t := by
  induction hpad generalizing s t with
  | absent => exact Action.matches_pure h .nil
  | builtin id classes => exact Action.matches_pure h .nil
  | failing id => exact Action.matches_pure h .nil
  | isolated hpad hparent ih =>
    refine (ih (reach_parent hreach) h).bind fun above above' habove h => ?_
    refine (Padding.findResources (.isolated hpad hparent) hreach h name).bind
      fun own own' hown h => ?_
    exact Action.matches_pure h (List.rel_append habove hown)

end Loader

end AppLauncher
