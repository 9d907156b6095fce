import AppLauncher.Launch.Launcher
import AppLauncher.Proofs.Handler.Opening
import AppLauncher.Proofs.Loader.Chain
import AppLauncher.Proofs.Loader.Definition

/-!
# Computations that need no files

A layer is in memory if its handler holds a packaged archive under each of its urls and every class
that it has defined comes from a packaged archive (`Store.InMemory`).  Whatever is asked of it then
is answered without the files: the same computation in a store with other files gives the same
result and leaves the same behind, but for the files (`Action.IsBlind`).  A new layer has defined
nothing, as long as nothing has been defined under the numbers that are still to be given away
(`Store.Unclaimed`).

A computation is blind only as long as the layer stays in memory and the archives that it goes on
with are packaged, so a blind computation also keeps the layer in memory and says what its result is
like.  With that, blind computations are blind together (`Action.IsBlind.bind`,
`Attempt.IsBlind.bind`), and there is one lemma for each function, which follows its definition.
-/

namespace AppLauncher

/-! ### What is in memory -/

/-- An archive over bytes that have been read. -/
def Archive.InMemory : Archive → Prop
  | packaged _ _ => True
  | _ => False

/-- A class whose content is in memory, or that has none. -/
def Class.InMemory (c : Class) : Prop :=
  match c.source with
  | .builtin _ => True
  | .archived _ archive _ => archive.InMemory

/-- A builtin class has no content that could be elsewhere. -/
lemma Class.inMemory_builtinClass (id : Nat) (name : String) (main : Option EntryPoint) :
    (Loader.builtinClass id name main).InMemory := trivial

namespace Store

/-- A handler holds an archive in memory under a key. -/
def HoldsInMemory (handler : Nat) (key : Url.Key) (s : Store) : Prop :=
  ∃ archive, (s.held handler).get? key = some archive ∧ archive.InMemory

/-- No class has been defined by a loader that is still to be made. -/
def Unclaimed (s : Store) : Prop := ∀ id name, s.next ≤ id → s.classOf id name = none

/-- Nothing has been defined when a store starts. -/
lemma unclaimed_start (files : FileSystem) (first : Nat) : (start files first).Unclaimed :=
  fun _ _ _ => rfl

/-- Loaders that are still to be made have defined no class as long as definitions are kept. -/
lemma Unclaimed.of_keeps {s t : Store} (hs : s.Unclaimed) (h : s.Keeps t)
    (hnext : s.next ≤ t.next) : t.Unclaimed := by
  intro id name hid
  rw [h.classOf]
  exact hs id name (Nat.le_trans hnext hid)

/-- All that a layer needs is in memory: the archives of its urls, and the classes that it has
defined.  The layer is one that has been made, and those still to be made have defined nothing. -/
structure InMemory (layer : Layer) (s : Store) : Prop where
  held : ∀ url ∈ layer.urls, s.HoldsInMemory layer.handler url.key
  defined : ∀ name c, s.classOf layer.id name = some c → c.InMemory
  made : layer.id < s.next
  unclaimed : s.Unclaimed

variable {layer : Layer} {s t : Store}

/-- A layer stays in memory as long as the handlers and loaders have what they have. -/
lemma InMemory.of_eq (hs : s.InMemory layer) (hhandlers : t.handlers = s.handlers)
    (hloaders : t.loaders = s.loaders) (hnext : t.next = s.next) : t.InMemory layer := by
  have hclassOf : ∀ id name, t.classOf id name = s.classOf id name := by
    intro id name
    unfold classOf definitions
    rw [hloaders]
  refine ⟨fun url hurl => ?_, fun name c hc => ?_, ?_, fun id name hid => ?_⟩
  · unfold HoldsInMemory Store.held
    rw [hhandlers]
    exact hs.held url hurl
  · rw [hclassOf] at hc
    exact hs.defined name c hc
  · rw [hnext]
    exact hs.made
  · rw [hnext] at hid
    rw [hclassOf]
    exact hs.unclaimed id name hid

/-- A layer stays in memory when a package is defined. -/
lemma InMemory.withPackage (hs : s.InMemory layer) (id : Nat) (name : String) (p : Package) :
    (s.withPackage id name p).InMemory layer := by
  refine ⟨hs.held, fun other c hc => ?_, hs.made, fun other className hother => ?_⟩
  · rw [classOf_withPackage] at hc
    exact hs.defined other c hc
  · rw [classOf_withPackage]
    exact hs.unclaimed other className hother

/-- The layer stays in memory when it defines a class in memory. -/
lemma InMemory.withClass (hs : s.InMemory layer) {c : Class} (hc : c.InMemory) :
    (s.withClass layer.id c).InMemory layer := by
  refine ⟨hs.held, fun name d hd => ?_, hs.made, fun id name hid => ?_⟩
  · rw [classOf_withClass] at hd
    split at hd
    · cases hd
      exact hc
    · exact hs.defined name d hd
  · have hother : layer.id ≠ id := Nat.ne_of_lt (Nat.lt_of_lt_of_le hs.made hid)
    rw [classOf_withClass, if_neg fun hboth => hother hboth.1]
    exact hs.unclaimed id name hid

end Store

/-! ### Blind computations -/

variable {ε δ α β : Type} {layer : Layer} {Q : α → Prop} {R : β → Prop}

namespace Action

/-- While a layer is in memory, a computation does the same whatever the files are.  Its result is
as described, and the layer stays in memory. -/
def IsBlind (layer : Layer) (Q : α → Prop) (x : Action α) : Prop :=
  ∀ s : Store, s.InMemory layer → ∃ (a : α) (t : Store), Q a ∧ t.InMemory layer ∧
    ∀ files, x { s with files := files } = (a, { t with files := files })

/-- Giving a value back needs no files. -/
lemma isBlind_pure {a : α} (ha : Q a) : IsBlind layer Q (pure a) :=
  fun s hs => ⟨a, s, ha, hs, fun _ => rfl⟩

/-- What a computation gives and leaves behind can be looked up in a run of it. -/
lemma isBlind_of_run {x : Action α} (h : ∀ s : Store, s.InMemory layer →
      Q (x s).1 ∧ (x s).2.InMemory layer ∧
        ∀ files, x { s with files := files } = ((x s).1, { (x s).2 with files := files })) :
    x.IsBlind layer Q :=
  fun s hs => ⟨(x s).1, (x s).2, h s hs⟩

/-- Two blind computations are blind one after the other. -/
lemma IsBlind.bind {x : Action α} {f : α → Action β} (hx : x.IsBlind layer Q)
    (hf : ∀ a, Q a → (f a).IsBlind layer R) : (x >>= f).IsBlind layer R := by
  intro s hs
  obtain ⟨a, t, ha, ht, hfirst⟩ := hx s hs
  obtain ⟨b, u, hb, hu, hsecond⟩ := hf a ha t ht
  refine ⟨b, u, hb, hu, fun files => ?_⟩
  rw [run_bind, hfirst files]
  exact hsecond files

/-- Less can be said of a result. -/
lemma IsBlind.mono {x : Action α} {R : α → Prop} (hx : x.IsBlind layer Q) (h : ∀ a, Q a → R a) :
    x.IsBlind layer R := by
  intro s hs
  obtain ⟨a, t, ha, ht, hrun⟩ := hx s hs
  exact ⟨a, t, h a ha, ht, hrun⟩

/-- Logging needs no files. -/
lemma isBlind_log (severity : Severity) (target message : String) (fields : List Field) :
    (log severity target message fields).IsBlind layer fun _ => True :=
  isBlind_of_run fun _ hs => ⟨trivial, hs.of_eq rfl rfl rfl, fun _ => rfl⟩

/-- Blind computations for each element of a list are blind together. -/
lemma isBlind_forM {f : α → Action Unit} {l : List α}
    (hf : ∀ a ∈ l, (f a).IsBlind layer fun _ => True) : (l.forM f).IsBlind layer fun _ => True := by
  induction l with
  | nil => exact isBlind_pure trivial
  | cons a l ih =>
    exact (hf a (.head _)).bind fun _ _ => ih fun b hb => hf b (.tail _ hb)

end Action

namespace Attempt

/-- While a layer is in memory, an attempt does the same whatever the files are.  If it succeeds,
its result is as described, and the layer stays in memory in any case. -/
def IsBlind (layer : Layer) (Q : α → Prop) (x : Attempt ε α) : Prop :=
  Action.IsBlind layer (fun result => ∀ a, result = .ok a → Q a) (ExceptT.run x)

/-- Giving a value back needs no files. -/
lemma isBlind_pure {a : α} (ha : Q a) : IsBlind layer Q (pure a : Attempt ε α) := by
  refine Action.isBlind_pure fun b hb => ?_
  cases hb
  exact ha

/-- Failing needs no files. -/
lemma isBlind_throw (cause : ε) : IsBlind layer Q (throw cause : Attempt ε α) := by
  refine Action.isBlind_pure fun b hb => ?_
  cases hb

/-- Two blind attempts are blind one after the other. -/
lemma IsBlind.bind {x : Attempt ε α} {f : α → Attempt ε β} (hx : x.IsBlind layer Q)
    (hf : ∀ a, Q a → (f a).IsBlind layer R) : (x >>= f).IsBlind layer R := by
  show Action.IsBlind layer _ (ExceptT.run x >>= ExceptT.bindCont f)
  refine Action.IsBlind.bind hx fun result hresult => ?_
  cases result with
  | error cause => exact isBlind_throw cause
  | ok a => exact hf a (hresult a rfl)

/-- A blind computation that cannot fail is a blind attempt. -/
lemma isBlind_lift {x : Action α} (hx : x.IsBlind layer Q) :
    IsBlind layer Q (liftM x : Attempt ε α) := by
  refine Action.IsBlind.bind hx fun a ha => Action.isBlind_pure fun b hb => ?_
  cases hb
  exact ha

/-- Asking for the result of a blind attempt is blind. -/
lemma IsBlind.result {x : Attempt ε α} (hx : x.IsBlind layer Q) :
    IsBlind layer (fun result => ∀ a, result = .ok a → Q a)
      (x.result : Attempt δ (Except ε α)) := isBlind_lift hx

/-- A blind attempt is blind with other causes. -/
lemma IsBlind.adapt {x : Attempt ε α} (hx : x.IsBlind layer Q) (f : ε → δ) :
    IsBlind layer Q (ExceptT.adapt f x : Attempt δ α) := by
  refine Action.IsBlind.bind hx fun result hresult => Action.isBlind_pure fun a ha => ?_
  cases result with
  | error cause => cases ha
  | ok b =>
    cases ha
    exact hresult a rfl

/-- A blind attempt is blind when a function is applied to its result. -/
lemma IsBlind.map {x : Attempt ε α} (hx : x.IsBlind layer Q) {f : α → β}
    (hf : ∀ a, Q a → R (f a)) : IsBlind layer R (f <$> x) := by
  rw [map_eq_pure_bind]
  exact hx.bind fun a ha => isBlind_pure (hf a ha)

end Attempt

/-! ### Archives -/

namespace Archive

open Attempt

/-- An index is looked up without files. -/
lemma isBlind_indexOf (id : Nat) (stream : Stream) :
    (indexOf id stream).IsBlind layer fun _ => True := by
  refine Action.isBlind_of_run fun s hs => ?_
  rw [Attempt.run_run]
  cases hcached : (s.indexes.get? id).bind (·.find? stream) with
  | some index =>
    rw [indexOf_of_cached hcached]
    exact ⟨fun _ _ => trivial, hs, fun _ => indexOf_of_cached hcached⟩
  | none =>
    cases hindex : stream.index with
    | error cause =>
      rw [indexOf_of_error hindex]
      exact ⟨fun _ _ => trivial, hs, fun _ => indexOf_of_error hindex⟩
    | ok index =>
      rw [indexOf_of_ok hcached hindex]
      exact ⟨fun _ _ => trivial, hs.of_eq rfl rfl rfl, fun files =>
        indexOf_of_ok (s := { s with files := files }) hcached hindex⟩

/-- An index is asked without files. -/
lemma isBlind_bind_indexOf (id : Nat) (stream : Stream) (f : Index → α) :
    (indexOf id stream >>= fun index => pure (f index)).IsBlind layer fun _ => True :=
  (isBlind_indexOf id stream).bind fun _ _ => isBlind_pure trivial

variable {archive : Archive}

/-- The manifest of an archive in memory is read without files. -/
lemma InMemory.manifest (h : archive.InMemory) :
    archive.manifest.IsBlind layer fun _ => True := by
  cases archive with
  | packaged id stream => exact isBlind_bind_indexOf id stream _
  | exploded | scripted => exact h.elim

/-- An entry of an archive in memory is found without files. -/
lemma InMemory.find? (h : archive.InMemory) (name : String) :
    (archive.find? name).IsBlind layer fun _ => True := by
  cases archive with
  | packaged id stream => exact isBlind_bind_indexOf id stream _
  | exploded | scripted => exact h.elim

/-- An entry of an archive in memory is read without files. -/
lemma InMemory.read? (h : archive.InMemory) (name : String) :
    (archive.read? name).IsBlind layer fun _ => True := by
  cases archive with
  | packaged id stream => exact isBlind_bind_indexOf id stream _
  | exploded | scripted => exact h.elim

/-- The cache of an archive in memory is dropped without files. -/
lemma InMemory.clearCache (h : archive.InMemory) :
    archive.clearCache.IsBlind layer fun _ => True := by
  cases archive with
  | packaged id stream =>
    refine (Action.isBlind_log _ _ _ _).bind fun _ _ => ?_
    exact Action.isBlind_of_run fun _ hs => ⟨trivial, hs.of_eq rfl rfl rfl, fun _ => rfl⟩
  | exploded | scripted => exact h.elim

end Archive

/-! ### Definitions -/

namespace Layer

open Attempt

/-- A layer is asked for a package without files. -/
lemma isBlind_package? (id : Nat) (name : String) :
    (package? id name).IsBlind layer fun _ => True :=
  Action.isBlind_of_run fun _ hs => ⟨trivial, hs, fun _ => rfl⟩

/-- The layer is asked for a class without files. -/
lemma isBlind_class? (name : String) :
    (class? layer.id name).IsBlind layer fun c? => ∀ c, c? = some c → c.InMemory :=
  Action.isBlind_of_run fun _ hs => ⟨hs.defined name, hs, fun _ => rfl⟩

/-- A package is defined without files. -/
lemma isBlind_definePackage (id : Nat) (name : String) (manifest : Option Manifest) (url : Url) :
    (definePackage id name manifest url).IsBlind layer fun _ => True := by
  intro s hs
  cases hpackage : s.packageOf id name with
  | some p =>
    exact ⟨.error (.packageAlreadyDefined name), s, fun _ _ => trivial, hs, fun files =>
      definePackage_of_some (s := { s with files := files }) hpackage manifest url⟩
  | none =>
    let package := Package.define name manifest url
    let logged := (Action.log .debug logTarget "Defined package"
      [.quoted "package" name, .plain "url" url.text] s).2
    have hlogged : logged.InMemory layer := hs.of_eq rfl rfl rfl
    refine ⟨.ok package, logged.withPackage id name package, fun _ _ => trivial,
      hlogged.withPackage id name package, fun files => ?_⟩
    have hfree : (({ s with files := files } : Store).definitions id).packages.contains name =
        false := by
      unfold Table.contains
      exact Option.isSome_eq_false_iff.mpr (Option.isNone_iff_eq_none.mpr hpackage)
    rw [Attempt.run_run]
    unfold definePackage
    dsimp only
    rw [hfree]
    rfl

/-- The package that is there after an attempt to define it is given back without files. -/
lemma isBlind_converge (id : Nat) (name : String) (result : Except LoaderError Package) :
    (converge id name result).IsBlind layer fun _ => True := by
  cases result with
  | ok package => exact isBlind_pure trivial
  | error cause =>
    cases cause with
    | packageAlreadyDefined other =>
      refine (isBlind_lift (isBlind_package? id name)).bind fun package? _ => ?_
      cases package? with
      | none => exact isBlind_throw _
      | some package => exact isBlind_pure trivial
    | _ => exact isBlind_throw _

/-- A package is given back, or defined, without files. -/
lemma isBlind_packageOrDefine (id : Nat) (name : String) {manifest : Action (Option Manifest)}
    (hmanifest : manifest.IsBlind layer fun _ => True) (url : Url) :
    (packageOrDefine id name manifest url).IsBlind layer fun _ => True := by
  refine (isBlind_lift (isBlind_package? id name)).bind fun p? _ => ?_
  cases p? with
  | some package => exact isBlind_pure trivial
  | none =>
    refine (isBlind_lift hmanifest).bind fun manifest _ => ?_
    exact (isBlind_definePackage id name manifest url).result.bind fun result _ =>
      isBlind_converge id name result

/-- A class is kept without files, and so is the one that was there before. -/
lemma isBlind_keepClass {c : Class} (hc : c.InMemory) :
    (keepClass layer.id c).IsBlind layer Class.InMemory := by
  intro s hs
  cases hclass : s.classOf layer.id c.name with
  | some first =>
    refine ⟨first, s, hs.defined c.name first hclass, hs, fun files => ?_⟩
    have hfirst : (({ s with files := files } : Store).definitions layer.id).classes.get? c.name =
        some first := hclass
    unfold keepClass
    dsimp only
    rw [hfirst]
  | none =>
    exact ⟨c, s.withClass layer.id c, hc, hs.withClass hc, fun _ =>
      keepClass_of_none hclass⟩

/-- A class of an archive in memory is defined without files. -/
lemma isBlind_defineClass (name : String) {manifest : Action (Option Manifest)}
    (hmanifest : manifest.IsBlind layer fun _ => True) (url : Url) {archive : Archive}
    (harchive : archive.InMemory) (entry : String) :
    (defineClass layer.id name manifest url archive entry).IsBlind layer Class.InMemory := by
  have hkeep : ∀ package : Option Package, Attempt.IsBlind layer Class.InMemory (do
      (Action.log .trace logTarget "Found class"
        [.quoted "class" name, .plain "url" url.text] : Action _)
      (keepClass layer.id ⟨layer.id, name, .archived url archive entry, package⟩ : Action _) :
        Attempt LoaderError Class) := fun package =>
    (isBlind_lift (Action.isBlind_log _ _ _ _)).bind fun _ _ =>
      isBlind_lift (isBlind_keepClass harchive)
  unfold defineClass
  cases Text.beforeLastDot? name with
  | none => exact (isBlind_pure trivial).bind fun package (_ : True) => hkeep package
  | some packageName =>
    have hpackage := isBlind_packageOrDefine layer.id packageName hmanifest url
    exact (hpackage.map fun _ _ => trivial).bind fun package (_ : True) => hkeep package

end Layer

/-! ### Looking through the urls of the layer -/

namespace Layer

open Attempt

/-- The archive of a url of the layer is at hand. -/
lemma isBlind_connect? (note : String) {url : Url} (hurl : url ∈ layer.urls) :
    (layer.connect? note url).IsBlind layer fun connection? =>
      ∃ connection, connection? = some connection ∧ connection.archive.InMemory := by
  intro s hs
  obtain ⟨archive, hheld, hmemory⟩ := hs.held url hurl
  have hconnect : ∀ t : Store, (t.held layer.handler).get? url.key = some archive →
      layer.connect? note url t = (some ⟨url, archive⟩, t) := by
    intro t ht
    unfold connect?
    rw [Action.run_bind, Attempt.run_run, Handler.connect_of_held ht]
    rfl
  exact ⟨_, s, ⟨_, rfl, hmemory⟩, hs, fun files => hconnect { s with files := files } hheld⟩

variable {visit : Connection → Action (Option α)} {urls : List Url}

/-- A search is blind if its visits to archives in memory are. -/
lemma isBlind_search (hvisit : ∀ connection, connection.archive.InMemory →
      (visit connection).IsBlind layer fun answer? => ∀ answer, answer? = some answer → Q answer)
    (hurls : ∀ url ∈ urls, url ∈ layer.urls) :
    (layer.search visit urls).IsBlind layer fun answer? =>
      ∀ answer, answer? = some answer → Q answer := by
  induction urls with
  | nil =>
    refine Action.isBlind_pure fun answer h => ?_
    cases h
  | cons url urls ih =>
    have hrest := ih fun u hu => hurls u (.tail _ hu)
    refine (isBlind_connect? passedOver (hurls url (.head _))).bind ?_
    rintro _ ⟨connection, rfl, hmemory⟩
    refine (hvisit connection hmemory).bind fun answer? hanswer => ?_
    cases answer? with
    | none => exact hrest
    | some answer => exact Action.isBlind_pure hanswer

/-- Collecting answers is blind if the visits to archives in memory are. -/
lemma isBlind_collect (hvisit : ∀ connection, connection.archive.InMemory →
      (visit connection).IsBlind layer fun answer? => ∀ answer, answer? = some answer → Q answer)
    (hurls : ∀ url ∈ urls, url ∈ layer.urls) :
    (layer.collect visit urls).IsBlind layer fun answers => ∀ answer ∈ answers, Q answer := by
  induction urls with
  | nil => exact Action.isBlind_pure (List.forall_mem_nil Q)
  | cons url urls ih =>
    have hrest := ih fun u hu => hurls u (.tail _ hu)
    refine (isBlind_connect? passedOver (hurls url (.head _))).bind ?_
    rintro _ ⟨connection, rfl, hmemory⟩
    refine (hvisit connection hmemory).bind fun answer? hanswer => ?_
    refine hrest.bind fun answers hanswers => Action.isBlind_pure ?_
    intro answer hmem
    rcases List.mem_append.mp hmem with hnew | hold
    · exact hanswer answer (Option.mem_toList.mp hnew)
    · exact hanswers answer hold

variable {connection : Connection} (hconnection : connection.archive.InMemory)
include hconnection

/-- Whether an archive in memory has a resource is found out without files. -/
lemma isBlind_resourceIn (name : String) :
    (resourceIn name connection).IsBlind layer fun resource? =>
      ∀ resource, resource? = some resource → resource.archive.InMemory := by
  refine Action.IsBlind.bind (hconnection.find? name) fun result _ => ?_
  rcases result with cause | _ | entry
  · exact Action.isBlind_pure fun _ h => by cases h
  · exact Action.isBlind_pure fun _ h => by cases h
  · refine Action.isBlind_pure fun resource h => ?_
    cases h
    exact hconnection

/-- Whether an archive in memory has the entry of a class is found out without files. -/
lemma isBlind_classIn (entry : String) :
    (classIn entry connection).IsBlind layer fun found? =>
      ∀ found, found? = some found → found.archive.InMemory := by
  refine Action.IsBlind.bind (hconnection.find? entry) fun result _ => ?_
  rcases result with cause | _ | entry
  · refine (Action.isBlind_log _ _ _ _).bind fun _ _ => ?_
    exact Action.isBlind_pure fun _ h => by cases h
  · exact Action.isBlind_pure fun _ h => by cases h
  · refine Action.isBlind_pure fun found h => ?_
    split at h
    · cases h
    · cases h
      exact hconnection

/-- Whether an archive in memory holds a class is found out without files. -/
lemma isBlind_holdsClass (className packageName : String) :
    (holdsClass connection.archive className packageName).IsBlind layer fun _ => True := by
  refine (hconnection.find? _).bind fun entry? _ => ?_
  cases entry? with
  | none => exact isBlind_pure trivial
  | some entry => exact (hconnection.find? _).bind fun _ _ => isBlind_pure trivial

/-- The manifest of an archive in memory that fits a class is found without files. -/
lemma isBlind_fittingManifest? (className packageName : String) :
    (fittingManifest? className packageName connection).IsBlind layer fun _ => True := by
  unfold fittingManifest?
  split
  · refine Action.IsBlind.bind (isBlind_holdsClass hconnection className packageName)
      fun holds _ => ?_
    rcases holds with cause | _ | _
    · exact (Action.isBlind_log _ _ _ _).bind fun _ _ => Action.isBlind_pure trivial
    · exact Action.isBlind_pure trivial
    · refine Action.IsBlind.bind hconnection.manifest fun manifest _ => ?_
      rcases manifest with cause | _ | manifest
      · exact (Action.isBlind_log _ _ _ _).bind fun _ _ => Action.isBlind_pure trivial
      · exact Action.isBlind_pure trivial
      · exact Action.isBlind_pure trivial
  · exact Action.isBlind_pure trivial

omit hconnection

/-- The package of a class is prepared without files. -/
lemma isBlind_preparePackage (className : String) :
    (layer.preparePackage className).IsBlind layer fun _ => True := by
  unfold preparePackage
  cases Text.beforeLastDot? className with
  | none => exact isBlind_pure trivial
  | some packageName =>
    refine (isBlind_lift (isBlind_package? layer.id packageName)).bind fun package? _ => ?_
    cases package? with
    | some package => exact isBlind_pure trivial
    | none =>
      have hvisit : ∀ connection : Connection, connection.archive.InMemory →
          (fittingManifest? className packageName connection).IsBlind layer fun found? =>
            ∀ found, found? = some found → True := fun connection hmemory =>
        (isBlind_fittingManifest? hmemory className packageName).mono fun _ _ _ _ => trivial
      have hsearch := isBlind_search hvisit fun url hurl => hurl
      refine (isBlind_lift hsearch).bind fun found? _ => ?_
      rcases found? with _ | ⟨url, manifest⟩
      · exact isBlind_pure trivial
      · exact (isBlind_definePackage layer.id packageName (some manifest) url).result.bind
          fun result _ => (isBlind_converge layer.id packageName result).bind
            fun _ _ => isBlind_pure trivial

/-- A class is taken without files. -/
lemma isBlind_findClass (name : String) :
    (layer.findClass name).IsBlind layer Class.InMemory := by
  have hsearch : (layer.search (classIn (Entry.ofClass name)) layer.urls).IsBlind layer _ :=
    isBlind_search (fun _ hmemory => isBlind_classIn hmemory (Entry.ofClass name))
      fun _ hurl => hurl
  refine (isBlind_lift hsearch).bind fun connection? hfound => ?_
  cases connection? with
  | none => exact isBlind_throw _
  | some connection =>
    have hmemory := hfound connection rfl
    refine isBlind_defineClass name ?_ connection.url hmemory _
    refine Action.IsBlind.bind hmemory.manifest fun result _ => ?_
    cases result with
    | ok manifest => exact Action.isBlind_pure trivial
    | error cause => exact Action.isBlind_pure trivial

/-- The caches of the layer are dropped without files. -/
lemma isBlind_clearCache : layer.clearCache.IsBlind layer fun _ => True := by
  refine Action.isBlind_forM fun url hurl => ?_
  refine (isBlind_connect? _ hurl).bind ?_
  rintro _ ⟨connection, rfl, hmemory⟩
  dsimp only
  split
  · exact hmemory.clearCache
  · exact Action.isBlind_pure trivial

end Layer

/-! ### Classes, resources and loaders -/

open Attempt

/-- The content of a class in memory is read without files. -/
lemma Class.InMemory.content {c : Class} (hc : c.InMemory) :
    c.content.IsBlind layer fun _ => True := by
  have hkept : c.kept?.IsBlind layer fun _ => True :=
    Action.isBlind_of_run fun _ hs => ⟨trivial, hs, fun _ => rfl⟩
  refine (isBlind_lift hkept).bind fun content? _ => ?_
  cases content? with
  | some content => exact isBlind_pure trivial
  | none =>
    unfold Class.InMemory at hc
    cases hsource : c.source with
    | builtin main => exact isBlind_pure trivial
    | archived url archive entry =>
      rw [hsource] at hc
      have hread : (readEntry url archive entry).IsBlind layer fun _ => True := by
        refine (hc.read? entry).bind fun content? _ => ?_
        cases content? with
        | some content => exact isBlind_pure trivial
        | none => exact isBlind_throw _
      refine (hread.adapt _).bind fun content _ => ?_
      have hkeep : (c.keep content).IsBlind layer fun _ => True :=
        Action.isBlind_of_run fun _ hs => ⟨trivial, hs.of_eq rfl rfl rfl, fun _ => rfl⟩
      exact (isBlind_lift hkeep).bind fun _ _ => isBlind_pure trivial

/-- The content of a resource in memory is read without files. -/
lemma Resource.isBlind_read {r : Resource} (hr : r.archive.InMemory) :
    r.read.IsBlind layer fun _ => True := by
  refine (hr.read? r.name).bind fun content? _ => ?_
  cases content? with
  | some content => exact isBlind_pure trivial
  | none => exact isBlind_throw _

namespace Loader

variable (registered : Builtins)

/-- A registered class is found without files. -/
lemma isBlind_find_registry (name : String) :
    ((registry registered).find name).IsBlind layer Class.InMemory := by
  unfold registry find
  cases hclass : (builtinClasses _ _).get? name with
  | none => exact isBlind_throw _
  | some c =>
    obtain ⟨main, rfl⟩ := eq_builtinClass_of_get? hclass
    exact isBlind_pure (Class.inMemory_builtinClass _ _ _)

/-- A class is found without files. -/
lemma isBlind_find (name : String) :
    ((isolated layer (registry registered)).find name).IsBlind layer Class.InMemory := by
  unfold find
  refine (isBlind_lift (Layer.isBlind_class? name)).bind fun c? hc => ?_
  cases c? with
  | some c => exact isBlind_pure (hc c rfl)
  | none =>
    refine (Layer.isBlind_preparePackage name).bind fun _ _ => ?_
    refine (isBlind_find_registry registered name).result.bind fun result hresult => ?_
    rcases result with cause | c
    · cases cause with
      | classNotFound other => exact Layer.isBlind_findClass name
      | _ => exact isBlind_throw _
    · exact isBlind_pure (hresult c rfl)

/-- A class is loaded without files, also if its content is asked for. -/
lemma isBlind_load (name : String) (resolve : Bool) :
    ((isolated layer (registry registered)).load name resolve).IsBlind layer Class.InMemory := by
  refine (isBlind_find registered name).bind fun c hc => ?_
  cases resolve with
  | false => exact isBlind_pure hc
  | true => exact hc.content.bind fun _ _ => isBlind_pure hc

/-- A resource is found without files. -/
lemma isBlind_findResource? (name : String) :
    ((isolated layer (registry registered)).findResource? name).IsBlind layer fun resource? =>
      ∀ resource, resource? = some resource → resource.archive.InMemory :=
  Layer.isBlind_search (fun _ hmemory => Layer.isBlind_resourceIn hmemory name) fun _ hurl => hurl

/-- All resources of a name are found without files. -/
lemma isBlind_findResources (name : String) :
    ((isolated layer (registry registered)).findResources name).IsBlind layer fun resources =>
      ∀ resource ∈ resources, resource.archive.InMemory :=
  Layer.isBlind_collect (fun _ hmemory => Layer.isBlind_resourceIn hmemory name) fun _ hurl => hurl

/-- A resource is found without files, although the registry is asked first. -/
lemma isBlind_resource? (name : String) :
    ((isolated layer (registry registered)).resource? name).IsBlind layer fun resource? =>
      ∀ resource, resource? = some resource → resource.archive.InMemory :=
  isBlind_findResource? registered name

/-- All resources of a name are found without files, although the registry is asked first. -/
lemma isBlind_resources (name : String) :
    ((isolated layer (registry registered)).resources name).IsBlind layer fun resources =>
      ∀ resource ∈ resources, resource.archive.InMemory := by
  refine (isBlind_findResources registered name).bind
    fun resources hresources => Action.isBlind_pure ?_
  exact hresources

end Loader

end AppLauncher
