import AppLauncher.Proofs.Loader.Evolution
import AppLauncher.Proofs.Tar.Number

/-!
# Runs of a chain

A user asks the loaders of a chain for classes and resources, defines packages and drops caches
(`Loader.Request`).  Between the requests archives are given to handlers, files change, and classes
that have been loaded are read (`Loader.Step`).  What a single request does to a store is one of
four things (`Loader.Serves`), and every step lets the definitions of the chain evolve
(`Loader.Step.evolves`); so does every run then (`Loader.run_evolves`).
-/

namespace AppLauncher

open Archive (Body)

/-! ### Requests and steps -/

namespace Loader

/-- What is asked of the loader that is a number of steps up the chain. -/
inductive Request where
  | load (depth : Nat) (name : String) (resolve : Bool)
  | findResource (depth : Nat) (name : String)
  | findResources (depth : Nat) (name : String)
  | resource (depth : Nat) (name : String)
  | resources (depth : Nat) (name : String)
  | definePackage (depth : Nat) (name : String) (manifest : Option Manifest) (url : Url)
  | clearCache (depth : Nat)

/-- Carries out a request.  Its answer is left aside. -/
def Request.perform (loader : Loader) : Request → Action Unit
  | load depth name resolve => do
    let _ ← ((loader.ancestor depth).load name resolve).run
  | findResource depth name => do
    let _ ← (loader.ancestor depth).findResource? name
  | findResources depth name => do
    let _ ← (loader.ancestor depth).findResources name
  | resource depth name => do
    let _ ← (loader.ancestor depth).resource? name
  | resources depth name => do
    let _ ← (loader.ancestor depth).resources name
  | definePackage depth name manifest url =>
    match loader.ancestor depth with
    | .isolated layer _ => do
      let _ ← (Layer.definePackage layer.id name manifest url).run
    | _ => pure ()
  | clearCache depth => (loader.ancestor depth).clearCache

/-- What happens while a chain is in use. -/
inductive Step where
  | ask (request : Request)
  | register (handler : Nat) (archive : Archive)
  | changeFiles (files : FileSystem)
  /-- The class that the loader has defined under a name is read, if there is one. -/
  | read (depth : Nat) (name : String)

/-- Carries out a step. -/
def Step.perform (loader : Loader) : Step → Action Unit
  | ask request => request.perform loader
  | register handler archive => Handler.register handler archive
  | changeFiles files => modify fun s => { s with files := files }
  | read depth name =>
    match loader.ancestor depth with
    | .isolated layer _ => do
      match ← Layer.class? layer.id name with
      | some c => do
        let _ ← c.content.run
      | none => pure ()
    | _ => pure ()

/-- The store after a number of steps. -/
def run (loader : Loader) (steps : List Step) (s : Store) : Store :=
  steps.foldl (fun s step => (step.perform loader s).2) s

end Loader

/-! ### Reading a class -/

namespace Class

/-- Reading the content of a class, from a store to a result and a store. -/
inductive Yields (c : Class) (s : Store) : Except LoaderError (List UInt8) → Store → Prop where
  | kept {content : List UInt8} : s.contents.get? c.key = some content →
      Yields c s (.ok content) s
  | builtin {main : Option EntryPoint} : s.contents.get? c.key = none →
      c.source = .builtin main → Yields c s (.ok []) s
  | read {content : List UInt8} {t : Store} : s.contents.get? c.key = none →
      (∀ main, c.source ≠ .builtin main) → s.Quiet t →
      Yields c s (.ok content) (t.withContent c.key content)
  | failed {cause : ArchiveError} {t : Store} : s.contents.get? c.key = none →
      (∀ main, c.source ≠ .builtin main) → s.Quiet t →
      Yields c s (.error (.classRead c.name cause)) t

end Class

/-- Asking for the content of an entry is quiet. -/
lemma Archive.quiet_read? (a : Archive) (name : String) (s : Store) :
    s.Quiet (a.read? name s).2 := by
  cases a with
  | packaged id stream =>
    obtain ⟨t, ht, hq⟩ := run_bind_indexOf id stream
      (fun index => ((index.find? name).filter (!·.entry.isDirectory)).map (·.dataIn stream.data)) s
    show s.Quiet ((indexOf id stream >>= _) s).2
    rw [ht]
    exact hq
  | exploded id root =>
    dsimp only [read?]
    rw [Attempt.run_bind_files, Attempt.run_liftExcept]
  | scripted id script =>
    dsimp only [read?]
    rw [Attempt.run_liftExcept]

/-- The content of a class is read in one of the ways of `Class.Yields`. -/
lemma Class.content_spec (c : Class) (s : Store) :
    ∃ r t, c.content s = (r, t) ∧ c.Yields s r t := by
  unfold content
  rw [Attempt.run_bind_lift]
  dsimp only [kept?]
  cases hkept : s.contents.get? c.key with
  | some content => exact ⟨_, s, rfl, .kept hkept⟩
  | none =>
    dsimp only
    cases hsource : c.source with
    | builtin main => exact ⟨_, s, rfl, .builtin hkept hsource⟩
    | archived url a entry =>
      have hnot : ∀ main, c.source ≠ .builtin main := by
        intro main h
        rw [hsource] at h
        cases h
      have hq := a.quiet_read? entry s
      dsimp only
      rw [Attempt.run_bind, Attempt.run_adapt]
      unfold readEntry
      rw [Attempt.run_bind]
      rcases hread : a.read? entry s with ⟨cause | _ | content, t⟩
      · rw [hread] at hq
        exact ⟨_, t, rfl, .failed hkept hnot hq⟩
      · rw [hread] at hq
        exact ⟨_, t, rfl, .failed hkept hnot hq⟩
      · rw [hread] at hq
        exact ⟨_, _, rfl, .read hkept hnot hq⟩

/-- Reading a class opens no archive. -/
lemma Class.Yields.opens {c : Class} {s t : Store} {r : Except LoaderError (List UInt8)}
    (h : c.Yields s r t) (reach : Nat → Url → Prop) : Store.Opens reach s t := by
  cases h with
  | kept | builtin => exact .refl s
  | read _ _ hq | failed _ _ hq => exact .same (.refl s) hq.files hq.handlers

/-- Reading a class defines no class. -/
lemma Class.Yields.classOf {c : Class} {s t : Store} {r : Except LoaderError (List UInt8)}
    (h : c.Yields s r t) (id : Nat) (name : String) : t.classOf id name = s.classOf id name := by
  cases h with
  | kept | builtin => rfl
  | read _ _ hq | failed _ _ hq => exact hq.classOf id name

/-- Reading a class defines no package. -/
lemma Class.Yields.packageOf {c : Class} {s t : Store} {r : Except LoaderError (List UInt8)}
    (h : c.Yields s r t) (id : Nat) (name : String) :
    t.packageOf id name = s.packageOf id name := by
  cases h with
  | kept | builtin => rfl
  | read _ _ hq | failed _ _ hq => exact hq.packageOf id name

/-- Reading a class schedules nothing. -/
lemma Class.Yields.undisturbed {c : Class} {s t : Store} {r : Except LoaderError (List UInt8)}
    (h : c.Yields s r t) (hs : s.Undisturbed) : t.Undisturbed := by
  cases h with
  | kept | builtin => exact hs
  | read _ _ hq | failed _ _ hq => exact hq.undisturbed hs

/-! ### What a request does -/

namespace Loader

/-- Finding a resource is a lookup. -/
lemma findResource?_looks (loader : Loader) (name : String) {s : Store} (hs : s.Undisturbed) :
    s.Looks loader.reach (loader.findResource? name s).2 := by
  cases loader with
  | isolated layer parent =>
    exact (Layer.search_looks (Layer.visits_resourceIn name) layer (fun _ h => h) hs).of_layer
  | absent | builtin | failing => exact .refl s

/-- Finding all resources of a name is a lookup. -/
lemma findResources_looks (loader : Loader) (name : String) {s : Store} (hs : s.Undisturbed) :
    s.Looks loader.reach (loader.findResources name s).2 := by
  cases loader with
  | isolated layer parent =>
    exact (Layer.collect_looks (Layer.visits_resourceIn name) layer (fun _ h => h) hs).of_layer
  | absent | builtin | failing => exact .refl s

/-- Asking for a resource is a lookup. -/
lemma resource?_looks (loader : Loader) (name : String) {s : Store} (hs : s.Undisturbed) :
    s.Looks loader.reach (loader.resource? name s).2 := by
  induction loader with
  | absent | builtin | failing => exact .refl s
  | isolated layer parent ih =>
    have hparent : s.Looks (isolated layer parent).reach (parent.resource? name s).2 := ih.of_parent
    rw [resource?, Action.run_bind]
    rcases hr : parent.resource? name s with ⟨_ | resource, t⟩
    · rw [hr] at hparent
      exact hparent.trans (findResource?_looks (.isolated layer parent) name
        (hparent.undisturbed hs))
    · rw [hr] at hparent
      exact hparent

/-- Asking for all resources of a name is a lookup. -/
lemma resources_looks (loader : Loader) (name : String) {s : Store} (hs : s.Undisturbed) :
    s.Looks loader.reach (loader.resources name s).2 := by
  induction loader with
  | absent | builtin | failing => exact .refl s
  | isolated layer parent ih =>
    have hparent : s.Looks (isolated layer parent).reach (parent.resources name s).2 := ih.of_parent
    rw [resources, Action.run_bind, Action.run_bind]
    exact hparent.trans (findResources_looks (.isolated layer parent) name
      (hparent.undisturbed hs))

/-- Dropping the cached index of an archive is quiet. -/
lemma quiet_clearCache (a : Archive) (s : Store) : s.Quiet (a.clearCache s).2 := by
  cases a with
  | packaged id stream => exact ⟨⟨⟨⟨rfl, rfl, rfl, rfl⟩, rfl⟩, rfl⟩, rfl⟩
  | exploded | scripted => exact .refl s

/-- Lookups at the urls of a list make up a lookup. -/
lemma forM_looks {reach : Nat → Url → Prop} {f : Url → Action Unit} {urls : List Url}
    (h : ∀ url ∈ urls, ∀ s : Store, s.Looks reach (f url s).2) (s : Store) :
    s.Looks reach (urls.forM f s).2 := by
  induction urls generalizing s with
  | nil => exact .refl s
  | cons url urls ih =>
    exact (h url (.head _) s).trans (ih (fun url' h' => h url' (.tail _ h')) _)

/-- Dropping the caches of a loader is a lookup. -/
lemma clearCache_looks (loader : Loader) (s : Store) :
    s.Looks loader.reach (loader.clearCache s).2 := by
  cases loader with
  | absent | builtin | failing => exact .refl s
  | isolated layer parent =>
    refine Store.Looks.of_layer ?_
    show s.Looks layer.reach (layer.clearCache s).2
    refine forM_looks (fun url hurl s => ?_) s
    have hconnect := layer.connect?_looks (Layer.passedOver ++ " while clearing cache") hurl s
    rw [Action.run_bind]
    refine hconnect.trans ?_
    cases (layer.connect? (Layer.passedOver ++ " while clearing cache") url s).1 with
    | none => exact .refl _
    | some connection =>
      dsimp only
      by_cases hpack : connection.archive.isPackaged = true
      · rw [if_pos hpack]
        exact .of_quiet (quiet_clearCache _ _)
      · rw [if_neg hpack]
        exact .refl _

/-- What a request does to a store: it looks archives up, defines a package, finds a class, or finds
and reads one. -/
inductive Serves (loader : Loader) (s : Store) : Store → Prop where
  | looked {t : Store} : s.Looks loader.reach t → Serves loader s t
  | packaged {t : Store} {layer : Layer} {name : String} {p : Package} : layer ∈ loader.layers →
      s.packageOf layer.id name = none → s.Quiet t →
      Serves loader s (t.withPackage layer.id name p)
  | found {t : Store} {depth : Nat} {name : String} {r : Except LoaderError Class} :
      Finds name (loader.ancestor depth) s r t → Serves loader s t
  | read {t u : Store} {depth : Nat} {name : String} {c : Class}
      {r : Except LoaderError (List UInt8)} :
      Finds name (loader.ancestor depth) s (.ok c) t → c.Yields t r u → Serves loader s u

/-- The urls of a loader further up are among those of the chain. -/
lemma reach_of_ancestor {loader : Loader} {depth : Nat} {handler : Nat} {url : Url}
    (h : (loader.ancestor depth).reach handler url) : loader.reach handler url :=
  reach_of_layers (fun _ => layers_ancestor depth loader) h

variable {loader : Loader} {s t : Store}

/-- A request opens archives at the urls of the chain. -/
lemma Serves.opens (h : loader.Serves s t) : Store.Opens loader.reach s t := by
  cases h with
  | looked hlooks => exact hlooks.opens
  | packaged _ _ hq => exact .same (.refl s) hq.files hq.handlers
  | found hfinds => exact hfinds.opens.mono fun _ _ => reach_of_ancestor
  | read hfinds hyields =>
    exact (hfinds.opens.mono fun _ _ => reach_of_ancestor).trans (hyields.opens _)

/-- A request schedules nothing. -/
lemma Serves.undisturbed (h : loader.Serves s t) (hs : s.Undisturbed) : t.Undisturbed := by
  cases h with
  | looked hlooks => exact hlooks.undisturbed hs
  | packaged _ _ hq => exact hq.undisturbed hs
  | found hfinds => exact hfinds.still.undisturbed hs
  | read hfinds hyields => exact hyields.undisturbed (hfinds.still.undisturbed hs)

/-- Loading a class finds it, and reads it if that is asked for. -/
lemma load_spec (hids : loader.ids.Nodup) (hs : s.Undisturbed) (name : String) (resolve : Bool) :
    ∃ r t, Finds name loader s r t ∧
      match r with
      | .error cause => loader.load name resolve s = (.error cause, t)
      | .ok c => loader.load name resolve s = (.ok c, t) ∨
        ∃ x u, c.Yields t x u ∧ loader.load name resolve s = (x.map fun _ => c, u) := by
  obtain ⟨r, t, hrun, hfinds⟩ := finds_find name hids hs
  refine ⟨r, t, hfinds, ?_⟩
  unfold load
  cases r with
  | error cause => exact Attempt.run_bind_error hrun _
  | ok c =>
    rw [Attempt.run_bind_ok hrun]
    cases loader with
    | absent | builtin | failing => exact .inl rfl
    | isolated layer parent =>
      cases resolve with
      | false => exact .inl rfl
      | true =>
        obtain ⟨x, u, hx, hyields⟩ := c.content_spec t
        refine .inr ⟨x, u, hyields, ?_⟩
        dsimp only
        rw [if_pos rfl, Attempt.run_bind, hx]
        cases x <;> rfl

/-- A request does one of the things of `Serves`. -/
lemma Request.serves (request : Request) (hl : loader.Proper) (hs : s.Undisturbed) :
    loader.Serves s (request.perform loader s).2 := by
  have hlooks : ∀ {depth : Nat} {t : Store}, s.Looks (loader.ancestor depth).reach t →
      loader.Serves s t := fun h => .looked (h.mono fun _ _ => reach_of_ancestor)
  cases request with
  | load depth name resolve =>
    obtain ⟨r, t, hfinds, hrun⟩ := load_spec (hl.ancestor depth).nodup_ids hs name resolve
    dsimp only [perform]
    rw [Action.run_bind, Attempt.run_run]
    cases r with
    | error cause =>
      dsimp only at hrun
      rw [hrun]
      exact .found hfinds
    | ok c =>
      rcases hrun with hrun | ⟨x, u, hyields, hrun⟩
      · rw [hrun]
        exact .found hfinds
      · rw [hrun]
        exact .read hfinds hyields
  | findResource depth name => exact hlooks (findResource?_looks _ name hs)
  | findResources depth name => exact hlooks (findResources_looks _ name hs)
  | resource depth name => exact hlooks (resource?_looks _ name hs)
  | resources depth name => exact hlooks (resources_looks _ name hs)
  | clearCache depth => exact hlooks (clearCache_looks _ s)
  | definePackage depth name manifest url =>
    dsimp only [perform]
    cases hl : loader.ancestor depth with
    | absent | builtin | failing => exact .looked (.refl s)
    | isolated layer parent =>
      dsimp only
      rw [Action.run_bind, Attempt.run_run]
      cases hp : s.packageOf layer.id name with
      | some p =>
        rw [Layer.definePackage_of_some hp]
        exact .looked (.refl s)
      | none =>
        obtain ⟨t, hq, hrun⟩ := Layer.definePackage_of_none hp manifest url
        rw [hrun]
        exact .packaged (mem_layers_of_ancestor hl) hp hq

/-! ### Steps and runs -/

/-- A run of requests opens archives at the urls of the chain, and schedules nothing. -/
lemma run_opens (requests : List Request) (hl : loader.Proper) (hs : s.Undisturbed) :
    Store.Opens loader.reach s (loader.run (requests.map .ask) s) ∧
      (loader.run (requests.map .ask) s).Undisturbed := by
  induction requests generalizing s with
  | nil => exact ⟨.refl s, hs⟩
  | cons request requests ih =>
    have hserves := request.serves hl hs
    obtain ⟨hopens, hrun⟩ := ih (hserves.undisturbed hs)
    exact ⟨hserves.opens.trans hopens, hrun⟩

end Loader

namespace Store

/-- Nothing is scheduled, no layer of the chain has defined a class, and no contents are kept of
builtin classes. -/
structure Fresh (loader : Loader) (s : Store) : Prop where
  undisturbed : s.Undisturbed
  classes : ∀ layer ∈ loader.layers, ∀ name, s.classOf layer.id name = none
  contents : ∀ depth id classes, loader.ancestor depth = .builtin id classes →
    ∀ name, s.contents.get? (id, name) = none

/-- What a run from a fresh store preserves. -/
structure Orderly (loader : Loader) (s : Store) : Prop where
  undisturbed : s.Undisturbed
  sound : s.Sound loader
  contents : ∀ depth id classes, loader.ancestor depth = .builtin id classes →
    ∀ name, s.contents.get? (id, name) = none

variable {loader : Loader} {s t : Store}

/-- Where there are no classes, all classes are what they say. -/
lemma Fresh.orderly (h : s.Fresh loader) : s.Orderly loader := by
  refine ⟨h.undisturbed, ?_, h.contents⟩
  intro layer hl name c hc
  rw [h.classes layer hl name] at hc
  cases hc

/-- Order is preserved. -/
lemma Orderly.evolves (hs : s.Orderly loader) (hl : loader.Proper) (h : s.Evolves loader t) :
    t.Orderly loader := by
  refine ⟨h.undisturbed hs.undisturbed, h.sound hs.sound, ?_⟩
  intro depth id classes hanc name
  rw [h.contents_of_not_mem (hl.not_mem_ids hanc), hs.contents depth id classes hanc]

/-- Order in a chain is order in every part of it. -/
lemma Orderly.ancestor (hs : s.Orderly loader) (depth : Nat) :
    s.Orderly (loader.ancestor depth) := by
  refine ⟨hs.undisturbed, fun layer h => ?_, fun more id classes hanc => ?_⟩
  · exact hs.sound layer (Loader.layers_ancestor depth loader h)
  · rw [Loader.ancestor_ancestor] at hanc
    exact hs.contents _ id classes hanc

end Store

namespace Loader

variable {loader : Loader} {s t : Store}

/-- A chain settles on classes that its layers have defined, and on builtin classes. -/
lemma origin_of_settled? {name : String} {c : Class} (h : s.settled? name loader = some c) :
    (∃ layer ∈ loader.layers, s.classOf layer.id name = some c) ∨
    (∃ depth id classes, loader.ancestor depth = .builtin id classes ∧
      classes.get? name = some c) := by
  induction loader with
  | absent | failing => cases h
  | builtin id classes => exact .inr ⟨0, id, classes, rfl, h⟩
  | isolated layer parent ih =>
    cases hknown : s.classOf layer.id name with
    | some d =>
      rw [Store.settled?_of_classOf hknown] at h
      cases h
      exact .inl ⟨layer, .head _, hknown⟩
    | none =>
      rw [Store.settled?_of_not_classOf hknown] at h
      rcases ih h with ⟨above, habove, hc⟩ | ⟨depth, id, classes, hanc, hc⟩
      · exact .inl ⟨above, .tail _ habove, hc⟩
      · exact .inr ⟨depth + 1, id, classes, hanc, hc⟩

/-- A class that a chain has settled on is a sound class of one of its layers, or a builtin one. -/
lemma Proper.origin (hl : loader.Proper) (hs : s.Sound loader) {depth : Nat} {name : String}
    {c : Class} (h : s.settled? name (loader.ancestor depth) = some c) :
    (∃ layer ∈ loader.layers, c.name = name ∧ c.definer = layer.id ∧ c.IsArchived ∧
      s.Attributed c) ∨
    (∃ more id classes main, loader.ancestor more = .builtin id classes ∧
      c = builtinClass id name main) := by
  rcases origin_of_settled? h with ⟨layer, hlayer, hc⟩ | ⟨more, id, classes, hanc, hc⟩
  · have hmem := layers_ancestor depth loader hlayer
    exact .inl ⟨layer, hmem, hs layer hmem name c hc⟩
  · rw [ancestor_ancestor] at hanc
    obtain ⟨main, rfl⟩ := hl.isBuiltin _ _ _ hanc name c hc
    exact .inr ⟨_, id, classes, main, hanc, rfl⟩

/-- Reading a class of the chain is an evolution. -/
lemma evolves_of_yields {c : Class} {r : Except LoaderError (List UInt8)} (h : c.Yields s r t)
    (hc : (∃ layer ∈ loader.layers, c.definer = layer.id) ∨ ∃ main, c.source = .builtin main) :
    s.Evolves loader t := by
  cases h with
  | kept | builtin => exact .refl
  | failed _ _ hq => exact .of_keeps hq.toKeeps
  | read hnone hnot hq =>
    rcases hc with ⟨layer, hl, hdef⟩ | ⟨main, hmain⟩
    · unfold Class.key at hnone ⊢
      rw [hdef] at hnone ⊢
      exact .read (.of_keeps hq.toKeeps) hl (by rw [hq.contents, hnone])
    · exact absurd hmain (hnot main)

/-- A request lets the definitions of a chain evolve. -/
lemma Serves.evolves (h : loader.Serves s t) (hl : loader.Proper) (hs : s.Orderly loader) :
    s.Evolves loader t := by
  cases h with
  | looked hlooks => exact .of_keeps hlooks.toKeeps
  | packaged hlayer hnone hq =>
    exact .packaged (.of_keeps hq.toKeeps) hlayer (by rw [hq.packageOf, hnone])
  | found hfinds => exact .of_ancestor hfinds.evolves
  | @read u _ depth name c _ hfinds hyields =>
    have hevolves : s.Evolves loader u := .of_ancestor hfinds.evolves
    have hsettled := hfinds.settled?_of_ok (hl.ancestor depth).nodup_ids
    refine hevolves.trans (evolves_of_yields hyields ?_)
    rcases hl.origin (hevolves.sound hs.sound) hsettled with
      ⟨layer, hlayer, -, hdef, -⟩ | ⟨_, _, _, main, -, rfl⟩
    · exact .inl ⟨layer, hlayer, hdef⟩
    · exact .inr ⟨main, rfl⟩

/-- A step that reads a class reads one that a layer has defined, or does nothing. -/
lemma Step.read_spec (depth : Nat) (name : String) (s : Store) :
    ((Step.read depth name).perform loader s).2 = s ∨
    ∃ layer ∈ loader.layers, ∃ c r, s.classOf layer.id name = some c ∧
      c.Yields s r ((Step.read depth name).perform loader s).2 := by
  dsimp only [perform]
  cases hlayer : loader.ancestor depth with
  | absent | builtin | failing => exact .inl rfl
  | isolated layer parent =>
    dsimp only
    rw [Action.run_bind]
    dsimp only [Layer.class?]
    cases hc : s.classOf layer.id name with
    | none =>
      refine .inl ?_
      unfold Store.classOf at hc
      rw [hc]
      rfl
    | some c =>
      obtain ⟨r, t, hrun, hyields⟩ := c.content_spec s
      refine .inr ⟨layer, mem_layers_of_ancestor hlayer, c, r, hc, ?_⟩
      unfold Store.classOf at hc
      rw [hc]
      dsimp only
      rw [Action.run_bind, Attempt.run_run, hrun]
      exact hyields

/-- A step lets the definitions of a chain evolve. -/
lemma Step.evolves (step : Step) (hl : loader.Proper) (hs : s.Orderly loader) :
    s.Evolves loader (step.perform loader s).2 := by
  cases step with
  | ask request => exact (request.serves hl hs.undisturbed).evolves hl hs
  | register handler archive => exact .of_keeps ⟨⟨rfl, rfl, rfl, rfl⟩, rfl⟩
  | changeFiles files => exact .files files .refl
  | read depth name =>
    rcases read_spec depth name s with hrun | ⟨layer, hl, c, r, hc, hyields⟩
    · rw [hrun]
      exact .refl
    · exact evolves_of_yields hyields (.inl ⟨layer, hl, (hs.sound layer hl name c hc).2.1⟩)

/-- A run lets the definitions of a chain evolve. -/
theorem run_evolves (steps : List Step) (hl : loader.Proper) (hs : s.Orderly loader) :
    s.Evolves loader (loader.run steps s) := by
  induction steps generalizing s with
  | nil => exact .refl
  | cons step steps ih =>
    have hstep := step.evolves hl hs
    exact hstep.trans (ih (hs.evolves hl hstep))

/-- A run keeps order. -/
lemma run_orderly (steps : List Step) (hl : loader.Proper) (hs : s.Orderly loader) :
    (loader.run steps s).Orderly loader :=
  hs.evolves hl (run_evolves steps hl hs)

/-- A load that does not ask for the content is a search. -/
lemma load_false (name : String) : loader.load name false s = loader.find name s := by
  unfold load
  rw [Attempt.run_bind]
  rcases loader.find name s with ⟨cause | c, t⟩
  · rfl
  · cases loader <;> rfl

/-! ### A small chain -/

/-- A directory that holds one class. -/
def sampleFiles : FileSystem where
  root := .directory (.cons "d" (.directory (.cons "p" (.directory
    (.cons "A.class" (.file [1]) .nil)) .nil)) .nil)
  working := []

/-- Two registered classes, one of them with an entry point. -/
def sampleBuiltins : Builtins := [("com.example.App", some ⟨"app"⟩), ("com.example.Marker", none)]

/-- Two layers over the registered classes; the outer one opens the directory. -/
def sampleChain : Loader :=
  .isolated ⟨2, [.packaged ⟨"lib.jar"⟩ [], .directory ⟨"d"⟩], 3⟩ <|
    .isolated ⟨1, [.directory ⟨"d"⟩], 3⟩ (registry sampleBuiltins)

/-- A store in which nothing has happened to the chain yet. -/
def sampleStore : Store := .start sampleFiles 4

/-- The small chain is proper. -/
lemma proper_sampleChain : sampleChain.Proper :=
  .isolated (.isolated (proper_builtinClasses _ _) (by decide)) (by decide)

/-- Nothing has happened to any chain when a store starts. -/
lemma fresh_start (loader : Loader) (files : FileSystem) (first : Nat) :
    (Store.start files first).Fresh loader :=
  ⟨rfl, fun _ _ _ => rfl, fun _ _ _ _ _ => rfl⟩

end Loader

/-- A member of a tar stream: its header and its content, filled up to whole blocks. -/
def Tar.member (name : String) (content : List UInt8) : List UInt8 :=
  let bytes := Text.Utf8.encode name.toList
  let start := bytes ++ List.replicate (124 - bytes.length) 0 ++
    octalDigits 11 content.length ++ List.replicate 13 0
  let rest := (if Text.endsWithSlash name then 0x35 else 0x30) :: List.replicate 355 0
  let sum := (start ++ rest).foldl (fun n b => n + b.toNat) (8 * 32)
  start ++ octalDigits 7 sum ++ [0] ++ rest ++ content ++
    List.replicate (padded content.length - content.length) 0

end AppLauncher
