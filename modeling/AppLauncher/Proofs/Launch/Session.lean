import AppLauncher.Proofs.Launch.Registered

/-!
# Sessions with a launched application

A user of a loader asks it for classes, resources and packages, drops its caches, and reads the
classes and resources among the answers; the files may be others at each request (`Session.run`).  A
loader over a packaged archive has all its class path in memory
(`Launcher.inMemory_of_createLoader`), and it stays there, so each request is answered without the
files (`Session.isBlind_respond`).  By induction so is a whole session: whatever the files are and
become, the answers are the same, and so is what is logged (`Session.independent_of_files`).
-/

namespace AppLauncher

/-! ### Requests and answers -/

namespace Session

/-- What is asked of a loader, or read of the answers that it has given so far. -/
inductive Request where
  | load (name : String) (resolve : Bool)
  | findResource (name : String)
  | findResources (name : String)
  | resource (name : String)
  | resources (name : String)
  | package (name : String)
  | clearCache
  /-- The content of the class that the request of a turn was answered with. -/
  | readClass (turn : Nat)
  /-- The content of one of the resources that the request of a turn was answered with. -/
  | readResource (turn index : Nat)

/-- What a request is answered with. -/
inductive Answer where
  | loaded (result : Except LoaderError Class)
  | found (resources : List Resource)
  | package (package? : Option Package)
  | cleared
  | classContent (result : Except LoaderError (List UInt8))
  | resourceContent (result : Except ArchiveError (List UInt8))
  /-- There is no class or resource to be read. -/
  | nothing

namespace Answer

/-- The class that is in an answer. -/
def class? : Answer → Option Class
  | loaded (.ok c) => some c
  | _ => none

/-- The resources that are in an answer. -/
def resources : Answer → List Resource
  | found resources => resources
  | _ => []

/-- The classes and resources of an answer are in memory. -/
structure InMemory (answer : Answer) : Prop where
  class? : ∀ c, answer.class? = some c → c.InMemory
  resources : ∀ resource ∈ answer.resources, resource.archive.InMemory

end Answer

/-- Answers a request, given the answers to the earlier ones. -/
def respond (loader : Loader) (given : List Answer) : Request → Action Answer
  | .load name resolve => return .loaded (← (loader.load name resolve).run)
  | .findResource name => return .found (← loader.findResource? name).toList
  | .findResources name => return .found (← loader.findResources name)
  | .resource name => return .found (← loader.resource? name).toList
  | .resources name => return .found (← loader.resources name)
  | .package name => return .package (← loader.package? name)
  | .clearCache => do
    loader.clearCache
    return .cleared
  | .readClass turn =>
    match given[turn]?.bind Answer.class? with
    | some c => return .classContent (← c.content.run)
    | none => return .nothing
  | .readResource turn index =>
    match given[turn]?.bind (·.resources[index]?) with
    | some resource => return .resourceContent (← resource.read.run)
    | none => return .nothing

/-- Answers requests one after the other, given the answers to the earlier ones.  The files are
other ones at each turn. -/
def run (loader : Loader) (files : Nat → FileSystem) (given : List Answer) :
    List Request → Action (List Answer)
  | [] => pure given
  | request :: requests => do
    modify fun s => { s with files := files given.length }
    let answer ← respond loader given request
    run loader files (given ++ [answer]) requests

end Session

/-! ### Loaders over archives in memory -/

namespace Archive

/-- Archives over streams are in memory. -/
lemma inMemory_mapM_ofStream (stream : Stream) (items : List Item) (s : Store) :
    ∃ views t, (items.mapM (fun item => liftM (ofStream (stream.nested item))) :
        Attempt ArchiveError (List Archive)) s = (.ok views, t) ∧
          ∀ view ∈ views, view.InMemory := by
  induction items generalizing s with
  | nil => exact ⟨[], s, rfl, List.forall_mem_nil _⟩
  | cons item items ih =>
    obtain ⟨views, t, ht, hviews⟩ := ih (ofStream (stream.nested item) s).2
    refine ⟨.packaged s.next (stream.nested item) :: views, t, ?_,
      List.forall_mem_cons.mpr ⟨trivial, hviews⟩⟩
    rw [List.mapM_cons, Attempt.run_bind_lift, Attempt.run_bind_ok ht]
    rfl

/-- What is nested in a packaged archive is in memory once it has been opened. -/
lemma inMemory_nestedAll {id : Nat} {stream : Stream} {filter : Entry → Bool} {s t : Store}
    {views : List Archive} (h : (packaged id stream).nestedAll filter s = (.ok views, t)) :
    ∀ view ∈ views, view.InMemory := by
  dsimp only [nestedAll] at h
  rw [Attempt.run_bind] at h
  rcases hindex : indexOf id stream s with ⟨cause | index, u⟩
  · rw [hindex] at h
    cases h
  · rw [hindex] at h
    obtain ⟨opened, v, hopened, hmemory⟩ := inMemory_mapM_ofStream stream
      (index.items.filter fun item => filter item.entry) u
    cases hopened.symm.trans h
    exact hmemory

end Archive

namespace Handler

/-- A handler goes on holding archives in memory when it is given one. -/
lemma holdsInMemory_register {handler : Nat} {archive : Archive} (harchive : archive.InMemory)
    {key : Url.Key} {s : Store} (h : archive.url.key = key ∨ s.HoldsInMemory handler key) :
    (register handler archive s).2.HoldsInMemory handler key := by
  unfold Store.HoldsInMemory
  rw [get?_register]
  by_cases hkey : archive.url.key = key
  · rw [if_pos ⟨rfl, hkey⟩]
    exact ⟨archive, rfl, harchive⟩
  · rw [if_neg fun hboth => hkey hboth.2]
    exact h.resolve_left hkey

/-- A handler holds an archive in memory under the url of each archive that it has been given, also
if it has been given several under one url. -/
lemma holdsInMemory_forM_register {handler : Nat} {archives : List Archive}
    (harchives : ∀ archive ∈ archives, archive.InMemory) {key : Url.Key} {s : Store}
    (h : (∃ archive ∈ archives, archive.url.key = key) ∨ s.HoldsInMemory handler key) :
    (archives.forM (register handler) s).2.HoldsInMemory handler key := by
  induction archives generalizing s with
  | nil => exact h.resolve_left fun ⟨_, hnone, _⟩ => List.not_mem_nil hnone
  | cons archive archives ih =>
    have harchive := harchives archive (.head _)
    refine ih (fun other hother => harchives other (.tail _ hother)) ?_
    rcases h with ⟨given, hgiven, hkey⟩ | hheld
    · rcases List.mem_cons.mp hgiven with rfl | hrest
      · exact .inr (holdsInMemory_register harchive (.inl hkey))
      · exact .inl ⟨given, hrest, hkey⟩
    · exact .inr (holdsInMemory_register harchive (.inr hheld))

end Handler

namespace Launcher

/-- A loader over archives in memory is in memory. -/
lemma inMemory_of_createLoader {archives : List Archive}
    (harchives : ∀ archive ∈ archives, archive.InMemory) {parent loader : Loader} {s t : Store}
    (hs : s.Unclaimed) (h : createLoader parent archives s = (loader, t)) :
    ∃ layer, loader = .isolated layer parent ∧ t.InMemory layer := by
  let held := (archives.forM (Handler.register s.next) (Action.freshId s).2).2
  have hfree : held.Unclaimed := (unclaimed_of_registered hs archives).2
  cases h
  refine ⟨⟨held.next, archives.map Archive.url, s.next⟩, rfl, fun url hurl => ?_,
    fun name c hc => ?_, Nat.lt_succ_self _, fun id name hid => ?_⟩
  · obtain ⟨archive, hmem, rfl⟩ := List.mem_map.mp hurl
    exact Handler.holdsInMemory_forM_register harchives (.inl ⟨archive, hmem, rfl⟩)
  · -- the number of the layer was still free a moment ago
    cases (hfree held.next name (Nat.le_refl _)).symm.trans hc
  · exact hfree id name ((Nat.le_succ _).trans hid)

/-- The loader of a packaged archive is in memory. -/
lemma inMemory_of_classPath {registered : Builtins} {id : Nat} {stream : Stream}
    {archives : List Archive} {loader : Loader} {s t u : Store} (hs : s.Unclaimed)
    (hpath : (ofArchive registered (.packaged id stream) .jar).classPath s = (.ok archives, t))
    (hloader : createLoader (ofArchive registered (.packaged id stream) .jar).parent archives t =
      (loader, u)) :
    ∃ layer, loader = .isolated layer (.registry registered) ∧ u.InMemory layer := by
  unfold ofArchive at hpath
  dsimp only at hpath
  rw [Attempt.run_bind, Attempt.run_adapt] at hpath
  rcases hnested : (Archive.packaged id stream).nestedAll Layout.jar.isNested s with
    ⟨cause | nested, v⟩
  · rw [hnested] at hpath
    cases hpath
  · rw [hnested] at hpath
    -- the layout leaves the nested archives as they are
    cases hpath
    exact inMemory_of_createLoader (Archive.inMemory_nestedAll hnested)
      (Archive.unclaimed_nestedAll hs hnested) hloader

end Launcher

/-! ### Sessions need no files -/

namespace Session

variable {layer : Layer} {given : List Answer}

/-- Nothing that could be read is in an answer. -/
lemma Answer.inMemory_of_empty (answer : Answer) (hclass : answer.class? = none)
    (hresources : answer.resources = []) : answer.InMemory := by
  refine ⟨fun c hc => ?_, fun resource hresource => ?_⟩
  · rw [hclass] at hc
    cases hc
  · rw [hresources] at hresource
    cases hresource

/-- A class is answered with if it has been loaded. -/
lemma Answer.inMemory_loaded {result : Except LoaderError Class}
    (h : ∀ c, result = .ok c → c.InMemory) : (loaded result).InMemory := by
  cases result with
  | error cause => exact inMemory_of_empty _ rfl rfl
  | ok c =>
    refine ⟨fun d hd => ?_, List.forall_mem_nil _⟩
    cases hd
    exact h c rfl

/-- Resources are answered with if they have been found. -/
lemma Answer.inMemory_found {resources : List Resource}
    (h : ∀ resource ∈ resources, resource.archive.InMemory) : (found resources).InMemory := by
  refine ⟨fun c hc => ?_, h⟩
  cases hc

/-- A resource is answered with if it has been found. -/
lemma Answer.inMemory_found_toList {resource? : Option Resource}
    (h : ∀ resource, resource? = some resource → resource.archive.InMemory) :
    (found resource?.toList).InMemory :=
  inMemory_found fun resource hresource => h resource (Option.mem_toList.mp hresource)

/-- While a layer is in memory, a request is answered without files. -/
lemma isBlind_respond (registered : Builtins) (hgiven : ∀ answer ∈ given, answer.InMemory)
    (request : Request) :
    (respond (.isolated layer (.registry registered)) given request).IsBlind layer
      Answer.InMemory := by
  cases request with
  | load name resolve =>
    exact Action.IsBlind.bind (Loader.isBlind_load registered name resolve) fun _ h =>
      Action.isBlind_pure (Answer.inMemory_loaded h)
  | findResource name =>
    exact (Loader.isBlind_findResource? registered name).bind fun _ h =>
      Action.isBlind_pure (Answer.inMemory_found_toList h)
  | findResources name =>
    exact (Loader.isBlind_findResources registered name).bind fun _ h =>
      Action.isBlind_pure (Answer.inMemory_found h)
  | resource name =>
    exact (Loader.isBlind_resource? registered name).bind fun _ h =>
      Action.isBlind_pure (Answer.inMemory_found_toList h)
  | resources name =>
    exact (Loader.isBlind_resources registered name).bind fun _ h =>
      Action.isBlind_pure (Answer.inMemory_found h)
  | package name =>
    exact (Layer.isBlind_package? layer.id name).bind fun package? _ =>
      Action.isBlind_pure (Answer.inMemory_of_empty (.package package?) rfl rfl)
  | clearCache =>
    exact Layer.isBlind_clearCache.bind fun _ _ =>
      Action.isBlind_pure (Answer.inMemory_of_empty .cleared rfl rfl)
  | readClass turn =>
    unfold respond
    dsimp only
    cases hclass : given[turn]?.bind Answer.class? with
    | none => exact Action.isBlind_pure (Answer.inMemory_of_empty .nothing rfl rfl)
    | some c =>
      obtain ⟨answer, hanswer, hc⟩ := Option.bind_eq_some_iff.mp hclass
      have hmemory := (hgiven answer (List.mem_of_getElem? hanswer)).class? c hc
      exact Action.IsBlind.bind hmemory.content fun result _ =>
        Action.isBlind_pure (Answer.inMemory_of_empty (.classContent result) rfl rfl)
  | readResource turn index =>
    unfold respond
    dsimp only
    cases hresource : given[turn]?.bind (·.resources[index]?) with
    | none => exact Action.isBlind_pure (Answer.inMemory_of_empty .nothing rfl rfl)
    | some resource =>
      obtain ⟨answer, hanswer, hr⟩ := Option.bind_eq_some_iff.mp hresource
      have hmemory := (hgiven answer (List.mem_of_getElem? hanswer)).resources resource
        (List.mem_of_getElem? hr)
      exact Action.IsBlind.bind (Resource.isBlind_read hmemory) fun result _ =>
        Action.isBlind_pure (Answer.inMemory_of_empty (.resourceContent result) rfl rfl)

/-- While a layer is in memory, a session comes to the same answers and leaves the same behind, but
for the files, whatever the files are at its start and at each turn. -/
lemma run_without_files (registered : Builtins) (requests : List Request)
    (hgiven : ∀ answer ∈ given, answer.InMemory) {s : Store} (hs : s.InMemory layer) :
    ∃ (answers : List Answer) (t : Store), t.InMemory layer ∧
      ∀ (files : Nat → FileSystem) (first : FileSystem), ∃ last,
        run (.isolated layer (.registry registered)) files given requests
          { s with files := first } = (answers, { t with files := last }) := by
  induction requests generalizing given s with
  | nil => exact ⟨given, s, hs, fun _ first => ⟨first, rfl⟩⟩
  | cons request requests ih =>
    obtain ⟨answer, t, hanswer, ht, hrespond⟩ := isBlind_respond registered hgiven request s hs
    have hmore : ∀ other ∈ given ++ [answer], other.InMemory := by
      intro other hother
      rcases List.mem_append.mp hother with hold | hnew
      · exact hgiven other hold
      · rw [List.mem_singleton.mp hnew]
        exact hanswer
    obtain ⟨answers, u, hu, hrun⟩ := ih hmore ht
    refine ⟨answers, u, hu, fun files first => ?_⟩
    obtain ⟨last, hlast⟩ := hrun files (files given.length)
    refine ⟨last, ?_⟩
    show (respond (.isolated layer (.registry registered)) given request >>= fun answer =>
      run (.isolated layer (.registry registered)) files (given ++ [answer]) requests)
        { s with files := files given.length } = _
    rw [Action.run_bind, hrespond]
    exact hlast

/-- A loader over the class path of a packaged archive no longer depends on the files.  Two sessions
with it that make the same requests get the same answers, and log the same, whatever the files are
at each of their turns.  All it takes is that no loader has defined a class before it was made, and
sessions keep it so for the loaders of the next launch. -/
theorem independent_of_files {s t u : Store} (hs : s.Unclaimed) {registered : Builtins} {id : Nat}
    {stream : Stream} {archives : List Archive} {loader : Loader}
    (hpath : (Launcher.ofArchive registered (.packaged id stream) .jar).classPath s =
      (.ok archives, t))
    (hloader : Launcher.createLoader
      (Launcher.ofArchive registered (.packaged id stream) .jar).parent archives t = (loader, u))
    (requests : List Request) (files files' : Nat → FileSystem) :
    (run loader files [] requests u).1 = (run loader files' [] requests u).1 ∧
      (run loader files [] requests u).2.trail = (run loader files' [] requests u).2.trail ∧
      (run loader files [] requests u).2.Unclaimed := by
  obtain ⟨layer, rfl, hmemory⟩ := Launcher.inMemory_of_classPath hs hpath hloader
  obtain ⟨answers, v, hv, hrun⟩ :=
    run_without_files registered requests (List.forall_mem_nil _) hmemory
  obtain ⟨last, hlast⟩ := hrun files u.files
  obtain ⟨last', hlast'⟩ := hrun files' u.files
  have hfirst : run (.isolated layer (.registry registered)) files [] requests u =
      (answers, { v with files := last }) := hlast
  have hsecond : run (.isolated layer (.registry registered)) files' [] requests u =
      (answers, { v with files := last' }) := hlast'
  rw [hfirst, hsecond]
  exact ⟨rfl, rfl, hv.unclaimed⟩

/-- A packaged application with one library, in which there is one class. -/
def sampleRoot : Stream where
  url := .packaged ⟨"app.jar"⟩ []
  data := Tar.member "BOOT-INF/lib/a.jar" (Tar.member "p/A.class" [1])
  directory := none

/-- The launcher of the packaged application, in a process with two registered classes. -/
def sampleLauncher : Launcher := .ofArchive Loader.sampleBuiltins (.packaged 1 sampleRoot) .jar

/-- The packaged application has a class path, and its loader does not depend on the files. -/
theorem independent_of_files_sampleRoot : ∃ archives loader t u, archives ≠ [] ∧
    (Store.start default 2).Unclaimed ∧
    sampleLauncher.classPath (.start default 2) = (.ok archives, t) ∧
    Launcher.createLoader sampleLauncher.parent archives t = (loader, u) ∧
    ∀ (requests : List Request) (files files' : Nat → FileSystem),
      (run loader files [] requests u).1 = (run loader files' [] requests u).1 ∧
        (run loader files [] requests u).2.trail = (run loader files' [] requests u).2.trail ∧
        (run loader files [] requests u).2.Unclaimed := by
  have hsome :
      (sampleLauncher.classPath (.start default 2)).1.toOption.any (!·.isEmpty) = true := by
    decide +kernel
  have hfree := Store.unclaimed_start default 2
  rcases hpath : sampleLauncher.classPath (.start default 2) with ⟨cause | archives, t⟩
  · rw [hpath] at hsome
    cases hsome
  · rw [hpath] at hsome
    refine ⟨archives, _, t, _, ?_, hfree, rfl, rfl, independent_of_files hfree hpath rfl⟩
    rintro rfl
    cases hsome

end Session

end AppLauncher
