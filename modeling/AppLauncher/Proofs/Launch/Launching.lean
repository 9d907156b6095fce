import AppLauncher.Proofs.Launch.Calm
import AppLauncher.Proofs.Launch.Registered

/-!
# What a launch does

A launch of an executable archive goes through its steps in order: it lists the class path, makes a
loader, reads the manifest, looks up the class to start, loads the class through the new loader, and
looks for the entry point of the class.  Either all of them succeed and the entry point is about to
be called (`Launcher.Resolves`), or one is the first to fail (`Launcher.Fails`), and never both.

The steps are calm, so the entry point is called in a store in which nothing but the context loader
has been put in place, and it is called once (`Launcher.launch_spec`).  What it does is arbitrary:
it may fail, panic, install another context loader or launch again.  It is the entry point that is
registered for the name in the manifest (`Launcher.resolves_iff_registered`).
-/

namespace AppLauncher

namespace Launcher

variable (registered : Builtins) (archive : Archive) (layout : Layout) (s : Store)

/-! ### The steps of a launch -/

/-- The class path can be listed, and its archives have been arranged. -/
def ListsClassPath (archives : List Archive) (t : Store) : Prop :=
  ∃ nested, archive.nestedAll layout.isNested s = (.ok nested, t) ∧
    layout.arrange nested = .ok archives

/-- A loader has been made over the class path, too. -/
def MakesLoader (loader : Loader) (t : Store) : Prop :=
  ∃ archives u, ListsClassPath archive layout s archives u ∧
    createLoader (.registry registered) archives u = (loader, t)

/-- The loader is a layer over the registered classes that searches the class path in its order. -/
def SearchesClassPath (loader : Loader) : Prop :=
  ∃ layer archives t, loader = .isolated layer (.registry registered) ∧
    ListsClassPath archive layout s archives t ∧ layer.urls = archives.map Archive.url

/-- The manifest names the class to start, too. -/
def NamesClass (loader : Loader) (name : String) (t : Store) : Prop :=
  ∃ manifest u, MakesLoader registered archive layout s loader u ∧
    archive.manifest u = (.ok (some manifest), t) ∧ manifest.main.value? startClass = some name

/-- The class has been loaded through the new loader, too. -/
def LoadsClass (loader : Loader) (name : String) (c : Class) (t : Store) : Prop :=
  ∃ u, NamesClass registered archive layout s loader name u ∧
    loader.load name false { u with context := loader } = (.ok c, t)

/-- The class has an entry point, too, which is about to be called. -/
def Resolves (loader : Loader) (main : EntryPoint) (t : Store) : Prop :=
  ∃ name c u, LoadsClass registered archive layout s loader name c u ∧ c.main? = some main ∧
    t = (Action.log .info logTarget "Starting application" [.plain "main_class" name] u).2

/-- The first step that fails, with its cause, and what is left then. -/
inductive Fails : LauncherError → Store → Prop where
  | listing {cause : ArchiveError} {t : Store} :
      archive.nestedAll layout.isNested s = (.error cause, t) → Fails (.archive cause) t
  | arranging {nested : List Archive} {cause : LauncherError} {t : Store} :
      archive.nestedAll layout.isNested s = (.ok nested, t) →
      layout.arrange nested = .error cause → Fails cause t
  | reading {loader : Loader} {cause : ArchiveError} {t u : Store} :
      MakesLoader registered archive layout s loader t → archive.manifest t = (.error cause, u) →
      Fails (.archive cause) u
  | noManifest {loader : Loader} {t u : Store} :
      MakesLoader registered archive layout s loader t → archive.manifest t = (.ok none, u) →
      Fails (.missingManifest archive.url) u
  | noStartClass {loader : Loader} {manifest : Manifest} {t u : Store} :
      MakesLoader registered archive layout s loader t →
      archive.manifest t = (.ok (some manifest), u) →
      manifest.main.value? startClass = none → Fails (.missingStartClass archive.url) u
  | loading {loader : Loader} {name : String} {cause : LoaderError} {t u : Store} :
      NamesClass registered archive layout s loader name t →
      loader.load name false { t with context := loader } = (.error cause, u) →
      Fails (.loader cause) { u with context := s.context }
  | noEntryPoint {loader : Loader} {name : String} {c : Class} {t : Store} :
      LoadsClass registered archive layout s loader name c t → c.main? = none →
      Fails (.mainMethodNotFound name) { t with context := s.context }

variable {registered archive layout s} {loader : Loader} {name : String} {t : Store}

/-! ### The steps are calm -/

/-- Making a loader is calm, and the loader searches the class path. -/
lemma MakesLoader.calm (h : MakesLoader registered archive layout s loader t) :
    s.Calm t ∧ SearchesClassPath registered archive layout s loader := by
  obtain ⟨archives, u, hpath, hloader⟩ := h
  obtain ⟨nested, hnested, -⟩ := id hpath
  have hlisted := (archive.isCalm_nestedAll layout.isNested).of_run hnested
  have hmade := isCalm_createLoader (.registry registered) archives u
  rw [hloader] at hmade
  refine ⟨hlisted.trans hmade, ?_⟩
  have hfirst := congrArg Prod.fst hloader
  exact ⟨_, archives, u, hfirst.symm, hpath, rfl⟩

/-- Naming a class is calm. -/
lemma NamesClass.calm (h : NamesClass registered archive layout s loader name t) :
    s.Calm t ∧ SearchesClassPath registered archive layout s loader := by
  obtain ⟨manifest, u, hmakes, hmanifest, -⟩ := h
  obtain ⟨hmade, hsearches⟩ := hmakes.calm
  exact ⟨hmade.trans (archive.isCalm_manifest.of_run hmanifest), hsearches⟩

/-- Loading a class leaves the new loader in place and calls no entry point. -/
lemma calm_of_load {r : Except LoaderError Class} {u : Store}
    (h : NamesClass registered archive layout s loader name t)
    (hload : loader.load name false { t with context := loader } = (r, u)) :
    u.context = loader ∧ u.calls = s.calls := by
  obtain ⟨hnamed, -⟩ := h.calm
  have hloaded := (loader.isCalm_load name false).of_run hload
  exact ⟨hloaded.context, hloaded.calls.trans hnamed.calls⟩

/-! ### A launch goes through the steps -/

variable (call : Caller) (arguments : List String)

/-- A launch after a loader has been made. -/
lemma launch_of_makesLoader (h : MakesLoader registered archive layout s loader t) :
    (ofArchive registered archive layout).launch call arguments s =
      (ExceptT.adapt .error (ofArchive registered archive layout).mainClass >>= fun mainClass =>
        launchWith call arguments mainClass loader) t := by
  obtain ⟨archives, u, ⟨nested, hnested, harchives⟩, hloader⟩ := h
  have hpath : (ofArchive registered archive layout).classPath s = (.ok archives, u) := by
    have hadapted : (ExceptT.adapt LauncherError.archive (archive.nestedAll layout.isNested)) s =
        (.ok nested, u) := by
      rw [Attempt.run_adapt, hnested]
      rfl
    unfold ofArchive
    dsimp only
    rw [Attempt.run_bind_ok hadapted, Attempt.run_liftExcept, harchives]
  have hadapted :
      (ExceptT.adapt Interruption.error (ofArchive registered archive layout).classPath) s =
      (.ok archives, u) := by
    rw [Attempt.run_adapt, hpath]
    rfl
  have hparent : createLoader (ofArchive registered archive layout).parent archives u =
      (loader, t) := hloader
  unfold launch
  rw [Attempt.run_bind_ok hadapted, Attempt.run_bind_lift, hparent]

/-- What the manifest says about the class to start, once it has been read. -/
lemma mainClass_of_manifest {manifest? : Option Manifest} {u : Store}
    (h : archive.manifest t = (.ok manifest?, u)) :
    (ofArchive registered archive layout).mainClass t =
      (match manifest? with
      | none => .error (.missingManifest archive.url)
      | some manifest =>
        match manifest.main.value? startClass with
        | none => .error (.missingStartClass archive.url)
        | some name => .ok name, u) := by
  have hadapted : (ExceptT.adapt LauncherError.archive archive.manifest) t =
      (.ok manifest?, u) := by
    rw [Attempt.run_adapt, h]
    rfl
  unfold ofArchive
  dsimp only
  rw [Attempt.run_bind_ok hadapted]
  cases manifest? with
  | none => rfl
  | some manifest =>
    dsimp only
    cases manifest.main.value? startClass <;> rfl

/-- A launch that cannot look up the class to start. -/
lemma launch_of_mainClass_error {cause : LauncherError} {u : Store}
    (h : MakesLoader registered archive layout s loader t)
    (hname : (ofArchive registered archive layout).mainClass t = (.error cause, u)) :
    (ofArchive registered archive layout).launch call arguments s = (.error (.error cause), u) := by
  have hadapted :
      (ExceptT.adapt Interruption.error (ofArchive registered archive layout).mainClass) t =
      (.error (.error cause), u) := by
    rw [Attempt.run_adapt, hname]
    rfl
  rw [launch_of_makesLoader call arguments h, Attempt.run_bind_error hadapted]

/-- A launch after the class has been named: it is loaded and run with the new loader as the context
loader, and the previous one is put back. -/
lemma launch_of_namesClass (h : NamesClass registered archive layout s loader name t) :
    (ofArchive registered archive layout).launch call arguments s =
      ((runMain call name arguments { t with context := loader }).1,
        { (runMain call name arguments { t with context := loader }).2 with
          context := s.context }) := by
  have hcontext := h.calm.1.context
  obtain ⟨manifest, u, hmakes, hmanifest, hname⟩ := h
  have hmain : (ofArchive registered archive layout).mainClass u = (.ok name, t) := by
    rw [mainClass_of_manifest hmanifest]
    dsimp only
    rw [hname]
  have hadapted :
      (ExceptT.adapt Interruption.error (ofArchive registered archive layout).mainClass) u =
      (.ok name, t) := by
    rw [Attempt.run_adapt, hmain]
    rfl
  rw [launch_of_makesLoader call arguments hmakes, Attempt.run_bind_ok hadapted, ← hcontext]
  rfl

/-- The context loader is asked for the class, if there is one. -/
lemma runMain_of_load {layer : Layer} {parent : Loader} {r : Except LoaderError Class} {u v : Store}
    (hcontext : u.context = .isolated layer parent)
    (hload : Loader.load (.isolated layer parent) name false u = (r, v)) :
    runMain call name arguments u =
      match r with
      | .error cause => (.error (Interruption.ofLoader cause), v)
      | .ok c =>
        match c.main? with
        | none => (.error (.error (.mainMethodNotFound name)), v)
        | some main =>
          let started := (Action.log .info logTarget "Starting application"
            [.plain "main_class" name] v).2
          ((call main arguments started).1.mapError Interruption.ofCrash,
            (call main arguments started).2) := by
  have hadapted : (ExceptT.adapt Interruption.ofLoader
      (Loader.load (.isolated layer parent) name false)) u =
        (r.mapError Interruption.ofLoader, v) := by
    rw [Attempt.run_adapt, hload]
  have hlook : Action.context u = (.isolated layer parent, u) := by
    rw [← hcontext]
    rfl
  unfold runMain
  rw [Attempt.run_bind_lift, hlook]
  dsimp only
  rw [Attempt.run_bind, hadapted]
  cases r with
  | error cause => rfl
  | ok c =>
    dsimp only [Except.mapError]
    cases c.main? with
    | none => rfl
    | some main => rfl

/-- A launch that gets to the entry point calls it once, and puts the context loader back. -/
lemma launch_of_resolves {main : EntryPoint}
    (h : Resolves registered archive layout s loader main t) :
    (ofArchive registered archive layout).launch call arguments s =
      ((call main arguments t).1.mapError Interruption.ofCrash,
        { (call main arguments t).2 with context := s.context }) := by
  obtain ⟨name, c, u, ⟨v, hnames, hload⟩, hmain, rfl⟩ := h
  obtain ⟨-, layer, -, -, rfl, -⟩ := hnames.calm
  rw [launch_of_namesClass call arguments hnames, runMain_of_load call arguments rfl hload]
  dsimp only
  rw [hmain]

/-- A launch with a step that fails ends there. -/
lemma launch_of_fails {cause : LauncherError} (h : Fails registered archive layout s cause t) :
    (ofArchive registered archive layout).launch call arguments s = (.error (.error cause), t) := by
  cases h with
  | listing hnested =>
    unfold launch
    rw [Attempt.run_bind, Attempt.run_adapt]
    unfold ofArchive
    dsimp only
    rw [Attempt.run_bind, Attempt.run_adapt, hnested]
    rfl
  | arranging hnested harchives =>
    unfold launch
    rw [Attempt.run_bind, Attempt.run_adapt]
    unfold ofArchive
    dsimp only
    rw [Attempt.run_bind, Attempt.run_adapt, hnested]
    dsimp only [Except.mapError]
    rw [Attempt.run_liftExcept, harchives]
  | @reading _ source u _ hmakes hmanifest =>
    have hname : (ofArchive registered archive layout).mainClass u =
        (.error (.archive source), t) := by
      unfold ofArchive
      dsimp only
      rw [Attempt.run_bind, Attempt.run_adapt, hmanifest]
      rfl
    exact launch_of_mainClass_error call arguments hmakes hname
  | noManifest hmakes hmanifest =>
    exact launch_of_mainClass_error call arguments hmakes (mainClass_of_manifest hmanifest)
  | noStartClass hmakes hmanifest hnone =>
    refine launch_of_mainClass_error call arguments hmakes ?_
    rw [mainClass_of_manifest hmanifest]
    dsimp only
    rw [hnone]
  | @loading _ name source u v hnames hload =>
    obtain ⟨-, layer, -, -, rfl, -⟩ := hnames.calm
    rw [launch_of_namesClass call arguments hnames, runMain_of_load call arguments rfl hload]
    have hthere := Loader.load_ne_packageVanished (.isolated layer (.registry registered)) name
    cases source with
    | packageVanished packageName =>
      have hvanished := hthere packageName false
        { u with context := .isolated layer (.registry registered) }
      rw [hload] at hvanished
      exact absurd rfl hvanished
    | _ => rfl
  | noEntryPoint hloads hnone =>
    obtain ⟨v, hnames, hload⟩ := hloads
    obtain ⟨-, layer, -, -, rfl, -⟩ := hnames.calm
    rw [launch_of_namesClass call arguments hnames, runMain_of_load call arguments rfl hload]
    dsimp only
    rw [hnone]

/-! ### Every launch gets to the entry point or to a step that fails -/

/-- A class that has been loaded has an entry point, or the launch fails for want of it. -/
lemma resolves_or_fails_of_loadsClass {c : Class}
    (h : LoadsClass registered archive layout s loader name c t) :
    (∃ loader main u, Resolves registered archive layout s loader main u) ∨
      ∃ cause u, Fails registered archive layout s cause u := by
  cases hmain : c.main? with
  | none => exact .inr ⟨_, _, .noEntryPoint h hmain⟩
  | some main => exact .inl ⟨loader, main, _, name, c, t, h, hmain, rfl⟩

/-- After a loader has been made, a launch gets to the entry point or to a step that fails. -/
lemma resolves_or_fails_of_makesLoader (h : MakesLoader registered archive layout s loader t) :
    (∃ loader main u, Resolves registered archive layout s loader main u) ∨
      ∃ cause u, Fails registered archive layout s cause u := by
  rcases hmanifest : archive.manifest t with ⟨cause | manifest?, u⟩
  · exact .inr ⟨_, _, .reading h hmanifest⟩
  · cases manifest? with
    | none => exact .inr ⟨_, _, .noManifest h hmanifest⟩
    | some manifest =>
      cases hname : manifest.main.value? startClass with
      | none => exact .inr ⟨_, _, .noStartClass h hmanifest hname⟩
      | some name =>
        have hnames : NamesClass registered archive layout s loader name u :=
          ⟨manifest, t, h, hmanifest, hname⟩
        rcases hload : loader.load name false { u with context := loader } with ⟨cause | c, v⟩
        · exact .inr ⟨_, _, .loading hnames hload⟩
        · exact resolves_or_fails_of_loadsClass ⟨u, hnames, hload⟩

variable (registered archive layout s)

/-- A launch gets to the entry point or to a step that fails. -/
lemma resolves_or_fails :
    (∃ loader main t, Resolves registered archive layout s loader main t) ∨
      ∃ cause t, Fails registered archive layout s cause t := by
  rcases hnested : archive.nestedAll layout.isNested s with ⟨cause | nested, t⟩
  · exact .inr ⟨_, _, .listing hnested⟩
  · cases harchives : layout.arrange nested with
    | error cause => exact .inr ⟨_, _, .arranging hnested harchives⟩
    | ok archives =>
      rcases hloader : createLoader (.registry registered) archives t with ⟨loader, u⟩
      exact resolves_or_fails_of_makesLoader ⟨archives, t, ⟨nested, hnested, harchives⟩, hloader⟩

variable {registered archive layout s}

/-- A launch that gets to the entry point has no step that fails. -/
lemma not_fails_of_resolves {main : EntryPoint}
    (h : Resolves registered archive layout s loader main t) :
    ¬ ∃ cause u, Fails registered archive layout s cause u := by
  rintro ⟨cause, u, hfails⟩
  -- an entry point that returns would make the launch return and fail
  let returning : Caller := fun _ _ => pure ()
  have hreturns := launch_of_resolves returning [] h
  rw [launch_of_fails returning [] hfails] at hreturns
  cases hreturns

/-- What is left by a step that fails: the context loader is in place, and nothing has been
called. -/
lemma Fails.calm {cause : LauncherError} (h : Fails registered archive layout s cause t) :
    s.Calm t := by
  cases h with
  | listing hnested | arranging hnested =>
    exact (archive.isCalm_nestedAll layout.isNested).of_run hnested
  | reading hmakes hmanifest | noManifest hmakes hmanifest | noStartClass hmakes hmanifest =>
    exact hmakes.calm.1.trans (archive.isCalm_manifest.of_run hmanifest)
  | loading hnames hload => exact ⟨rfl, (calm_of_load hnames hload).2⟩
  | noEntryPoint hloads =>
    obtain ⟨v, hnames, hload⟩ := hloads
    exact ⟨rfl, (calm_of_load hnames hload).2⟩

/-- The entry point is called with the new loader as the context loader, before anything else has
been called. -/
lemma Resolves.calm {main : EntryPoint} (h : Resolves registered archive layout s loader main t) :
    t.context = loader ∧ t.calls = s.calls ∧
      SearchesClassPath registered archive layout s loader := by
  obtain ⟨name, c, u, ⟨v, hnames, hload⟩, -, rfl⟩ := h
  obtain ⟨hcontext, hcalls⟩ := calm_of_load hnames hload
  have hlog := Action.isCalm_log .info logTarget "Starting application"
    [.plain "main_class" name] u
  exact ⟨hlog.context.trans hcontext, hlog.calls.trans hcalls, hnames.calm.2⟩

/-- A launch that gets to an entry point that makes no calls of its own leaves one call behind. -/
lemma calls_of_resolves {main : EntryPoint}
    (h : Resolves registered archive layout s loader main t)
    (hquiet : ∀ u, (call main arguments u).2.calls = u.calls) :
    ((ofArchive registered archive layout).launch (recorded call) arguments s).2.calls =
      ⟨main.name, arguments, true⟩ :: s.calls := by
  obtain ⟨hcontext, hcalls, layer, -, -, hlayer, -⟩ := h.calm
  have hrecorded : recorded call main arguments t =
      call main arguments (Action.emit (.called ⟨main.name, arguments, true⟩) t).2 := by
    unfold recorded
    rw [Attempt.run_bind_lift, Attempt.run_bind_lift]
    show call main arguments (Action.emit (.called ⟨main.name, arguments, t.context.id?.isSome⟩)
      t).2 = _
    rw [hcontext, hlayer]
    rfl
  rw [launch_of_resolves (recorded call) arguments h]
  show (recorded call main arguments t).2.calls = _
  rw [hrecorded, hquiet, ← hcalls]
  rfl

/-! ### The entry point is the registered one -/

/-- Naming the class keeps what loaders have defined.  The loader is a new layer over the registry,
so it has not defined a class, if none has been defined by loaders that are still to be made. -/
lemma NamesClass.isNew (h : NamesClass registered archive layout s loader name t)
    (hfree : s.Unclaimed) (hs : s.Undisturbed) : t.Undisturbed ∧
      ∃ layer, loader = .isolated layer (.registry registered) ∧
        ∀ other, t.classOf layer.id other = none := by
  obtain ⟨manifest, u, ⟨archives, v, ⟨nested, hnested, -⟩, hloader⟩, hmanifest, -⟩ := h
  obtain ⟨made, rfl, hnew⟩ := createLoader_isNew (Archive.unclaimed_nestedAll hfree hnested) hloader
  have hopened : s.Quiet v := by
    have hquiet := archive.quiet_nestedAll layout.isNested s
    rwa [hnested] at hquiet
  have hu := (hopened.toKeeps.trans (keeps_createLoader hloader)).undisturbed hs
  have hread : u.Reads t := by
    have hreads := archive.manifest_reads hu
    rwa [hmanifest] at hreads
  refine ⟨hread.undisturbed hu, made, rfl, fun other => ?_⟩
  rw [hread.classOf]
  exact hnew other

/-- What loading the named class comes to: a class has the entry point that is registered for the
name, and a failure means that there is none. -/
lemma NamesClass.load (h : NamesClass registered archive layout s loader name t)
    (hfree : s.Unclaimed) (hs : s.Undisturbed) :
    (∀ c, (loader.load name false { t with context := loader }).1 = .ok c →
      c.main? = registered.main? name) ∧
    ∀ cause, (loader.load name false { t with context := loader }).1 = .error cause →
      registered.main? name = none := by
  obtain ⟨hundisturbed, made, rfl, hnew⟩ := h.isNew hfree hs
  exact Loader.load_over_registry registered
    (s := { t with context := .isolated made (.registry registered) }) hundisturbed (hnew name)

/-- A class that has been loaded has the entry point that is registered for its name. -/
lemma LoadsClass.main? {c : Class} (h : LoadsClass registered archive layout s loader name c t)
    (hfree : s.Unclaimed) (hs : s.Undisturbed) : c.main? = registered.main? name := by
  obtain ⟨u, hnames, hload⟩ := h
  refine (hnames.load hfree hs).1 c ?_
  rw [hload]

/-- A launch gets to the entry point that is registered for the name in the manifest. -/
lemma resolves_iff_registered (hfree : s.Unclaimed) (hs : s.Undisturbed) {main : EntryPoint} :
    (∃ loader t, Resolves registered archive layout s loader main t) ↔
      ∃ loader name t, NamesClass registered archive layout s loader name t ∧
        registered.main? name = some main := by
  constructor
  · rintro ⟨loader, t, name, c, u, hloads, hmain, -⟩
    obtain ⟨v, hnames, -⟩ := id hloads
    exact ⟨loader, name, v, hnames, (hloads.main? hfree hs).symm.trans hmain⟩
  · rintro ⟨loader, name, t, hnames, hmain⟩
    obtain ⟨hfound, hfailed⟩ := hnames.load hfree hs
    rcases hload : loader.load name false { t with context := loader } with ⟨cause | c, u⟩
    · rw [hload] at hfailed
      cases (hfailed cause rfl).symm.trans hmain
    · rw [hload] at hfound
      exact ⟨loader, _, name, c, u, ⟨t, hnames, hload⟩, (hfound c rfl).trans hmain, rfl⟩

/-! ### The launch -/

/-- What a launch does.  It leaves the context loader as it was.  It gets to the entry point exactly
if no step fails.  Then the entry point is called once, with the arguments of the launch and with
the new loader as the context loader, and what it does is what the launch does, but for the context
loader that is put back; so one call is recorded, if the entry point makes no others.  If a step
fails, no entry point is called, and the launch fails with the cause of the first such step.

The new loader is a layer over the registered classes that searches the class path.  As long as
nobody has defined classes for loaders that are still to be made, a class that it loads has the
entry point that is registered for its name, and the launch gets to an entry point exactly if the
manifest names a class for which it is registered. -/
theorem launch_spec (registered : Builtins) (archive : Archive) (layout : Layout) (s : Store) :
    (∀ call arguments,
      ((ofArchive registered archive layout).launch call arguments s).2.context = s.context) ∧
    ((∃ loader main t, Resolves registered archive layout s loader main t) ↔
      ¬ ∃ cause t, Fails registered archive layout s cause t) ∧
    (∀ loader main t, Resolves registered archive layout s loader main t →
      t.context = loader ∧ t.calls = s.calls ∧
      SearchesClassPath registered archive layout s loader ∧
      (∀ call arguments, (ofArchive registered archive layout).launch call arguments s =
        ((call main arguments t).1.mapError Interruption.ofCrash,
          { (call main arguments t).2 with context := s.context })) ∧
      ∀ (call : Caller) arguments, (∀ u, (call main arguments u).2.calls = u.calls) →
        ((ofArchive registered archive layout).launch (recorded call) arguments s).2.calls =
          ⟨main.name, arguments, true⟩ :: s.calls) ∧
    (∀ cause t, Fails registered archive layout s cause t → t.calls = s.calls ∧
      ∀ call arguments, (ofArchive registered archive layout).launch call arguments s =
        (.error (.error cause), t)) ∧
    (s.Unclaimed → s.Undisturbed →
      (∀ loader name c t, LoadsClass registered archive layout s loader name c t →
        c.main? = registered.main? name) ∧
      ∀ main, (∃ loader t, Resolves registered archive layout s loader main t) ↔
        ∃ loader name t, NamesClass registered archive layout s loader name t ∧
          registered.main? name = some main) := by
  have hcases := resolves_or_fails registered archive layout s
  refine ⟨?_, ?_, ?_, ?_, ?_⟩
  · intro call arguments
    rcases hcases with ⟨loader, main, t, hresolves⟩ | ⟨cause, t, hfails⟩
    · rw [launch_of_resolves call arguments hresolves]
    · rw [launch_of_fails call arguments hfails]
      exact hfails.calm.context
  · constructor
    · rintro ⟨loader, main, t, hresolves⟩
      exact not_fails_of_resolves hresolves
    · exact hcases.resolve_right
  · intro loader main t hresolves
    obtain ⟨hcontext, hcalls, hsearches⟩ := hresolves.calm
    exact ⟨hcontext, hcalls, hsearches,
      fun call arguments => launch_of_resolves call arguments hresolves,
      fun call arguments hquiet => calls_of_resolves call arguments hresolves hquiet⟩
  · intro cause t hfails
    exact ⟨hfails.calm.calls, fun call arguments => launch_of_fails call arguments hfails⟩
  · intro hfree hs
    exact ⟨fun loader name c t hloads => hloads.main? hfree hs,
      fun main => resolves_iff_registered hfree hs⟩

/-- A packaged application with one library, whose manifest names a registered class. -/
def sampleApplication : Archive := .packaged 1
  { url := .packaged ⟨"app.jar"⟩ []
    data :=
      Tar.member Manifest.entryName (Text.Utf8.encode "Start-Class: com.example.App".toList) ++
      Tar.member "BOOT-INF/lib/a.jar" (Tar.member "p/A.class" [1])
    directory := none }

/-- The launcher of the packaged application, in a process with two registered classes. -/
def applicationLauncher : Launcher := .ofArchive Loader.sampleBuiltins sampleApplication .jar

/-- The packaged application is launched: its entry point is called once. -/
theorem launch_spec_sampleApplication :
    (Store.start default 2).Unclaimed ∧ (Store.start default 2).Undisturbed ∧
    (∃ loader name t, NamesClass Loader.sampleBuiltins sampleApplication .jar (.start default 2)
      loader name t ∧ Loader.sampleBuiltins.main? name = some ⟨"app"⟩) ∧
    ∃ loader t, Resolves Loader.sampleBuiltins sampleApplication .jar (.start default 2) loader
        ⟨"app"⟩ t ∧ t.context = loader ∧
      ∀ (call : Caller) arguments, (∀ u, (call ⟨"app"⟩ arguments u).2.calls = u.calls) →
        (applicationLauncher.launch (recorded call) arguments (.start default 2)).2.calls =
          [⟨"app", arguments, true⟩] := by
  have hfree := Store.unclaimed_start default 2
  have hs : (Store.start default 2).Undisturbed := rfl
  obtain ⟨-, hresolves, hcalled, hfails, hregistered⟩ :=
    launch_spec Loader.sampleBuiltins sampleApplication .jar (.start default 2)
  let returning : Caller := fun _ _ => pure ()
  have hreturns : (applicationLauncher.launch returning [] (.start default 2)).1.isOk = true := by
    decide +kernel
  have hname : (applicationLauncher.launch (recorded returning) [] (.start default 2)).2.calls.map
      (·.entryPoint) = ["app"] := by decide +kernel
  obtain ⟨loader, ⟨main⟩, t, h⟩ := hresolves.mpr fun ⟨cause, t, hfail⟩ => by
    have hlaunch : applicationLauncher.launch returning [] (.start default 2) =
        (.error (.error cause), t) := (hfails cause t hfail).2 returning []
    rw [hlaunch] at hreturns
    cases hreturns
  obtain ⟨hcontext, -, -, -, hcalls⟩ := hcalled loader ⟨main⟩ t h
  have hrecorded : (applicationLauncher.launch (recorded returning) [] (.start default 2)).2.calls =
      [⟨main, [], true⟩] := hcalls returning [] fun _ => rfl
  rw [hrecorded] at hname
  obtain rfl : main = "app" := List.head_eq_of_cons_eq hname
  exact ⟨hfree, hs, ((hregistered hfree hs).2 ⟨"app"⟩).mp ⟨loader, t, h⟩, loader, t, h, hcontext,
    hcalls⟩

end Launcher

end AppLauncher
