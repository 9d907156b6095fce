import AppLauncher.Launch.Launcher
import AppLauncher.Proofs.Loader.Convergence

/-!
# Laws that all computations obey

Much of what is true of every computation on the store is true because the store changes in few
ways: a record is logged, a number is taken, a cache is filled or dropped, a schedule goes on, a
package or a class is defined under a free name (`Store.AskingLaw`); and apart from archives, an
archive is held (`Store.OpeningLaw`), or the content of a class is kept (`Store.LoadingLaw`).  A
relation between stores that contains these changes and is reflexive and transitive is a *law*.
Computations that obey a law do so one after the other (`Action.Obeys.bind`, `Attempt.Obeys.bind`),
and so there is one lemma for each function, which follows its definition, whatever the archives and
handlers hold and whatever has been scheduled to happen meanwhile.
-/

namespace AppLauncher

/-! ### Laws -/

namespace Store

/-- A relation that contains all changes that come with asking an archive. -/
structure AskingLaw (rel : Store → Store → Prop) : Prop where
  refl : ∀ s, rel s s
  trans : ∀ {s t u}, rel s t → rel t u → rel s u
  logged : ∀ s record, rel s { s with trail := .logged record :: s.trail }
  numbered : ∀ s, rel s { s with next := s.next + 1 }
  indexed : ∀ s indexes, rel s { s with indexes := indexes }
  read : ∀ s manifests, rel s { s with manifests := manifests }
  scheduled : ∀ s schedules, rel s { s with schedules := schedules }
  packaged : ∀ s layer name p, s.packageOf layer name = none → rel s (s.withPackage layer name p)
  defined : ∀ s layer c, s.classOf layer c.name = none → c.definer = layer → s.Attributed c →
    rel s (s.withClass layer c)

/-- A relation that contains all changes that come with opening urls, too. -/
structure OpeningLaw (rel : Store → Store → Prop) : Prop extends AskingLaw rel where
  held : ∀ s handlers, rel s { s with handlers := handlers }

/-- A relation that contains all changes that come with reading classes, too. -/
structure LoadingLaw (rel : Store → Store → Prop) : Prop extends OpeningLaw rel where
  kept : ∀ s contents, rel s { s with contents := contents }

end Store

variable {rel : Store → Store → Prop} {ε δ α β : Type}

namespace Action

/-- A computation leads from each store to one that is related to it. -/
def Obeys (rel : Store → Store → Prop) (x : Action α) : Prop := ∀ s : Store, rel s (x s).2

/-- What looks at a store obeys every law. -/
lemma obeys_look (law : Store.AskingLaw rel) (f : Store → α) :
    Action.Obeys rel fun s => (f s, s) :=
  fun s => law.refl s

/-- A value is given back under every law. -/
lemma obeys_pure (law : Store.AskingLaw rel) (a : α) : (pure a : Action α).Obeys rel :=
  fun s => law.refl s

/-- Two computations obey a law one after the other. -/
lemma Obeys.bind (law : Store.AskingLaw rel) {x : Action α} {f : α → Action β} (hx : x.Obeys rel)
    (hf : ∀ a, (f a).Obeys rel) : (x >>= f).Obeys rel :=
  fun s => law.trans (hx s) (hf (x s).1 (x s).2)

/-- Logging obeys every law. -/
lemma obeys_log (law : Store.AskingLaw rel) (severity : Severity) (target message : String)
    (fields : List Field) : (log severity target message fields).Obeys rel :=
  fun s => law.logged s _

/-- Taking a number obeys every law. -/
lemma obeys_freshId (law : Store.AskingLaw rel) : freshId.Obeys rel := fun s => law.numbered s

/-- Computations for each element of a list obey a law together. -/
lemma obeys_forM (law : Store.AskingLaw rel) {f : α → Action Unit} (hf : ∀ a, (f a).Obeys rel)
    (l : List α) : (l.forM f).Obeys rel := by
  induction l with
  | nil => exact obeys_pure law ()
  | cons a l ih => exact (hf a).bind law fun _ => ih

end Action

namespace Attempt

/-- An attempt leads from each store to one that is related to it. -/
def Obeys (rel : Store → Store → Prop) (x : Attempt ε α) : Prop := ∀ s : Store, rel s (x s).2

/-- A value is given back under every law. -/
lemma obeys_pure (law : Store.AskingLaw rel) (a : α) : (pure a : Attempt ε α).Obeys rel :=
  fun s => law.refl s

/-- Failing obeys every law. -/
lemma obeys_throw (law : Store.AskingLaw rel) (cause : ε) : (throw cause : Attempt ε α).Obeys rel :=
  fun s => law.refl s

/-- A result that is known already is given back under every law. -/
lemma obeys_liftExcept (law : Store.AskingLaw rel) (x : Except ε α) :
    (liftExcept x : Attempt ε α).Obeys rel := by
  intro s
  rw [run_liftExcept]
  exact law.refl s

/-- Two attempts obey a law one after the other. -/
lemma Obeys.bind (law : Store.AskingLaw rel) {x : Attempt ε α} {f : α → Attempt ε β}
    (hx : x.Obeys rel) (hf : ∀ a, (f a).Obeys rel) : (x >>= f).Obeys rel := by
  intro s
  have hfirst := hx s
  rw [run_bind]
  rcases hrun : x s with ⟨cause | a, t⟩
  · rw [hrun] at hfirst
    exact hfirst
  · rw [hrun] at hfirst
    exact law.trans hfirst (hf a t)

/-- A computation that obeys a law does so as an attempt. -/
lemma obeys_lift {x : Action α} (hx : x.Obeys rel) : (liftM x : Attempt ε α).Obeys rel := hx

/-- Asking for the result of an attempt obeys the laws that the attempt obeys. -/
lemma Obeys.result {x : Attempt ε α} (hx : x.Obeys rel) :
    (x.result : Attempt δ (Except ε α)).Obeys rel := hx

/-- An attempt that obeys a law does so as a computation of its result. -/
lemma Obeys.run {x : Attempt ε α} (hx : x.Obeys rel) :
    Action.Obeys rel (ExceptT.run x : Action (Except ε α)) := hx

/-- What an attempt leaves behind. -/
lemma Obeys.of_run {x : Attempt ε α} (hx : x.Obeys rel) {s t : Store} {r : Except ε α}
    (h : x s = (r, t)) : rel s t := by
  have hrel : rel s (x s).2 := hx s
  rwa [h] at hrel

/-- Other causes of failures make no difference to a law. -/
lemma Obeys.adapt {x : Attempt ε α} (hx : x.Obeys rel) (f : ε → δ) :
    (ExceptT.adapt f x : Attempt δ α).Obeys rel := hx

/-- A function applied to the result makes no difference to a law. -/
lemma Obeys.map {x : Attempt ε α} (hx : x.Obeys rel) (f : α → β) : (f <$> x).Obeys rel := by
  intro s
  rw [run_map]
  exact hx s

/-- Attempts for each element of a list obey a law together. -/
lemma obeys_mapM (law : Store.AskingLaw rel) {f : α → Attempt ε β} (hf : ∀ a, (f a).Obeys rel)
    (l : List α) : (l.mapM f).Obeys rel := by
  induction l with
  | nil => exact obeys_pure law []
  | cons a l ih =>
    rw [List.mapM_cons]
    exact (hf a).bind law fun b => ih.bind law fun bs => obeys_pure law (b :: bs)

end Attempt

/-! ### Definitions -/

namespace Layer

open Attempt

/-- Defining a package obeys every law. -/
lemma obeys_definePackage (law : Store.AskingLaw rel) (layer : Nat) (name : String)
    (manifest : Option Manifest) (url : Url) :
    (definePackage layer name manifest url).Obeys rel := by
  intro s
  unfold definePackage
  dsimp only
  split
  · exact law.refl s
  · rename_i hfree
    have hnone : s.packageOf layer name = none := by
      rwa [Table.contains, Bool.not_eq_true, Option.isSome_eq_false_iff,
        Option.isNone_iff_eq_none] at hfree
    exact law.trans (law.logged s _) (law.packaged _ layer name _ hnone)

/-- Giving back the package that is there after an attempt to define it obeys every law. -/
lemma obeys_converge (law : Store.AskingLaw rel) (layer : Nat) (name : String)
    (result : Except LoaderError Package) : (converge layer name result).Obeys rel := by
  cases result with
  | ok package => exact obeys_pure law package
  | error cause =>
    cases cause with
    | packageAlreadyDefined other =>
      refine (obeys_lift (Action.obeys_look law _)).bind law fun package? => ?_
      cases package? with
      | none => exact obeys_throw law _
      | some package => exact obeys_pure law package
    | _ => exact obeys_throw law _

/-- Giving back or defining a package obeys every law that finding its manifest does. -/
lemma obeys_packageOrDefine (law : Store.AskingLaw rel) (layer : Nat) (name : String)
    {manifest : Action (Option Manifest)} (hmanifest : manifest.Obeys rel) (url : Url) :
    (packageOrDefine layer name manifest url).Obeys rel := by
  refine (obeys_lift (Action.obeys_look law _)).bind law fun p? => ?_
  cases p? with
  | some package => exact obeys_pure law package
  | none =>
    refine (obeys_lift hmanifest).bind law fun manifest => ?_
    exact (obeys_definePackage law layer name manifest url).result.bind law fun result =>
      obeys_converge law layer name result

/-- Keeping a class obeys every law, if the class is the layer's own and has its package. -/
lemma obeys_keepClass (law : Store.AskingLaw rel) {c : Class} {s : Store}
    (hattributed : s.Attributed c) : rel s (keepClass c.definer c s).2 := by
  cases hclass : s.classOf c.definer c.name with
  | none =>
    rw [keepClass_of_none hclass]
    exact law.defined s c.definer c hclass rfl hattributed
  | some d =>
    rw [keepClass_of_some hclass]
    exact law.refl s

/-- Noting and keeping a class obeys every law, if the class has its package. -/
lemma obeys_note_keepClass (law : Store.AskingLaw rel) {layer : Nat} {name entry : String}
    {url : Url} {archive : Archive} {package : Option Package} {t : Store}
    (hattributed : t.Attributed ⟨layer, name, .archived url archive entry, package⟩) : rel t
      ((do (Action.log .trace logTarget "Found class"
            [.quoted "class" name, .plain "url" url.text] : Action _)
           (keepClass layer ⟨layer, name, .archived url archive entry, package⟩ : Action _) :
        Attempt LoaderError Class) t).2 := by
  rw [Attempt.run_bind_lift, Attempt.run_lift]
  refine law.trans (law.logged t _) (obeys_keepClass law ?_)
  exact hattributed

/-- From the moment when its package is there on, defining a class obeys every law. -/
lemma obeys_defineClass_of_package (law : Store.AskingLaw rel) {layer : Nat}
    {name packageName : String} {manifest : Action (Option Manifest)} {url : Url} {p : Package}
    {s t : Store} (hname : Text.beforeLastDot? name = some packageName)
    (hpackage : packageOrDefine layer packageName manifest url s = (.ok p, t))
    (archive : Archive) (entry : String) :
    rel t (defineClass layer name manifest url archive entry s).2 := by
  obtain ⟨q, u, hrun, hheld⟩ := packageOrDefine_holds layer packageName manifest url s
  rw [hpackage] at hrun
  cases hrun
  unfold defineClass
  rw [hname]
  dsimp only
  rw [Attempt.run_bind, Attempt.run_map, hpackage]
  refine obeys_note_keepClass law ?_
  unfold Store.Attributed
  dsimp only
  rw [hname]
  exact ⟨p, rfl, hheld⟩

/-- Defining a class obeys every law that finding its manifest does. -/
lemma obeys_defineClass (law : Store.AskingLaw rel) (layer : Nat) (name : String)
    {manifest : Action (Option Manifest)} (hmanifest : manifest.Obeys rel) (url : Url)
    (archive : Archive) (entry : String) :
    (defineClass layer name manifest url archive entry).Obeys rel := by
  intro s
  cases hname : Text.beforeLastDot? name with
  | none =>
    unfold defineClass
    rw [hname]
    refine obeys_note_keepClass law ?_
    unfold Store.Attributed
    dsimp only
    rw [hname]
  | some packageName =>
    obtain ⟨p, t, hpackage, -⟩ := packageOrDefine_holds layer packageName manifest url s
    have hfirst := (obeys_packageOrDefine law layer packageName hmanifest url).of_run hpackage
    exact law.trans hfirst (obeys_defineClass_of_package law hname hpackage archive entry)

end Layer

/-- What others do meanwhile obeys every law. -/
lemma Disturbance.obeys_perform (law : Store.AskingLaw rel) (d : Disturbance) :
    d.perform.Obeys rel := by
  cases d with
  | definePackage layer name manifest url =>
    exact (Layer.obeys_definePackage law layer name manifest url).run.bind law fun _ =>
      Action.obeys_pure law ()
  | defineClass layer name manifest url archive entry =>
    exact (Layer.obeys_defineClass law layer name (Action.obeys_pure law manifest) url archive
      entry).run.bind law fun _ => Action.obeys_pure law ()

/-! ### Archives -/

namespace Archive

open Attempt

/-- Looking up an index obeys every law. -/
lemma obeys_indexOf (law : Store.AskingLaw rel) (id : Nat) (stream : Stream) :
    (indexOf id stream).Obeys rel := by
  intro s
  unfold indexOf
  split
  · exact law.refl s
  · split
    · exact law.trans (law.indexed s _) (law.logged _ _)
    · exact law.refl s

/-- What is due at a call of a scripted archive obeys every law. -/
lemma obeys_disturb (law : Store.AskingLaw rel) (id : Nat)
    (take : Schedule → List Disturbance × Schedule) : (disturb id take).Obeys rel := by
  intro s
  unfold disturb
  split
  · exact law.refl s
  · rename_i schedule _
    have hdue := Action.obeys_forM law (Disturbance.obeys_perform law) (take schedule).1
    exact law.trans (law.scheduled s _) (hdue _)

/-- Reading a manifest obeys every law. -/
lemma obeys_manifest (law : Store.AskingLaw rel) (archive : Archive) :
    archive.manifest.Obeys rel := by
  cases archive with
  | packaged id stream => exact (obeys_indexOf law id stream).bind law fun _ => obeys_pure law _
  | exploded id root =>
    intro s
    show rel s (explodedManifest id root s).2
    unfold explodedManifest
    split
    · exact law.refl s
    · split
      · exact law.read s _
      · exact law.refl s
  | scripted id script =>
    exact (obeys_lift (obeys_disturb law id _)).bind law fun _ => obeys_liftExcept law _

/-- Finding an entry obeys every law. -/
lemma obeys_find? (law : Store.AskingLaw rel) (archive : Archive) (name : String) :
    (archive.find? name).Obeys rel := by
  cases archive with
  | packaged id stream => exact (obeys_indexOf law id stream).bind law fun _ => obeys_pure law _
  | exploded id root =>
    exact (obeys_lift (Action.obeys_look law _)).bind law fun _ => obeys_pure law _
  | scripted id script =>
    exact (obeys_lift (obeys_disturb law id _)).bind law fun _ => obeys_liftExcept law _

/-- Reading an entry obeys every law. -/
lemma obeys_read? (law : Store.AskingLaw rel) (archive : Archive) (name : String) :
    (archive.read? name).Obeys rel := by
  cases archive with
  | packaged id stream => exact (obeys_indexOf law id stream).bind law fun _ => obeys_pure law _
  | exploded id root =>
    exact (obeys_lift (Action.obeys_look law _)).bind law fun _ => obeys_liftExcept law _
  | scripted id script => exact obeys_liftExcept law _

/-- Opening an artifact obeys every law. -/
lemma obeys_open? (law : Store.AskingLaw rel) (path : Path) : (open? path).Obeys rel := by
  refine (obeys_lift (Action.obeys_look law _)).bind law fun files => ?_
  cases files.read path with
  | error fault => exact obeys_throw law _
  | ok file =>
    dsimp only
    cases Trailer.payload file with
    | error offset => exact obeys_throw law _
    | ok data =>
      exact (obeys_lift (Action.obeys_log law _ _ _ _)).bind law fun _ =>
        (obeys_lift (Action.obeys_freshId law)).bind law fun _ => obeys_pure law _

/-- Opening a stream obeys every law. -/
lemma obeys_ofStream (law : Store.AskingLaw rel) (stream : Stream) : (ofStream stream).Obeys rel :=
  (Action.obeys_freshId law).bind law fun _ => Action.obeys_pure law _

/-- Opening a directory obeys every law. -/
lemma obeys_ofDirectory (law : Store.AskingLaw rel) (root : Path) : (ofDirectory root).Obeys rel :=
  (Action.obeys_freshId law).bind law fun _ => Action.obeys_pure law _

/-- Opening what is nested in an exploded archive obeys every law. -/
lemma obeys_openNesting (law : Store.AskingLaw rel) (nesting : Exploded.Nesting) :
    (openNesting nesting).Obeys rel := by
  cases nesting with
  | exploded root => exact obeys_lift (obeys_ofDirectory law root)
  | artifact path => exact obeys_open? law path

/-- Opening the nested archives obeys every law. -/
lemma obeys_nestedAll (law : Store.AskingLaw rel) (archive : Archive) (filter : Entry → Bool) :
    (archive.nestedAll filter).Obeys rel := by
  cases archive with
  | packaged id stream =>
    exact (obeys_indexOf law id stream).bind law fun _ =>
      obeys_mapM law (fun item => obeys_lift (obeys_ofStream law (stream.nested item))) _
  | exploded id root =>
    exact (obeys_lift (Action.obeys_look law _)).bind law fun _ =>
      (obeys_liftExcept law _).bind law fun _ => obeys_mapM law (obeys_openNesting law) _
  | scripted id script => exact obeys_pure law []

/-- Opening a nested archive obeys every law. -/
lemma obeys_nested? (law : Store.AskingLaw rel) (archive : Archive) (name : String) :
    (archive.nested? name).Obeys rel := by
  cases archive with
  | packaged id stream =>
    refine (obeys_indexOf law id stream).bind law fun index => ?_
    cases index.findLoosely? (Text.dropSlashes name) with
    | none => exact obeys_pure law none
    | some item => exact (obeys_lift (obeys_ofStream law (stream.nested item))).map some
  | exploded id root =>
    refine (obeys_lift (Action.obeys_look law _)).bind law fun files => ?_
    cases Exploded.nesting? files root name with
    | none => exact obeys_pure law none
    | some nesting => exact (obeys_openNesting law nesting).map some
  | scripted id script => exact obeys_pure law none

/-- Dropping a cached index obeys every law. -/
lemma obeys_clearCache (law : Store.AskingLaw rel) (archive : Archive) :
    archive.clearCache.Obeys rel := by
  cases archive with
  | packaged id stream =>
    exact (Action.obeys_log law _ _ _ _).bind law fun _ s => law.indexed s _
  | exploded id root => exact Action.obeys_pure law ()
  | scripted id script => exact Action.obeys_pure law ()

end Archive

/-! ### Handlers -/

namespace Handler

open Attempt

/-- Walking into nested archives obeys every law. -/
lemma obeys_descend (law : Store.AskingLaw rel) (archive : Archive) (names : List String) :
    (descend archive names).Obeys rel := by
  induction names generalizing archive with
  | nil => exact obeys_pure law archive
  | cons name names ih =>
    refine (archive.obeys_nested? law name).bind law fun nested? => ?_
    cases nested? with
    | none => exact obeys_throw law _
    | some nested => exact ih nested

/-- Opening the artifact of a path obeys every law. -/
lemma obeys_artifact (law : Store.AskingLaw rel) (handler : Nat) (useHeld : Bool) (root : Path) :
    (artifact handler useHeld root).Obeys rel := by
  refine (obeys_lift (Action.obeys_look law _)).bind law fun archive? => ?_
  cases archive? with
  | none => exact Archive.obeys_open? law root
  | some archive =>
    cases useHeld with
    | true => exact obeys_pure law archive
    | false => exact Archive.obeys_open? law root

/-- Resolving a url obeys every law. -/
lemma obeys_resolve (law : Store.AskingLaw rel) (handler : Nat) (useHeld : Bool) (url : Url) :
    (resolve handler useHeld url).Obeys rel := by
  cases url with
  | directory path =>
    refine (obeys_lift (Action.obeys_look law _)).bind law fun files => ?_
    cases files.isDirectory path with
    | true => exact obeys_lift (Archive.obeys_ofDirectory law path)
    | false => exact obeys_throw law none
  | packaged root nested =>
    exact ((obeys_artifact law handler useHeld root).bind law fun archive =>
      obeys_descend law archive nested).adapt some

/-- Holding an archive obeys every law of opening. -/
lemma obeys_hold (law : Store.OpeningLaw rel) (handler : Nat)
    (change : Table Url.Key Archive → Table Url.Key Archive) : (hold handler change).Obeys rel :=
  fun s => law.held s _

/-- Giving an archive to a handler obeys every law of opening. -/
lemma obeys_register (law : Store.OpeningLaw rel) (handler : Nat) (archive : Archive) :
    (register handler archive).Obeys rel :=
  (Action.obeys_log law.toAskingLaw _ _ _ _).bind law.toAskingLaw fun _ => obeys_hold law _ _

/-- Connecting to a newly opened archive obeys every law of opening. -/
lemma obeys_connected (law : Store.OpeningLaw rel) (handler : Nat) (url : Url)
    (archive : Archive) : (connected handler url archive).Obeys rel :=
  (obeys_hold law _ _).bind law.toAskingLaw fun _ => Action.obeys_pure law.toAskingLaw _

/-- Opening a connection obeys every law of opening. -/
lemma obeys_connect (law : Store.OpeningLaw rel) (handler : Nat) (effort : Effort) (url : Url) :
    (connect handler effort url).Obeys rel := by
  have base := law.toAskingLaw
  refine (obeys_lift (Action.obeys_look base _)).bind base fun archive? => ?_
  cases archive? with
  | some archive => exact obeys_pure base _
  | none =>
    refine (obeys_resolve base handler true url).result.bind base fun result => ?_
    cases result with
    | ok archive => exact obeys_lift (obeys_connected law handler url archive)
    | error cause =>
      cases effort with
      | quick =>
        exact (obeys_lift (Action.obeys_log base _ _ _ _)).bind base fun _ => obeys_throw base _
      | thorough =>
        refine (obeys_lift (Action.obeys_log base _ _ _ _)).bind base fun _ => ?_
        refine (obeys_resolve base handler false url).result.bind base fun again => ?_
        cases again with
        | ok archive => exact obeys_lift (obeys_connected law handler url archive)
        | error again =>
          dsimp only
          cases again.or cause with
          | none => exact obeys_throw base _
          | some source => exact obeys_throw base _

end Handler

/-! ### Loaders -/

namespace Layer

open Attempt

variable (layer : Layer)

/-- Connecting to a url of a layer obeys every law of opening. -/
lemma obeys_connect? (law : Store.OpeningLaw rel) (note : String) (url : Url) :
    (layer.connect? note url).Obeys rel := by
  have base := law.toAskingLaw
  refine (Handler.obeys_connect law layer.handler .quick url).run.bind base fun result => ?_
  cases result with
  | ok connection => exact Action.obeys_pure base _
  | error cause =>
    exact (Action.obeys_log base _ _ _ _).bind base fun _ => Action.obeys_pure base none

/-- A search obeys the laws of opening that its visits obey. -/
lemma obeys_search (law : Store.OpeningLaw rel) {visit : Connection → Action (Option α)}
    (hvisit : ∀ connection, (visit connection).Obeys rel) (urls : List Url) :
    (layer.search visit urls).Obeys rel := by
  have base := law.toAskingLaw
  induction urls with
  | nil => exact Action.obeys_pure base none
  | cons url urls ih =>
    refine (layer.obeys_connect? law passedOver url).bind base fun connection? => ?_
    cases connection? with
    | none => exact ih
    | some connection =>
      refine (hvisit connection).bind base fun answer? => ?_
      cases answer? with
      | none => exact ih
      | some answer => exact Action.obeys_pure base _

/-- Looking for a resource in an archive obeys every law. -/
lemma obeys_resourceIn (law : Store.AskingLaw rel) (name : String) (connection : Connection) :
    (resourceIn name connection).Obeys rel := by
  refine (connection.archive.obeys_find? law name).run.bind law fun result => ?_
  rcases result with cause | _ | entry
  · exact Action.obeys_pure law none
  · exact Action.obeys_pure law none
  · exact Action.obeys_pure law _

/-- Finding out whether an archive holds a class obeys every law. -/
lemma obeys_holdsClass (law : Store.AskingLaw rel) (archive : Archive)
    (className packageName : String) : (holdsClass archive className packageName).Obeys rel := by
  refine (archive.obeys_find? law _).bind law fun entry? => ?_
  cases entry? with
  | none => exact obeys_pure law false
  | some entry => exact (archive.obeys_find? law _).bind law fun _ => obeys_pure law _

/-- Finding the manifest that fits a class obeys every law. -/
lemma obeys_fittingManifest? (law : Store.AskingLaw rel) (className packageName : String)
    (connection : Connection) : (fittingManifest? className packageName connection).Obeys rel := by
  unfold fittingManifest?
  split
  · refine (obeys_holdsClass law connection.archive className packageName).run.bind law
      fun holds => ?_
    rcases holds with cause | _ | _
    · exact (Action.obeys_log law _ _ _ _).bind law fun _ => Action.obeys_pure law none
    · exact Action.obeys_pure law none
    · refine (connection.archive.obeys_manifest law).run.bind law fun manifest => ?_
      rcases manifest with cause | _ | manifest
      · exact (Action.obeys_log law _ _ _ _).bind law fun _ => Action.obeys_pure law none
      · exact Action.obeys_pure law none
      · exact Action.obeys_pure law _
  · exact Action.obeys_pure law none

/-- Preparing the package of a class obeys every law of opening. -/
lemma obeys_preparePackage (law : Store.OpeningLaw rel) (className : String) :
    (layer.preparePackage className).Obeys rel := by
  have base := law.toAskingLaw
  unfold preparePackage
  cases Text.beforeLastDot? className with
  | none => exact obeys_pure base ()
  | some packageName =>
    refine (obeys_lift (Action.obeys_look base _)).bind base fun package? => ?_
    cases package? with
    | some package => exact obeys_pure base ()
    | none =>
      have hsearch :=
        layer.obeys_search law (obeys_fittingManifest? base className packageName) layer.urls
      refine (obeys_lift hsearch).bind base fun found? => ?_
      rcases found? with _ | ⟨url, manifest⟩
      · exact obeys_pure base ()
      · exact (obeys_definePackage base layer.id packageName (some manifest) url).result.bind base
          fun result => (obeys_converge base layer.id packageName result).bind base fun _ =>
            obeys_pure base ()

/-- Finding the entry of a class obeys every law. -/
lemma obeys_classIn (law : Store.AskingLaw rel) (entry : String) (connection : Connection) :
    (classIn entry connection).Obeys rel := by
  refine (connection.archive.obeys_find? law entry).run.bind law fun result => ?_
  rcases result with cause | entry?
  · exact (Action.obeys_log law _ _ _ _).bind law fun _ => Action.obeys_pure law none
  · cases entry? with
    | none => exact Action.obeys_pure law none
    | some found => exact Action.obeys_pure law _

/-- Finding the manifest of the archive that a class comes from obeys every law. -/
lemma obeys_ownManifest (law : Store.AskingLaw rel) (archive : Archive) :
    (ownManifest archive).Obeys rel := by
  refine (archive.obeys_manifest law).run.bind law fun result => ?_
  cases result with
  | ok manifest => exact Action.obeys_pure law manifest
  | error cause => exact Action.obeys_pure law none

/-- Taking a class obeys every law of opening. -/
lemma obeys_findClass (law : Store.OpeningLaw rel) (name : String) :
    (layer.findClass name).Obeys rel := by
  have base := law.toAskingLaw
  have hsearch := layer.obeys_search law (obeys_classIn base (Entry.ofClass name)) layer.urls
  intro s
  have hsearched := hsearch s
  rw [run_findClass]
  rcases hrun : layer.search (classIn (Entry.ofClass name)) layer.urls s with ⟨_ | connection, t⟩
  · rw [hrun] at hsearched
    exact hsearched
  · rw [hrun] at hsearched
    exact base.trans hsearched (obeys_defineClass base layer.id name
      (obeys_ownManifest base connection.archive) connection.url connection.archive _ t)

end Layer

/-- Reading the content of a class obeys every law of loading. -/
lemma Class.obeys_content (law : Store.LoadingLaw rel) (c : Class) : c.content.Obeys rel := by
  have base := law.toAskingLaw
  refine (Attempt.obeys_lift (Action.obeys_look base _)).bind base fun content? => ?_
  cases content? with
  | some content => exact Attempt.obeys_pure base content
  | none =>
    cases c.source with
    | builtin main => exact Attempt.obeys_pure base []
    | archived url archive entry =>
      have hread : (readEntry url archive entry).Obeys rel := by
        refine (archive.obeys_read? base entry).bind base fun content? => ?_
        cases content? with
        | some content => exact Attempt.obeys_pure base content
        | none => exact Attempt.obeys_throw base _
      have hkeep : ∀ content, (c.keep content).Obeys rel := fun content s => law.kept s _
      refine Attempt.Obeys.bind base (hread.adapt (LoaderError.classRead c.name)) fun content => ?_
      exact (Attempt.obeys_lift (hkeep content)).bind base fun _ => Attempt.obeys_pure base content

namespace Loader

open Attempt

/-- Finding a class obeys every law of opening. -/
lemma obeys_find (law : Store.OpeningLaw rel) (loader : Loader) (name : String) :
    (loader.find name).Obeys rel := by
  have base := law.toAskingLaw
  induction loader with
  | absent => exact obeys_throw base _
  | builtin id classes =>
    unfold find
    cases classes.get? name with
    | none => exact obeys_throw base _
    | some c => exact obeys_pure base c
  | failing id => exact obeys_throw base _
  | isolated layer parent ih =>
    unfold find
    refine (obeys_lift (Action.obeys_look base _)).bind base fun c? => ?_
    cases c? with
    | some c => exact obeys_pure base c
    | none =>
      refine (layer.obeys_preparePackage law name).bind base fun _ =>
        ih.result.bind base fun result => ?_
      rcases result with cause | c
      · cases cause with
        | classNotFound other => exact layer.obeys_findClass law name
        | _ => exact obeys_throw base _
      · exact obeys_pure base c

/-- Loading a class obeys every law of loading. -/
lemma obeys_load (law : Store.LoadingLaw rel) (loader : Loader) (name : String) (resolve : Bool) :
    (loader.load name resolve).Obeys rel := by
  have base := law.toAskingLaw
  refine (loader.obeys_find law.toOpeningLaw name).bind base fun c => ?_
  cases loader with
  | isolated layer parent =>
    cases resolve with
    | true => exact (c.obeys_content law).bind base fun _ => obeys_pure base c
    | false => exact obeys_pure base c
  | _ => exact obeys_pure base c

end Loader

/-- Making a loader over archives obeys every law of opening. -/
lemma Launcher.obeys_createLoader (law : Store.OpeningLaw rel) (parent : Loader)
    (archives : List Archive) : (createLoader parent archives).Obeys rel := by
  have base := law.toAskingLaw
  exact (Action.obeys_freshId base).bind base fun handler =>
    (Action.obeys_forM base (Handler.obeys_register law handler) archives).bind base fun _ =>
      (Action.obeys_log base _ _ _ _).bind base fun _ => (Action.obeys_freshId base).bind base
        fun _ => Action.obeys_pure base _

end AppLauncher
