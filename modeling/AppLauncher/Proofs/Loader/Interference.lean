import AppLauncher.Proofs.Laws
import AppLauncher.Proofs.Loader.Chain

/-!
# Definitions made while a class is looked for

Whenever an archive is asked, others may define packages and classes on the layers of the chain.  No
definition is ever replaced (`Store.Grows`, a law of loading), so what is held at any moment of a
search (`Loader.Moment`) is held at its end.  A search ends with the class that is held then, and
this class has the package that is held then.  It fails only for reasons that have nothing to do
with definitions (`Loader.Fails`): no archive that was asked has the class, the end of the chain
fails, or the content of the class cannot be read.
-/

namespace AppLauncher

/-! ### Definitions stay -/

namespace Store

/-- The classes of all layers are what their tables say, with the packages of their names. -/
def Attributing (s : Store) : Prop :=
  ∀ layer name c, s.classOf layer name = some c →
    c.definer = layer ∧ c.name = name ∧ s.Attributed c

/-- What has been defined stays, and so does what is true of all classes. -/
structure Grows (s t : Store) : Prop where
  packages : ∀ layer name p, s.packageOf layer name = some p → t.packageOf layer name = some p
  classes : ∀ layer name c, s.classOf layer name = some c → t.classOf layer name = some c
  attributing : s.Attributing → t.Attributing

namespace Grows

variable {s t u : Store}

/-- A store grows when it stays as it is. -/
lemma refl (s : Store) : s.Grows s := ⟨fun _ _ _ h => h, fun _ _ _ h => h, fun h => h⟩

/-- A store goes on growing. -/
lemma trans (h : s.Grows t) (g : t.Grows u) : s.Grows u :=
  ⟨fun layer name p hp => g.packages layer name p (h.packages layer name p hp),
    fun layer name c hc => g.classes layer name c (h.classes layer name c hc),
    fun hs => g.attributing (h.attributing hs)⟩

/-- A store grows as long as definitions stay as they are. -/
lemma of_loaders (h : t.loaders = s.loaders) : s.Grows t := by
  have hdefinitions : ∀ layer, t.definitions layer = s.definitions layer := by
    intro layer
    unfold definitions
    rw [h]
  refine ⟨fun layer name p hp => ?_, fun layer name c hc => ?_, fun hs layer name c hc => ?_⟩
  · unfold packageOf at hp ⊢
    rw [hdefinitions, hp]
  · unfold classOf at hc ⊢
    rw [hdefinitions, hc]
  · unfold classOf at hc
    rw [hdefinitions] at hc
    obtain ⟨hdefiner, hname, hattributed⟩ := hs layer name c hc
    refine ⟨hdefiner, hname, hattributed.mono fun other p hp => ?_⟩
    unfold packageOf at hp ⊢
    rw [hdefinitions, hp]

/-- A store grows when a package of a new name is defined. -/
lemma withPackage {layer : Nat} {name : String} (h : s.packageOf layer name = none) (p : Package) :
    s.Grows (s.withPackage layer name p) := by
  refine ⟨fun _ _ _ => packageOf_withPackage_of_some h, fun id other c hc => ?_,
    fun hs id other c hc => ?_⟩
  · rw [classOf_withPackage, hc]
  · rw [classOf_withPackage] at hc
    obtain ⟨hdefiner, hname, hattributed⟩ := hs id other c hc
    exact ⟨hdefiner, hname, hattributed.mono fun _ _ => packageOf_withPackage_of_some h⟩

/-- A store grows when a class of a new name is defined. -/
lemma withClass {layer : Nat} {c : Class} (h : s.classOf layer c.name = none)
    (hdefiner : c.definer = layer) (hattributed : s.Attributed c) :
    s.Grows (s.withClass layer c) := by
  refine ⟨fun id other p hp => ?_, fun _ _ _ => classOf_withClass_of_some h,
    fun hs id other d hd => ?_⟩
  · rw [packageOf_withClass, hp]
  · rw [classOf_withClass] at hd
    split at hd
    · rename_i heq
      cases hd
      exact ⟨hdefiner.trans heq.1, heq.2, hattributed.withClass⟩
    · obtain ⟨hdefiner, hname, hattributed⟩ := hs id other d hd
      exact ⟨hdefiner, hname, hattributed.withClass⟩

/-- Growing is a law of loading. -/
lemma law : LoadingLaw Grows where
  refl := refl
  trans := trans
  logged _ _ := of_loaders rfl
  numbered _ := of_loaders rfl
  indexed _ _ := of_loaders rfl
  read _ _ := of_loaders rfl
  scheduled _ _ := of_loaders rfl
  packaged _ _ _ p h := withPackage h p
  defined _ _ _ := withClass
  held _ _ := of_loaders rfl
  kept _ _ := of_loaders rfl

end Grows

end Store

/-! ### The moments of a search -/

namespace Layer

variable {α : Type}

/-- A search goes on where a search through the first urls has ended. -/
lemma run_search_append (layer : Layer) (visit : Connection → Action (Option α))
    (urls more : List Url) (s : Store) : layer.search visit (urls ++ more) s =
      match layer.search visit urls s with
      | (some x, t) => (some x, t)
      | (none, t) => layer.search visit more t := by
  induction urls generalizing s with
  | nil => rfl
  | cons url urls ih =>
    rw [List.cons_append, run_search_cons, run_search_cons]
    rcases layer.probe visit url s with ⟨_ | x, t⟩
    · exact ih t
    · rfl

/-- What has been defined when the first urls have been searched stays. -/
lemma grows_search (layer : Layer) {visit : Connection → Action (Option α)}
    (hvisit : ∀ connection, (visit connection).Obeys Store.Grows) (urls : List Url) (n : Nat)
    (s : Store) : (layer.search visit (urls.take n) s).2.Grows (layer.search visit urls s).2 := by
  have happend := layer.run_search_append visit (urls.take n) (urls.drop n) s
  rw [List.take_append_drop] at happend
  rw [happend]
  rcases layer.search visit (urls.take n) s with ⟨_ | x, t⟩
  · exact layer.obeys_search Store.Grows.law.toOpeningLaw hvisit (urls.drop n) t
  · exact .refl t

/-- The store after the first urls have been searched for the class of a name. -/
def searched (layer : Layer) (name : String) (n : Nat) (s : Store) : Store :=
  (layer.search (classIn (Entry.ofClass name)) (layer.urls.take n) s).2

/-- The store after the first urls have been searched for a manifest that defines the package of a
class. -/
def surveyed (layer : Layer) (name packageName : String) (n : Nat) (s : Store) : Store :=
  (layer.search (fittingManifest? name packageName) (layer.urls.take n) s).2

end Layer

namespace Loader

/-- A store at a moment of the search for a class: when some urls of a layer have been searched for
a manifest or for the class, or when the manifest of the archive that has the class has been read.
-/
inductive Moment (name : String) : Loader → Store → Store → Prop where
  | surveyed {layer : Layer} {parent : Loader} {s : Store} {packageName : String} (n : Nat) :
      s.classOf layer.id name = none → Text.beforeLastDot? name = some packageName →
      s.packageOf layer.id packageName = none →
      Moment name (isolated layer parent) s (layer.surveyed name packageName n s)
  | above {layer : Layer} {parent : Loader} {s t w : Store} : s.classOf layer.id name = none →
      layer.preparePackage name s = (.ok (), t) → Moment name parent t w →
      Moment name (isolated layer parent) s w
  | searched {layer : Layer} {parent : Loader} {s t u : Store} {other : String} (n : Nat) :
      s.classOf layer.id name = none → layer.preparePackage name s = (.ok (), t) →
      parent.find name t = (.error (.classNotFound other), u) →
      Moment name (isolated layer parent) s (layer.searched name n u)
  | read {layer : Layer} {parent : Loader} {s t u v : Store} {other packageName : String}
      {connection : Connection} : s.classOf layer.id name = none →
      layer.preparePackage name s = (.ok (), t) →
      parent.find name t = (.error (.classNotFound other), u) →
      layer.search (Layer.classIn (Entry.ofClass name)) layer.urls u = (some connection, v) →
      Text.beforeLastDot? name = some packageName → v.packageOf layer.id packageName = none →
      Moment name (isolated layer parent) s (Layer.ownManifest connection.archive v).2

end Loader

namespace Layer

variable {s t v : Store} {name packageName : String}

/-- What has been defined when urls have been surveyed stays when the package is prepared. -/
lemma grows_surveyed (layer : Layer) (n : Nat) (hname : Text.beforeLastDot? name = some packageName)
    (hnone : s.packageOf layer.id packageName = none)
    (hprepared : layer.preparePackage name s = (.ok (), t)) :
    (layer.surveyed name packageName n s).Grows t := by
  have base := Store.Grows.law.toAskingLaw
  refine (layer.grows_search (obeys_fittingManifest? base name packageName) layer.urls n s).trans ?_
  unfold preparePackage at hprepared
  rw [hname] at hprepared
  dsimp only at hprepared
  rw [Attempt.run_bind_lift, run_package?] at hprepared
  dsimp only at hprepared
  rw [hnone] at hprepared
  dsimp only at hprepared
  rw [Attempt.run_bind_lift] at hprepared
  rcases hsearch : layer.search (fittingManifest? name packageName) layer.urls s with
    ⟨_ | ⟨url, manifest⟩, u⟩
  · rw [hsearch] at hprepared
    cases hprepared
    exact .refl _
  · rw [hsearch] at hprepared
    dsimp only at hprepared
    have hdefine := obeys_definePackage base layer.id packageName (some manifest) url
    exact Attempt.Obeys.of_run (hdefine.result.bind base fun result =>
      (obeys_converge base layer.id packageName result).bind base fun _ =>
        Attempt.obeys_pure base ()) hprepared

/-- What has been defined when the manifest has been read stays when the class is defined. -/
lemma grows_manifest (id : Nat) (manifest : Action (Option Manifest)) (url : Url)
    (archive : Archive) (entry : String) (hname : Text.beforeLastDot? name = some packageName)
    (hnone : s.packageOf id packageName = none) :
    (manifest s).2.Grows (defineClass id name manifest url archive entry s).2 := by
  have base := Store.Grows.law.toAskingLaw
  obtain ⟨p, t, hpackage, -⟩ := packageOrDefine_holds id packageName manifest url s
  refine Store.Grows.trans ?_ (obeys_defineClass_of_package base hname hpackage archive entry)
  unfold packageOrDefine at hpackage
  rw [Attempt.run_bind_lift, run_package?] at hpackage
  dsimp only at hpackage
  rw [hnone] at hpackage
  dsimp only at hpackage
  rw [Attempt.run_bind_lift] at hpackage
  exact Attempt.Obeys.of_run ((obeys_definePackage base id packageName _ url).result.bind base
    fun result => obeys_converge base id packageName result) hpackage

end Layer

namespace Loader

open Attempt

variable {layer : Layer} {parent loader : Loader} {name : String} {s t u w : Store}

/-- What has been defined when the parent has been asked stays when the layer looks for itself. -/
lemma grows_above (hnew : s.classOf layer.id name = none)
    (hprepared : layer.preparePackage name s = (.ok (), t)) :
    (parent.find name t).2.Grows ((isolated layer parent).find name s).2 := by
  rw [run_find_of_not_classOf hnew hprepared]
  rcases parent.find name t with ⟨cause | c, u⟩
  · cases cause with
    | classNotFound other => exact layer.obeys_findClass Store.Grows.law.toOpeningLaw name u
    | _ => exact .refl u
  · exact .refl u

/-- When the parent does not have the class, the layer looks for it. -/
lemma find_snd_of_not_found {other : String} (hnew : s.classOf layer.id name = none)
    (hprepared : layer.preparePackage name s = (.ok (), t))
    (hparent : parent.find name t = (.error (.classNotFound other), u)) :
    (isolated layer parent).find name s = layer.findClass name u := by
  rw [run_find_of_not_classOf hnew hprepared, hparent]

/-- A moment of a search is reached from where the search starts, and what has been defined by then
stays. -/
lemma Moment.grows (h : Moment name loader s w) :
    s.Grows w ∧ w.Grows (loader.find name s).2 := by
  have law := Store.Grows.law.toOpeningLaw
  have base := law.toAskingLaw
  induction h with
  | @surveyed layer parent s packageName n hnew hname hnone =>
    obtain ⟨t, hprepared⟩ := layer.exists_preparePackage name s
    refine ⟨layer.obeys_search law (Layer.obeys_fittingManifest? base name packageName) _ s, ?_⟩
    have hsurveyed := layer.grows_surveyed n hname hnone hprepared
    exact (hsurveyed.trans (parent.obeys_find law name t)).trans (grows_above hnew hprepared)
  | above hnew hprepared _ ih =>
    have hprepares := (Layer.obeys_preparePackage _ law name).of_run hprepared
    exact ⟨hprepares.trans ih.1, ih.2.trans (grows_above hnew hprepared)⟩
  | @searched layer parent s t u other n hnew hprepared hparent =>
    have hprepares := (Layer.obeys_preparePackage _ law name).of_run hprepared
    have hasks := (parent.obeys_find law name).of_run hparent
    have hvisit := Layer.obeys_classIn base (Entry.ofClass name)
    refine ⟨(hprepares.trans hasks).trans (layer.obeys_search law hvisit _ u), ?_⟩
    refine (layer.grows_search hvisit layer.urls n u).trans ?_
    rw [find_snd_of_not_found hnew hprepared hparent, Layer.run_findClass]
    rcases layer.search (Layer.classIn (Entry.ofClass name)) layer.urls u with ⟨_ | connection, v⟩
    · exact .refl v
    · exact Layer.obeys_defineClass base layer.id name
        (Layer.obeys_ownManifest base connection.archive) _ _ _ v
  | @read layer parent s t u v other packageName connection hnew hprepared hparent hsearch hname
      hnone =>
    have hprepares := (Layer.obeys_preparePackage _ law name).of_run hprepared
    have hasks := (parent.obeys_find law name).of_run hparent
    have hsearches := layer.obeys_search law (Layer.obeys_classIn base (Entry.ofClass name))
      layer.urls u
    rw [hsearch] at hsearches
    refine ⟨((hprepares.trans hasks).trans hsearches).trans
      (Layer.obeys_ownManifest base connection.archive v), ?_⟩
    rw [find_snd_of_not_found hnew hprepared hparent, Layer.run_findClass, hsearch]
    exact Layer.grows_manifest layer.id _ _ _ _ hname hnone

/-! ### What a search ends with -/

/-- The class that has been found is a builtin class, or the one that a layer holds at the end. -/
lemma held_of_find {c : Class} (h : loader.find name s = (.ok c, t)) :
    (∃ depth id classes, loader.ancestor depth = .builtin id classes ∧ classes.get? name = some c) ∨
      ∃ layer ∈ loader.layers, t.classOf layer.id name = some c := by
  induction loader generalizing s t with
  | absent | failing => cases h
  | builtin id classes =>
    unfold find at h
    cases hget : classes.get? name with
    | none =>
      rw [hget] at h
      cases h
    | some d =>
      rw [hget] at h
      cases h
      exact .inl ⟨0, id, classes, rfl, hget⟩
  | isolated layer parent ih =>
    cases hknown : s.classOf layer.id name with
    | some d =>
      rw [run_find_of_classOf hknown] at h
      cases h
      exact .inr ⟨layer, .head _, hknown⟩
    | none =>
      obtain ⟨u, hprepared⟩ := layer.exists_preparePackage name s
      rw [run_find_of_not_classOf hknown hprepared] at h
      rcases hparent : parent.find name u with ⟨cause | d, v⟩
      · rw [hparent] at h
        cases cause with
        | classNotFound other =>
          dsimp only at h
          rw [Layer.run_findClass] at h
          rcases hsearch : layer.search (Layer.classIn (Entry.ofClass name)) layer.urls v with
            ⟨_ | connection, w⟩
          · rw [hsearch] at h
            cases h
          · obtain ⟨d, x, hdefined, hheld⟩ := Layer.defineClass_holds layer.id name
              (Layer.ownManifest connection.archive) connection.url connection.archive
              (Entry.ofClass name) w
            rw [hsearch] at h
            dsimp only at h
            rw [hdefined] at h
            cases h
            exact .inr ⟨layer, .head _, hheld⟩
        | _ => cases h
      · rw [hparent] at h
        cases h
        rcases ih hparent with ⟨depth, id, classes, hanc, hget⟩ | ⟨above, habove, hheld⟩
        · exact .inl ⟨depth + 1, id, classes, hanc, hget⟩
        · exact .inr ⟨above, .tail _ habove, hheld⟩

/-- Why the search for a class fails: the chain ends without the class, or with a loader that fails,
and none of the archives that were asked has the class. -/
inductive Fails (name : String) : Loader → Store → LoaderError → Prop where
  | absent {s : Store} : Fails name .absent s (.classNotFound name)
  | unprovided {id : Nat} {classes : Table String Class} {s : Store} : classes.get? name = none →
      Fails name (.builtin id classes) s (.classNotFound name)
  | failing {id : Nat} {s : Store} :
      Fails name (.failing id) s (.classRead name (.missingEntry failingUrl name))
  | above {layer : Layer} {parent : Loader} {s t : Store} {cause : LoaderError} :
      layer.preparePackage name s = (.ok (), t) → Fails name parent t cause →
      (∀ other, cause ≠ .classNotFound other) → Fails name (.isolated layer parent) s cause
  | missing {layer : Layer} {parent : Loader} {s t u v : Store} {other : String} :
      layer.preparePackage name s = (.ok (), t) → Fails name parent t (.classNotFound other) →
      parent.find name t = (.error (.classNotFound other), u) →
      layer.search (Layer.classIn (Entry.ofClass name)) layer.urls u = (none, v) →
      Fails name (.isolated layer parent) s (.classNotFound name)

/-- A search that fails does so for one of these reasons. -/
lemma fails_of_find {cause : LoaderError} (h : loader.find name s = (.error cause, t)) :
    Fails name loader s cause := by
  induction loader generalizing s t cause with
  | absent =>
    cases h
    exact .absent
  | builtin id classes =>
    unfold find at h
    cases hget : classes.get? name with
    | none =>
      rw [hget] at h
      cases h
      exact .unprovided hget
    | some d =>
      rw [hget] at h
      cases h
  | failing id =>
    cases h
    exact .failing
  | isolated layer parent ih =>
    cases hknown : s.classOf layer.id name with
    | some d =>
      rw [run_find_of_classOf hknown] at h
      cases h
    | none =>
      obtain ⟨u, hprepared⟩ := layer.exists_preparePackage name s
      rw [run_find_of_not_classOf hknown hprepared] at h
      rcases hparent : parent.find name u with ⟨cause' | d, v⟩
      · rw [hparent] at h
        have hfails := ih hparent
        cases cause' with
        | classNotFound other =>
          dsimp only at h
          rw [Layer.run_findClass] at h
          rcases hsearch : layer.search (Layer.classIn (Entry.ofClass name)) layer.urls v with
            ⟨_ | connection, w⟩
          · rw [hsearch] at h
            cases h
            exact .missing hprepared hfails hparent hsearch
          · obtain ⟨d, x, hdefined, -⟩ := Layer.defineClass_holds layer.id name
              (Layer.ownManifest connection.archive) connection.url connection.archive
              (Entry.ofClass name) w
            rw [hsearch] at h
            dsimp only at h
            rw [hdefined] at h
            cases h
        | _ =>
          cases h
          exact .above hprepared hfails fun other hcause => by cases hcause
      · rw [hparent] at h
        cases h

/-- The reasons are all that the class is not found or cannot be read. -/
lemma Fails.cause_eq {cause : LoaderError} (h : Fails name loader s cause) :
    cause = .classNotFound name ∨ ∃ source, cause = .classRead name source := by
  induction h with
  | absent | unprovided | missing => exact .inl rfl
  | failing => exact .inr ⟨_, rfl⟩
  | above _ _ _ ih => exact ih

/-- What a load ends with is what the search for the class ends with, or the content of the class
cannot be read; in any case the search has led to a store from which the store at the end has
grown. -/
lemma load_cases {resolve : Bool} {r : Except LoaderError Class}
    (h : loader.load name resolve s = (r, t)) :
    (loader.find name s).2.Grows t ∧ ((loader.find name s).1 = r ∨
      resolve = true ∧ ∃ c u cause source, loader.find name s = (.ok c, u) ∧
        (c.content u).1 = .error cause ∧ r = .error cause ∧ cause = .classRead c.name source) := by
  rw [run_load] at h
  rcases hfind : loader.find name s with ⟨cause | c, u⟩
  · rw [hfind] at h
    cases h
    exact ⟨.refl _, .inl rfl⟩
  · rw [hfind] at h
    dsimp only at h
    split at h
    · obtain ⟨x, v, hcontent, hyields⟩ := c.content_spec u
      have hgrows := c.obeys_content Store.Grows.law u
      rw [hcontent] at h hgrows
      cases h
      refine ⟨hgrows, ?_⟩
      cases x with
      | ok content => exact .inl rfl
      | error cause =>
        cases hyields with
        | failed => exact .inr ⟨rfl, c, u, _, _, rfl, by rw [hcontent], rfl, rfl⟩
    · cases h
      exact ⟨.refl _, .inl rfl⟩

/-- Definitions that others make while archives are searched do no harm, whatever they define and
whenever.  A definition is never replaced, neither those that were there before nor those that were
made at a moment of the search.  Loading does not fail because of them: it ends with a class unless
the class is not found or cannot be read, for reasons that do not depend on definitions, and never
with a package that has been refused or has vanished.  A class that comes from an archive is the one
that its layer holds at the end, and hence the one that was loaded meanwhile, if there is one; it
has the package that the layer holds at the end. -/
theorem load_survives_interference (hl : loader.Proper) (hs : s.Attributing) {resolve : Bool}
    {r : Except LoaderError Class} (hrun : loader.load name resolve s = (r, t)) :
    s.Grows t ∧ (∀ w, Moment name loader s w → s.Grows w ∧ w.Grows t) ∧
      (∀ cause, r = .error cause →
        (cause = .classNotFound name ∨ ∃ other source, cause = .classRead other source) ∧
        (Fails name loader s cause ∨ resolve = true ∧ ∃ c u, loader.find name s = (.ok c, u) ∧
          (c.content u).1 = .error cause)) ∧
      ∀ c url archive entry, r = .ok c → c.source = .archived url archive entry →
        c.name = name ∧ c.definer ∈ loader.ids ∧ t.classOf c.definer name = some c ∧
          t.Attributed c ∧
          ∀ w, Moment name loader s w → ∀ d, w.classOf c.definer name = some d → d = c := by
  obtain ⟨hgrows, hresult⟩ := load_cases hrun
  have hfound : s.Grows (loader.find name s).2 :=
    loader.obeys_find Store.Grows.law.toOpeningLaw name s
  have hmoments : ∀ w, Moment name loader s w → s.Grows w ∧ w.Grows t := by
    intro w hw
    exact ⟨hw.grows.1, hw.grows.2.trans hgrows⟩
  refine ⟨hfound.trans hgrows, hmoments, ?_, ?_⟩
  · rintro cause rfl
    rcases hresult with hfails | ⟨hresolve, c, u, cause', source, hfind, hcontent, hcause, hread⟩
    · have hreasons := fails_of_find (t := (loader.find name s).2) (Prod.ext hfails rfl)
      exact ⟨hreasons.cause_eq.imp_right fun ⟨source, h⟩ => ⟨name, source, h⟩, .inl hreasons⟩
    · cases hcause
      exact ⟨.inr ⟨_, _, hread⟩, .inr ⟨hresolve, c, u, hfind, hcontent⟩⟩
  · rintro c url archive entry rfl hsource
    have hfind : loader.find name s = (.ok c, (loader.find name s).2) := by
      rcases hresult with hfind | ⟨_, _, _, _, _, _, _, hcause, _⟩
      · exact Prod.ext hfind rfl
      · cases hcause
    rcases held_of_find hfind with ⟨depth, id, classes, hanc, hget⟩ | ⟨layer, hlayer, hheld⟩
    · obtain ⟨main, hmain⟩ := hl.isBuiltin depth id classes hanc name c hget
      rw [hmain] at hsource
      cases hsource
    · have hclass := hgrows.classes layer.id name c hheld
      obtain ⟨hdefiner, hname, hattributed⟩ :=
        (hfound.trans hgrows).attributing hs layer.id name c hclass
      rw [← hdefiner] at hclass
      have hid : c.definer ∈ loader.ids := hdefiner ▸ List.mem_map_of_mem hlayer
      refine ⟨hname, hid, hclass, hattributed, fun w hw d hd => ?_⟩
      have hstays := (hmoments w hw).2.classes c.definer name d hd
      exact Option.some.inj (hstays.symm.trans hclass)

/-- A script with one class, whose manifest seals it. -/
def raceArchive : Archive := .scripted 1 {
  url := .artifact ⟨"x.jar"⟩
  packaged := true
  entries := [("p/", .directory), ("p/A.class", .bytes [1])]
  manifest := .content "Sealed: true\n".toUTF8.toList
  entryFault := none }

/-- A store in which the script is open, and in which others define the package and the class when
the script is asked for an entry for the first time. -/
def raceStore : Store := { Store.start default 3 with
  handlers := Table.empty.insert 2 (Table.empty.insert (Url.artifact ⟨"x.jar"⟩).key raceArchive)
  schedules := Table.empty.insert 1 ⟨[[.definePackage 0 "p" none (.artifact ⟨"y.jar"⟩),
    .defineClass 0 "p.A" none (.artifact ⟨"y.jar"⟩) raceArchive "p/A.class"]], []⟩ }

/-- The class and the package that others have defined meanwhile are those that the load gives. -/
theorem load_survives_interference_raceStore :
    ∃ c t, (isolated ⟨0, [.artifact ⟨"x.jar"⟩], 2⟩ absent).load "p.A" true raceStore = (.ok c, t) ∧
      c.package = some (Package.ofName "p") ∧ t.classOf 0 "p.A" = some c ∧ t.Attributed c := by
  have hrun : ((isolated ⟨0, [.artifact ⟨"x.jar"⟩], 2⟩ absent).load "p.A" true
      raceStore).1.toOption =
        some ⟨0, "p.A", .archived (.artifact ⟨"y.jar"⟩) raceArchive "p/A.class",
          some (Package.ofName "p")⟩ := by
    decide +kernel
  have hproper : (isolated ⟨0, [.artifact ⟨"x.jar"⟩], 2⟩ absent).Proper :=
    ((proper_builtinClasses 0 []).ancestor 1).isolated (by decide)
  have hattributing : raceStore.Attributing := fun _ _ _ h => by cases h
  obtain ⟨-, -, -, hclass⟩ := load_survives_interference hproper hattributing
    (Prod.ext (eq_ok_of_toOption hrun) rfl)
  obtain ⟨-, -, hheld, hattributed, -⟩ := hclass _ _ _ _ rfl rfl
  exact ⟨_, _, Prod.ext (eq_ok_of_toOption hrun) rfl, rfl, hheld, hattributed⟩

end Loader

end AppLauncher
