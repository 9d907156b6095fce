import AppLauncher.Proofs.Loader.History
import Mathlib.Data.List.Forall2

/-!
# Looking resources up

A chain gives the first resource of a name or all of them, and each loader of the chain its own.  A
search for the first one stops early and leaves fewer archives open than a search for all.  Still it
gives the first of all, from whatever store the two start (`Loader.resource?_eq_head?`): a search
that finds nothing has opened what the other one opens.  And the resources of a chain are those of
its loaders, asked one after the other (`Loader.resources_eq`).

Lookups that are made at different times are compared with the store at the beginning.  There
`Loader.places` lists the urls that open and have the entry.  As long as urls that count as one lead
to the same thing (`Loader.Unambiguous`), a lookup at any later time finds the archives that the
handlers hold under these urls (`Loader.resources_spec`).  Archives that are held stay where they
are, so that every lookup after the first one gives the same again.
-/

namespace AppLauncher

open Archive (Body)

/-! ### One resource and all resources -/

namespace Loader

variable (loader : Loader) (name : String) (s : Store)

/-- The loaders of a chain, outermost first. -/
def lineage : Loader → List Loader
  | absent => []
  | isolated layer parent => parent.lineage ++ [isolated layer parent]
  | loader => [loader]

/-- The resource that a loader finds is the first of all that it finds.  When there is none, both
lookups have done the same. -/
lemma findResource?_eq_head? :
    (loader.findResource? name s).1 = (loader.findResources name s).1.head? ∧
      ((loader.findResource? name s).1 = none →
        (loader.findResource? name s).2 = (loader.findResources name s).2) := by
  cases loader with
  | isolated layer parent =>
    exact layer.search_eq_head? (Layer.resourceIn name) layer.urls s
  | absent | builtin | failing => exact ⟨rfl, fun _ => rfl⟩

/-- The resource that a chain gives is the first of all that it gives.  When there is none, both
lookups have done the same. -/
lemma resource?_eq_head? :
    (loader.resource? name s).1 = (loader.resources name s).1.head? ∧
      ((loader.resource? name s).1 = none →
        (loader.resource? name s).2 = (loader.resources name s).2) := by
  induction loader with
  | absent | builtin | failing => exact ⟨rfl, fun _ => rfl⟩
  | isolated layer parent ih =>
    obtain ⟨hfirst, hstore⟩ := ih
    rw [resource?, resources, Action.run_bind, Action.run_bind, Action.run_bind]
    rcases hparent : parent.resource? name s with ⟨_ | resource, t⟩
    · rw [hparent] at hfirst hstore
      rw [← hstore rfl, List.head?_eq_none_iff.mp hfirst.symm]
      exact findResource?_eq_head? (.isolated layer parent) name t
    · rw [hparent] at hfirst
      refine ⟨?_, fun h => by cases h⟩
      show _ = (_ ++ _ : List Resource).head?
      rw [List.head?_append, ← hfirst]
      rfl

/-- The resources of a chain are those of its loaders, asked one after the other. -/
lemma resources_eq :
    loader.resources name = List.flatten <$> loader.lineage.mapM (·.findResources name) := by
  induction loader with
  | absent => rfl
  | builtin | failing => rfl
  | isolated layer parent ih =>
    rw [resources, ih, lineage, List.mapM_append]
    simp

end Loader

/-! ### Where resources are found -/

/-- Whether a url opens, in a store where nothing else has been opened on the way, to an archive
that has an entry. -/
def Layer.hasEntry (layer : Layer) (s : Store) (name : String) (url : Url) : Bool :=
  ((Handler.opens? s.files (s.bodies layer.handler) url).bind (Body.item? name s.files)).isSome

/-- The urls of a layer that open to an archive with an entry, in order. -/
def Layer.places (layer : Layer) (s : Store) (name : String) : List (Layer × Url) :=
  (layer.urls.filter (layer.hasEntry s name)).map fun url => (layer, url)

/-- The urls of a chain that open to an archive with an entry, those of the outermost layer
first. -/
def Loader.places (s : Store) (name : String) : Loader → List (Layer × Url)
  | isolated layer parent => parent.places s name ++ layer.places s name
  | _ => []

/-- A resource is the entry of a name in the archive that the handler of a layer holds under a
url. -/
structure Resource.IsAt (s : Store) (name : String) (r : Resource) (p : Layer × Url) : Prop where
  name : r.name = name
  held : (s.held p.1.handler).get? p.2.key = some r.archive

namespace Resource.IsAt

variable {reach : Nat → Url → Prop} {s t : Store} {name : String} {r r' : Resource}
  {p : Layer × Url}

/-- A resource stays where it is while archives are opened. -/
lemma mono (h : r.IsAt s name p) (ho : Store.Opens reach s t) : r.IsAt t name p :=
  ⟨h.name, ho.get?_of_get? h.held⟩

/-- There is one resource at a place. -/
lemma unique (h : r.IsAt s name p) (h' : r'.IsAt s name p) : r = r' := by
  obtain ⟨a, n⟩ := r
  obtain ⟨a', n'⟩ := r'
  obtain ⟨rfl, ha⟩ := h
  obtain ⟨rfl, ha'⟩ := h'
  rw [ha] at ha'
  cases ha'
  rfl

/-- Resources that are, at some later time, where others are already are these. -/
lemma eq_of_later {found later : List Resource} {places : List (Layer × Url)}
    (h : List.Forall₂ (IsAt s name) found places)
    (h' : List.Forall₂ (fun r p => ∃ t, Store.Opens reach s t ∧ r.IsAt t name p) later places) :
    later = found := by
  induction h generalizing later with
  | nil =>
    cases h'
    rfl
  | cons hr _ ih =>
    cases h' with
    | cons hr' h' =>
      obtain ⟨t, ho, hr'⟩ := hr'
      rw [hr'.unique (hr.mono ho), ih h']

/-- The first of some resources that are, at some later time, where another one is already is this
one. -/
lemma head?_eq_of_later {r? : Option Resource} {later : List Resource}
    {places : List (Layer × Url)} (h : Option.Rel (IsAt s name) r? places.head?)
    (ho : Store.Opens reach s t) (h' : List.Forall₂ (IsAt t name) later places) :
    later.head? = r? := by
  cases h' with
  | nil =>
    cases h
    rfl
  | cons hr' _ =>
    cases h with
    | some hr => exact congrArg some (hr'.unique (hr.mono ho))

end Resource.IsAt

namespace Loader

variable {loader : Loader} {s u : Store}

/-- What a layer has after others have been opened is what it has from the start. -/
lemma hasEntry_eq (hu : loader.Unambiguous s.files) (ho : Store.Opens loader.reach s u)
    {layer : Layer} {url : Url} (hurl : loader.reach layer.handler url) (name : String) :
    layer.hasEntry u name url = layer.hasEntry s name url := by
  obtain ⟨hfiles, halike⟩ := ho.alike hu
  unfold Layer.hasEntry
  rw [hfiles, Handler.bind_of_alike (fun _ _ h => h.item? name) (halike layer.handler url hurl)]

/-- The answers of the urls of a layer are found at its places. -/
lemma answers_places (hu : loader.Unambiguous s.files) (ho : Store.Opens loader.reach s u)
    {layer : Layer} (hlayer : layer ∈ loader.layers) (name : String) :
    (Handler.answers u.files (u.bodies layer.handler) (Body.item? name u.files) layer.urls).map
      (fun p => (layer, p.1)) = layer.places s name := by
  have hfiles := (ho.alike hu).1
  have hreach : ∀ url ∈ layer.urls, loader.reach layer.handler url :=
    fun url hurl => ⟨layer, hlayer, rfl, hurl⟩
  have hfst : (Handler.answers u.files (u.bodies layer.handler) (Body.item? name u.files)
      layer.urls).map Prod.fst = layer.urls.filter (layer.hasEntry s name) := by
    rw [Handler.answers_fst (fun _ _ h => h.item? name)]
    · exact List.filter_congr fun url hurl => hasEntry_eq hu ho (hreach url hurl) name
    · intro v hv w hw
      rw [hfiles]
      exact hu _ v w (hreach v hv) (hreach w hw)
  unfold Layer.places
  rw [← hfst, List.map_map]
  rfl

variable (hu : loader.Unambiguous s.files) (ho : Store.Opens loader.reach s u)
  (hs : u.Undisturbed) (name : String)

include hu ho hs

/-- A layer finds the resources at its places. -/
lemma findResources_spec {layer : Layer} (hlayer : layer ∈ loader.layers) (parent : Loader) :
    List.Forall₂ (Resource.IsAt ((isolated layer parent).findResources name u).2 name)
      ((isolated layer parent).findResources name u).1 (layer.places s name) := by
  obtain ⟨found, t, hrun, -, hfound⟩ := Layer.collect_spec (Layer.visits_resourceIn name) layer
    (fun _ h => h) hs
  have hfinds : (isolated layer parent).findResources name u = (found, t) := hrun
  rw [hfinds, ← answers_places hu ho hlayer name, List.forall₂_map_right_iff]
  refine hfound.imp ?_
  rintro r p ⟨a, ha, -, rfl⟩
  exact ⟨rfl, ha⟩

/-- A layer finds the resource at the first of its places. -/
lemma findResource?_spec {layer : Layer} (hlayer : layer ∈ loader.layers) (parent : Loader) :
    Option.Rel (Resource.IsAt ((isolated layer parent).findResource? name u).2 name)
      ((isolated layer parent).findResource? name u).1 (layer.places s name).head? := by
  obtain ⟨t, -, hsearch⟩ := Layer.search_spec (Layer.visits_resourceIn name) layer
    (fun _ h => h) hs
  rw [← answers_places hu ho hlayer name, List.head?_map, Handler.head?_answers]
  split at hsearch
  · rename_i url entry hfirst
    obtain ⟨-, a, ha, -, hrun⟩ := hsearch
    have hfinds : (isolated layer parent).findResource? name u = (some ⟨a, name⟩, t) := hrun
    rw [hfinds, hfirst]
    exact .some ⟨rfl, ha⟩
  · rename_i hfirst
    have hfinds : (isolated layer parent).findResource? name u = (none, t) := hsearch
    rw [hfinds, hfirst]
    exact .none

variable {l : Loader} (hl : ∀ layer ∈ l.layers, layer ∈ loader.layers)

include hl

/-- A chain gives the resources at its places. -/
lemma resources_spec : List.Forall₂ (Resource.IsAt (l.resources name u).2 name)
    (l.resources name u).1 (l.places s name) := by
  induction l with
  | absent | builtin | failing => exact .nil
  | isolated layer parent ih =>
    have hparent := ih fun layer h => hl layer (.tail _ h)
    have hlooks := parent.resources_looks name hs
    have hopens := ho.trans (hlooks.opens.of_parent.mono fun _ _ => reach_of_layers hl)
    have hs' := hlooks.undisturbed hs
    have hown := findResources_spec hu hopens hs' name (hl layer (.head _)) parent
    have hlater := ((isolated layer parent).findResources_looks name hs').opens
    rw [resources, Action.run_bind, Action.run_bind]
    exact List.rel_append (hparent.imp fun _ _ h => h.mono hlater) hown

/-- A chain gives the resource at the first of its places. -/
lemma resource?_spec : Option.Rel (Resource.IsAt (l.resource? name u).2 name)
    (l.resource? name u).1 (l.places s name).head? := by
  induction l with
  | absent | builtin | failing => exact .none
  | isolated layer parent ih =>
    have hparent := ih fun layer h => hl layer (.tail _ h)
    have hlooks := parent.resource?_looks name hs
    rw [resource?, Action.run_bind, places, List.head?_append]
    rcases hrun : parent.resource? name u with ⟨_ | resource, t⟩
    · rw [hrun] at hparent hlooks
      cases hhead : (parent.places s name).head? with
      | some p =>
        rw [hhead] at hparent
        cases hparent
      | none =>
        have hopens := ho.trans (hlooks.opens.of_parent.mono fun _ _ => reach_of_layers hl)
        exact findResource?_spec hu hopens (hlooks.undisturbed hs) name (hl layer (.head _)) parent
    · rw [hrun] at hparent
      cases hhead : (parent.places s name).head? with
      | none =>
        rw [hhead] at hparent
        cases hparent
      | some p =>
        rw [hhead] at hparent
        exact hparent

/-- The loaders of a chain, each asked in the same store, find the resources at the places of the
chain. -/
lemma lineage_spec :
    List.Forall₂ (fun r p => ∃ t, Store.Opens loader.reach u t ∧ r.IsAt t name p)
      (l.lineage.flatMap fun a => (a.findResources name u).1) (l.places s name) := by
  induction l with
  | absent | builtin | failing => exact .nil
  | isolated layer parent ih =>
    have hown := findResources_spec hu ho hs name (hl layer (.head _)) parent
    have hlooks := ((isolated layer parent).findResources_looks name hs).opens
    rw [lineage, List.flatMap_append, List.flatMap_singleton]
    refine List.rel_append (ih fun layer h => hl layer (.tail _ h)) (hown.imp fun _ _ h => ?_)
    exact ⟨_, hlooks.mono fun _ _ => reach_of_layers hl, h⟩

end Loader

/-! ### Lookups agree -/

/-- A resource is the entry of a name in an archive like the one that a url opens in the store. -/
structure Resource.Comes (s : Store) (name : String) (r : Resource) (p : Layer × Url) : Prop where
  name : r.name = name
  archive : ∃ body, Handler.opens? s.files (s.bodies p.1.handler) p.2 = some body ∧
    r.archive.body.Alike s.files body

namespace Loader

/-- From one store, a loader finds as its first resource the first of all, a chain gives as its
first one the first of all, which are those of its loaders from the outermost on, one after the
other, and a layer finds one resource for each of its urls that opens, when its turn comes, to an
archive with the entry. -/
structure ResourcesAgree (loader : Loader) (name : String) (s : Store) : Prop where
  found : (loader.findResource? name s).1 = (loader.findResources name s).1.head?
  given : (loader.resource? name s).1 = (loader.resources name s).1.head?
  lineage : loader.resources name s =
    (List.flatten <$> loader.lineage.mapM fun a => a.findResources name : Action (List Resource)) s
  listed : ∀ layer parent, loader = .isolated layer parent →
    ∃ resources t, loader.findResources name s = (resources, t) ∧
      List.Forall₂ (fun r p => r.name = name ∧
          (t.held layer.handler).get? p.1.key = some r.archive ∧
          (r.archive.find? name t).1 = .ok (some p.2))
        resources
        (Handler.answers s.files (s.bodies layer.handler) (Body.item? name s.files) layer.urls)

/-- Whenever they are made, lookups find what opens in the store at the beginning, and they agree
with each other: when the first resource of a loader or a chain has been found, then it is the first
of all at any later time; all resources of a loader or a chain stay the same once they have been
found; and those of a chain are then those of its loaders, whenever these are asked. -/
structure ResourcesRemain (loader l : Loader) (name : String) (start s : Store) : Prop where
  opened : List.Forall₂ (Resource.Comes start name) (l.resources name s).1 (l.places start name)
  openedOwn : ∀ layer parent, l = .isolated layer parent →
    List.Forall₂ (Resource.Comes start name) (l.findResources name s).1 (layer.places start name)
  found : ∀ requests : List Request, (l.findResources name
    (loader.run (requests.map .ask) (l.findResource? name s).2)).1.head? =
      (l.findResource? name s).1
  given : ∀ requests : List Request, (l.resources name
    (loader.run (requests.map .ask) (l.resource? name s).2)).1.head? = (l.resource? name s).1
  foundAgain : ∀ requests : List Request, (l.findResources name
    (loader.run (requests.map .ask) (l.findResources name s).2)).1 = (l.findResources name s).1
  givenAgain : ∀ requests : List Request, (l.resources name
    (loader.run (requests.map .ask) (l.resources name s).2)).1 = (l.resources name s).1
  lineage : ∀ requests : List Request, (l.lineage.flatMap fun a => (a.findResources name
    (loader.run (requests.map .ask) (l.resources name s).2)).1) = (l.resources name s).1

variable {loader : Loader} {s u : Store} {name : String}

/-- Lookups from one store agree. -/
lemma resourcesAgree (loader : Loader) (name : String) (hs : s.Undisturbed) :
    loader.ResourcesAgree name s := by
  refine ⟨(loader.findResource?_eq_head? name s).1, (loader.resource?_eq_head? name s).1,
    congrFun (loader.resources_eq name) s, ?_⟩
  rintro layer parent rfl
  obtain ⟨found, t, hrun, hlooks, hfound⟩ := Layer.collect_spec (Layer.visits_resourceIn name) layer
    (fun _ h => h) hs
  refine ⟨found, t, hrun, hfound.imp ?_⟩
  rintro r p ⟨a, ha, hitem, rfl⟩
  obtain ⟨v, hv, -⟩ := a.find?_spec name (hlooks.undisturbed hs)
  refine ⟨rfl, ha, ?_⟩
  rw [hv, hlooks.files]
  exact eq_ok_of_toOption (Option.join_eq_some_iff.mp hitem)

/-- The resources of a chain come in parts: what each loader finds, from the outermost on. -/
lemma exists_parts (loader : Loader) (name : String) (hs : s.Undisturbed) :
    ∃ parts, (loader.resources name s).1 = parts.flatten ∧
      List.Forall₂ (fun (a : Loader) part => ∃ t, t.Undisturbed ∧ t.files = s.files ∧
          (a.findResources name t).1 = part ∧ a.ResourcesAgree name t)
        loader.lineage parts := by
  induction loader with
  | absent => exact ⟨[], rfl, .nil⟩
  | builtin id classes =>
    exact ⟨[[]], rfl, .cons ⟨s, hs, rfl, rfl, resourcesAgree _ name hs⟩ .nil⟩
  | failing id => exact ⟨[[]], rfl, .cons ⟨s, hs, rfl, rfl, resourcesAgree _ name hs⟩ .nil⟩
  | isolated layer parent ih =>
    obtain ⟨parts, hparts, hparents⟩ := ih
    have hlooks := parent.resources_looks name hs
    have hs' := hlooks.undisturbed hs
    have hagree := resourcesAgree (isolated layer parent) name hs'
    refine ⟨parts ++ [((isolated layer parent).findResources name (parent.resources name s).2).1],
      ?_, List.rel_append hparents (.cons ⟨_, hs', hlooks.files, rfl, hagree⟩ .nil)⟩
    rw [resources, Action.run_bind, Action.run_bind, hparts, List.flatten_append,
      List.flatten_singleton]
    rfl

/-- The places of a chain are at its urls. -/
lemma reach_of_mem_places {l : Loader} {p : Layer × Url} (h : p ∈ l.places s name) :
    l.reach p.1.handler p.2 := by
  induction l with
  | absent | builtin | failing => cases h
  | isolated layer parent ih =>
    rcases List.mem_append.mp h with hparent | hown
    · exact reach_of_parent (ih hparent)
    · obtain ⟨url, hurl, rfl⟩ := List.mem_map.mp hown
      exact reach_of_layer ⟨rfl, List.mem_of_mem_filter hurl⟩

/-- Resources at places of a chain come from what opens there at the beginning. -/
lemma comes_of_isAt (hu : loader.Unambiguous s.files) (ho : Store.Opens loader.reach s u)
    {found : List Resource} {places : List (Layer × Url)}
    (hplaces : ∀ p ∈ places, loader.reach p.1.handler p.2)
    (h : List.Forall₂ (Resource.IsAt u name) found places) :
    List.Forall₂ (Resource.Comes s name) found places := by
  induction h with
  | nil => exact .nil
  | @cons r p _ _ hr _ ih =>
    refine .cons ⟨hr.name, ?_⟩ (ih fun p hp => hplaces p (.tail _ hp))
    have hbody : u.bodies p.1.handler p.2.key = some r.archive.body := by
      unfold Store.bodies
      rw [hr.held]
      rfl
    have halike := (ho.alike hu).2 p.1.handler p.2 (hplaces p (.head _))
    rw [Handler.opens?_of_held hbody] at halike
    cases hopens : Handler.opens? s.files (s.bodies p.1.handler) p.2 with
    | none =>
      rw [hopens] at halike
      cases halike
    | some body =>
      rw [hopens] at halike
      cases halike with
      | some halike => exact ⟨body, rfl, halike⟩

/-- Two lookups, for the first resource of a name and for all, find what is at certain places,
whatever has been opened before. -/
structure FindsAt (loader : Loader) (s : Store) (name : String) (places : List (Layer × Url))
    (first : Action (Option Resource)) (all : Action (List Resource)) : Prop where
  firstLooks : ∀ u : Store, u.Undisturbed → u.Looks loader.reach (first u).2
  allLooks : ∀ u : Store, u.Undisturbed → u.Looks loader.reach (all u).2
  first : ∀ u, Store.Opens loader.reach s u → u.Undisturbed →
    Option.Rel (Resource.IsAt (first u).2 name) (first u).1 places.head?
  all : ∀ u, Store.Opens loader.reach s u → u.Undisturbed →
    List.Forall₂ (Resource.IsAt (all u).2 name) (all u).1 places

/-- A layer finds the resources at its places. -/
lemma findsAt_layer (hu : loader.Unambiguous s.files) {layer : Layer} {parent : Loader}
    (hlayer : layer ∈ loader.layers) (hreach : ∀ handler url,
      (isolated layer parent).reach handler url → loader.reach handler url) (name : String) :
    loader.FindsAt s name (layer.places s name) ((isolated layer parent).findResource? name)
      ((isolated layer parent).findResources name) where
  firstLooks _ hs := (findResource?_looks _ name hs).mono hreach
  allLooks _ hs := (findResources_looks _ name hs).mono hreach
  first _ ho hs := findResource?_spec hu ho hs name hlayer parent
  all _ ho hs := findResources_spec hu ho hs name hlayer parent

/-- A chain finds the resources at its places. -/
lemma findsAt_chain (hu : loader.Unambiguous s.files) {l : Loader}
    (hlayers : ∀ layer ∈ l.layers, layer ∈ loader.layers) (hreach : ∀ handler url,
      l.reach handler url → loader.reach handler url) (name : String) :
    loader.FindsAt s name (l.places s name) (l.resource? name) (l.resources name) where
  firstLooks _ hs := (resource?_looks _ name hs).mono hreach
  allLooks _ hs := (resources_looks _ name hs).mono hreach
  first _ ho hs := resource?_spec hu ho hs name hlayers
  all _ ho hs := resources_spec hu ho hs name hlayers

namespace FindsAt

variable {places : List (Layer × Url)} {first : Action (Option Resource)}
  {all : Action (List Resource)}

/-- What has been found first is the first of all later on. -/
lemma head?_later (h : loader.FindsAt s name places first all) (hl : loader.Proper)
    (ho : Store.Opens loader.reach s u) (hs : u.Undisturbed) (requests : List Request) :
    (all (loader.run (requests.map .ask) (first u).2)).1.head? = (first u).1 := by
  have hlooks := h.firstLooks u hs
  obtain ⟨hrun, hs'⟩ := run_opens requests hl (hlooks.undisturbed hs)
  have hlater := h.all _ ((ho.trans hlooks.opens).trans hrun) hs'
  exact Resource.IsAt.head?_eq_of_later (h.first u ho hs)
    (hrun.trans (h.allLooks _ hs').opens) hlater

/-- All that has been found is found again later on. -/
lemma again (h : loader.FindsAt s name places first all) (hl : loader.Proper)
    (ho : Store.Opens loader.reach s u) (hs : u.Undisturbed) (requests : List Request) :
    (all (loader.run (requests.map .ask) (all u).2)).1 = (all u).1 := by
  have hlooks := h.allLooks u hs
  obtain ⟨hrun, hs'⟩ := run_opens requests hl (hlooks.undisturbed hs)
  have hlater := h.all _ ((ho.trans hlooks.opens).trans hrun) hs'
  have hopens := hrun.trans (h.allLooks _ hs').opens
  exact Resource.IsAt.eq_of_later (h.all u ho hs) (hlater.imp fun _ _ hat => ⟨_, hopens, hat⟩)

/-- All that is found comes from what opens at the beginning. -/
lemma comes (h : loader.FindsAt s name places first all) (hu : loader.Unambiguous s.files)
    (ho : Store.Opens loader.reach s u) (hs : u.Undisturbed)
    (hplaces : ∀ p ∈ places, loader.reach p.1.handler p.2) :
    List.Forall₂ (Resource.Comes s name) (all u).1 places :=
  comes_of_isAt hu (ho.trans (h.allLooks u hs).opens) hplaces (h.all u ho hs)

end FindsAt

/-- Lookups at any time agree, when urls that count as one lead to the same thing. -/
lemma resourcesRemain (hl : loader.Proper) (hu : loader.Unambiguous s.files)
    (ho : Store.Opens loader.reach s u) (hs : u.Undisturbed) (depth : Nat) (name : String) :
    loader.ResourcesRemain (loader.ancestor depth) name s u := by
  have hlayers : ∀ layer ∈ (loader.ancestor depth).layers, layer ∈ loader.layers :=
    fun layer h => layers_ancestor depth loader h
  have hreach : ∀ handler url, (loader.ancestor depth).reach handler url →
      loader.reach handler url := fun _ _ => reach_of_ancestor
  generalize loader.ancestor depth = l at hlayers hreach
  have hchain := findsAt_chain hu hlayers hreach name
  have hown : ∀ layer parent, l = .isolated layer parent →
      loader.FindsAt s name (layer.places s name) (l.findResource? name)
        (l.findResources name) := by
    rintro layer parent rfl
    exact findsAt_layer hu (hlayers layer (.head _)) hreach name
  constructor
  case opened => exact hchain.comes hu ho hs fun p hp => hreach _ _ (reach_of_mem_places hp)
  case openedOwn =>
    intro layer parent hlayer
    refine (hown layer parent hlayer).comes hu ho hs fun p hp => ?_
    obtain ⟨url, hurl, rfl⟩ := List.mem_map.mp hp
    rw [hlayer] at hreach
    exact hreach _ _ (reach_of_layer ⟨rfl, List.mem_of_mem_filter hurl⟩)
  case found =>
    intro requests
    cases l with
    | absent | builtin | failing => rfl
    | isolated layer parent => exact (hown layer parent rfl).head?_later hl ho hs requests
  case given => exact hchain.head?_later hl ho hs
  case foundAgain =>
    intro requests
    cases l with
    | absent | builtin | failing => rfl
    | isolated layer parent => exact (hown layer parent rfl).again hl ho hs requests
  case givenAgain => exact hchain.again hl ho hs
  case lineage =>
    intro requests
    have hlooks := hchain.allLooks u hs
    obtain ⟨hrun, hs'⟩ := run_opens requests hl (hlooks.undisturbed hs)
    have hthen := lineage_spec hu ((ho.trans hlooks.opens).trans hrun) hs' name hlayers
    exact Resource.IsAt.eq_of_later (hchain.all u ho hs)
      (hthen.imp fun _ _ ⟨v, hv, hat⟩ => ⟨v, hrun.trans hv, hat⟩)

/-- Single and multiple lookups of resources agree when they are made from one store, whatever has
been done before.  As long as urls that count as one lead to the same thing, they also agree when
any requests are made in between. -/
theorem resources_agree (hl : loader.Proper) (hs : s.Undisturbed) (name : String) :
    loader.ResourcesAgree name s ∧
      (loader.Unambiguous s.files → ∀ (requests : List Request) (depth : Nat),
        loader.ResourcesRemain (loader.ancestor depth) name s
          (loader.run (requests.map .ask) s)) := by
  refine ⟨loader.resourcesAgree name hs, fun hu requests depth => ?_⟩
  obtain ⟨ho, hs'⟩ := run_opens requests hl hs
  exact resourcesRemain hl hu ho hs' depth name

/-- In the small chain both layers have the class, and they find it at the same place. -/
theorem resources_agree_sampleChain :
    (sampleChain.resource? "p/A.class" sampleStore).1 =
        some ⟨.exploded 4 ⟨"d"⟩, "p/A.class"⟩ ∧
      (sampleChain.resources "p/A.class" sampleStore).1 =
        [⟨.exploded 4 ⟨"d"⟩, "p/A.class"⟩, ⟨.exploded 4 ⟨"d"⟩, "p/A.class"⟩] ∧
      (sampleChain.resource? "p/A.class" sampleStore).1 =
        (sampleChain.resources "p/A.class" sampleStore).1.head? ∧
      (sampleChain.lineage.flatMap fun a => (a.findResources "p/A.class" (sampleChain.run []
        (sampleChain.resources "p/A.class" sampleStore).2)).1) =
          (sampleChain.resources "p/A.class" sampleStore).1 := by
  obtain ⟨hagree, hremain⟩ := resources_agree proper_sampleChain (s := sampleStore) rfl "p/A.class"
  exact ⟨by decide +kernel, by decide +kernel, hagree.given,
    (hremain unambiguous_sampleChain [] 0).lineage []⟩

/-- Two layers with one handler that open the library under one spelling each. -/
def respelledChain (outer inner : String) : Loader :=
  .isolated ⟨2, [.packaged ⟨inner⟩ []], 3⟩ (.isolated ⟨1, [.packaged ⟨outer⟩ []], 3⟩ .absent)

/-- When urls that count as one lead to different things, the resources of a chain need not be those
that its loaders find.  If the outer layer opens the library, then the inner one has it too, which
does not find it alone.  If only the inner one can open it, then the outer one finds it as well from
then on. -/
theorem resources_disagree :
    let s := Store.start spellingFiles 4
    let inOuter := respelledChain "lib.jar" "lib.jar/"
    let inInner := respelledChain "lib.jar/" "lib.jar"
    (inOuter.Proper ∧ inInner.Proper ∧ s.Undisturbed) ∧
      (inOuter.resources "A.class" s).1 ≠
        (inOuter.lineage.flatMap fun a => (a.findResources "A.class" s).1) ∧
      (inInner.resources "A.class" s).1 ≠ (inInner.lineage.flatMap fun a =>
        (a.findResources "A.class" (inInner.resources "A.class" s).2).1) := by
  have hproper : ∀ outer inner, (respelledChain outer inner).Proper := fun outer inner =>
    .isolated (.isolated ((proper_builtinClasses 0 []).ancestor 1) List.not_mem_nil)
      (by simp [definers])
  exact ⟨⟨hproper _ _, hproper _ _, rfl⟩, by decide +kernel, by decide +kernel⟩

end Loader

end AppLauncher
