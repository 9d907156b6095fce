import AppLauncher.Proofs.Loader.Respelling
import AppLauncher.Proofs.Loader.Running

/-!
# Loading does not depend on history

As long as files stay the same, what a chain gives under a name is a matter of the store that the
chain starts from: `Loader.origin?` finds it there, in the outermost loader that has the class, at
the first url that opens and has the entry.  Requests in between fill caches, and a url that is
opened changes how others are opened.  `Store.Faithful` says that all this stays true to the start;
every request preserves it, and a search in a faithful store finds the origin.

One thing is needed of the urls: those that count as one have to lead to the same thing
(`Loader.Unambiguous`).  `Loader.load_depends_on_history` shows a chain where they do not.
-/

namespace AppLauncher

open Archive (Body)

/-! ### Where a class comes from -/

/-- Whether a url opens, in a store where nothing else has been opened on the way, to an archive
that has the entry of a class. -/
def Layer.has (layer : Layer) (s : Store) (className : String) (url : Url) : Bool :=
  ((Handler.opens? s.files (s.bodies layer.handler) url).bind
    (Body.item? (Entry.ofClass className) s.files)).isSome

namespace Loader

/-- Where a class of a chain comes from: a builtin class, or the entry of its name in the archive at
a url of a layer. -/
inductive Origin where
  | builtin (c : Class)
  | archived (layer : Layer) (url : Url)

/-- The class of a name that a loader has itself. -/
def own? (s : Store) (name : String) : Loader → Option Origin
  | absent => none
  | builtin _ classes => (classes.get? name).map .builtin
  | failing _ => none
  | isolated layer _ => (layer.urls.find? (layer.has s name)).map (.archived layer)

/-- The class of a name that the outermost loader has, of those that have one. -/
def origin? (s : Store) (name : String) : Loader → Option Origin
  | isolated layer parent => (origin? s name parent).or (own? s name (isolated layer parent))
  | loader => own? s name loader

/-- What a builtin loader has. -/
lemma origin?_builtin (s : Store) (name : String) (id : Nat) (classes : Table String Class) :
    (builtin id classes).origin? s name = (classes.get? name).map .builtin := rfl

/-- What the parent has comes first. -/
lemma origin?_of_parent {s : Store} {name : String} {layer : Layer} {parent : Loader} {o : Origin}
    (h : parent.origin? s name = some o) : (isolated layer parent).origin? s name = some o := by
  rw [origin?, h, Option.some_or]

/-- A layer comes in when its parent has nothing. -/
lemma origin?_of_not_parent {s : Store} {name : String} {layer : Layer} {parent : Loader}
    (h : parent.origin? s name = none) : (isolated layer parent).origin? s name =
      (layer.urls.find? (layer.has s name)).map (.archived layer) := by
  rw [origin?, h, Option.none_or, own?]

/-- Urls of the chain that count as one lead to the same thing. -/
def Unambiguous (loader : Loader) (files : FileSystem) : Prop :=
  ∀ handler u v, loader.reach handler u → loader.reach handler v → u.Agree files v

/-- A class is the one of an origin: the builtin class, or the class of the layer, from an archive
that the handler holds under the url and that is like the one that opens there from the start. -/
def Origin.Matches (start s : Store) (name : String) (c : Class) : Origin → Prop
  | builtin d => c = d
  | archived layer url => c.name = name ∧ c.definer = layer.id ∧ ∃ a body,
      c.source = .archived url a (Entry.ofClass name) ∧
      (s.held layer.handler).get? url.key = some a ∧
      Handler.opens? start.files (start.bodies layer.handler) url = some body ∧
      a.body.Alike start.files body

end Loader

/-! ### Faithful stores -/

/-- A store is true to the one that a chain started from: urls open to like bodies, and the classes
that layers have defined are those of their origins. -/
structure Store.Faithful (s : Store) (loader : Loader) (start : Store) : Prop where
  files : s.files = start.files
  undisturbed : s.Undisturbed
  genuine : s.Genuine
  opens : ∀ handler url, loader.reach handler url →
    Option.Rel (Body.Alike start.files) (Handler.opens? s.files (s.bodies handler) url)
      (Handler.opens? start.files (start.bodies handler) url)
  classes : ∀ depth layer parent, loader.ancestor depth = .isolated layer parent →
    ∀ name c, s.classOf layer.id name = some c → parent.origin? start name = none ∧
      ∃ url, layer.urls.find? (layer.has start name) = some url ∧
        (Loader.Origin.archived layer url).Matches start s name c

namespace Loader

variable {loader parent : Loader} {layer : Layer} {start s t : Store} {name : String} {c : Class}
  {o : Origin}

/-- An origin is matched as long as the archive is held. -/
lemma Origin.Matches.mono (h : o.Matches start s name c)
    (hheld : ∀ handler key a, (s.held handler).get? key = some a →
      (t.held handler).get? key = some a) : o.Matches start t name c := by
  cases o with
  | builtin d => exact h
  | archived layer url =>
    obtain ⟨hname, hdef, a, body, hsource, ha, hopens, halike⟩ := h
    exact ⟨hname, hdef, a, body, hsource, hheld _ _ a ha, hopens, halike⟩

end Loader

namespace Store.Faithful

open Loader

variable {loader : Loader} {start s t : Store}

/-- Urls open to like bodies after others have been opened. -/
lemma opens_of_opens (hu : loader.Unambiguous start.files) (hs : s.Faithful loader start)
    (h : Store.Opens loader.reach s t) : t.files = start.files ∧
      ∀ handler url, loader.reach handler url →
        Option.Rel (Body.Alike start.files) (Handler.opens? t.files (t.bodies handler) url)
          (Handler.opens? start.files (start.bodies handler) url) := by
  obtain ⟨hfiles, halike⟩ := h.alike (hs.files.symm ▸ hu)
  refine ⟨hfiles.trans hs.files, fun handler url hurl => ?_⟩
  have hlater := halike handler url hurl
  have hstart := hs.opens handler url hurl
  rw [hs.files] at hlater hstart
  rw [hfiles, hs.files]
  exact Handler.alike_trans hlater hstart

/-- A store stays faithful when archives are opened and no class is defined. -/
lemma of_opens (hu : loader.Unambiguous start.files) (hs : s.Faithful loader start)
    (h : Store.Opens loader.reach s t) (hundisturbed : t.Undisturbed)
    (hclasses : ∀ id name, t.classOf id name = s.classOf id name) : t.Faithful loader start := by
  obtain ⟨hfiles, hopens⟩ := hs.opens_of_opens hu h
  refine ⟨hfiles, hundisturbed, h.genuine hs.genuine, hopens, ?_⟩
  intro depth layer parent hlayer name c hc
  rw [hclasses] at hc
  obtain ⟨hparent, url, hurl, hmatches⟩ := hs.classes depth layer parent hlayer name c hc
  exact ⟨hparent, url, hurl, hmatches.mono fun _ _ _ => h.get?_of_get?⟩

/-- A store stays faithful in a lookup. -/
lemma of_looks (hu : loader.Unambiguous start.files) (hs : s.Faithful loader start)
    (h : s.Looks loader.reach t) : t.Faithful loader start :=
  hs.of_opens hu h.opens (h.undisturbed hs.undisturbed) h.classOf

/-- A store stays faithful when a package is defined. -/
lemma withPackage (hs : s.Faithful loader start) (layer : Nat) (name : String) (p : Package) :
    (s.withPackage layer name p).Faithful loader start := by
  refine ⟨hs.files, hs.undisturbed, hs.genuine, hs.opens, ?_⟩
  intro depth layer' parent hlayer other c hc
  rw [classOf_withPackage] at hc
  exact hs.classes depth layer' parent hlayer other c hc

/-- What a layer has in a faithful store is what it has from the start. -/
lemma has_eq (hs : s.Faithful loader start) {layer : Layer} {url : Url}
    (hurl : loader.reach layer.handler url) (name : String) :
    layer.has s name url = layer.has start name url := by
  have hanswer : ∀ a b, Body.Alike start.files a b →
      a.item? (Entry.ofClass name) start.files = b.item? (Entry.ofClass name) start.files :=
    fun _ _ h => h.item? _
  unfold Layer.has
  rw [hs.files, Handler.bind_of_alike hanswer (hs.files ▸ hs.opens layer.handler url hurl)]

/-- A search of a layer for a class ends where the class is from the start. -/
lemma firstFile?_fst (hu : loader.Unambiguous start.files) (hs : s.Faithful loader start)
    {layer : Layer} (hlayer : layer ∈ loader.layers) (name : String) :
    (layer.firstFile? s name).map Prod.fst = layer.urls.find? (layer.has start name) := by
  have hreach : ∀ url ∈ layer.urls, loader.reach layer.handler url :=
    fun url hurl => ⟨layer, hlayer, rfl, hurl⟩
  unfold Layer.firstFile?
  rw [Handler.first?_fst]
  · refine List.find?_congr fun url hurl => ?_
    rw [← hs.has_eq (hreach url hurl)]
    unfold Layer.has
    cases hopens : Handler.opens? s.files (s.bodies layer.handler) url with
    | none => rfl
    | some body =>
      rw [Option.bind_some, Option.bind_some, Body.file?_ofClass]
      exact Handler.isGenuine_of_opens? (hs.genuine layer.handler) hopens
  · intro a b h
    rw [hs.files]
    rw [hs.files] at h
    exact h.file? _
  · intro u hu' v hv
    rw [hs.files]
    exact hu _ u v (hreach u hu') (hreach v hv)

/-- A store stays faithful when the package of a class is prepared. -/
lemma prepares (hu : loader.Unambiguous start.files) (hs : s.Faithful loader start) {layer : Layer}
    (hlayer : layer ∈ loader.layers) {name : String} (h : layer.Prepares name s t) :
    t.Faithful loader start :=
  hs.of_opens hu (h.opens.mono fun _ _ hurl => ⟨layer, hlayer, hurl⟩)
    (h.still.undisturbed hs.undisturbed) h.classOf

/-- A class that a layer takes is that of the first url that has it. -/
lemma matches_of_takes (hu : loader.Unambiguous start.files) (hs : s.Faithful loader start)
    {layer : Layer} (hmem : layer ∈ loader.layers) {name : String} {c : Class}
    (h : layer.Takes name s c t) :
    ∃ url, layer.urls.find? (layer.has start name) = some url ∧
      (Origin.archived layer url).Matches start t name c := by
  have hmono : ∀ handler url, layer.reach handler url → loader.reach handler url :=
    fun _ _ hurl => ⟨layer, hmem, hurl⟩
  cases h with
  | @intro url entry a _ _ v w _ hfirst hurl hlooks ha _ hp hq =>
    have hfst := hs.firstFile?_fst hu hmem name
    rw [hfirst] at hfst
    refine ⟨url, hfst.symm, rfl, rfl, a, ?_⟩
    have hbody : v.bodies layer.handler url.key = some a.body := by
      unfold bodies
      rw [ha]
      rfl
    have hopens := (hs.of_looks hu (hlooks.mono hmono)).opens layer.handler url
      (hmono _ _ ⟨rfl, hurl⟩)
    rw [Handler.opens?_of_held hbody] at hopens
    cases hstart : Handler.opens? start.files (start.bodies layer.handler) url with
    | none =>
      rw [hstart] at hopens
      cases hopens
    | some body =>
      rw [hstart] at hopens
      cases hopens with
      | some halike =>
        refine ⟨body, rfl, ?_, rfl, halike⟩
        rw [hq.held, held_of_handlers hp.handlers, ha]

/-- A store stays faithful when a layer, whose parent does not have a class, defines that of the
first url that has it. -/
lemma withClass (hids : loader.ids.Nodup) (hs : s.Faithful loader start) {depth : Nat}
    {layer : Layer} {parent : Loader} (hlayer : loader.ancestor depth = .isolated layer parent)
    {name : String} {c : Class} {url : Url} (hparent : parent.origin? start name = none)
    (hurl : layer.urls.find? (layer.has start name) = some url)
    (hmatches : (Origin.archived layer url).Matches start s name c) :
    (s.withClass layer.id c).Faithful loader start := by
  refine ⟨hs.files, hs.undisturbed, hs.genuine, hs.opens, ?_⟩
  intro depth' layer' parent' hlayer' other d hd
  rw [classOf_withClass] at hd
  split at hd
  · rename_i heq
    obtain ⟨hid, hname⟩ := heq
    obtain ⟨rfl, rfl⟩ := ancestor_unique hids hlayer hlayer' hid
    cases hd
    have hother : name = other := hmatches.1.symm.trans hname
    exact hother ▸ ⟨hparent, url, hurl, hmatches⟩
  · exact hs.classes depth' layer' parent' hlayer' other d hd

/-- When a layer takes a class that its parent does not have, the store stays faithful, and the
class is that of the first url that has it. -/
lemma takes (hids : loader.ids.Nodup) (hu : loader.Unambiguous start.files)
    (hs : s.Faithful loader start) {depth : Nat} {layer : Layer} {parent : Loader}
    (hlayer : loader.ancestor depth = .isolated layer parent) {name : String} {c : Class}
    (hparent : parent.origin? start name = none) (h : layer.Takes name s c t) :
    (t.withClass layer.id c).Faithful loader start ∧
      ∃ url, layer.urls.find? (layer.has start name) = some url ∧
        (Origin.archived layer url).Matches start (t.withClass layer.id c) name c := by
  have hmem := mem_layers_of_ancestor hlayer
  have ht : t.Faithful loader start :=
    hs.of_opens hu (h.opens.mono fun _ _ hurl => ⟨layer, hmem, hurl⟩)
      (h.still.undisturbed hs.undisturbed) h.classOf
  obtain ⟨url, hurl, hmatches⟩ := hs.matches_of_takes hu hmem h
  exact ⟨ht.withClass hids hlayer hparent hurl hmatches, url, hurl, hmatches⟩

end Store.Faithful

/-! ### A search finds the origin -/

namespace Loader

variable {loader : Loader} {start s t : Store} {name : String}

/-- A result is right for what is found from the start: a class of the origin, or the failure to
find any. -/
def Answers (start t : Store) (name : String) (r : Except LoaderError Class) :
    Option Origin → Prop
  | none => r = .error (.classNotFound name)
  | some o => ∃ c, r = .ok c ∧ o.Matches start t name c

/-- A right result that is a class is one of an origin. -/
lemma Answers.of_ok {c : Class} {x : Option Origin} (h : Answers start t name (.ok c) x) :
    ∃ o, x = some o ∧ o.Matches start t name c := by
  cases x with
  | none => cases h
  | some o =>
    obtain ⟨d, hd, hmatches⟩ := h
    cases hd
    exact ⟨o, rfl, hmatches⟩

/-- A right result that is a failure is the failure to find anything. -/
lemma Answers.of_error {cause : LoaderError} {x : Option Origin}
    (h : Answers start t name (.error cause) x) : x = none ∧ cause = .classNotFound name := by
  cases x with
  | none =>
    cases h
    exact ⟨rfl, rfl⟩
  | some o =>
    obtain ⟨d, hd, -⟩ := h
    cases hd

/-- A search in a faithful store finds the origin and leaves a faithful store. -/
lemma Finds.faithful (hids : loader.ids.Nodup) (hu : loader.Unambiguous start.files)
    (hend : ∀ depth id, loader.ancestor depth ≠ .failing id) {l : Loader}
    {r : Except LoaderError Class} (h : Finds name l s r t) {depth : Nat}
    (hdepth : loader.ancestor depth = l) (hs : s.Faithful loader start) :
    t.Faithful loader start ∧ Answers start t name r (l.origin? start name) := by
  induction h generalizing depth with
  | absent => exact ⟨hs, rfl⟩
  | provided hget =>
    rw [origin?_builtin, hget]
    exact ⟨hs, _, rfl, rfl⟩
  | unprovided hget =>
    rw [origin?_builtin, hget]
    exact ⟨hs, rfl⟩
  | failing => exact absurd hdepth (hend depth _)
  | known hknown =>
    obtain ⟨hparent, url, hurl, hmatches⟩ := hs.classes depth _ _ hdepth name _ hknown
    rw [origin?_of_not_parent hparent, hurl]
    exact ⟨hs, _, rfl, hmatches⟩
  | inherited _ hp _ ih =>
    obtain ⟨ht, hanswers⟩ := ih (ancestor_succ_of_ancestor hdepth)
      (hs.prepares hu (mem_layers_of_ancestor hdepth) hp)
    obtain ⟨o, ho, hmatches⟩ := hanswers.of_ok
    rw [origin?_of_parent ho]
    exact ⟨ht, _, rfl, hmatches⟩
  | failed _ hp _ hcause ih =>
    obtain ⟨-, hanswers⟩ := ih (ancestor_succ_of_ancestor hdepth)
      (hs.prepares hu (mem_layers_of_ancestor hdepth) hp)
    exact absurd hanswers.of_error.2 (hcause name)
  | @missing layer _ _ _ _ _ _ _ hp _ hfirst hlooks ih =>
    have hmem := mem_layers_of_ancestor hdepth
    obtain ⟨ht, hanswers⟩ := ih (ancestor_succ_of_ancestor hdepth) (hs.prepares hu hmem hp)
    have hnone := ht.firstFile?_fst hu hmem name
    rw [hfirst] at hnone
    rw [origin?_of_not_parent hanswers.of_error.1, ← hnone]
    exact ⟨ht.of_looks hu (hlooks.mono fun _ _ hurl => ⟨layer, hmem, hurl⟩), rfl⟩
  | defined _ hp _ _ htakes ih =>
    obtain ⟨ht, hanswers⟩ := ih (ancestor_succ_of_ancestor hdepth)
      (hs.prepares hu (mem_layers_of_ancestor hdepth) hp)
    have hparent := hanswers.of_error.1
    obtain ⟨hfaithful, url, hurl, hmatches⟩ := ht.takes hids hu hdepth hparent htakes
    rw [origin?_of_not_parent hparent, hurl]
    exact ⟨hfaithful, _, rfl, hmatches⟩

/-! ### Requests -/

/-- A store in which a chain has not been used is true to itself. -/
lemma faithful_of_fresh (hs : s.Fresh loader) (hg : s.Genuine) : s.Faithful loader s := by
  refine ⟨rfl, hs.undisturbed, hg, fun _ _ _ => Handler.alike_refl _, ?_⟩
  intro depth layer parent hlayer name c hc
  rw [hs.classes layer (mem_layers_of_ancestor hlayer) name] at hc
  cases hc

/-- A store stays faithful in a request. -/
lemma Serves.faithful (h : loader.Serves s t) (hids : loader.ids.Nodup)
    (hu : loader.Unambiguous start.files) (hend : ∀ depth id, loader.ancestor depth ≠ .failing id)
    (hs : s.Faithful loader start) : t.Faithful loader start := by
  cases h with
  | looked hlooks => exact hs.of_looks hu hlooks
  | packaged _ _ hq => exact (hs.of_looks hu (.of_quiet hq)).withPackage _ _ _
  | found hfinds => exact (hfinds.faithful hids hu hend rfl hs).1
  | read hfinds hyields =>
    have ht := (hfinds.faithful hids hu hend rfl hs).1
    exact ht.of_opens hu (hyields.opens _) (hyields.undisturbed ht.undisturbed) hyields.classOf

/-- A store stays faithful in a run of requests. -/
lemma run_faithful (requests : List Request) (hl : loader.Proper)
    (hu : loader.Unambiguous start.files) (hend : ∀ depth id, loader.ancestor depth ≠ .failing id)
    (hs : s.Faithful loader start) :
    (loader.run (requests.map .ask) s).Faithful loader start := by
  induction requests generalizing s with
  | nil => exact hs
  | cons request requests ih =>
    exact ih ((request.serves hl hs.undisturbed).faithful hl.nodup_ids hu hend hs)

/-! ### What is found is what a resource lookup reports -/

/-- An archived origin is that of a layer of the chain, at the first url that has the class. -/
lemma of_origin?_archived {layer : Layer} {url : Url}
    (h : loader.origin? s name = some (.archived layer url)) :
    layer ∈ loader.layers ∧ layer.urls.find? (layer.has s name) = some url := by
  induction loader with
  | absent | failing => cases h
  | builtin id classes =>
    rw [origin?_builtin, Option.map_eq_some_iff] at h
    obtain ⟨_, _, h⟩ := h
    cases h
  | isolated top parent ih =>
    cases hparent : parent.origin? s name with
    | some o =>
      rw [origin?_of_parent hparent] at h
      cases h
      obtain ⟨hmem, hurl⟩ := ih hparent
      exact ⟨.tail _ hmem, hurl⟩
    | none =>
      rw [origin?_of_not_parent hparent, Option.map_eq_some_iff] at h
      obtain ⟨v, hv, h⟩ := h
      cases h
      exact ⟨.head _, hv⟩

/-- There is no origin just if no loader of the chain has the class. -/
lemma origin?_eq_none_iff : loader.origin? s name = none ↔
    ∀ more, (loader.ancestor more).own? s name = none := by
  induction loader with
  | absent => exact ⟨fun _ more => by rw [ancestor_absent]; rfl, fun _ => rfl⟩
  | builtin | failing =>
    refine ⟨fun h more => ?_, fun h => h 0⟩
    cases more with
    | zero => exact h
    | succ more =>
      show (ancestor more absent).own? s name = none
      rw [ancestor_absent]
      rfl
  | isolated layer parent ih =>
    rw [origin?, Option.or_eq_none_iff, ih]
    refine ⟨fun h more => ?_, fun h => ⟨fun more => h (more + 1), h 0⟩⟩
    cases more with
    | zero => exact h.2
    | succ more => exact h.1 more

/-- The archive that a class of a layer comes from is the one that a resource lookup reports. -/
lemma findResource?_of_held (hu : loader.Unambiguous start.files) (hs : s.Faithful loader start)
    {layer : Layer} (hlayer : layer ∈ loader.layers) (parent : Loader) {url : Url} {a : Archive}
    (hurl : layer.urls.find? (layer.has start name) = some url)
    (ha : (s.held layer.handler).get? url.key = some a) :
    ((Loader.isolated layer parent).findResource? (Entry.ofClass name) s).1 =
      some ⟨a, Entry.ofClass name⟩ := by
  have hreach : ∀ url ∈ layer.urls, loader.reach layer.handler url :=
    fun url hurl => ⟨layer, hlayer, rfl, hurl⟩
  have hfst : (Handler.first? s.files (s.bodies layer.handler)
      (Body.item? (Entry.ofClass name) s.files) layer.urls).map Prod.fst = some url := by
    rw [Handler.first?_fst, ← hurl]
    · exact List.find?_congr fun v hv => hs.has_eq (hreach v hv) name
    · exact fun a b h => h.item? _
    · intro u hu' v hv
      rw [hs.files]
      exact hu _ u v (hreach u hu') (hreach v hv)
  obtain ⟨t, hlooks, hsearch⟩ := Layer.search_spec (Layer.visits_resourceIn (Entry.ofClass name))
    layer (fun _ h => h) hs.undisturbed
  split at hsearch
  · rename_i v entry hfirst
    rw [hfirst] at hfst
    cases hfst
    obtain ⟨-, b, hb, -, hrun⟩ := hsearch
    rw [hlooks.opens.get?_of_get? ha] at hb
    cases hb
    show (layer.search _ layer.urls s).1 = _
    rw [hrun]
  · rename_i hfirst
    rw [hfirst] at hfst
    cases hfst

end Loader

/-! ### Independence of history -/

/-- Two classes come from the same: both are builtin with one entry point, or both come from one
entry of like archives at one url. -/
inductive Class.Source.Alike (files : FileSystem) : Class.Source → Class.Source → Prop where
  | builtin (main : Option EntryPoint) : Alike files (.builtin main) (.builtin main)
  | archived {url : Url} {a b : Archive} {entry : String} : a.body.Alike files b.body →
      Alike files (.archived url a entry) (.archived url b entry)

/-- Two results of loading are the same, up to the number of the archive and to the package, which
is defined by others, too. -/
inductive Loader.SameResult (files : FileSystem) :
    Except LoaderError Class → Except LoaderError Class → Prop where
  | ok {c d : Class} : c.name = d.name → c.definer = d.definer → c.source.Alike files d.source →
      SameResult files (.ok c) (.ok d)
  | error (cause : LoaderError) : SameResult files (.error cause) (.error cause)

namespace Loader

variable {loader : Loader} {s t u : Store} {name : String}

/-- Results that are right for one origin are the same. -/
lemma Answers.same {r r' : Except LoaderError Class} {x : Option Origin}
    (h : Answers s t name r x) (h' : Answers s u name r' x)
    (hbuiltin : ∀ c, x = some (.builtin c) → ∃ main, c.source = .builtin main) :
    SameResult s.files r r' := by
  cases x with
  | none =>
    cases h
    cases h'
    exact .error _
  | some o =>
    obtain ⟨c, rfl, hc⟩ := h
    obtain ⟨d, rfl, hd⟩ := h'
    cases o with
    | builtin e =>
      obtain ⟨main, hmain⟩ := hbuiltin e rfl
      cases hc
      cases hd
      refine .ok rfl rfl ?_
      rw [hmain]
      exact .builtin main
    | archived layer url =>
      obtain ⟨hname, hdef, a, body, hsource, -, hopens, halike⟩ := hc
      obtain ⟨hname', hdef', b, body', hsource', -, hopens', halike'⟩ := hd
      rw [hopens] at hopens'
      cases hopens'
      refine .ok (hname.trans hname'.symm) (hdef.trans hdef'.symm) ?_
      rw [hsource, hsource']
      exact .archived (halike.trans halike'.symm)

/-- A builtin origin is a builtin class. -/
lemma Proper.of_origin?_builtin (hl : loader.Proper) {c : Class}
    (h : loader.origin? s name = some (.builtin c)) : ∃ main, c.source = .builtin main := by
  induction loader with
  | absent | failing => cases h
  | builtin id classes =>
    rw [origin?_builtin, Option.map_eq_some_iff] at h
    obtain ⟨d, hd, h⟩ := h
    cases h
    obtain ⟨main, rfl⟩ := hl.isBuiltin 0 id classes rfl name c hd
    exact ⟨main, rfl⟩
  | isolated layer parent ih =>
    cases hparent : parent.origin? s name with
    | some o =>
      rw [origin?_of_parent hparent] at h
      cases h
      exact ih hl.parent hparent
    | none =>
      rw [origin?_of_not_parent hparent, Option.map_eq_some_iff] at h
      obtain ⟨_, _, h⟩ := h
      cases h

/-- After any requests on a chain, as long as urls that count as one lead to the same thing:
loading a class gives the same as if nothing had been asked before.  It gives the class of the
outermost loader that has it, and for a layer this is the class of the archive that a lookup of its
entry reports, at the first url that opens and has the entry.  It fails just if no loader has the
class, and then the class is not found. -/
theorem load_independent_of_history (hl : loader.Proper)
    (hend : ∀ depth id, loader.ancestor depth ≠ .failing id) (hs : s.Fresh loader)
    (hg : s.Genuine) (hu : loader.Unambiguous s.files) (requests : List Request) (depth : Nat)
    (name : String) :
    ∃ r t, (loader.ancestor depth).load name false (loader.run (requests.map .ask) s) = (r, t) ∧
      SameResult s.files r ((loader.ancestor depth).load name false s).1 ∧
      (match (loader.ancestor depth).origin? s name with
        | none => r = .error (.classNotFound name)
        | some (.builtin c) => r = .ok c
        | some (.archived layer url) => ∃ c a, r = .ok c ∧ c.name = name ∧ c.definer = layer.id ∧
            c.source = .archived url a (Entry.ofClass name) ∧
            layer.urls.find? (layer.has s name) = some url ∧
            ∀ parent, ((Loader.isolated layer parent).findResource? (Entry.ofClass name) t).1 =
              some ⟨a, Entry.ofClass name⟩) ∧
      ((∃ cause, r = .error cause) ↔
        ∀ more, ((loader.ancestor depth).ancestor more).own? s name = none) := by
  have hstart := faithful_of_fresh hs hg
  have hids := (hl.ancestor depth).nodup_ids
  have hfaithful := run_faithful requests hl hu hend hstart
  obtain ⟨r₀, t₀, hrun₀, hfinds₀⟩ := finds_find name hids hs.undisturbed
  obtain ⟨r, t, hrun, hfinds⟩ := finds_find name hids hfaithful.undisturbed
  obtain ⟨-, hanswers₀⟩ := hfinds₀.faithful hl.nodup_ids hu hend rfl hstart
  obtain ⟨ht, hanswers⟩ := hfinds.faithful hl.nodup_ids hu hend rfl hfaithful
  refine ⟨r, t, by rw [load_false, hrun], ?_, ?_, ?_⟩
  · rw [load_false, hrun₀]
    exact hanswers.same hanswers₀ fun c => (hl.ancestor depth).of_origin?_builtin
  · cases horigin : (loader.ancestor depth).origin? s name with
    | none =>
      rw [horigin] at hanswers
      exact hanswers
    | some o =>
      rw [horigin] at hanswers
      obtain ⟨c, hc, hmatches⟩ := hanswers
      cases o with
      | builtin d => rw [hc, hmatches]
      | archived layer url =>
        obtain ⟨hname, hdef, a, body, hsource, ha, -, -⟩ := hmatches
        obtain ⟨hmem, hurl⟩ := of_origin?_archived horigin
        exact ⟨c, a, hc, hname, hdef, hsource, hurl, fun parent =>
          findResource?_of_held hu ht (layers_ancestor depth loader hmem) parent hurl ha⟩
  · rw [← origin?_eq_none_iff]
    refine ⟨fun hfailed => ?_, fun hnone => ?_⟩
    · obtain ⟨cause, hcause⟩ := hfailed
      rw [hcause] at hanswers
      exact hanswers.of_error.1
    · rw [hnone] at hanswers
      exact ⟨_, hanswers⟩

/-- The urls of the small chain are unambiguous: each is written in one way. -/
lemma unambiguous_sampleChain : sampleChain.Unambiguous sampleFiles := by
  have hurls : ∀ handler url, sampleChain.reach handler url →
      url = .packaged ⟨"lib.jar"⟩ [] ∨ url = .directory ⟨"d"⟩ := by
    rintro handler url ⟨layer, hlayer, -, hurl⟩
    rcases hlayer with _ | ⟨_, _ | ⟨_, hnil⟩⟩
    · rcases hurl with _ | ⟨_, _ | ⟨_, hnil⟩⟩
      · exact .inl rfl
      · exact .inr rfl
      · cases hnil
    · rcases hurl with _ | ⟨_, hnil⟩
      · exact .inr rfl
      · cases hnil
    · cases hnil
  intro handler u v hu hv
  rcases hurls handler u hu with rfl | rfl <;> rcases hurls handler v hv with rfl | rfl
  · exact .refl _ _
  · exact trivial
  · exact trivial
  · exact .refl _ _

/-- The small chain gives its class after it has been asked for others. -/
theorem load_independent_of_history_sampleChain :
    ∃ r t, sampleChain.load "p.A" false (sampleChain.run
        ([.load 0 "p.B" false, .resources 1 "p/", .clearCache 0].map .ask) sampleStore) = (r, t) ∧
      SameResult sampleFiles r (sampleChain.load "p.A" false sampleStore).1 := by
  have hend : ∀ depth id, sampleChain.ancestor depth ≠ .failing id := by
    rintro (_ | _ | _ | depth) id h
    · cases h
    · cases h
    · cases h
    · cases (ancestor_absent depth).symm.trans h
  obtain ⟨r, t, hrun, hsame, -⟩ := load_independent_of_history proper_sampleChain hend
    (fresh_start _ _ _) (fun _ _ _ h => by cases h) unambiguous_sampleChain
    [.load 0 "p.B" false, .resources 1 "p/", .clearCache 0] 0 "p.A"
  exact ⟨r, t, hrun, hsame⟩

/-! ### Two spellings of one archive -/

/-- A library and a directory with a class of one name. -/
def spellingFiles : FileSystem where
  root := .directory (.cons "lib.jar" (.file (Tar.member "A.class" []))
    (.cons "d" (.directory (.cons "A.class" (.file []) .nil)) .nil))
  working := []

/-- A layer that opens the library under two spellings, of which the files take only the second. -/
def spellingChain : Loader :=
  .isolated ⟨1, [.packaged ⟨"lib.jar/"⟩ [], .directory ⟨"d"⟩, .packaged ⟨"lib.jar"⟩ []], 2⟩ .absent

/-- The url of the archive that something comes from. -/
def sourceUrl? : Class.Source → Option Url
  | .archived url _ _ => some url
  | .builtin _ => none

/-- The url of the archive that a class that has been loaded comes from. -/
def resultUrl? (r : Except LoaderError Class) : Option Url :=
  r.toOption.bind fun c => sourceUrl? c.source

/-- Results that are the same are from one url. -/
lemma SameResult.resultUrl? {files : FileSystem} {r r' : Except LoaderError Class}
    (h : SameResult files r r') : resultUrl? r = resultUrl? r' := by
  cases h with
  | error => rfl
  | @ok c d _ _ hsource =>
    show sourceUrl? c.source = sourceUrl? d.source
    generalize c.source = x at hsource
    generalize d.source = y at hsource
    cases hsource <;> rfl

/-- When urls that count as one lead to different things, loading a class can depend on what has
been asked before: here on a class that no archive has. -/
theorem load_depends_on_history :
    spellingChain.Proper ∧ (Store.start spellingFiles 3).Fresh spellingChain ∧
      (Store.start spellingFiles 3).Genuine ∧
      ¬SameResult spellingFiles
        (spellingChain.load "A" false
          (spellingChain.run [.ask (.load 0 "Missing" false)] (.start spellingFiles 3))).1
        (spellingChain.load "A" false (.start spellingFiles 3)).1 := by
  refine ⟨.isolated ((proper_builtinClasses 0 []).ancestor 1) (by decide), fresh_start _ _ _,
    fun _ _ _ h => (by cases h), fun h => ?_⟩
  have hafter : resultUrl? (spellingChain.load "A" false
      (spellingChain.run [.ask (.load 0 "Missing" false)] (.start spellingFiles 3))).1 =
        some (.packaged ⟨"lib.jar/"⟩ []) := by
    decide +kernel
  have hfresh : resultUrl? (spellingChain.load "A" false (.start spellingFiles 3)).1 =
      some (.directory ⟨"d"⟩) := by
    decide +kernel
  rw [h.resultUrl?, hfresh] at hafter
  cases hafter

end Loader

end AppLauncher
