import AppLauncher.Loader.Lookup
import AppLauncher.Proofs.Handler.Opening

/-!
# Looking through the urls of a layer

A lookup opens urls in order and asks each archive once.  Two things are said about it.

*What it does.*  Whatever is looked up, all that happens is that archives are opened at the urls of
the layer (`Store.Looks`).  An invariant of what handlers hold is shown for a single opening, and
holds for lookups of all kinds then (`Store.Opens`).

*What it finds.*  `Handler.opened` lists the urls that open, in order, with the bodies found there;
each url is opened with what the ones before have left in the handler.  A search gives the answer of
the first of these bodies that has one (`Layer.search_spec`), a collection those of all of them
(`Layer.collect_spec`).
-/

namespace AppLauncher

open Archive (Body)

/-! ### What a lookup does -/

namespace Store

/-- Archives have been opened at urls that `reach` allows for each handler, and nothing else has
become of the handlers and the files. -/
inductive Opens (reach : Nat → Url → Prop) : Store → Store → Prop where
  | refl (s : Store) : Opens reach s s
  | same {s t u : Store} : Opens reach s t → u.files = t.files → u.handlers = t.handlers →
      Opens reach s u
  | opened {s t u : Store} {handler : Nat} {url : Url} {a : Archive} : Opens reach s t →
      reach handler url → Handler.opens? t.files (t.bodies handler) url = some a.body →
      t.Opened handler url a u → Opens reach s u

/-- What lookups do to a store: archives are opened, and all that loaders have defined and read is
kept. -/
structure Looks (reach : Nat → Url → Prop) (s t : Store) : Prop extends Keeps s t where
  manifests : t.manifests = s.manifests
  opens : Opens reach s t

/-- Archives that are packaged or exploded are all that handlers hold. -/
def Genuine (s : Store) : Prop :=
  ∀ handler key body, s.bodies handler key = some body → body.IsGenuine

variable {reach : Nat → Url → Prop} {s t u : Store}

/-- What is held depends on the handlers only. -/
lemma held_of_handlers (h : t.handlers = s.handlers) (handler : Nat) :
    t.held handler = s.held handler := by
  unfold Store.held
  rw [h]

/-- The bodies that are held depend on the handlers only. -/
lemma bodies_of_handlers (h : t.handlers = s.handlers) (handler : Nat) :
    t.bodies handler = s.bodies handler := by
  unfold Store.bodies
  rw [held_of_handlers h]

namespace Opens

/-- Opening goes on. -/
lemma trans (h : Opens reach s t) (g : Opens reach t u) : Opens reach s u := by
  induction g with
  | refl => exact h
  | same _ hfiles hhandlers ih => exact .same ih hfiles hhandlers
  | opened _ hr hopens ho ih => exact .opened ih hr hopens ho

/-- What may open fewer urls may open more. -/
lemma mono {reach' : Nat → Url → Prop} (hr : ∀ handler url, reach handler url → reach' handler url)
    (h : Opens reach s t) : Opens reach' s t := by
  induction h with
  | refl => exact .refl _
  | same _ hfiles hhandlers ih => exact .same ih hfiles hhandlers
  | opened _ hreach hopens ho ih => exact .opened ih (hr _ _ hreach) hopens ho

/-- No archive is let go of. -/
lemma get?_of_get? (h : Opens reach s t) {handler : Nat} {key : Url.Key} {a : Archive}
    (ha : (s.held handler).get? key = some a) : (t.held handler).get? key = some a := by
  induction h with
  | refl => exact ha
  | same _ _ hhandlers ih => rw [held_of_handlers hhandlers, ih]
  | opened _ _ _ ho ih => exact ho.get?_of_get? ih

/-- No scripts are opened. -/
lemma genuine (h : Opens reach s t) (hs : s.Genuine) : t.Genuine := by
  induction h with
  | refl => exact hs
  | same _ _ hhandlers ih =>
    intro handler key body hb
    rw [bodies_of_handlers hhandlers] at hb
    exact ih handler key body hb
  | @opened t u handler url a _ _ hopens ho ih =>
    intro h' key body hb
    rw [ho.bodies] at hb
    split at hb
    · cases hb
      exact Handler.isGenuine_of_opens? (ih handler) hopens
    · exact ih h' key body hb

end Opens

namespace Looks

/-- Nothing is looked up. -/
lemma refl (s : Store) : s.Looks reach s := ⟨.refl s, rfl, .refl s⟩

/-- A quiet computation is a lookup. -/
lemma of_quiet (h : s.Quiet t) : s.Looks reach t :=
  ⟨h.toKeeps, h.manifests, .same (.refl s) h.files h.handlers⟩

/-- Opening an archive is a lookup. -/
lemma of_opened {handler : Nat} {url : Url} {a : Archive} (hr : reach handler url)
    (hopens : Handler.opens? s.files (s.bodies handler) url = some a.body)
    (h : s.Opened handler url a t) : s.Looks reach t :=
  ⟨h.toKeeps, h.manifests, .opened (.refl s) hr hopens h⟩

/-- One lookup after the other is a lookup. -/
lemma trans (h : s.Looks reach t) (g : t.Looks reach u) : s.Looks reach u :=
  ⟨h.toKeeps.trans g.toKeeps, g.manifests.trans h.manifests, h.opens.trans g.opens⟩

/-- A lookup that is followed by a quiet computation is a lookup. -/
lemma quiet (h : s.Looks reach t) (hq : t.Quiet u) : s.Looks reach u := h.trans (of_quiet hq)

/-- A lookup that may open fewer urls is one that may open more. -/
lemma mono {reach' : Nat → Url → Prop} (hr : ∀ handler url, reach handler url → reach' handler url)
    (h : s.Looks reach t) : s.Looks reach' t :=
  ⟨h.toKeeps, h.manifests, h.opens.mono hr⟩

end Looks

end Store

/-- The urls that a layer opens, through its handler. -/
def Layer.reach (layer : Layer) (handler : Nat) (url : Url) : Prop :=
  handler = layer.handler ∧ url ∈ layer.urls

/-- The urls that the layers of a loader open. -/
def Loader.reach (loader : Loader) (handler : Nat) (url : Url) : Prop :=
  ∃ layer ∈ loader.layers, layer.reach handler url

/-- The urls of a layer are among those of its chain. -/
lemma Loader.reach_of_layer {layer : Layer} {parent : Loader} {handler : Nat} {url : Url}
    (h : layer.reach handler url) : (Loader.isolated layer parent).reach handler url :=
  ⟨layer, .head _, h⟩

/-- The urls of a chain are among those of a chain that has its layers. -/
lemma Loader.reach_of_layers {l loader : Loader} (hl : ∀ layer ∈ l.layers, layer ∈ loader.layers)
    {handler : Nat} {url : Url} (h : l.reach handler url) : loader.reach handler url := by
  obtain ⟨layer, hmem, hurl⟩ := h
  exact ⟨layer, hl layer hmem, hurl⟩

/-- The urls of a parent are among those of its child. -/
lemma Loader.reach_of_parent {layer : Layer} {parent : Loader} {handler : Nat} {url : Url}
    (h : parent.reach handler url) : (Loader.isolated layer parent).reach handler url := by
  refine reach_of_layers (fun above habove => ?_) h
  exact .tail _ habove

section

variable {layer : Layer} {parent : Loader} {s t : Store}

/-- What is opened for a layer is opened for its chain. -/
lemma Store.Opens.of_layer (h : Store.Opens layer.reach s t) :
    Store.Opens (Loader.isolated layer parent).reach s t :=
  h.mono fun _ _ => Loader.reach_of_layer

/-- What is opened for a parent is opened for its child. -/
lemma Store.Opens.of_parent (h : Store.Opens parent.reach s t) :
    Store.Opens (Loader.isolated layer parent).reach s t :=
  h.mono fun _ _ => Loader.reach_of_parent

/-- A lookup of a layer is one of its chain. -/
lemma Store.Looks.of_layer (h : s.Looks layer.reach t) :
    s.Looks (Loader.isolated layer parent).reach t :=
  h.mono fun _ _ => Loader.reach_of_layer

/-- A lookup of a parent is one of its child. -/
lemma Store.Looks.of_parent (h : s.Looks parent.reach t) :
    s.Looks (Loader.isolated layer parent).reach t :=
  h.mono fun _ _ => Loader.reach_of_parent

end

/-! ### The urls that open -/

namespace Handler

/-- The bodies held once a body has been opened at a url. -/
def holding (held : Url.Key → Option Body) (url : Url) (body : Body) (key : Url.Key) :
    Option Body :=
  if key = url.key then some body else held key

/-- The urls of a list that open one after the other, each with the body found there. -/
def opened (files : FileSystem) : (Url.Key → Option Body) → List Url → List (Url × Body)
  | _, [] => []
  | held, url :: urls =>
    match opens? files held url with
    | none => opened files held urls
    | some body => (url, body) :: opened files (holding held url body) urls

/-- The first of the urls that open at which a body has an answer, and the answer. -/
def first? {β : Type} (files : FileSystem) (held : Url.Key → Option Body)
    (answer : Body → Option β) (urls : List Url) : Option (Url × β) :=
  (opened files held urls).findSome? fun (url, body) => (answer body).map fun b => (url, b)

/-- All of the urls that open to a body with an answer, each with the answer. -/
def answers {β : Type} (files : FileSystem) (held : Url.Key → Option Body)
    (answer : Body → Option β) (urls : List Url) : List (Url × β) :=
  (opened files held urls).filterMap fun (url, body) => (answer body).map fun b => (url, b)

section First

variable {β : Type} {files : FileSystem} {held : Url.Key → Option Body}
  {answer : Body → Option β} {url : Url} {urls : List Url} {body : Body} {b : β}

/-- A url that does not open is passed over. -/
lemma first?_cons_of_closed (h : opens? files held url = none) :
    first? files held answer (url :: urls) = first? files held answer urls := by
  unfold first?
  rw [opened, h]

/-- A url whose body has no answer is passed over, but the body stays open. -/
lemma first?_cons_of_none (h : opens? files held url = some body) (ha : answer body = none) :
    first? files held answer (url :: urls) =
      first? files (holding held url body) answer urls := by
  unfold first?
  rw [opened, h]
  dsimp only
  rw [List.findSome?_cons, ha]
  rfl

/-- The search ends at a url whose body has an answer. -/
lemma first?_cons_of_some (h : opens? files held url = some body) (ha : answer body = some b) :
    first? files held answer (url :: urls) = some (url, b) := by
  unfold first?
  rw [opened, h]
  dsimp only
  rw [List.findSome?_cons, ha]
  rfl

/-- The first answer is the first of all answers. -/
lemma head?_answers : (answers files held answer urls).head? = first? files held answer urls :=
  List.head?_filterMap

/-- A url that does not open has no answer. -/
lemma answers_cons_of_closed (h : opens? files held url = none) :
    answers files held answer (url :: urls) = answers files held answer urls := by
  unfold answers
  rw [opened, h]

/-- A url that opens has the answer of its body, and its body stays open. -/
lemma answers_cons_of_opened (h : opens? files held url = some body) :
    answers files held answer (url :: urls) =
      ((answer body).map fun b => (url, b)).toList ++
        answers files (holding held url body) answer urls := by
  unfold answers
  rw [opened, h]
  dsimp only
  rw [List.filterMap_cons]
  cases answer body <;> rfl

/-- A search finds something when one of its urls is held with a body that has an answer. -/
lemma first?_ne_none_of_held (hurl : url ∈ urls) (hheld : held url.key = some body)
    (ha : (answer body).isSome) : first? files held answer urls ≠ none := by
  induction urls generalizing held with
  | nil => cases hurl
  | cons url' urls ih =>
    cases hopens : opens? files held url' with
    | none =>
      rw [first?_cons_of_closed hopens]
      rcases hurl with _ | ⟨_, hurl⟩
      · rw [opens?_of_held hheld] at hopens
        cases hopens
      · exact ih hurl hheld
    | some body' =>
      cases ha' : answer body' with
      | some b =>
        rw [first?_cons_of_some hopens ha']
        intro h
        cases h
      | none =>
        rw [first?_cons_of_none hopens ha']
        -- the url is not among those that have just been opened: these have no answer
        have hkey : url.key ≠ url'.key := by
          intro hkey
          rw [opens?_of_held (hkey ▸ hheld)] at hopens
          cases hopens
          rw [ha'] at ha
          cases ha
        rcases hurl with _ | ⟨_, hurl⟩
        · exact absurd rfl hkey
        · refine ih hurl ?_
          unfold holding
          rw [if_neg hkey, hheld]

end First

end Handler

/-! ### What a lookup finds -/

namespace Layer

variable {α β : Type}

/-- The bodies that a handler holds after one of them has been opened. -/
lemma bodies_of_opened {handler : Nat} {url : Url} {a : Archive} {s t : Store}
    (h : s.Opened handler url a t) :
    t.bodies handler = Handler.holding (s.bodies handler) url a.body := by
  funext key
  rw [h.bodies]
  unfold Handler.holding
  by_cases hk : key = url.key
  · rw [if_pos ⟨rfl, hk⟩, if_pos hk]
  · rw [if_neg fun h => hk h.2, if_neg hk]

/-- A url is connected to as `opens?` says, or passed over. -/
lemma connect?_spec (layer : Layer) (note : String) (url : Url) (s : Store) :
    match Handler.opens? s.files (s.bodies layer.handler) url with
    | some body => ∃ a t, layer.connect? note url s = (some ⟨url, a⟩, t) ∧ a.body = body ∧
        s.Opened layer.handler url a t
    | none => ∃ t, layer.connect? note url s = (none, t) ∧ s.Quiet t := by
  have h := Handler.connect_quick_spec layer.handler url s
  unfold connect?
  rw [Action.run_bind, Attempt.run_run]
  split
  · rename_i body hbody
    rw [hbody] at h
    obtain ⟨a, t, ht, hb, ho⟩ := h
    rw [ht]
    exact ⟨a, t, rfl, hb, ho⟩
  · rename_i hbody
    rw [hbody] at h
    obtain ⟨t, ht, hq⟩ := h
    rw [ht]
    exact ⟨_, rfl, hq.trans (Store.quiet_log _ _ _ _ t)⟩

/-- Connecting to a url of the layer is a lookup. -/
lemma connect?_looks (layer : Layer) (note : String) {url : Url} (hurl : url ∈ layer.urls)
    (s : Store) : s.Looks layer.reach (layer.connect? note url s).2 := by
  have h := layer.connect?_spec note url s
  split at h
  · rename_i body hbody
    obtain ⟨a, t, ht, rfl, ho⟩ := h
    rw [ht]
    exact .of_opened ⟨rfl, hurl⟩ hbody ho
  · obtain ⟨t, ht, hq⟩ := h
    rw [ht]
    exact .of_quiet hq

/-- One step of a lookup: a url is connected to, and its archive visited. -/
def probe (layer : Layer) (visit : Connection → Action (Option α)) (url : Url) :
    Action (Option α) := do
  match ← layer.connect? passedOver url with
  | none => return none
  | some connection => visit connection

/-- A search goes on as long as the steps have no answer. -/
lemma run_search_cons (layer : Layer) (visit : Connection → Action (Option α)) (url : Url)
    (urls : List Url) (s : Store) :
    layer.search visit (url :: urls) s =
      match layer.probe visit url s with
      | (some x, t) => (some x, t)
      | (none, t) => layer.search visit urls t := by
  rw [search, probe, Action.run_bind, Action.run_bind]
  rcases layer.connect? passedOver url s with ⟨_ | connection, t⟩
  · rfl
  · dsimp only
    rw [Action.run_bind]
    rcases visit connection t with ⟨_ | x, u⟩ <;> rfl

/-- A collection goes through all steps. -/
lemma run_collect_cons (layer : Layer) (visit : Connection → Action (Option α)) (url : Url)
    (urls : List Url) (s : Store) :
    layer.collect visit (url :: urls) s =
      ((layer.probe visit url s).1.toList ++
          (layer.collect visit urls (layer.probe visit url s).2).1,
        (layer.collect visit urls (layer.probe visit url s).2).2) := by
  rw [collect, probe, Action.run_bind, Action.run_bind]
  rcases layer.connect? passedOver url s with ⟨_ | connection, t⟩ <;> rfl

/-- A visit that asks the body of the archive: it gives what `result` makes of the answer, and is
quiet. -/
def Visits (visit : Connection → Action (Option α)) (answer : FileSystem → Body → Option β)
    (result : Connection → β → α) : Prop :=
  ∀ c s, s.Undisturbed →
    ∃ t, visit c s = ((answer s.files c.archive.body).map (result c), t) ∧ s.Quiet t

variable {visit : Connection → Action (Option α)} {answer : FileSystem → Body → Option β}
  {result : Connection → β → α}

/-- A step of a lookup visits what the url opens. -/
lemma probe_spec (hv : Visits visit answer result) (layer : Layer) (url : Url) {s : Store}
    (hs : s.Undisturbed) :
    match Handler.opens? s.files (s.bodies layer.handler) url with
    | some body => ∃ a t u, a.body = body ∧ s.Opened layer.handler url a t ∧ t.Quiet u ∧
        layer.probe visit url s = ((answer s.files body).map (result ⟨url, a⟩), u)
    | none => ∃ t, layer.probe visit url s = (none, t) ∧ s.Quiet t := by
  have h := layer.connect?_spec passedOver url s
  unfold probe
  rw [Action.run_bind]
  split
  · rename_i body hbody
    rw [hbody] at h
    obtain ⟨a, t, ht, rfl, ho⟩ := h
    obtain ⟨u, hu, hq⟩ := hv ⟨url, a⟩ t (ho.undisturbed hs)
    refine ⟨a, t, u, rfl, ho, hq, ?_⟩
    rw [ht]
    dsimp only
    rw [hu, ho.files]
  · rename_i hbody
    rw [hbody] at h
    obtain ⟨t, ht, hq⟩ := h
    rw [ht]
    exact ⟨t, rfl, hq⟩

/-- A step at a url of the layer is a lookup. -/
lemma probe_looks (hv : Visits visit answer result) (layer : Layer) {url : Url}
    (hurl : url ∈ layer.urls) {s : Store} (hs : s.Undisturbed) :
    s.Looks layer.reach (layer.probe visit url s).2 := by
  have h := probe_spec hv layer url hs
  split at h
  · rename_i body hbody
    obtain ⟨a, t, u, rfl, ho, hq, hp⟩ := h
    rw [hp]
    exact (Store.Looks.of_opened ⟨rfl, hurl⟩ hbody ho).quiet hq
  · obtain ⟨t, hp, hq⟩ := h
    rw [hp]
    exact .of_quiet hq

/-- A search gives the answer of the first url that opens and has one.  The archive there is held
afterwards. -/
lemma search_spec (hv : Visits visit answer result) (layer : Layer) {urls : List Url}
    (hurls : ∀ url ∈ urls, url ∈ layer.urls) {s : Store} (hs : s.Undisturbed) :
    ∃ t, s.Looks layer.reach t ∧
      match Handler.first? s.files (s.bodies layer.handler) (answer s.files) urls with
      | some (url, b) => url ∈ urls ∧ ∃ a, (t.held layer.handler).get? url.key = some a ∧
          answer s.files a.body = some b ∧
          layer.search visit urls s = (some (result ⟨url, a⟩ b), t)
      | none => layer.search visit urls s = (none, t) := by
  induction urls generalizing s with
  | nil => exact ⟨s, .refl s, rfl⟩
  | cons url urls ih =>
    have htail : ∀ url' ∈ urls, url' ∈ layer.urls := fun url' h => hurls url' (.tail _ h)
    have hlooks := probe_looks hv layer (hurls url (.head _)) hs
    have hp := probe_spec hv layer url hs
    rw [run_search_cons]
    split at hp
    · rename_i body hbody
      obtain ⟨a, t, u, rfl, ho, hq, hprobe⟩ := hp
      rw [hprobe] at hlooks ⊢
      cases ha : answer s.files a.body with
      | some b =>
        rw [Handler.first?_cons_of_some hbody ha]
        refine ⟨u, hlooks, .head _, a, ?_, ha, rfl⟩
        rw [hq.held, ho.get?_self]
      | none =>
        obtain ⟨v, hv', hfound⟩ := ih htail (hlooks.undisturbed hs)
        have hbodies : u.bodies layer.handler =
            Handler.holding (s.bodies layer.handler) url a.body := by
          rw [hq.bodies, bodies_of_opened ho]
        rw [hlooks.files, hbodies] at hfound
        rw [Handler.first?_cons_of_none hbody ha]
        refine ⟨v, hlooks.trans hv', ?_⟩
        split at hfound
        · exact ⟨.tail _ hfound.1, hfound.2⟩
        · exact hfound
    · rename_i hbody
      obtain ⟨t, hprobe, hq⟩ := hp
      rw [hprobe] at hlooks ⊢
      obtain ⟨v, hv', hfound⟩ := ih htail (hlooks.undisturbed hs)
      rw [hlooks.files, hq.bodies] at hfound
      rw [Handler.first?_cons_of_closed hbody]
      refine ⟨v, hlooks.trans hv', ?_⟩
      split at hfound
      · exact ⟨.tail _ hfound.1, hfound.2⟩
      · exact hfound

/-- A search is a lookup. -/
lemma search_looks (hv : Visits visit answer result) (layer : Layer) {urls : List Url}
    (hurls : ∀ url ∈ urls, url ∈ layer.urls) {s : Store} (hs : s.Undisturbed) :
    s.Looks layer.reach (layer.search visit urls s).2 := by
  obtain ⟨t, hlooks, h⟩ := search_spec hv layer hurls hs
  split at h
  · obtain ⟨-, a, -, -, hrun⟩ := h
    rw [hrun]
    exact hlooks
  · rw [h]
    exact hlooks

/-- A collection is a lookup. -/
lemma collect_looks (hv : Visits visit answer result) (layer : Layer) {urls : List Url}
    (hurls : ∀ url ∈ urls, url ∈ layer.urls) {s : Store} (hs : s.Undisturbed) :
    s.Looks layer.reach (layer.collect visit urls s).2 := by
  induction urls generalizing s with
  | nil => exact .refl s
  | cons url urls ih =>
    have hlooks := probe_looks hv layer (hurls url (.head _)) hs
    rw [run_collect_cons]
    exact hlooks.trans
      (ih (fun url' h => hurls url' (.tail _ h)) (hlooks.undisturbed hs))

/-- A collection gives the answers of all urls that open and have one, in order.  The archives there
are held afterwards. -/
lemma collect_spec (hv : Visits visit answer result) (layer : Layer) {urls : List Url}
    (hurls : ∀ url ∈ urls, url ∈ layer.urls) {s : Store} (hs : s.Undisturbed) :
    ∃ found t, layer.collect visit urls s = (found, t) ∧ s.Looks layer.reach t ∧
      List.Forall₂ (fun x (p : Url × β) => ∃ a, (t.held layer.handler).get? p.1.key = some a ∧
          answer s.files a.body = some p.2 ∧ x = result ⟨p.1, a⟩ p.2)
        found (Handler.answers s.files (s.bodies layer.handler) (answer s.files) urls) := by
  induction urls generalizing s with
  | nil => exact ⟨[], s, rfl, .refl s, .nil⟩
  | cons url urls ih =>
    have htail : ∀ url' ∈ urls, url' ∈ layer.urls := fun url' h => hurls url' (.tail _ h)
    have hlooks := probe_looks hv layer (hurls url (.head _)) hs
    have hp := probe_spec hv layer url hs
    obtain ⟨found, v, hrun, hlater, hfound⟩ := ih htail (hlooks.undisturbed hs)
    rw [hlooks.files] at hfound
    refine ⟨_, v, by rw [run_collect_cons, hrun], hlooks.trans hlater, ?_⟩
    split at hp
    · rename_i body hbody
      obtain ⟨a, t, u, rfl, ho, hq, hprobe⟩ := hp
      rw [hprobe] at hfound hlater ⊢
      rw [hq.bodies, bodies_of_opened ho] at hfound
      rw [Handler.answers_cons_of_opened hbody]
      cases ha : answer s.files a.body with
      | none => exact hfound
      | some b =>
        refine .cons ⟨a, ?_, ha, rfl⟩ hfound
        have hheld : (u.held layer.handler).get? url.key = some a := by
          rw [hq.held, ho.get?_self]
        exact hlater.opens.get?_of_get? hheld
    · rename_i hbody
      obtain ⟨t, hprobe, hq⟩ := hp
      rw [hprobe] at hfound ⊢
      rw [hq.bodies] at hfound
      rw [Handler.answers_cons_of_closed hbody]
      exact hfound

/-- A search gives the first of the answers that a collection gives.  When there is none, both have
gone through all urls. -/
lemma search_eq_head? (layer : Layer) (visit : Connection → Action (Option α)) (urls : List Url)
    (s : Store) :
    (layer.search visit urls s).1 = (layer.collect visit urls s).1.head? ∧
      ((layer.search visit urls s).1 = none →
        (layer.search visit urls s).2 = (layer.collect visit urls s).2) := by
  induction urls generalizing s with
  | nil => exact ⟨rfl, fun _ => rfl⟩
  | cons url urls ih =>
    rw [run_search_cons, run_collect_cons]
    rcases layer.probe visit url s with ⟨_ | x, t⟩
    · exact ih t
    · exact ⟨rfl, fun h => by cases h⟩

end Layer

end AppLauncher
