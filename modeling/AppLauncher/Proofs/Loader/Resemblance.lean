import AppLauncher.Proofs.Loader.Derivation

/-!
# Two runs side by side

Two stores that derive from one resemble each other if alike bodies can be used of the urls of a
chain, and the same has been defined and read (`Store.Resembles`).  What the handlers hold may
differ: one of the stores can have opened urls of which nothing can be used, or the same urls in
another order.

A step of a lookup on both stores gives the same answer on both, and stores that resemble each other
again (`Layer.probe_resembles`); so does a search, and the urls of one side may be padded with urls
of which nothing can ever be used (`Layer.search_resembles`, `Layer.collect_resembles`): connecting
to these is idle.
-/

namespace AppLauncher

open Archive (Body)

/-! ### Stores that resemble each other -/

/-- What is related on two sides, or missing on both, is related the other way round. -/
lemma optionRel_symm {α β : Type} {r : α → β → Prop} {q : β → α → Prop}
    (h : ∀ a b, r a b → q b a) {x : Option α} {y : Option β} (hxy : Option.Rel r x y) :
    Option.Rel q y x := by
  cases hxy with
  | none => exact .none
  | some hab => exact .some (h _ _ hab)

/-- What is related on two sides, or missing on both, is so in a wider relation. -/
lemma optionRel_mono {α β : Type} {r q : α → β → Prop} (h : ∀ a b, r a b → q a b) {x : Option α}
    {y : Option β} (hxy : Option.Rel r x y) : Option.Rel q x y := by
  cases hxy with
  | none => exact .none
  | some hab => exact .some (h _ _ hab)

namespace Class

variable {k : Closeness} {files : FileSystem} {c d : Class}

/-- A class comes from the same as itself. -/
lemma Source.Like.refl (source : Source) : Source.Like k files source source := by
  cases source with
  | builtin main => exact .builtin main
  | archived url archive entry => exact .archived (.refl _)

/-- Coming from the same is symmetric. -/
lemma Source.Like.symm {x y : Source} (h : Source.Like k files x y) : Source.Like k files y x := by
  cases h with
  | builtin main => exact .builtin main
  | archived h => exact .archived h.symm

/-- A class is like itself. -/
lemma Alike.refl (c : Class) : c.Alike k files c := ⟨rfl, rfl, rfl, .refl _⟩

/-- Likeness of classes is symmetric. -/
lemma Alike.symm (h : c.Alike k files d) : d.Alike k files c :=
  ⟨h.name.symm, h.definer.symm, h.package.symm, h.source.symm⟩

end Class

namespace Store

/-- Of each url alike can be used in both stores, and the same has been defined and read; compared
closely, both stores hold the same bodies that can be read. -/
structure Resembles (k : Closeness) (reach : Nat → Url → Prop) (start s t : Store) : Prop where
  left : start.Derives reach s
  right : start.Derives reach t
  usable : ∀ handler url, reach handler url →
    Option.Rel (Body.Like k start.files) (s.usable? handler url) (t.usable? handler url)
  readable : k = .same → ∀ handler key, s.readable? handler key = t.readable? handler key
  packages : ∀ id, (s.definitions id).packages = (t.definitions id).packages
  classes : ∀ id name,
    Option.Rel (Class.Alike k start.files) (s.classOf id name) (t.classOf id name)
  contents : s.contents = t.contents

/-- Two stores hold archives with alike bodies under a url. -/
structure HoldAlike (k : Closeness) (files : FileSystem) (handler : Nat) (url : Url) (s t : Store)
    (a b : Archive) : Prop where
  left : (s.held handler).get? url.key = some a
  right : (t.held handler).get? url.key = some b
  alike : a.body.Like k files b.body

namespace Resembles

variable {k : Closeness} {reach : Nat → Url → Prop} {start s t s' t' : Store}

/-- A store resembles itself. -/
lemma refl (h : start.Derives reach s) : Resembles k reach start s s := by
  refine ⟨h, h, fun _ _ _ => Body.Like.option_refl _, fun _ _ _ => rfl, fun _ => rfl,
    fun id name => ?_, rfl⟩
  cases s.classOf id name with
  | none => exact .none
  | some c => exact .some (.refl c)

/-- Resemblance is symmetric. -/
lemma symm (h : Resembles k reach start s t) : Resembles k reach start t s :=
  ⟨h.right, h.left,
    fun handler url hurl => optionRel_symm (fun _ _ => .symm) (h.usable handler url hurl),
    fun hk handler key => (h.readable hk handler key).symm, fun id => (h.packages id).symm,
    fun id name => optionRel_symm (fun _ _ => .symm) (h.classes id name), h.contents.symm⟩

/-- Layers have the same packages. -/
lemma packageOf (h : Resembles k reach start s t) (id : Nat) (name : String) :
    s.packageOf id name = t.packageOf id name := by
  unfold Store.packageOf
  rw [h.packages]

/-- Something can be used of a url of the chain in both stores, or in neither. -/
lemma usable_cases (h : Resembles k reach start s t) {handler : Nat} {url : Url}
    (hurl : reach handler url) :
    (s.usable? handler url = none ∧ t.usable? handler url = none) ∨
      ∃ a b, s.usable? handler url = some a ∧ t.usable? handler url = some b ∧
        a.Like k start.files b := by
  have hrel := h.usable handler url hurl
  generalize s.usable? handler url = x at hrel ⊢
  generalize t.usable? handler url = y at hrel ⊢
  cases hrel with
  | none => exact .inl ⟨rfl, rfl⟩
  | some hab => exact .inr ⟨_, _, rfl, rfl, hab⟩

/-- Stores that keep what has been defined and read still agree on it. -/
lemma keeps (h : Resembles k reach start s t) (hs : s.Keeps s') (ht : t.Keeps t')
    (hs' : start.Derives reach s') (ht' : start.Derives reach t')
    (husable : ∀ handler url, reach handler url →
      Option.Rel (Body.Like k start.files) (s'.usable? handler url) (t'.usable? handler url))
    (hreadable : k = .same → ∀ handler key,
      s'.readable? handler key = t'.readable? handler key) :
    Resembles k reach start s' t' := by
  refine ⟨hs', ht', husable, hreadable, fun id => ?_, fun id name => ?_, ?_⟩
  · unfold Store.definitions
    rw [hs.loaders, ht.loaders]
    exact h.packages id
  · rw [hs.classOf, ht.classOf]
    exact h.classes id name
  · rw [hs.contents, ht.contents, h.contents]

/-- Stores resemble each other when the first one has been idle. -/
lemma idle_left (h : Resembles k reach start s t) (hs : Idles k reach start s s') :
    Resembles k reach start s' t :=
  h.keeps hs.toKeeps (.refl t) hs.derives h.right
    (fun handler url hurl =>
      Body.Like.option_trans (hs.usable handler url hurl) (h.usable handler url hurl))
    fun hk handler key => (hs.readable hk handler key).trans (h.readable hk handler key)

/-- Stores resemble each other when the second one has been idle. -/
lemma idle_right (h : Resembles k reach start s t) (ht : Idles k reach start t t') :
    Resembles k reach start s t' :=
  (h.symm.idle_left ht).symm

/-- Stores resemble each other when both have been idle. -/
lemma idle (h : Resembles k reach start s t) (hs : Idles k reach start s s')
    (ht : Idles k reach start t t') : Resembles k reach start s' t' :=
  (h.idle_left hs).idle_right ht

/-- Stores resemble each other when alike archives have been opened in both under a url that can be
used. -/
lemma opened (h : Resembles k reach start s t) {handler : Nat} {url : Url} {a b : Archive}
    (ha : s.usable? handler url = some a.body) (hb : t.usable? handler url = some b.body)
    (hab : a.body.Like k start.files b.body) (hs : s.Opened handler url a s')
    (ht : t.Opened handler url b t') (hs' : start.Derives reach s') (ht' : start.Derives reach t') :
    Resembles k reach start s' t' := by
  have hother : ∀ {r r' : Store} {c : Archive}, r.Opened handler url c r' →
      ∀ {handler'}, handler' ≠ handler → r'.bodies handler' = r.bodies handler' := by
    intro r r' c ho handler' hne
    funext key
    rw [ho.bodies, if_neg fun h => hne h.1]
  have hreadable : k = .same → ∀ handler' key,
      s'.readable? handler' key = t'.readable? handler' key := by
    intro hk handler' key
    have hbefore := h.readable hk handler' key
    unfold readable? at hbefore ⊢
    by_cases heq : handler' = handler
    · subst heq
      rw [Layer.bodies_of_opened hs, Layer.bodies_of_opened ht, ← hab.2 hk]
      unfold Handler.holding
      split
      · rfl
      · exact hbefore
    · rw [hother hs heq, hother ht heq, hbefore]
  refine h.keeps hs.toKeeps ht.toKeeps hs' ht' (fun handler' v hv => ?_) hreadable
  cases k with
  | same =>
    rw [hs'.usable?_eq ht' (hreadable rfl handler')]
    exact Body.Like.option_refl _
  | respelled =>
    have hrel := optionRel_mono (fun _ _ => And.left) (h.usable handler' v hv)
    refine optionRel_mono (fun _ _ halike => ⟨halike, fun hk => by cases hk⟩) ?_
    unfold usable? at ha hb hrel ⊢
    rw [hs'.files, ht'.files]
    rw [h.left.files] at ha hrel
    rw [h.right.files] at hb hrel
    by_cases heq : handler' = handler
    · subst heq
      rw [Layer.bodies_of_opened hs, Layer.bodies_of_opened ht]
      exact (h.left.stems handler').usable?_holding (h.right.stems handler') ha hb hab.1 hrel
    · rw [hother hs heq, hother ht heq]
      exact hrel

end Resembles

namespace HoldAlike

variable {k : Closeness} {files : FileSystem} {handler : Nat} {url : Url} {s t s' t' : Store}
  {a b : Archive}

/-- Archives are held as long as handlers hold the same. -/
lemma reads (h : HoldAlike k files handler url s t a b) (hs : s.Reads s') (ht : t.Reads t') :
    HoldAlike k files handler url s' t' a b :=
  ⟨by rw [hs.held, h.left], by rw [ht.held, h.right], h.alike⟩

end HoldAlike

/-! ### Urls of which nothing can ever be used -/

/-- Nothing can be used of a url from the start: it does not open, or to what cannot be read.  The
same goes for those spellings of it that are reached, themselves or their artifacts. -/
def Broken (reach : Nat → Url → Prop) (start : Store) (handler : Nat) (url : Url) : Prop :=
  ∀ v : Url, v.key = url.key → v = url ∨ reach handler v ∨ reach handler v.root →
    start.usable? handler v = none

/-- Nothing can be used of a broken url later, either. -/
lemma Broken.not_usable {reach : Nat → Url → Prop} {start s : Store} {handler : Nat} {url : Url}
    (h : start.Broken reach handler url) (hs : start.Derives reach s) :
    s.usable? handler url = none := by
  rw [Option.eq_none_iff_forall_ne_some]
  intro body hbody
  unfold usable? at hbody
  rw [hs.files] at hbody
  obtain ⟨hopens, hreadable⟩ := Handler.usable?_eq_some_iff.mp hbody
  obtain ⟨v, hv, hstart, hreached⟩ := (hs.stems handler).opens? hopens
  have hnone := h v hv hreached
  unfold usable? at hnone
  rw [Handler.usable?_eq_some_iff.mpr ⟨hstart, hreadable⟩] at hnone
  cases hnone

/-- Urls are put between others, and all that are put there are broken. -/
inductive Padding (reach : Nat → Url → Prop) (start : Store) (handler : Nat) :
    List Url → List Url → Prop where
  | nil : Padding reach start handler [] []
  | keep (url : Url) {urls padded : List Url} : Padding reach start handler urls padded →
      Padding reach start handler (url :: urls) (url :: padded)
  | insert {url : Url} {urls padded : List Url} : start.Broken reach handler url →
      Padding reach start handler urls padded → Padding reach start handler urls (url :: padded)

/-- Nothing need be put between urls. -/
lemma Padding.refl (reach : Nat → Url → Prop) (start : Store) (handler : Nat) (urls : List Url) :
    Padding reach start handler urls urls := by
  induction urls with
  | nil => exact .nil
  | cons url urls ih => exact .keep url ih

end Store

/-! ### Computations side by side -/

/-- Two computations do the same on two stores: the stores resemble each other afterwards, and the
results are related. -/
structure Action.Matches {α β : Type} (k : Closeness) (reach : Nat → Url → Prop) (start : Store)
    (rel : α → β → Prop) (x : Action α) (y : Action β) (s t : Store) : Prop where
  stores : Store.Resembles k reach start (x s).2 (y t).2
  results : rel (x s).1 (y t).1

/-- Two attempts do the same on two stores: the stores resemble each other afterwards, and the
values or the causes are related. -/
structure Attempt.Matches {ε δ α β : Type} (k : Closeness) (reach : Nat → Url → Prop)
    (start : Store) (cause : ε → δ → Prop) (value : α → β → Prop) (x : Attempt ε α)
    (y : Attempt δ β) (s t : Store) : Prop where
  stores : Store.Resembles k reach start (x s).2 (y t).2
  results : ResultRel cause value (x s).1 (y t).1

section

variable {k : Closeness} {reach : Nat → Url → Prop} {start s t : Store} {ε δ α β α' β' : Type}

namespace Action

variable {rel : α → β → Prop} {rel' : α' → β' → Prop} {x : Action α} {y : Action β}

/-- Related values are given back on both sides. -/
lemma matches_pure (h : Store.Resembles k reach start s t) {a : α} {b : β} (hab : rel a b) :
    Matches k reach start rel (pure a) (pure b) s t :=
  ⟨h, hab⟩

/-- The same is logged on both sides. -/
lemma matches_log (h : Store.Resembles k reach start s t) (severity : Severity)
    (target message : String) (fields : List Field) :
    Matches k reach start Eq (log severity target message fields)
      (log severity target message fields) s t :=
  ⟨h.idle (.of_quiet h.left (Store.quiet_log _ _ _ _ s) (Nat.le_refl _))
    (.of_quiet h.right (Store.quiet_log _ _ _ _ t) (Nat.le_refl _)), rfl⟩

/-- Computations that do the same one after the other do the same together. -/
lemma Matches.bind {f : α → Action α'} {g : β → Action β'} (hx : Matches k reach start rel x y s t)
    (hf : ∀ a b, rel a b → Store.Resembles k reach start (x s).2 (y t).2 →
      Matches k reach start rel' (f a) (g b) (x s).2 (y t).2) :
    Matches k reach start rel' (x >>= f) (y >>= g) s t :=
  ⟨(hf _ _ hx.results hx.stores).stores, (hf _ _ hx.results hx.stores).results⟩

end Action

namespace Attempt

variable {cause : ε → δ → Prop} {value : α → β → Prop} {value' : α' → β' → Prop}
  {x : Attempt ε α} {y : Attempt δ β}

/-- Related values are given back on both sides. -/
lemma matches_pure (h : Store.Resembles k reach start s t) {a : α} {b : β} (hab : value a b) :
    Matches k reach start cause value (pure a) (pure b) s t :=
  ⟨h, .ok hab⟩

/-- Attempts fail on both sides with related causes. -/
lemma matches_throw (h : Store.Resembles k reach start s t) {e : ε} {d : δ} (hed : cause e d) :
    Matches k reach start cause value (throw e) (throw d) s t :=
  ⟨h, .error hed⟩

/-- Computations that do the same do so as attempts. -/
lemma matches_lift {x : Action α} {y : Action β} (h : x.Matches k reach start value y s t) :
    Matches k reach start cause value (liftM x) (liftM y) s t :=
  ⟨h.stores, .ok h.results⟩

/-- Attempts that do the same one after the other do the same together. -/
lemma Matches.bind {f : α → Attempt ε α'} {g : β → Attempt δ β'}
    (hx : Matches k reach start cause value x y s t)
    (hf : ∀ a b, value a b → Store.Resembles k reach start (x s).2 (y t).2 →
      Matches k reach start cause value' (f a) (g b) (x s).2 (y t).2) :
    Matches k reach start cause value' (x >>= f) (y >>= g) s t := by
  obtain ⟨hstores, hresults⟩ := hx
  rcases hs : x s with ⟨e | a, s'⟩ <;> rcases ht : y t with ⟨d | b, t'⟩ <;>
    rw [hs, ht] at hstores hresults hf
  · cases hresults with
    | error hed =>
      refine ⟨?_, ?_⟩
      · rw [run_bind, run_bind, hs, ht]
        exact hstores
      · rw [run_bind, run_bind, hs, ht]
        exact .error hed
  · cases hresults
  · cases hresults
  · cases hresults with
    | ok hab =>
      obtain ⟨hafter, hrel⟩ := hf a b hab hstores
      refine ⟨?_, ?_⟩
      · rw [run_bind, run_bind, hs, ht]
        exact hafter
      · rw [run_bind, run_bind, hs, ht]
        exact hrel

/-- Causes that are related are so in a wider relation. -/
lemma Matches.mono {cause' : ε → δ → Prop} (hx : Matches k reach start cause value x y s t)
    (himp : ∀ e d, cause e d → cause' e d) : Matches k reach start cause' value x y s t := by
  obtain ⟨hstores, hresults⟩ := hx
  refine ⟨hstores, ?_⟩
  generalize (x s).1 = r at hresults
  generalize (y t).1 = r' at hresults
  cases hresults with
  | ok hab => exact .ok hab
  | error hed => exact .error (himp _ _ hed)

/-- Functions applied to the results. -/
lemma Matches.map (hx : Matches k reach start cause value x y s t) {f : α → α'} {g : β → β'}
    (hfg : ∀ a b, value a b → value' (f a) (g b)) :
    Matches k reach start cause value' (f <$> x) (g <$> y) s t := by
  obtain ⟨hstores, hresults⟩ := hx
  refine ⟨?_, ?_⟩
  · rw [run_map, run_map]
    exact hstores
  · rw [run_map, run_map]
    generalize (x s).1 = r at hresults
    generalize (y t).1 = r' at hresults
    cases hresults with
    | ok hab => exact .ok (hfg _ _ hab)
    | error hed => exact .error hed

/-- Causes seen as others. -/
lemma Matches.adapt {ε' δ' : Type} {cause' : ε' → δ' → Prop}
    (hx : Matches k reach start cause value x y s t) {f : ε → ε'} {g : δ → δ'}
    (hfg : ∀ e d, cause e d → cause' (f e) (g d)) :
    Matches k reach start cause' value (ExceptT.adapt f x) (ExceptT.adapt g y) s t := by
  obtain ⟨hstores, hresults⟩ := hx
  refine ⟨?_, ?_⟩
  · rw [run_adapt, run_adapt]
    exact hstores
  · rw [run_adapt, run_adapt]
    generalize (x s).1 = r at hresults
    generalize (y t).1 = r' at hresults
    cases hresults with
    | ok hab => exact .ok hab
    | error hed => exact .error (hfg _ _ hed)

/-- The results of attempts that do the same are related values. -/
lemma Matches.result {ε' δ' : Type} {cause' : ε' → δ' → Prop}
    (hx : Matches k reach start cause value x y s t) :
    Matches k reach start cause' (ResultRel cause value) x.result y.result s t :=
  ⟨hx.stores, .ok hx.results⟩

end Attempt

end

/-! ### Lookups side by side -/

namespace Layer

variable {α β : Type} {visit : Connection → Action (Option α)}
  {answer : FileSystem → Body → Option β} {result : Connection → β → α}
  {k : Closeness} {reach : Nat → Url → Prop} {start s t : Store} {layer layer' : Layer} {url : Url}

/-- A visit that asks the body of the archive, for something that alike bodies have in common and
that no body has that cannot be read. -/
structure Asks (visit : Connection → Action (Option α)) (answer : FileSystem → Body → Option β)
    (result : Connection → β → α) : Prop where
  visits : Visits visit answer result
  numbers : ∀ connection, (visit connection).Obeys fun s t => s.next ≤ t.next
  alike : ∀ {files a b}, Body.Alike files a b → answer files a = answer files b
  unreadable : ∀ {files a}, a.isReadable = false → answer files a = none

/-- Looking for a resource asks the body for an entry. -/
lemma asks_resourceIn (name : String) :
    Asks (resourceIn name) (Body.item? name) fun c _ => ⟨c.archive, name⟩ where
  visits := visits_resourceIn name
  numbers := obeys_resourceIn Store.next_law.toAskingLaw name
  alike h := h.item? name
  unreadable h := Body.item?_of_not_isReadable h name

/-- Looking for a class asks the body for a file. -/
lemma asks_classIn (entry : String) : Asks (classIn entry) (Body.file? entry) fun c _ => c where
  visits := visits_classIn entry
  numbers := obeys_classIn Store.next_law.toAskingLaw entry
  alike h := h.file? entry
  unreadable h := by
    unfold Body.file?
    rw [Body.item?_of_not_isReadable h]
    rfl

/-- Looking for a fit manifest asks the body for it. -/
lemma asks_fittingManifest? (className packageName : String) :
    Asks (fittingManifest? className packageName) (Body.fit? className packageName)
      fun c manifest => (c.url, manifest) where
  visits := visits_fittingManifest? className packageName
  numbers := obeys_fittingManifest? Store.next_law.toAskingLaw className packageName
  alike h := h.fit? className packageName
  unreadable h := by
    unfold Body.fit?
    rw [Body.item?_of_not_isReadable h, if_neg]
    rintro ⟨-, h, -⟩
    cases h

/-- Two answers are the same, given at one url by alike archives that are held there. -/
def SameAnswer (k : Closeness) (files : FileSystem) (handler : Nat) (result : Connection → β → α)
    (s t : Store) (x y : α) : Prop :=
  ∃ url a b answer, x = result ⟨url, a⟩ answer ∧ y = result ⟨url, b⟩ answer ∧
    s.HoldAlike k files handler url t a b

/-- A step of a lookup at a url of which nothing can be used is idle and gives nothing. -/
lemma probe_of_not_usable (ha : Asks visit answer result) (layer : Layer)
    (hurl : reach layer.handler url) (h : start.Derives reach s)
    (hnone : s.usable? layer.handler url = none) :
    (layer.probe visit url s).1 = none ∧
      Store.Idles k reach start s (layer.probe visit url s).2 := by
  obtain ⟨c?, t, hrun, hidles, hunreadable⟩ :=
    layer.connect?_of_not_usable (k := k) passedOver hurl h hnone
  unfold probe
  rw [Action.run_bind, hrun]
  cases c? with
  | none => exact ⟨rfl, hidles⟩
  | some c =>
    obtain ⟨u, hvisit, hq⟩ := ha.visits c t hidles.derives.undisturbed
    have hnext := ha.numbers c t
    rw [hvisit] at hnext
    dsimp only
    rw [hvisit, ha.unreadable (hunreadable c rfl)]
    exact ⟨rfl, hidles.trans (.of_quiet hidles.derives hq hnext)⟩

/-- A step of a lookup at a url of which something can be used asks the body. -/
lemma probe_of_usable (ha : Asks visit answer result) (layer : Layer) {body : Body}
    (hurl : reach layer.handler url) (h : start.Derives reach s)
    (hsome : s.usable? layer.handler url = some body) :
    ∃ a t u, a.body = body ∧ s.Opened layer.handler url a t ∧ start.Derives reach t ∧ t.Quiet u ∧
      t.next ≤ u.next ∧
      layer.probe visit url s = ((answer start.files a.body).map (result ⟨url, a⟩), u) := by
  obtain ⟨a, t, hrun, hbody, ho, ht⟩ := layer.connect?_of_usable passedOver hurl h hsome
  obtain ⟨u, hvisit, hq⟩ := ha.visits ⟨url, a⟩ t ht.undisturbed
  have hnext := ha.numbers ⟨url, a⟩ t
  rw [hvisit] at hnext
  refine ⟨a, t, u, hbody, ho, ht, hq, hnext, ?_⟩
  unfold probe
  rw [Action.run_bind, hrun]
  dsimp only
  rw [hvisit, ht.files]

/-- A step of a lookup at a url of the chain gives the same on both sides. -/
lemma probe_resembles (ha : Asks visit answer result) (hhandler : layer'.handler = layer.handler)
    (hurl : reach layer.handler url) (h : Store.Resembles k reach start s t) :
    Store.Resembles k reach start (layer.probe visit url s).2 (layer'.probe visit url t).2 ∧
      Option.Rel (SameAnswer k start.files layer.handler result (layer.probe visit url s).2
        (layer'.probe visit url t).2) (layer.probe visit url s).1 (layer'.probe visit url t).1 := by
  have hurl' : reach layer'.handler url := hhandler ▸ hurl
  rcases h.usable_cases hurl with ⟨hs, ht⟩ | ⟨body, body', hs, ht, hab⟩
  · obtain ⟨hnone, hidles⟩ := probe_of_not_usable ha layer hurl h.left hs
    obtain ⟨hnone', hidles'⟩ := probe_of_not_usable ha layer' hurl' h.right (hhandler ▸ ht)
    rw [hnone, hnone']
    exact ⟨h.idle hidles hidles', .none⟩
  · obtain ⟨a, v, v', rfl, ho, hv, hq, hnext, hrun⟩ := probe_of_usable ha layer hurl h.left hs
    obtain ⟨b, w, w', rfl, ho', hw, hq', hnext', hrun'⟩ :=
      probe_of_usable ha layer' hurl' h.right (hhandler ▸ ht)
    rw [hhandler] at ho'
    have hopened := h.opened hs ht hab ho ho' hv hw
    rw [hrun, hrun', ha.alike hab.1]
    refine ⟨hopened.idle (.of_quiet hv hq hnext) (.of_quiet hw hq' hnext'), ?_⟩
    cases answer start.files b.body with
    | none => exact .none
    | some x =>
      have hheld : v.HoldAlike k start.files layer.handler url w a b :=
        ⟨ho.get?_self, ho'.get?_self, hab⟩
      exact .some ⟨url, a, b, x, rfl, rfl, hheld.reads hq.toReads hq'.toReads⟩

variable {urls padded : List Url}

/-- A search gives the same on both sides, whatever broken urls there are between those of the
chain. -/
lemma search_resembles (layer layer' : Layer) (ha : Asks visit answer result)
    (hhandler : layer'.handler = layer.handler)
    (hpad : start.Padding reach layer.handler urls padded)
    (hurls : ∀ url ∈ padded, reach layer.handler url)
    (h : Store.Resembles k reach start s t) :
    Store.Resembles k reach start (layer.search visit urls s).2 (layer'.search visit padded t).2 ∧
      Option.Rel (SameAnswer k start.files layer.handler result (layer.search visit urls s).2
          (layer'.search visit padded t).2)
        (layer.search visit urls s).1 (layer'.search visit padded t).1 := by
  induction hpad generalizing s t with
  | nil => exact ⟨h, .none⟩
  | @keep url urls padded _ ih =>
    obtain ⟨hnext, hrel⟩ := probe_resembles ha hhandler (hurls url (.head _)) h
    rw [run_search_cons, run_search_cons]
    rcases hs : layer.probe visit url s with ⟨_ | x, s'⟩ <;>
      rcases ht : layer'.probe visit url t with ⟨_ | y, t'⟩
    · rw [hs, ht] at hnext
      exact ih (fun v hv => hurls v (.tail _ hv)) hnext
    · rw [hs, ht] at hrel
      cases hrel
    · rw [hs, ht] at hrel
      cases hrel
    · rw [hs, ht] at hnext hrel
      exact ⟨hnext, hrel⟩
  | @insert url urls padded hbroken _ ih =>
    obtain ⟨hnone, hidles⟩ := probe_of_not_usable ha layer' (hhandler ▸ hurls url (.head _)) h.right
      (hhandler ▸ hbroken.not_usable h.right)
    rw [run_search_cons]
    rcases ht : layer'.probe visit url t with ⟨y, t'⟩
    rw [ht] at hnone hidles
    cases hnone
    exact ih (fun v hv => hurls v (.tail _ hv)) (h.idle_right hidles)

/-- A collection gives the same on both sides, too. -/
lemma collect_resembles (layer layer' : Layer) (ha : Asks visit answer result)
    (hhandler : layer'.handler = layer.handler)
    (hpad : start.Padding reach layer.handler urls padded)
    (hurls : ∀ url ∈ padded, reach layer.handler url)
    {rel : α → α → Prop} (hresult : ∀ url a b x, a.body.Like k start.files b.body →
      rel (result ⟨url, a⟩ x) (result ⟨url, b⟩ x)) (h : Store.Resembles k reach start s t) :
    Store.Resembles k reach start (layer.collect visit urls s).2 (layer'.collect visit padded t).2 ∧
      List.Forall₂ rel (layer.collect visit urls s).1 (layer'.collect visit padded t).1 := by
  induction hpad generalizing s t with
  | nil => exact ⟨h, .nil⟩
  | @keep url urls padded _ ih =>
    obtain ⟨hnext, hrel⟩ := probe_resembles ha hhandler (hurls url (.head _)) h
    obtain ⟨hafter, hrest⟩ := ih (fun v hv => hurls v (.tail _ hv)) hnext
    rw [run_collect_cons, run_collect_cons]
    refine ⟨hafter, ?_⟩
    dsimp only
    cases hs : (layer.probe visit url s).1 with
    | none =>
      cases ht : (layer'.probe visit url t).1 with
      | none => exact hrest
      | some y =>
        rw [hs, ht] at hrel
        cases hrel
    | some x =>
      cases ht : (layer'.probe visit url t).1 with
      | none =>
        rw [hs, ht] at hrel
        cases hrel
      | some y =>
        rw [hs, ht] at hrel
        cases hrel with
        | some hsame =>
          obtain ⟨v, a, b, answer, rfl, rfl, hheld⟩ := hsame
          exact .cons (hresult v a b answer hheld.alike) hrest
  | @insert url urls padded hbroken _ ih =>
    obtain ⟨hnone, hidles⟩ := probe_of_not_usable ha layer' (hhandler ▸ hurls url (.head _)) h.right
      (hhandler ▸ hbroken.not_usable h.right)
    rw [run_collect_cons, hnone]
    exact ih (fun v hv => hurls v (.tail _ hv)) (h.idle_right hidles)

end Layer

end AppLauncher
