import AppLauncher.Proofs.Handler.Numbering
import AppLauncher.Proofs.Loader.Answers
import AppLauncher.Proofs.Loader.Stemming

/-!
# What a store has become

While a chain is asked and files stay the same, a store derives from the one at the start: nothing
is scheduled, archives have numbers of their own, what is held stems from the start, and an archive
gives the manifest that it gave at the start, or that of its body when it has been opened since
(`Store.Derives`).  Opening a url preserves this (`Layer.connect?_derives`), and so does reading the
manifest of an archive that is held (`Store.Derives.manifest`).  Archives that two such stores hold
under one key, with alike bodies, therefore have the same manifest (`Store.Derives.manifestOf_eq`).

A store idles if it goes on to derive, keeps what has been defined, and alike can be used of each
url as before (`Store.Idles`).  Connecting to a url of which nothing can be used is idle
(`Layer.connect?_of_not_usable`): the handler may hold an archive from then on that cannot be read.
-/

namespace AppLauncher

open Archive (Body)

/-! ### Stores that derive from one at the start -/

namespace Store

/-- A store has become of another one while archives were opened and read under the urls of a chain,
and packages and classes defined. -/
structure Derives (reach : Nat → Url → Prop) (start s : Store) : Prop where
  files : s.files = start.files
  undisturbed : s.Undisturbed
  numbered : s.Numbered
  stems : ∀ handler,
    Handler.Stems start.files (reach handler) (start.bodies handler) (s.bodies handler)
  kept : ∀ handler key a, (start.held handler).get? key = some a →
    (s.held handler).get? key = some a ∧ s.manifestOf a = start.manifestOf a
  opened : ∀ handler key a, (s.held handler).get? key = some a →
    (start.held handler).get? key = some a ∨
      s.manifestOf a = (a.body.manifest start.files).toOption.join

/-- Files, schedules and all that is known of archives are the same, indexes apart, and numbers go
on. -/
structure SameArchives (s t : Store) : Prop where
  files : t.files = s.files
  schedules : t.schedules = s.schedules
  handlers : t.handlers = s.handlers
  manifests : t.manifests = s.manifests
  next : s.next ≤ t.next

/-- A quiet computation leaves archives as they are. -/
lemma Quiet.sameArchives {s t : Store} (h : s.Quiet t) (hnext : s.next ≤ t.next) :
    s.SameArchives t :=
  ⟨h.files, h.schedules, h.handlers, h.manifests, hnext⟩

namespace Derives

variable {reach : Nat → Url → Prop} {start s t : Store} {handler : Nat} {url : Url} {a b : Archive}

/-- A store derives from itself. -/
lemma refl (hs : s.Undisturbed) (hn : s.Numbered) : s.Derives reach s :=
  ⟨rfl, hs, hn, fun _ => .refl _ _ _, fun _ _ _ h => ⟨h, rfl⟩, fun _ _ _ h => .inl h⟩

/-- A store goes on to derive when archives and files stay as they are. -/
lemma of_sameArchives (h : start.Derives reach s) (hs : s.SameArchives t) :
    start.Derives reach t := by
  have hheld : ∀ handler, t.held handler = s.held handler := held_of_handlers hs.handlers
  have ht : t.Undisturbed := hs.schedules.trans h.undisturbed
  have hmanifest : ∀ a, t.manifestOf a = s.manifestOf a := fun a =>
    manifestOf_congr h.undisturbed ht hs.files (by rw [hs.manifests])
  refine ⟨hs.files.trans h.files, ht, h.numbered.of_handlers hs.handlers hs.manifests hs.next,
    fun handler => ?_, ?_, ?_⟩
  · rw [bodies_of_handlers hs.handlers]
    exact h.stems handler
  · intro handler key a ha
    rw [hheld, hmanifest]
    exact h.kept handler key a ha
  · intro handler key a ha
    rw [hheld] at ha
    rw [hmanifest]
    exact h.opened handler key a ha

/-- A store goes on to derive when an archive is opened under a url of the chain that was held
there, or that has a new number. -/
lemma of_opened (h : start.Derives reach s) (hurl : reach handler url)
    (hopens : Handler.opens? s.files (s.bodies handler) url = some a.body)
    (ho : s.Opened handler url a t) (hnext : s.next ≤ t.next)
    (ha : (s.held handler).get? url.key = some a ∨ a.IsNew s t) : start.Derives reach t := by
  have ht := ho.undisturbed h.undisturbed
  have hmanifest : ∀ a, t.manifestOf a = s.manifestOf a := fun a =>
    manifestOf_congr h.undisturbed ht ho.files (by rw [ho.manifests])
  refine ⟨ho.files.trans h.files, ht, h.numbered.opened ho hnext ha, fun handler' => ?_, ?_, ?_⟩
  · by_cases heq : handler' = handler
    · subst heq
      rw [h.files] at hopens
      rw [Layer.bodies_of_opened ho]
      exact (h.stems handler').holding hurl hopens
    · have hsame : t.bodies handler' = s.bodies handler' := by
        funext key
        rw [ho.bodies, if_neg fun h => heq h.1]
      rw [hsame]
      exact h.stems handler'
  · intro handler' key b hb
    obtain ⟨hheld, hsame⟩ := h.kept handler' key b hb
    exact ⟨ho.get?_of_get? hheld, (hmanifest b).trans hsame⟩
  · intro handler' key b hb
    rw [hmanifest]
    rw [ho.held] at hb
    split at hb
    · rename_i hkey
      cases hb
      rcases ha with hheld | hnew
      · exact h.opened handler' key a (by rw [hkey.1, hkey.2, hheld])
      · -- nothing has been kept yet under the number of the new archive
        refine .inr ?_
        rw [manifestOf_of_none h.undisturbed (h.numbered.manifests a.id hnew.1), h.files]
    · exact h.opened handler' key b hb

/-- A store goes on to derive when the manifest of an archive is read that is held. -/
lemma manifest (h : start.Derives reach s) {key : Url.Key}
    (ha : (s.held handler).get? key = some a) :
    start.Derives reach (a.manifest s).2 := by
  have hreads := a.manifest_reads h.undisturbed
  have hmanifest : ∀ {handler' : Nat} {key' : Url.Key} {b : Archive},
      (s.held handler').get? key' = some b → (a.manifest s).2.manifestOf b = s.manifestOf b :=
    fun hb => h.numbered.manifestOf_manifest h.undisturbed ha hb
  refine ⟨hreads.files.trans h.files, hreads.undisturbed h.undisturbed,
    h.numbered.manifest h.undisturbed ha, fun handler' => ?_, ?_, ?_⟩
  · rw [hreads.bodies]
    exact h.stems handler'
  · intro handler' key' b hb
    obtain ⟨hheld, hsame⟩ := h.kept handler' key' b hb
    rw [hreads.held]
    exact ⟨hheld, (hmanifest hheld).trans hsame⟩
  · intro handler' key' b hb
    rw [hreads.held] at hb
    rw [hmanifest hb]
    exact h.opened handler' key' b hb

/-- Archives that two stores hold under one key have the same manifest, if they have alike bodies.
-/
lemma manifestOf_eq (h : start.Derives reach s) (h' : start.Derives reach t) {key : Url.Key}
    (ha : (s.held handler).get? key = some a) (hb : (t.held handler).get? key = some b)
    (hab : a.body.Alike start.files b.body) : s.manifestOf a = t.manifestOf b := by
  cases hstart : (start.held handler).get? key with
  | some c =>
    obtain ⟨hc, hsame⟩ := h.kept handler key c hstart
    obtain ⟨hc', hsame'⟩ := h'.kept handler key c hstart
    rw [hc] at ha
    rw [hc'] at hb
    cases ha
    cases hb
    rw [hsame, hsame']
  | none =>
    have hnot : ∀ c, ¬(start.held handler).get? key = some c := by
      intro c hc
      rw [hstart] at hc
      cases hc
    rw [(h.opened handler key a ha).resolve_left (hnot a),
      (h'.opened handler key b hb).resolve_left (hnot b), hab.manifest]

end Derives

/-! ### Stores that idle -/

/-- The body that can be used of a url that a handler opens. -/
def usable? (s : Store) (handler : Nat) (url : Url) : Option Body :=
  Handler.usable? s.files (s.bodies handler) url

/-- The body that a handler holds under a key, if it can be read. -/
def readable? (s : Store) (handler : Nat) (key : Url.Key) : Option Body :=
  (s.bodies handler key).filter Body.isReadable

/-- Of stores that derive from one store and hold the same bodies that can be read, the same can be
used. -/
lemma Derives.usable?_eq {reach : Nat → Url → Prop} {start s t : Store}
    (h : start.Derives reach s) (h' : start.Derives reach t)
    {handler : Nat} (hsame : ∀ key, s.readable? handler key = t.readable? handler key) (url : Url) :
    s.usable? handler url = t.usable? handler url := by
  unfold usable?
  rw [h.files, h'.files]
  exact (h.stems handler).usable?_eq_of_readable (h'.stems handler) hsame url

/-- A store goes on to derive and keeps what has been defined, and what can be used of the urls
stays alike; compared closely, the store holds the same bodies that can be read. -/
structure Idles (k : Closeness) (reach : Nat → Url → Prop) (start s t : Store) : Prop
    extends Keeps s t where
  derives : start.Derives reach t
  usable : ∀ handler url, reach handler url →
    Option.Rel (Body.Like k start.files) (t.usable? handler url) (s.usable? handler url)
  readable : k = .same → ∀ handler key, t.readable? handler key = s.readable? handler key

namespace Idles

variable {k : Closeness} {reach : Nat → Url → Prop} {start s t u : Store}

/-- A store that derives can stay as it is. -/
lemma refl (h : start.Derives reach s) : Idles k reach start s s :=
  ⟨.refl s, h, fun _ _ _ => Body.Like.option_refl _, fun _ _ _ => rfl⟩

/-- A store can idle again. -/
lemma trans (h : Idles k reach start s t) (g : Idles k reach start t u) :
    Idles k reach start s u :=
  ⟨h.toKeeps.trans g.toKeeps, g.derives,
    fun handler url hurl =>
      Body.Like.option_trans (g.usable handler url hurl) (h.usable handler url hurl),
    fun hk handler key => (g.readable hk handler key).trans (h.readable hk handler key)⟩

/-- A store idles in a quiet computation. -/
lemma of_quiet (h : start.Derives reach s) (hq : s.Quiet t) (hnext : s.next ≤ t.next) :
    Idles k reach start s t := by
  refine ⟨hq.toKeeps, h.of_sameArchives (hq.sameArchives hnext), fun handler url _ => ?_,
    fun _ handler key => ?_⟩
  · unfold usable?
    rw [hq.files, hq.bodies]
    exact Body.Like.option_refl _
  · unfold readable?
    rw [hq.bodies]

/-- A store idles when an archive is opened and the handler can use the same as before. -/
lemma of_opened {handler : Nat} {url : Url} {a : Archive} (h : start.Derives reach t)
    (ho : s.Opened handler url a t)
    (husable : ∀ v, reach handler v → Option.Rel (Body.Like k start.files)
      (Handler.usable? s.files (Handler.holding (s.bodies handler) url a.body) v)
      (s.usable? handler v))
    (hreadable : k = .same → ∀ key,
      (Handler.holding (s.bodies handler) url a.body key).filter Body.isReadable =
        s.readable? handler key) : Idles k reach start s t := by
  have hother : ∀ {handler'}, handler' ≠ handler → t.bodies handler' = s.bodies handler' := by
    intro handler' hne
    funext key
    rw [ho.bodies, if_neg fun h => hne h.1]
  refine ⟨ho.toKeeps, h, fun handler' v hv => ?_, fun hk handler' key => ?_⟩
  · unfold usable?
    rw [ho.files]
    by_cases heq : handler' = handler
    · subst heq
      rw [Layer.bodies_of_opened ho]
      exact husable v hv
    · rw [hother heq]
      exact Body.Like.option_refl _
  · by_cases heq : handler' = handler
    · subst heq
      unfold readable?
      rw [Layer.bodies_of_opened ho]
      exact hreadable hk key
    · unfold readable?
      rw [hother heq]

end Idles

end Store

/-! ### Connecting to urls -/

namespace Layer

variable {start s : Store} {k : Closeness} {reach : Nat → Url → Prop}

/-- A url is connected to as `opens?` says, or passed over, and the store goes on to derive. -/
lemma connect?_derives (layer : Layer) (note : String) {url : Url} (hurl : reach layer.handler url)
    (h : start.Derives reach s) :
    match Handler.opens? s.files (s.bodies layer.handler) url with
    | some body => ∃ a t, layer.connect? note url s = (some ⟨url, a⟩, t) ∧ a.body = body ∧
        s.Opened layer.handler url a t ∧ start.Derives reach t
    | none => ∃ t, layer.connect? note url s = (none, t) ∧ s.Quiet t ∧ start.Derives reach t := by
  have hspec := layer.connect?_spec note url s
  have hnext := layer.obeys_connect? Store.next_law.toOpeningLaw note url s
  split
  · rename_i body hopens
    rw [hopens] at hspec
    obtain ⟨a, t, hrun, rfl, ho⟩ := hspec
    rw [hrun] at hnext
    exact ⟨a, t, hrun, rfl, ho,
      h.of_opened hurl hopens ho hnext ((connect?_isNew hrun).imp_right And.right)⟩
  · rename_i hopens
    rw [hopens] at hspec
    obtain ⟨t, hrun, hq⟩ := hspec
    rw [hrun] at hnext
    exact ⟨t, hrun, hq, h.of_sameArchives (hq.sameArchives hnext)⟩

/-- Where nothing can be used of a url, connecting to it is idle, and gives no archive that can be
read. -/
lemma connect?_of_not_usable (layer : Layer) (note : String) {url : Url}
    (hurl : reach layer.handler url) (h : start.Derives reach s)
    (hnone : s.usable? layer.handler url = none) :
    ∃ c? t, layer.connect? note url s = (c?, t) ∧ Store.Idles k reach start s t ∧
      ∀ c, c? = some c → c.archive.body.isReadable = false := by
  have hconnect := layer.connect?_derives note hurl h
  have hnext := layer.obeys_connect? Store.next_law.toOpeningLaw note url s
  cases hopens : Handler.opens? s.files (s.bodies layer.handler) url with
  | none =>
    rw [hopens] at hconnect
    obtain ⟨t, hrun, hq, -⟩ := hconnect
    rw [hrun] at hnext
    exact ⟨none, t, hrun, .of_quiet h hq hnext, fun c hc => by cases hc⟩
  | some body =>
    rw [hopens] at hconnect
    obtain ⟨a, t, hrun, rfl, ho, ht⟩ := hconnect
    have hunreadable : a.body.isReadable = false := by
      by_contra hreadable
      rw [Bool.not_eq_false] at hreadable
      unfold Store.usable? at hnone
      rw [Handler.usable?_eq_some_iff.mpr ⟨hopens, hreadable⟩] at hnone
      cases hnone
    refine ⟨_, t, hrun, .of_opened ht ho (fun v _ => ?_) (fun _ key => ?_), ?_⟩
    · unfold Store.usable?
      rw [h.files] at hopens ⊢
      rw [(h.stems layer.handler).usable?_holding_of_not_isReadable hopens hunreadable v]
      exact Body.Like.option_refl _
    · -- nothing that can be read has been held under the url
      unfold Store.readable? Handler.holding
      split
      · rename_i hkey
        rw [Option.filter_some, hunreadable, hkey]
        cases hheld : s.bodies layer.handler url.key with
        | none => rfl
        | some body =>
          rw [Handler.opens?_of_held hheld] at hopens
          cases hopens
          rw [Option.filter_some, hunreadable]
      · rfl
    · rintro c hc
      cases hc
      exact hunreadable

/-- Where something can be used of a url, connecting to it gives an archive with this body. -/
lemma connect?_of_usable (layer : Layer) (note : String) {url : Url} {body : Body}
    (hurl : reach layer.handler url) (h : start.Derives reach s)
    (hsome : s.usable? layer.handler url = some body) :
    ∃ a t, layer.connect? note url s = (some ⟨url, a⟩, t) ∧ a.body = body ∧
      s.Opened layer.handler url a t ∧ start.Derives reach t := by
  have hconnect := layer.connect?_derives note hurl h
  rw [(Handler.usable?_eq_some_iff.mp hsome).1] at hconnect
  exact hconnect

end Layer

end AppLauncher
