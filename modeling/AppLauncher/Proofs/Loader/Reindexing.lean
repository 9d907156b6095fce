import AppLauncher.Proofs.Loader.Calls

/-!
# What is cached after caches have been dropped

Dropping the caches of a layer goes through its urls in order and drops the index of each archive
found there.  But a url that is not held is opened on the way, and if it leads into an artifact that
is held, then the index of this artifact is built again (`Store.Rebuilds`), even if it has been
dropped a moment ago.  Nothing else builds the index of an archive that is held
(`Layer.indexed_connect?`).

So an archive that a url of the layer leads to has a cached index afterwards just if a url comes
after all those that lead to it, and rebuilds its index (`Layer.indexed_clearCache_iff`).
`Layer.indexed_after_clearCache` shows a layer where this happens: a library, and an archive nested
in it.

What dropping the index at one url does to an archive depends on whether its number has been given
away before: if so, the archive has been held all along (`Layer.indexed_clearAt_of_lt`), if not, it
is opened on the way, and its index dropped right then (`Layer.indexed_clearAt_of_le`).  The urls of
the layer follow by induction (`Layer.indexed_cleared`).
-/

namespace AppLauncher

/-! ### What builds indexes -/

namespace Store

/-- An index is cached under a number. -/
def Indexed (s : Store) (id : Nat) : Prop := (s.indexes.get? id).isSome = true

/-- To open a url, an archive is asked for what is nested in it: the url is not held, it leads into
an artifact, and the artifact is the archive, which is held and can be indexed. -/
def Rebuilds (s : Store) (handler : Nat) (url : Url) (id : Nat) (stream : Stream) : Prop :=
  (s.held handler).get? url.key = none ∧
    (∃ root name names, url = .packaged root (name :: names) ∧
      (s.held handler).get? (Url.artifact root).key = some (.packaged id stream)) ∧
    stream.index.toOption.isSome = true

/-- What is cached depends on the cached indexes only. -/
lemma indexed_congr {s t : Store} (h : t.indexes = s.indexes) (id : Nat) :
    t.Indexed id ↔ s.Indexed id := by
  unfold Indexed
  rw [h]

end Store

namespace Archive

/-- Asking for an index builds this index, if there is one. -/
lemma indexed_indexOf (id : Nat) (stream : Stream) (s : Store) (key : Nat) :
    (indexOf id stream s).2.Indexed key ↔
      s.Indexed key ∨ key = id ∧ stream.index.toOption.isSome = true := by
  cases hcached : (s.indexes.get? id).bind (·.find? stream) with
  | some index =>
    rw [indexOf_of_cached hcached]
    obtain ⟨cell, hcell, -⟩ := Option.bind_eq_some_iff.mp hcached
    refine ⟨.inl, ?_⟩
    rintro (h | ⟨rfl, -⟩)
    · exact h
    · unfold Store.Indexed
      rw [hcell]
      rfl
  | none =>
    cases hindex : stream.index with
    | error cause =>
      rw [indexOf_of_error hindex]
      exact ⟨.inl, fun h => h.resolve_right fun h => by cases h.2⟩
    | ok index =>
      rw [indexOf_of_ok hcached hindex]
      show ((s.indexes.insert id _).get? key).isSome = true ↔ _
      rw [Table.get?_insert]
      by_cases hkey : id = key
      · rw [if_pos hkey]
        exact ⟨fun _ => .inr ⟨hkey.symm, rfl⟩, fun _ => rfl⟩
      · rw [if_neg hkey]
        exact ⟨.inl, fun h => h.resolve_right fun h => hkey h.1.symm⟩

/-- Opening an artifact builds no index. -/
lemma indexes_open? (path : Path) (s : Store) : (open? path s).2.indexes = s.indexes := by
  unfold open?
  rw [Attempt.run_bind_files]
  cases s.files.read path with
  | error fault => rfl
  | ok file =>
    dsimp only
    cases Trailer.payload file <;> rfl

/-- Opening a nested archive builds the index of a packaged archive. -/
lemma indexed_nested? (a : Archive) (name : String) (s : Store) (key : Nat) :
    (a.nested? name s).2.Indexed key ↔
      s.Indexed key ∨ ∃ stream, a = .packaged key stream ∧ stream.index.toOption.isSome = true := by
  cases a with
  | packaged id stream =>
    have hindexes : ((packaged id stream).nested? name s).2.indexes =
        (indexOf id stream s).2.indexes := by
      dsimp only [nested?]
      rw [Attempt.run_bind]
      rcases indexOf id stream s with ⟨cause | index, t⟩
      · rfl
      · dsimp only
        cases index.findLoosely? (Text.dropSlashes name) <;> rfl
    rw [Store.indexed_congr hindexes, indexed_indexOf]
    refine or_congr Iff.rfl ⟨?_, ?_⟩
    · rintro ⟨rfl, hindex⟩
      exact ⟨stream, rfl, hindex⟩
    · rintro ⟨_, h, hindex⟩
      cases h
      exact ⟨rfl, hindex⟩
  | exploded id root =>
    have hindexes : ((exploded id root).nested? name s).2.indexes = s.indexes := by
      dsimp only [nested?]
      rw [Attempt.run_bind_files]
      rcases Exploded.nesting? s.files root name with _ | ⟨path⟩ | ⟨path⟩
      · rfl
      · rfl
      · show ((some <$> open? path : Attempt ArchiveError (Option Archive)) s).2.indexes = _
        rw [Attempt.run_map]
        exact indexes_open? path s
    rw [Store.indexed_congr hindexes]
    exact ⟨.inl, fun h => h.resolve_right fun ⟨_, h, _⟩ => by cases h⟩
  | scripted id script => exact ⟨.inl, fun h => h.resolve_right fun ⟨_, h, _⟩ => by cases h⟩

end Archive

namespace Handler

variable {handler : Nat} {s : Store} {key : Nat}

/-- Walking into nested archives builds the index of the archive that the walk starts from, and of
none that was open before. -/
lemma indexed_descend {names : List String} (hne : names ≠ []) (a : Archive) (hkey : key < s.next) :
    (descend a names s).2.Indexed key ↔
      s.Indexed key ∨ ∃ stream, a = .packaged key stream ∧ stream.index.toOption.isSome = true := by
  induction names generalizing a s with
  | nil => exact absurd rfl hne
  | cons name names ih =>
    have hnested := a.indexed_nested? name s key
    have hnext := a.obeys_nested? Store.next_law.toAskingLaw name s
    rw [descend, Attempt.run_bind]
    rcases hrun : a.nested? name s with ⟨cause | _ | b, t⟩
    · rw [hrun] at hnested
      exact hnested
    · rw [hrun] at hnested
      exact hnested
    · have hnew := Archive.isNew_nested? hrun
      rw [hrun] at hnested hnext
      cases names with
      | nil => exact hnested
      | cons more rest =>
        refine (ih (List.cons_ne_nil more rest) b (hkey.trans_le hnext)).trans
          ⟨fun h => hnested.mp (h.resolve_right ?_), fun h => .inl (hnested.mpr h)⟩
        rintro ⟨stream, rfl, -⟩
        exact absurd hkey (Nat.not_lt.mpr hnew.1)

/-- Resolving a url that is not held builds at most the index of the artifact that it leads into. -/
lemma indexed_resolve {url : Url} (hfree : (s.held handler).get? url.key = none)
    (hkey : key < s.next) : (resolve handler true url s).2.Indexed key ↔
      s.Indexed key ∨ ∃ stream, s.Rebuilds handler url key stream := by
  have hnot : ∀ {t : Store}, t.indexes = s.indexes →
      (∀ stream, ¬s.Rebuilds handler url key stream) →
      (t.Indexed key ↔ s.Indexed key ∨ ∃ stream, s.Rebuilds handler url key stream) :=
    fun hindexes hrebuilds => (Store.indexed_congr hindexes key).trans
      ⟨.inl, fun h => h.resolve_right fun ⟨stream, h⟩ => hrebuilds stream h⟩
  cases url with
  | directory path =>
    refine hnot ?_ fun stream ⟨_, ⟨_, _, _, h, _⟩, _⟩ => by cases h
    dsimp only [resolve]
    rw [Attempt.run_bind_files]
    split <;> rfl
  | packaged root names =>
    dsimp only [resolve]
    rw [Attempt.run_adapt, Attempt.run_bind]
    dsimp only
    unfold artifact
    rw [Attempt.run_bind_lift]
    dsimp only [held?]
    cases hroot : (s.held handler).get? (Url.artifact root).key with
    | none =>
      have hnone : ∀ stream, ¬s.Rebuilds handler (.packaged root names) key stream := by
        rintro stream ⟨-, ⟨_, name, rest, h, hheld⟩, -⟩
        cases h
        rw [hroot] at hheld
        cases hheld
      have hopen := Archive.indexes_open? root s
      have hnext := Archive.obeys_open? Store.next_law.toAskingLaw root s
      dsimp only
      rcases hrun : Archive.open? root s with ⟨cause | b, t⟩
      · rw [hrun] at hopen
        exact hnot hopen hnone
      · have hnew := Archive.isNew_open? hrun
        rw [hrun] at hopen hnext
        by_cases hnames : names = []
        · subst hnames
          exact hnot hopen hnone
        · dsimp only
          rw [indexed_descend hnames b (hkey.trans_le hnext), Store.indexed_congr hopen]
          refine or_congr Iff.rfl ⟨?_, fun ⟨stream, h⟩ => (hnone stream h).elim⟩
          rintro ⟨stream, rfl, -⟩
          exact absurd hkey (Nat.not_lt.mpr hnew.1)
    | some a =>
      dsimp only
      rw [if_pos rfl, Attempt.run_pure]
      cases names with
      | nil =>
        have hheld : (s.held handler).get? (Url.packaged root []).key = some a := hroot
        rw [hheld] at hfree
        cases hfree
      | cons name names =>
        rw [indexed_descend (List.cons_ne_nil name names) a hkey]
        refine or_congr Iff.rfl (exists_congr fun stream => ⟨?_, ?_⟩)
        · rintro ⟨rfl, hindex⟩
          exact ⟨hfree, ⟨root, name, names, rfl, hroot⟩, hindex⟩
        · rintro ⟨-, ⟨_, _, _, h, hheld⟩, hindex⟩
          cases h
          rw [hroot] at hheld
          exact ⟨Option.some.inj hheld, hindex⟩

end Handler

/-! ### Opening urls on the way -/

namespace Store

/-- Numbers go on, what handlers hold is held on to, and what a handler holds more is held under a
url of a list and has a new number. -/
structure Adds (handler : Nat) (urls : List Url) (s t : Store) : Prop where
  numbered : t.Numbered
  next : s.next ≤ t.next
  kept : ∀ handler' key a, (s.held handler').get? key = some a →
    (t.held handler').get? key = some a
  added : ∀ key a, (t.held handler).get? key = some a →
    (s.held handler).get? key = some a ∨ s.next ≤ a.id ∧ ∃ url ∈ urls, url.key = key

namespace Adds

variable {handler : Nat} {url : Url} {urls : List Url} {s t u : Store} {key : Url.Key}
  {a : Archive}

/-- Nothing is added to a store that stays as it is. -/
lemma refl (hs : s.Numbered) : Adds handler urls s s :=
  ⟨hs, Nat.le_refl _, fun _ _ _ h => h, fun _ _ h => .inl h⟩

/-- What is added under the first url and then under others is added under all of them. -/
lemma cons (h : Adds handler [url] s t) (g : Adds handler urls t u) :
    Adds handler (url :: urls) s u := by
  refine ⟨g.numbered, h.next.trans g.next, fun handler' key a ha =>
    g.kept handler' key a (h.kept handler' key a ha), fun key a ha => ?_⟩
  rcases g.added key a ha with ha | ⟨hid, v, hv, hkey⟩
  · rcases h.added key a ha with ha | ⟨hid, v, hv, hkey⟩
    · exact .inl ha
    · exact .inr ⟨hid, v, List.mem_cons.mpr (.inl (List.mem_singleton.mp hv)), hkey⟩
  · exact .inr ⟨h.next.trans hid, v, .tail _ hv, hkey⟩

/-- A quiet computation adds nothing. -/
lemma quiet (h : Adds handler urls s t) (hq : t.Quiet u) (hnext : t.next ≤ u.next) :
    Adds handler urls s u := by
  refine ⟨h.numbered.of_handlers hq.handlers hq.manifests hnext, h.next.trans hnext,
    fun handler' key a ha => ?_, fun key a ha => ?_⟩
  · rw [hq.held]
    exact h.kept handler' key a ha
  · rw [hq.held] at ha
    exact h.added key a ha

/-- An archive with an old number has been held all along. -/
lemma get?_of_lt (h : Adds handler urls s t) (ha : (t.held handler).get? key = some a)
    (hid : a.id < s.next) : (s.held handler).get? key = some a :=
  (h.added key a ha).resolve_right fun hnew => absurd hid (Nat.not_lt.mpr hnew.1)

end Adds

end Store

namespace Layer

variable {layer : Layer} {url : Url} {s : Store} {key : Nat}

/-- Connecting to a url adds at most an archive under this url. -/
lemma adds_connect? (layer : Layer) (note : String) (url : Url) (hs : s.Numbered) :
    s.Adds layer.handler [url] (layer.connect? note url s).2 := by
  have hspec := layer.connect?_spec note url s
  have hnumbered := hs.connect? layer note url
  have hnext := layer.obeys_connect? Store.next_law.toOpeningLaw note url s
  split at hspec
  · obtain ⟨a, t, hrun, -, ho⟩ := hspec
    have hnew := connect?_isNew hrun
    rw [hrun] at hnumbered hnext ⊢
    refine ⟨hnumbered, hnext, fun _ _ _ => ho.get?_of_get?, fun key b hb => ?_⟩
    rw [ho.held] at hb
    split at hb
    · rename_i hkey
      cases hb
      refine hnew.imp (fun h => ?_) fun h => ⟨h.2.1, url, .head _, hkey.2.symm⟩
      rw [hkey.2, h]
    · exact .inl hb
  · obtain ⟨t, hrun, hq⟩ := hspec
    rw [hrun] at hnext ⊢
    exact (Store.Adds.refl hs).quiet hq hnext

/-- Connecting to a url builds at most the index of the artifact that the url leads into. -/
lemma indexed_connect? (layer : Layer) (note : String) (url : Url) (hkey : key < s.next) :
    (layer.connect? note url s).2.Indexed key ↔
      s.Indexed key ∨ ∃ stream, s.Rebuilds layer.handler url key stream := by
  have hindexes : (layer.connect? note url s).2.indexes =
      (Handler.connect layer.handler .quick url s).2.indexes := by
    unfold connect?
    rw [Action.run_bind, Attempt.run_run]
    rcases Handler.connect layer.handler .quick url s with ⟨cause | connection, u⟩ <;> rfl
  rw [Store.indexed_congr hindexes]
  cases hheld : (s.held layer.handler).get? url.key with
  | some a =>
    rw [Handler.connect_of_held hheld]
    refine ⟨.inl, fun h => h.resolve_right ?_⟩
    rintro ⟨stream, hfree, -⟩
    rw [hheld] at hfree
    cases hfree
  | none =>
    rw [← Handler.indexed_resolve hheld hkey]
    refine Store.indexed_congr ?_ key
    unfold Handler.connect
    rw [Attempt.run_bind_lift]
    dsimp only [Handler.held?]
    rw [hheld]
    dsimp only
    rw [Attempt.run_bind, Attempt.run_result]
    rcases Handler.resolve layer.handler true url s with ⟨cause | a, u⟩ <;> rfl

end Layer

/-! ### Dropping the index at a url -/

/-- Dropping the index of an archive drops this index only. -/
lemma Archive.indexed_forget (a : Archive) (s : Store) (key : Nat) :
    (a.forget s).2.Indexed key ↔ s.Indexed key ∧ ∀ stream, a ≠ .packaged key stream := by
  cases a with
  | packaged id stream =>
    show ((s.indexes.erase id).get? key).isSome = true ↔ _
    rw [Table.get?_erase]
    by_cases hkey : id = key
    · rw [if_pos hkey, hkey]
      exact ⟨fun h => (by cases h), fun h => absurd rfl (h.2 stream)⟩
    · rw [if_neg hkey]
      refine ⟨fun h => ⟨h, ?_⟩, fun h => h.1⟩
      rintro _ heq
      cases heq
      exact hkey rfl
  | exploded id root => exact ⟨fun h => ⟨h, fun _ heq => (by cases heq)⟩, fun h => h.1⟩
  | scripted id script =>
    have hsame : ((scripted id script).forget s).2 = s := by
      unfold forget
      split <;> rfl
    rw [hsame]
    exact ⟨fun h => ⟨h, fun _ heq => (by cases heq)⟩, fun h => h.1⟩

namespace Layer

variable {layer : Layer} {url : Url} {urls : List Url} {s t : Store} {id : Nat} {stream : Stream}

/-- Dropping the index at a url adds at most an archive under this url. -/
lemma adds_clearAt (layer : Layer) (url : Url) (hs : s.Numbered) :
    s.Adds layer.handler [url] (layer.clearAt url s).2 := by
  have hadds := layer.adds_connect? clearingNote url hs
  unfold clearAt
  rw [Action.run_bind]
  rcases hrun : layer.connect? clearingNote url s with ⟨_ | c, t⟩
  · rw [hrun] at hadds
    exact hadds
  · rw [hrun] at hadds
    exact hadds.quiet (c.archive.quiet_forget t).1 (c.archive.quiet_forget t).2

/-- After the index at a url has been dropped, an index is cached that was cached or built when the
url was connected to, and that is not the one of the archive there. -/
lemma indexed_clearAt (layer : Layer) (url : Url) (s : Store) (key : Nat) :
    (layer.clearAt url s).2.Indexed key ↔
      (layer.connect? clearingNote url s).2.Indexed key ∧
        ∀ stream, ((layer.clearAt url s).2.held layer.handler).get? url.key ≠
          some (.packaged key stream) := by
  have hspec := layer.connect?_spec clearingNote url s
  unfold clearAt
  rw [Action.run_bind]
  split at hspec
  · obtain ⟨a, t, hrun, -, ho⟩ := hspec
    rw [hrun]
    dsimp only
    rw [a.indexed_forget, (a.quiet_forget t).1.held, ho.get?_self]
    exact and_congr Iff.rfl (forall_congr' fun stream => not_congr Option.some_inj.symm)
  · rename_i hopens
    obtain ⟨t, hrun, hq⟩ := hspec
    rw [hrun]
    refine ⟨fun h => ⟨h, fun stream hheld => ?_⟩, fun h => h.1⟩
    -- a url under which something is held opens
    have hbody : s.bodies layer.handler url.key = some (Archive.packaged key stream).body := by
      unfold Store.bodies
      rw [← hq.held]
      exact congrArg (Option.map Archive.body) hheld
    rw [Handler.opens?_of_held hbody] at hopens
    cases hopens

/-- Where the number of an archive has been given away before the index at a url is dropped, its
index is cached afterwards if it was cached before and the url does not lead to it, or if it is
rebuilt. -/
lemma indexed_clearAt_of_lt (hs : s.Numbered)
    (ht : (layer.clearAt url s).2.Adds layer.handler urls t) {place : Url.Key}
    (hheld : (t.held layer.handler).get? place = some (.packaged id stream)) (hid : id < s.next) :
    (layer.clearAt url s).2.Indexed id ↔
      (s.Indexed id ∧ (t.held layer.handler).get? url.key ≠ some (.packaged id stream)) ∨
        s.Rebuilds layer.handler url id stream := by
  have hfirst := layer.adds_clearAt url hs
  have hall := hfirst.cons ht
  -- the archive is told by its number
  have hsame : ∀ {key stream'}, (t.held layer.handler).get? key = some (.packaged id stream') →
      stream' = stream := by
    intro key stream' h
    cases ht.numbered.unique _ _ _ _ _ _ h hheld rfl
    rfl
  have hleads : (∀ stream', ((layer.clearAt url s).2.held layer.handler).get? url.key ≠
      some (.packaged id stream')) ↔
        (t.held layer.handler).get? url.key ≠ some (.packaged id stream) := by
    refine ⟨fun h hurl => ?_, fun h stream' hurl => ?_⟩
    · exact h stream (hfirst.kept _ _ _ (hall.get?_of_lt hurl hid))
    · have hurl := ht.kept _ _ _ hurl
      rw [hsame hurl] at hurl
      exact h hurl
  have hrebuilds : ∀ {stream'}, s.Rebuilds layer.handler url id stream' →
      s.Rebuilds layer.handler url id stream ∧
        (t.held layer.handler).get? url.key ≠ some (.packaged id stream) := by
    intro stream' h
    have ⟨hfree, ⟨root, name, names, hurl, hroot⟩, _⟩ := h
    have hstream : stream' = stream := hsame (hall.kept _ _ _ hroot)
    rw [hstream] at h
    refine ⟨h, fun hurl => ?_⟩
    rw [hall.get?_of_lt hurl hid] at hfree
    cases hfree
  rw [indexed_clearAt, indexed_connect? _ _ _ hid, hleads]
  constructor
  · rintro ⟨hcached | ⟨stream', h⟩, hurl⟩
    · exact .inl ⟨hcached, hurl⟩
    · exact .inr (hrebuilds h).1
  · rintro (⟨hcached, hurl⟩ | h)
    · exact ⟨.inl hcached, hurl⟩
    · exact ⟨.inr ⟨stream, h⟩, (hrebuilds h).2⟩

/-- Where the number of an archive is given away when the index at a url is dropped, or later, its
index is not cached afterwards, unless a later url leads to it. -/
lemma indexed_clearAt_of_le (hs : s.Numbered)
    (ht : (layer.clearAt url s).2.Adds layer.handler urls t) {place : Url.Key}
    (hheld : (t.held layer.handler).get? place = some (.packaged id stream)) (hid : s.next ≤ id)
    (hlast : ∀ v ∈ urls, (t.held layer.handler).get? v.key ≠ some (.packaged id stream)) :
    (layer.clearAt url s).2.Indexed id ↔
      (s.Indexed id ∧ (t.held layer.handler).get? url.key ≠ some (.packaged id stream)) ∨
        s.Rebuilds layer.handler url id stream := by
  have hnot : ∀ {key}, (s.held layer.handler).get? key ≠ some (.packaged id stream) :=
    fun h => absurd hid (Nat.not_le.mpr (hs.below _ _ _ h))
  have hurl : (t.held layer.handler).get? url.key = some (.packaged id stream) := by
    obtain ⟨-, v, hv, hkey⟩ :=
      (((layer.adds_clearAt url hs).cons ht).added _ _ hheld).resolve_left hnot
    rw [← hkey] at hheld
    rcases List.mem_cons.mp hv with rfl | hv
    · exact hheld
    · exact absurd hheld (hlast v hv)
  have hopened : ((layer.clearAt url s).2.held layer.handler).get? url.key =
      some (.packaged id stream) := by
    refine (ht.added _ _ hurl).resolve_right ?_
    rintro ⟨-, v, hv, hkey⟩
    rw [← hkey] at hurl
    exact hlast v hv hurl
  rw [indexed_clearAt]
  refine ⟨fun h => absurd hopened (h.2 stream), ?_⟩
  rintro (⟨-, h⟩ | ⟨-, ⟨_, _, _, _, hroot⟩, -⟩)
  · exact absurd hurl h
  · exact absurd hroot hnot

/-! ### Dropping the caches of a layer -/

/-- The store after the indexes at urls have been dropped. -/
def cleared (layer : Layer) (urls : List Url) (s : Store) : Store := (urls.forM layer.clearAt s).2

/-- Dropping the indexes at urls starts with the first one. -/
lemma cleared_cons (layer : Layer) (url : Url) (urls : List Url) (s : Store) :
    layer.cleared (url :: urls) s = layer.cleared urls (layer.clearAt url s).2 := rfl

/-- Dropping the indexes at urls adds at most archives under these urls. -/
lemma adds_cleared (layer : Layer) (urls : List Url) (hs : s.Numbered) :
    s.Adds layer.handler urls (layer.cleared urls s) := by
  induction urls generalizing s with
  | nil => exact .refl hs
  | cons url urls ih =>
    have hfirst := layer.adds_clearAt url hs
    exact hfirst.cons (ih hfirst.numbered)

/-- A url comes after all those that lead to an archive, and rebuilds its index. -/
def RebuildsLast (layer : Layer) (urls : List Url) (s : Store) (id : Nat) (stream : Stream) :
    Prop :=
  ∃ before v after, urls = before ++ v :: after ∧
    (layer.cleared before s).Rebuilds layer.handler v id stream ∧
    ∀ w ∈ after, ((layer.cleared urls s).held layer.handler).get? w.key ≠
      some (.packaged id stream)

/-- The url that rebuilds an index last is the first one or a later one. -/
lemma rebuildsLast_cons : layer.RebuildsLast (url :: urls) s id stream ↔
    (s.Rebuilds layer.handler url id stream ∧
      ∀ w ∈ urls, ((layer.cleared (url :: urls) s).held layer.handler).get? w.key ≠
        some (.packaged id stream)) ∨
      layer.RebuildsLast urls (layer.clearAt url s).2 id stream := by
  constructor
  · rintro ⟨_ | ⟨_, before⟩, v, after, heq, hrebuilds, hlast⟩
    · cases heq
      exact .inl ⟨hrebuilds, hlast⟩
    · cases heq
      exact .inr ⟨before, v, after, rfl, hrebuilds, hlast⟩
  · rintro (⟨hrebuilds, hlast⟩ | ⟨before, v, after, rfl, hrebuilds, hlast⟩)
    · exact ⟨[], url, urls, rfl, hrebuilds, hlast⟩
    · exact ⟨url :: before, v, after, rfl, hrebuilds, hlast⟩

/-- An archive that is held after the indexes at urls have been dropped has a cached index just if
this was so before and no url leads to it, or if a url rebuilds it last. -/
lemma indexed_cleared (hs : s.Numbered) {place : Url.Key}
    (hheld : ((layer.cleared urls s).held layer.handler).get? place = some (.packaged id stream)) :
    (layer.cleared urls s).Indexed id ↔
      (s.Indexed id ∧ ∀ v ∈ urls, ((layer.cleared urls s).held layer.handler).get? v.key ≠
        some (.packaged id stream)) ∨ layer.RebuildsLast urls s id stream := by
  induction urls generalizing s with
  | nil =>
    refine ⟨fun h => .inl ⟨h, fun _ hv => absurd hv (List.not_mem_nil)⟩, ?_⟩
    rintro (⟨h, -⟩ | ⟨before, v, after, h, -⟩)
    · exact h
    · cases before <;> cases h
  | cons url urls ih =>
    have hnumbered := (layer.adds_clearAt url hs).numbered
    have hadds := layer.adds_cleared urls hnumbered
    have hfirst : (∀ v ∈ urls, ((layer.cleared (url :: urls) s).held layer.handler).get? v.key ≠
        some (.packaged id stream)) → _ := fun hlast =>
      (Nat.lt_or_ge id s.next).elim (indexed_clearAt_of_lt hs hadds hheld)
        fun hid => indexed_clearAt_of_le hs hadds hheld hid hlast
    rw [cleared_cons, ih hnumbered hheld, rebuildsLast_cons, List.forall_mem_cons]
    constructor
    · rintro (⟨hcached, hlast⟩ | h)
      · rcases (hfirst hlast).mp hcached with ⟨hcached, hurl⟩ | h
        · exact .inl ⟨hcached, hurl, hlast⟩
        · exact .inr (.inl ⟨h, hlast⟩)
      · exact .inr (.inr h)
    · rintro (⟨hcached, hurl, hlast⟩ | ⟨h, hlast⟩ | h)
      · exact .inl ⟨(hfirst hlast).mpr (.inl ⟨hcached, hurl⟩), hlast⟩
      · exact .inl ⟨(hfirst hlast).mpr (.inr h), hlast⟩
      · exact .inr h

/-- After a layer has dropped its caches, an archive that a url of the layer leads to has a cached
index just if a url of the layer rebuilds it last: a url that is not held when its turn comes, that
leads into this archive, and that comes after all those that lead to it. -/
theorem indexed_clearCache_iff (hs : s.Numbered) (hurl : url ∈ layer.urls)
    (hheld : ((layer.clearCache s).2.held layer.handler).get? url.key =
      some (.packaged id stream)) :
    (layer.clearCache s).2.Indexed id ↔ layer.RebuildsLast layer.urls s id stream := by
  rw [clearCache_eq] at hheld ⊢
  refine (indexed_cleared hs hheld).trans ⟨?_, .inr⟩
  rintro (⟨-, h⟩ | h)
  · exact absurd hheld (h url hurl)
  · exact h

end Layer

/-- Archives have numbers of their own whatever a chain has been asked. -/
lemma Loader.numbered_answers {start : Store} (hs : start.Undisturbed) (hn : start.Numbered)
    (chain : Loader) (calls : List Loader.Call) : (chain.answers calls start).2.Numbered :=
  ((Loader.Padding.refl chain.reach start chain).answers (k := .same) (fun _ _ h => h)
    (.refl (.refl hs hn)) calls).stores.left.numbered

namespace Layer

/-- A library that holds another one, which has a class. -/
def nestingFiles : FileSystem where
  root := .directory (.cons "lib.jar"
    (.file (Tar.member "in.jar" (Tar.member "A.class" []))) .nil)
  working := []

/-- A layer over both libraries. -/
def nestingLayer : Layer where
  id := 1
  urls := [.packaged ⟨"lib.jar"⟩ [], .packaged ⟨"lib.jar"⟩ ["in.jar"]]
  handler := 2

/-- The store after a class of the inner library has been loaded. -/
def nestingStore : Store :=
  ((Loader.isolated nestingLayer .absent).answers [.ask (.load 0 "A" false)]
    (.start nestingFiles 3)).2

/-- Where both libraries are held, dropping caches leaves no index of the outer one. -/
theorem indexed_clearCache_iff_nestingLayer : ∃ id stream,
    ((nestingLayer.clearCache nestingStore).2.held nestingLayer.handler).get?
        (Url.packaged ⟨"lib.jar"⟩ []).key = some (.packaged id stream) ∧
      ¬(nestingLayer.clearCache nestingStore).2.Indexed id := by
  have hstart : (Store.start nestingFiles 3).Undisturbed := rfl
  have hs : nestingStore.Numbered := Loader.numbered_answers hstart (.start nestingFiles 3)
    (.isolated nestingLayer .absent) [.ask (.load 0 "A" false)]
  have hheld : ((nestingLayer.clearCache nestingStore).2.held nestingLayer.handler).get?
      (Url.packaged ⟨"lib.jar"⟩ []).key = some (.packaged 3
        ⟨.artifact ⟨"lib.jar"⟩, Tar.member "in.jar" (Tar.member "A.class" []), none⟩) := by
    decide +kernel
  refine ⟨_, _, hheld, ?_⟩
  rw [indexed_clearCache_iff hs (.head _) hheld]
  -- the first url leads into nothing, and the second one is held when its turn comes
  rintro ⟨_ | ⟨_, _ | ⟨_, _ | ⟨_, _⟩⟩⟩, v, after, heq, ⟨hfree, ⟨root, name, names, hurl, -⟩, -⟩, -⟩
  · cases heq
    cases hurl
  · cases heq
    have hinner : ((nestingLayer.cleared [.packaged ⟨"lib.jar"⟩ []] nestingStore).held 2).get?
        (Url.packaged ⟨"lib.jar"⟩ ["in.jar"]).key ≠ none := by
      decide +kernel
    exact hinner hfree
  · cases heq
  · cases heq

/-- Where neither library is held, dropping caches opens the inner one after the index of the outer
one has been dropped, and builds this index again. -/
theorem indexed_after_clearCache : ∃ id stream,
    ((nestingLayer.clearCache (.start nestingFiles 3)).2.held nestingLayer.handler).get?
        (Url.packaged ⟨"lib.jar"⟩ []).key = some (.packaged id stream) ∧
      (nestingLayer.clearCache (.start nestingFiles 3)).2.Indexed id := by
  refine ⟨3, ⟨.artifact ⟨"lib.jar"⟩, Tar.member "in.jar" (Tar.member "A.class" []), none⟩, ?_, ?_⟩
  · decide +kernel
  · unfold Store.Indexed
    decide +kernel

end Layer

end AppLauncher
