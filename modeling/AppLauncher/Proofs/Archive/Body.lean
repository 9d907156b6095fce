import AppLauncher.Archive.Access
import AppLauncher.Proofs.Computation

/-!
# The answers of an archive as functions of its body

An archive is asked through the store, where its index is cached under its number.  None of this
shows in its answers.  The *body* of an archive is all of it but the number, and `Body.find?`,
`Body.manifest`, `Body.nested?` and `Body.open?` are the answers as plain functions of the body and
the files.  The lemmas `find?_spec`, `manifest_spec`, `nested?_spec` and `open?_spec` say that
asking gives these answers and leaves a store that differs in caches, numbers and the trail at most
(`Store.Quiet`), as long as nothing else happens while an archive is asked (`Store.Undisturbed`).
-/

namespace AppLauncher

/-! ### What asking an archive leaves alone -/

namespace Store

/-- Nothing else happens while an archive is asked. -/
def Undisturbed (s : Store) : Prop := s.schedules = .empty

/-- The files and the contents of classes are the same, and nothing has been scheduled. -/
structure Still (s t : Store) : Prop where
  files : t.files = s.files
  schedules : t.schedules = s.schedules
  contents : t.contents = s.contents
  context : t.context = s.context

/-- Everything that loaders have defined is the same, too. -/
structure Keeps (s t : Store) : Prop extends Still s t where
  loaders : t.loaders = s.loaders

/-- Only caches of archives, the number given away next and the trail may differ. -/
structure Reads (s t : Store) : Prop extends Keeps s t where
  handlers : t.handlers = s.handlers

/-- Only cached indexes, the number given away next and the trail may differ. -/
structure Quiet (s t : Store) : Prop extends Reads s t where
  manifests : t.manifests = s.manifests

/-- A store is still for itself. -/
@[refl] lemma Still.refl (s : Store) : s.Still s := ⟨rfl, rfl, rfl, rfl⟩

/-- What stays the same in two computations does so in both together. -/
lemma Still.trans {s t u : Store} (h : s.Still t) (g : t.Still u) : s.Still u :=
  ⟨g.files.trans h.files, g.schedules.trans h.schedules, g.contents.trans h.contents,
    g.context.trans h.context⟩

/-- A store keeps what it has. -/
@[refl] lemma Keeps.refl (s : Store) : s.Keeps s := ⟨.refl s, rfl⟩

/-- What two computations keep, both together keep. -/
lemma Keeps.trans {s t u : Store} (h : s.Keeps t) (g : t.Keeps u) : s.Keeps u :=
  ⟨h.toStill.trans g.toStill, g.loaders.trans h.loaders⟩

/-- A store reads as itself. -/
@[refl] lemma Reads.refl (s : Store) : s.Reads s := ⟨.refl s, rfl⟩

/-- Two computations that only read only read together. -/
lemma Reads.trans {s t u : Store} (h : s.Reads t) (g : t.Reads u) : s.Reads u :=
  ⟨h.toKeeps.trans g.toKeeps, g.handlers.trans h.handlers⟩

/-- A store is quietly reached from itself. -/
@[refl] lemma Quiet.refl (s : Store) : s.Quiet s := ⟨.refl s, rfl⟩

/-- Two quiet computations are quiet together. -/
lemma Quiet.trans {s t u : Store} (h : s.Quiet t) (g : t.Quiet u) : s.Quiet u :=
  ⟨h.toReads.trans g.toReads, g.manifests.trans h.manifests⟩

/-- A store stays undisturbed when nothing is scheduled. -/
lemma Still.undisturbed {s t : Store} (h : s.Still t) (hs : s.Undisturbed) : t.Undisturbed :=
  h.schedules.trans hs

/-- Logging is quiet. -/
lemma quiet_log (severity : Severity) (target message : String) (fields : List Field)
    (s : Store) : s.Quiet (Action.log severity target message fields s).2 :=
  ⟨⟨⟨⟨rfl, rfl, rfl, rfl⟩, rfl⟩, rfl⟩, rfl⟩

/-- Taking a number is quiet. -/
lemma quiet_freshId (s : Store) : s.Quiet (Action.freshId s).2 :=
  ⟨⟨⟨⟨rfl, rfl, rfl, rfl⟩, rfl⟩, rfl⟩, rfl⟩

end Store

/-! ### Bodies -/

namespace Archive

/-- What an archive is apart from its number. -/
inductive Body where
  | packaged (stream : Stream)
  | exploded (root : Path)
  | scripted (script : Script)
deriving DecidableEq

/-- The body of an archive. -/
def body : Archive → Body
  | packaged _ stream => .packaged stream
  | exploded _ root => .exploded root
  | scripted _ script => .scripted script

namespace Body

/-- A body that is packaged or exploded; scripts can answer whatever they like. -/
def IsGenuine : Body → Prop
  | scripted _ => False
  | _ => True

/-- Whether a body is backed by a packaged artifact. -/
def isPackaged : Body → Bool
  | packaged _ => true
  | exploded _ => false
  | scripted script => script.packaged

/-- The entry of a name. -/
def find? (files : FileSystem) : Body → String → Except ArchiveError (Option Entry)
  | packaged stream, name => stream.index.map fun index => (index.find? name).map (·.entry)
  | exploded root, name => .ok (Exploded.find? files root name)
  | scripted script, name => script.find? name

/-- The manifest, as the files have it. -/
def manifest (files : FileSystem) : Body → Except ArchiveError (Option Manifest)
  | packaged stream => stream.index.map (·.manifest)
  | exploded root => Exploded.manifest files root
  | scripted script => script.manifest?

/-- The body of a packaged artifact. -/
def open? (files : FileSystem) (path : Path) : Except ArchiveError Body :=
  match files.read path with
  | .error fault => .error (.io path fault)
  | .ok file =>
    match Trailer.payload file with
    | .error offset => .error (.malformed (.artifact path) (.payloadOffset offset))
    | .ok data => .ok (.packaged ⟨.artifact path, data, none⟩)

/-- The body nested under a name. -/
def nested? (files : FileSystem) : Body → String → Except ArchiveError (Option Body)
  | packaged stream, name => stream.index.map fun index =>
      (index.findLoosely? (Text.dropSlashes name)).map fun item => .packaged (stream.nested item)
  | exploded root, name =>
    match Exploded.nesting? files root name with
    | some (.exploded root) => .ok (some (.exploded root))
    | some (.artifact path) => (open? files path).map some
    | none => .ok none
  | scripted _, _ => .ok none

/-- The url of a body. -/
def url : Body → Url
  | packaged stream => stream.url
  | exploded root => .directory root
  | scripted script => script.url

end Body

/-- The number of an archive does not say where it is. -/
@[simp] lemma url_body (a : Archive) : a.body.url = a.url := by cases a <;> rfl

/-- The number of an archive does not say whether it is packaged. -/
@[simp] lemma isPackaged_body (a : Archive) : a.body.isPackaged = a.isPackaged := by cases a <;> rfl

/-! ### Asking an archive gives the answer of its body -/

section Index

variable {id : Nat} {stream : Stream} {s : Store} {index : Index}

/-- A cached index is given back. -/
lemma indexOf_of_cached (h : (s.indexes.get? id).bind (·.find? stream) = some index) :
    indexOf id stream s = (.ok index, s) := by
  unfold indexOf
  rw [h]

/-- A stream that cannot be indexed is not indexed, whatever is cached. -/
lemma indexOf_of_error {cause : ArchiveError} (h : stream.index = .error cause) :
    indexOf id stream s = (.error cause, s) := by
  unfold indexOf
  split
  · rename_i index hcached
    obtain ⟨cell, -, hcell⟩ := Option.bind_eq_some_iff.mp hcached
    cases h.symm.trans (Stream.Indexed.eq_of_find? hcell)
  · split
    · rename_i index hindex
      cases h.symm.trans hindex
    · rename_i other hother
      cases h.symm.trans hother
      rfl

/-- A stream whose index is not cached is indexed, and its index is cached. -/
lemma indexOf_of_ok (h : (s.indexes.get? id).bind (·.find? stream) = none)
    (hindex : stream.index = .ok index) :
    indexOf id stream s = (.ok index, (Action.log .trace logTarget "Indexed packaged archive"
      [.plain "url" stream.url.text, .plain "entries" (toString index.items.length)]
      { s with indexes := s.indexes.insert id ⟨stream, index, hindex⟩ }).2) := by
  unfold indexOf
  rw [h]
  dsimp only
  split
  · rename_i other hother
    cases hindex.symm.trans hother
    rfl
  · rename_i cause hcause
    cases hindex.symm.trans hcause

end Index

/-- Looking into the cache gives what indexing gives. -/
lemma indexOf_spec (id : Nat) (stream : Stream) (s : Store) :
    ∃ t, indexOf id stream s = (stream.index, t) ∧ s.Quiet t := by
  unfold indexOf
  split
  · rename_i index hcached
    refine ⟨s, ?_, .refl s⟩
    obtain ⟨cell, -, hcell⟩ := Option.bind_eq_some_iff.mp hcached
    rw [Stream.Indexed.eq_of_find? hcell]
  · split
    · rename_i index hindex
      exact ⟨_, Prod.ext hindex.symm rfl, ⟨⟨⟨⟨rfl, rfl, rfl, rfl⟩, rfl⟩, rfl⟩, rfl⟩⟩
    · rename_i cause hindex
      exact ⟨s, Prod.ext hindex.symm rfl, .refl s⟩

/-- An index is asked through the cache as if it were at hand. -/
lemma run_bind_indexOf {α : Type} (id : Nat) (stream : Stream) (f : Index → α) (s : Store) :
    ∃ t, (indexOf id stream >>= fun index => pure (f index)) s = (stream.index.map f, t) ∧
      s.Quiet t := by
  obtain ⟨t, ht, hq⟩ := indexOf_spec id stream s
  refine ⟨t, ?_, hq⟩
  rw [Attempt.run_bind, ht]
  cases stream.index <;> rfl

/-- Nothing is due at a call of an archive when nothing is scheduled. -/
lemma disturb_of_undisturbed {s : Store} (hs : s.Undisturbed) (id : Nat)
    (take : Schedule → List Disturbance × Schedule) : disturb id take s = ((), s) := by
  unfold disturb
  rw [hs, Table.get?_empty]

/-- Asking for an entry gives the entry of the body. -/
lemma find?_spec (a : Archive) (name : String) {s : Store} (hs : s.Undisturbed) :
    ∃ t, a.find? name s = (a.body.find? s.files name, t) ∧ s.Quiet t := by
  cases a with
  | packaged id stream =>
    exact run_bind_indexOf id stream (fun index => (index.find? name).map (·.entry)) s
  | exploded id root => exact ⟨s, rfl, .refl s⟩
  | scripted id script =>
    refine ⟨s, ?_, .refl s⟩
    dsimp only [find?]
    rw [Attempt.run_bind_lift, disturb_of_undisturbed hs, Attempt.run_liftExcept]
    rfl

/-- Asking a packaged archive for its manifest gives the manifest of its body. -/
lemma manifest_spec (a : Archive) (ha : a.isPackaged = true) {s : Store} (hs : s.Undisturbed) :
    ∃ t, a.manifest s = (a.body.manifest s.files, t) ∧ s.Quiet t := by
  cases a with
  | packaged id stream => exact run_bind_indexOf id stream (·.manifest) s
  | exploded id root => exact absurd ha (by simp [isPackaged])
  | scripted id script =>
    refine ⟨s, ?_, .refl s⟩
    dsimp only [manifest]
    rw [Attempt.run_bind_lift, disturb_of_undisturbed hs, Attempt.run_liftExcept]
    rfl

/-- Asking any archive for its manifest only reads: an exploded archive keeps what it has read. -/
lemma manifest_reads (a : Archive) {s : Store} (hs : s.Undisturbed) :
    s.Reads (a.manifest s).2 := by
  cases a with
  | packaged id stream =>
    obtain ⟨t, ht, hq⟩ := manifest_spec (.packaged id stream) rfl hs
    rw [ht]
    exact hq.toReads
  | exploded id root =>
    show s.Reads (explodedManifest id root s).2
    unfold explodedManifest
    split
    · exact .refl s
    · split
      · exact ⟨⟨⟨rfl, rfl, rfl, rfl⟩, rfl⟩, rfl⟩
      · exact .refl s
  | scripted id script =>
    dsimp only [manifest]
    rw [Attempt.run_bind_lift, disturb_of_undisturbed hs, Attempt.run_liftExcept]

/-- An artifact is opened with the body that the files give it. -/
lemma open?_spec (path : Path) (s : Store) :
    ∃ r t, open? path s = (r, t) ∧ r.map body = Body.open? s.files path ∧ s.Quiet t := by
  unfold open? Body.open?
  rw [Attempt.run_bind_files]
  cases s.files.read path with
  | error fault => exact ⟨_, s, rfl, rfl, .refl s⟩
  | ok file =>
    dsimp only
    cases Trailer.payload file with
    | error offset => exact ⟨_, s, rfl, rfl, .refl s⟩
    | ok data => exact ⟨_, _, rfl, rfl, ⟨⟨⟨⟨rfl, rfl, rfl, rfl⟩, rfl⟩, rfl⟩, rfl⟩⟩

/-- The archive nested under a name has the body nested under the name. -/
lemma nested?_spec (a : Archive) (name : String) (s : Store) :
    ∃ r t, a.nested? name s = (r, t) ∧
      r.map (Option.map body) = a.body.nested? s.files name ∧ s.Quiet t := by
  cases a with
  | packaged id stream =>
    obtain ⟨t, ht, hq⟩ := indexOf_spec id stream s
    dsimp only [nested?, body, Body.nested?]
    rw [Attempt.run_bind, ht]
    cases stream.index with
    | error cause => exact ⟨_, t, rfl, rfl, hq⟩
    | ok index =>
      dsimp only [Except.map]
      cases index.findLoosely? (Text.dropSlashes name) with
      | none => exact ⟨_, t, rfl, rfl, hq⟩
      | some item => exact ⟨_, _, rfl, rfl, hq.trans (Store.quiet_freshId t)⟩
  | exploded id root =>
    dsimp only [nested?, body, Body.nested?]
    rw [Attempt.run_bind_files]
    rcases Exploded.nesting? s.files root name with _ | ⟨path⟩ | ⟨path⟩
    · exact ⟨_, s, rfl, rfl, .refl s⟩
    · exact ⟨_, _, rfl, rfl, Store.quiet_freshId s⟩
    · obtain ⟨r, t, ht, hr, hq⟩ := open?_spec path s
      refine ⟨r.map some, t, ?_, ?_, hq⟩
      · show (some <$> open? path) s = _
        rw [Attempt.run_map, ht]
      · dsimp only
        rw [← hr]
        cases r <;> rfl
  | scripted id script => exact ⟨_, s, rfl, rfl, .refl s⟩

end Archive

end AppLauncher
