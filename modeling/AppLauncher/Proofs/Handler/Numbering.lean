import AppLauncher.Proofs.Laws
import AppLauncher.Proofs.Loader.Lookup

/-!
# The numbers of archives

Each archive that is opened gets a number that has not been given away before (`Archive.IsNew`).  A
quick connection therefore gives an archive that the handler holds, or one with a new number
(`Handler.connect_quick_isNew`).

A store is numbered if the archives that handlers hold have numbers of their own, and no manifest is
kept under a number that is still to be given away (`Store.Numbered`).  Opening archives and reading
their manifests preserves this (`Store.Numbered.opened`, `Store.Numbered.manifest`).
-/

namespace AppLauncher

/-! ### New numbers -/

/-- Giving away more numbers is a law of loading. -/
lemma Store.next_law : Store.LoadingLaw fun s t => s.next ≤ t.next where
  refl _ := Nat.le_refl _
  trans := Nat.le_trans
  logged _ _ := Nat.le_refl _
  numbered _ := Nat.le_succ _
  indexed _ _ := Nat.le_refl _
  read _ _ := Nat.le_refl _
  scheduled _ _ := Nat.le_refl _
  packaged _ _ _ _ _ := Nat.le_refl _
  defined _ _ _ _ _ _ := Nat.le_refl _
  held _ _ := Nat.le_refl _
  kept _ _ := Nat.le_refl _

namespace Archive

/-- The number of an archive has been given away between two stores. -/
def IsNew (s t : Store) (a : Archive) : Prop := s.next ≤ a.id ∧ a.id < t.next

/-- A number that has been given away in part of a run has been given away in the run. -/
lemma IsNew.mono {s t s' t' : Store} {a : Archive} (h : a.IsNew s t) (hs : s'.next ≤ s.next)
    (ht : t.next ≤ t'.next) : a.IsNew s' t' :=
  ⟨hs.trans h.1, h.2.trans_le ht⟩

/-- An artifact is opened under a new number. -/
lemma isNew_open? {path : Path} {s t : Store} {a : Archive} (h : open? path s = (.ok a, t)) :
    a.IsNew s t := by
  unfold open? at h
  rw [Attempt.run_bind_files] at h
  cases hread : s.files.read path with
  | error fault =>
    rw [hread] at h
    cases h
  | ok file =>
    rw [hread] at h
    dsimp only at h
    cases hpayload : Trailer.payload file with
    | error offset =>
      rw [hpayload] at h
      cases h
    | ok data =>
      rw [hpayload] at h
      cases h
      exact ⟨Nat.le_refl _, Nat.lt_succ_self _⟩

/-- A nested archive is opened under a new number. -/
lemma isNew_nested? {a b : Archive} {name : String} {s t : Store}
    (h : a.nested? name s = (.ok (some b), t)) : b.IsNew s t := by
  cases a with
  | packaged id stream =>
    dsimp only [nested?] at h
    rw [Attempt.run_bind] at h
    have hnext := (obeys_indexOf Store.next_law.toAskingLaw id stream) s
    rcases hindex : indexOf id stream s with ⟨cause | index, u⟩
    · rw [hindex] at h
      cases h
    · rw [hindex] at h hnext
      dsimp only at h
      cases hitem : index.findLoosely? (Text.dropSlashes name) with
      | none =>
        rw [hitem] at h
        cases h
      | some item =>
        rw [hitem] at h
        cases h
        exact ⟨hnext, Nat.lt_succ_self _⟩
  | exploded id root =>
    dsimp only [nested?] at h
    rw [Attempt.run_bind_files] at h
    rcases hnesting : Exploded.nesting? s.files root name with _ | ⟨path⟩ | ⟨path⟩
    · rw [hnesting] at h
      cases h
    · rw [hnesting] at h
      cases h
      exact ⟨Nat.le_refl _, Nat.lt_succ_self _⟩
    · rw [hnesting] at h
      have hopen : (some <$> open? path : Attempt ArchiveError (Option Archive)) s =
          (.ok (some b), t) := h
      rw [Attempt.run_map] at hopen
      rcases hrun : open? path s with ⟨cause | c, u⟩
      · rw [hrun] at hopen
        cases hopen
      · rw [hrun] at hopen
        cases hopen
        exact isNew_open? hrun
  | scripted id script => cases h

end Archive

namespace Handler

variable {handler : Nat} {s t : Store} {a b : Archive}

/-- An archive that lies in another one is opened under a new number. -/
lemma isNew_descend {names : List String} (hne : names ≠ [])
    (h : descend a names s = (.ok b, t)) : b.IsNew s t := by
  induction names generalizing a s with
  | nil => exact absurd rfl hne
  | cons name names ih =>
    have hnext := (a.obeys_nested? Store.next_law.toAskingLaw name) s
    rw [descend, Attempt.run_bind] at h
    rcases hnested : a.nested? name s with ⟨cause | _ | nested, u⟩
    · rw [hnested] at h
      cases h
    · rw [hnested] at h
      cases h
    · rw [hnested] at h hnext
      have hnew := Archive.isNew_nested? hnested
      cases names with
      | nil =>
        cases h
        exact hnew
      | cons more rest => exact (ih (List.cons_ne_nil more rest) h).mono hnext (Nat.le_refl _)

/-- A url under which no archive is held resolves to an archive with a new number. -/
lemma isNew_resolve {url : Url} (hfree : (s.held handler).get? url.key = none)
    (h : resolve handler true url s = (.ok a, t)) : a.IsNew s t := by
  cases url with
  | directory path =>
    dsimp only [resolve] at h
    rw [Attempt.run_bind_files] at h
    split at h
    · cases h
      exact ⟨Nat.le_refl _, Nat.lt_succ_self _⟩
    · cases h
  | packaged root names =>
    have hnext := obeys_artifact Store.next_law.toAskingLaw handler true root s
    dsimp only [resolve] at h
    rw [Attempt.run_adapt, Attempt.run_bind] at h
    rcases hartifact : artifact handler true root s with ⟨cause | b, u⟩
    · rw [hartifact] at h
      cases h
    · rw [hartifact] at h hnext
      dsimp only at h
      rcases hdescend : descend b names u with ⟨cause | c, v⟩
      · rw [hdescend] at h
        cases h
      · rw [hdescend] at h
        cases h
        by_cases hnames : names = []
        · -- the url is that of the artifact, which is not held
          subst hnames
          cases hdescend
          unfold artifact at hartifact
          rw [Attempt.run_bind_lift] at hartifact
          dsimp only [held?] at hartifact
          have hroot : (s.held handler).get? (Url.artifact root).key = none := hfree
          rw [hroot] at hartifact
          exact Archive.isNew_open? hartifact
        · exact (isNew_descend hnames hdescend).mono hnext (Nat.le_refl _)

/-- A quick connection gives the archive that is held, or one with a new number. -/
lemma connect_quick_isNew {url : Url} {connection : Connection}
    (h : connect handler .quick url s = (.ok connection, t)) :
    (s.held handler).get? url.key = some connection.archive ∨
      (s.held handler).get? url.key = none ∧ connection.archive.IsNew s t := by
  cases hheld : (s.held handler).get? url.key with
  | some a =>
    rw [connect_of_held hheld] at h
    cases h
    exact .inl rfl
  | none =>
    refine .inr ⟨rfl, ?_⟩
    unfold connect at h
    rw [Attempt.run_bind_lift] at h
    dsimp only [held?] at h
    rw [hheld] at h
    dsimp only at h
    rw [Attempt.run_bind, Attempt.run_result] at h
    rcases hresolve : resolve handler true url s with ⟨cause | a, u⟩
    · rw [hresolve] at h
      cases h
    · rw [hresolve] at h
      have hnew := isNew_resolve hheld hresolve
      cases h
      exact hnew

end Handler

/-- Connecting to a url of a layer gives the archive that is held, or one with a new number. -/
lemma Layer.connect?_isNew {layer : Layer} {note : String} {url : Url} {connection : Connection}
    {s t : Store} (h : layer.connect? note url s = (some connection, t)) :
    (s.held layer.handler).get? url.key = some connection.archive ∨
      (s.held layer.handler).get? url.key = none ∧ connection.archive.IsNew s t := by
  unfold connect? at h
  rw [Action.run_bind, Attempt.run_run] at h
  rcases hconnect : Handler.connect layer.handler .quick url s with ⟨cause | found, u⟩
  · rw [hconnect] at h
    cases h
  · have hnew := Handler.connect_quick_isNew hconnect
    rw [hconnect] at h
    cases h
    exact hnew

/-! ### Numbered stores -/

namespace Store

/-- The archives that handlers hold have numbers of their own, all given away, and no manifest is
kept under a number that is still to be given away. -/
structure Numbered (s : Store) : Prop where
  below : ∀ handler key a, (s.held handler).get? key = some a → a.id < s.next
  unique : ∀ handler key a handler' key' b, (s.held handler).get? key = some a →
    (s.held handler').get? key' = some b → a.id = b.id → a = b
  manifests : ∀ id, s.next ≤ id → s.manifests.get? id = none

namespace Numbered

variable {s t : Store}

/-- Where nothing is held nor kept, everything is numbered. -/
lemma start (files : FileSystem) (first : Nat) : (Store.start files first).Numbered :=
  ⟨fun _ _ _ h => (by cases h), fun _ _ _ _ _ _ h => (by cases h), fun _ _ => rfl⟩

/-- A numbered store stays numbered when handlers and manifests stay as they are. -/
lemma of_handlers (h : s.Numbered) (hhandlers : t.handlers = s.handlers)
    (hmanifests : t.manifests = s.manifests) (hnext : s.next ≤ t.next) : t.Numbered := by
  have hheld : ∀ handler, t.held handler = s.held handler := held_of_handlers hhandlers
  refine ⟨fun handler key a ha => ?_, fun handler key a handler' key' b ha hb => ?_,
    fun id hid => ?_⟩
  · rw [hheld] at ha
    exact (h.below handler key a ha).trans_le hnext
  · rw [hheld] at ha hb
    exact h.unique handler key a handler' key' b ha hb
  · rw [hmanifests]
    exact h.manifests id (hnext.trans hid)

/-- A numbered store stays numbered when it comes to hold an archive that has been given a number,
if no other archive has this number. -/
lemma added (h : s.Numbered) (a : Archive) (hnext : s.next ≤ t.next)
    (hmanifests : t.manifests = s.manifests)
    (hheld : ∀ handler key b, (t.held handler).get? key = some b →
      b = a ∨ (s.held handler).get? key = some b)
    (hbelow : a.id < t.next)
    (hsame : ∀ handler key b, (s.held handler).get? key = some b → b.id = a.id → b = a) :
    t.Numbered := by
  refine ⟨fun handler key b hb => ?_, fun handler key b handler' key' c hb hc hid => ?_,
    fun id hid => ?_⟩
  · rcases hheld handler key b hb with rfl | hb
    · exact hbelow
    · exact (h.below handler key b hb).trans_le hnext
  · rcases hheld handler key b hb with rfl | hb
    · rcases hheld handler' key' c hc with rfl | hc
      · rfl
      · exact (hsame handler' key' c hc hid.symm).symm
    · rcases hheld handler' key' c hc with rfl | hc
      · exact hsame handler key b hb hid
      · exact h.unique handler key b handler' key' c hb hc hid
  · rw [hmanifests]
    exact h.manifests id (hnext.trans hid)

/-- A numbered store stays numbered when an archive is opened that was held under the url, or that
has a new number. -/
lemma opened (h : s.Numbered) {handler : Nat} {url : Url} {a : Archive}
    (ho : s.Opened handler url a t) (hnext : s.next ≤ t.next)
    (ha : (s.held handler).get? url.key = some a ∨ a.IsNew s t) : t.Numbered := by
  refine h.added a hnext ho.manifests (fun handler' key b hb => ?_) ?_
    fun handler' key b hb hid => ?_
  · rw [ho.held] at hb
    split at hb
    · cases hb
      exact .inl rfl
    · exact .inr hb
  · rcases ha with hheld | hnew
    · exact (h.below _ _ a hheld).trans_le hnext
    · exact hnew.2
  · -- an archive that was held before and has the number of the new one is the new one
    rcases ha with hheld | hnew
    · exact h.unique handler' key b handler url.key a hb hheld hid
    · have hlt := h.below handler' key b hb
      rw [hid] at hlt
      exact absurd hlt (Nat.not_lt.mpr hnew.1)

/-- Connecting to a url of a layer preserves numbers. -/
lemma connect? (h : s.Numbered) (layer : Layer) (note : String) (url : Url) :
    (layer.connect? note url s).2.Numbered := by
  have hspec := layer.connect?_spec note url s
  have hnext := layer.obeys_connect? next_law.toOpeningLaw note url s
  split at hspec
  · obtain ⟨a, t, hrun, -, ho⟩ := hspec
    have hnew := Layer.connect?_isNew hrun
    rw [hrun] at hnext ⊢
    exact h.opened ho hnext (hnew.imp_right And.right)
  · obtain ⟨t, hrun, hq⟩ := hspec
    rw [hrun] at hnext ⊢
    exact h.of_handlers hq.handlers hq.manifests hnext

end Numbered

/-! ### Manifests that are kept -/

/-- The manifest of an archive, as it would be given now. -/
def manifestOf (s : Store) (a : Archive) : Option Manifest := (a.manifest s).1.toOption.join

variable {s t : Store}

/-- An exploded archive gives the manifest that is kept, or reads it. -/
lemma manifestOf_exploded (s : Store) (id : Nat) (root : Path) :
    s.manifestOf (.exploded id root) =
      match s.manifests.get? id with
      | some manifest => manifest
      | none => (Exploded.manifest s.files root).toOption.join := by
  unfold manifestOf
  dsimp only [Archive.manifest]
  unfold Archive.explodedManifest
  cases s.manifests.get? id with
  | some manifest => rfl
  | none =>
    dsimp only
    cases Exploded.manifest s.files root <;> rfl

/-- A packaged archive gives the manifest of its body. -/
lemma manifestOf_packaged (hs : s.Undisturbed) (id : Nat) (stream : Stream) :
    s.manifestOf (.packaged id stream) =
      ((Archive.packaged id stream).body.manifest s.files).toOption.join := by
  obtain ⟨t, ht, -⟩ := Archive.manifest_spec (.packaged id stream) rfl hs
  unfold manifestOf
  rw [ht]

/-- A script gives the manifest that is written in it. -/
lemma manifestOf_scripted (hs : s.Undisturbed) (id : Nat) (script : Script) :
    s.manifestOf (.scripted id script) =
      ((Archive.scripted id script).body.manifest s.files).toOption.join := by
  unfold manifestOf
  dsimp only [Archive.manifest]
  rw [Attempt.run_bind_lift, Archive.disturb_of_undisturbed hs, Attempt.run_liftExcept]
  rfl

/-- Where no manifest is kept, an archive gives that of its body. -/
lemma manifestOf_of_none (hs : s.Undisturbed) {a : Archive} (h : s.manifests.get? a.id = none) :
    s.manifestOf a = (a.body.manifest s.files).toOption.join := by
  cases a with
  | packaged id stream => exact manifestOf_packaged hs id stream
  | exploded id root =>
    rw [manifestOf_exploded]
    have hnone : s.manifests.get? id = none := h
    rw [hnone]
    rfl
  | scripted id script => exact manifestOf_scripted hs id script

/-- What an archive gives as its manifest is a matter of the files and of what is kept under its
number. -/
lemma manifestOf_congr (hs : s.Undisturbed) (ht : t.Undisturbed) (hfiles : t.files = s.files)
    {a : Archive} (h : t.manifests.get? a.id = s.manifests.get? a.id) :
    t.manifestOf a = s.manifestOf a := by
  cases a with
  | packaged id stream => rw [manifestOf_packaged ht, manifestOf_packaged hs, hfiles]
  | exploded id root =>
    have hid : t.manifests.get? id = s.manifests.get? id := h
    rw [manifestOf_exploded, manifestOf_exploded, hfiles, hid]
  | scripted id script => rw [manifestOf_scripted ht, manifestOf_scripted hs, hfiles]

/-- Reading the manifest of an archive keeps at most this manifest, and only if none was kept under
the number of the archive. -/
lemma manifests_manifest (a : Archive) (hs : s.Undisturbed) :
    (a.manifest s).2.manifests = s.manifests ∨
      s.manifests.get? a.id = none ∧
        (a.manifest s).2.manifests = s.manifests.insert a.id (s.manifestOf a) := by
  cases a with
  | packaged id stream =>
    obtain ⟨t, ht, hq⟩ := Archive.manifest_spec (.packaged id stream) rfl hs
    rw [ht]
    exact .inl hq.manifests
  | exploded id root =>
    rw [manifestOf_exploded]
    dsimp only [Archive.manifest, Archive.id]
    unfold Archive.explodedManifest
    cases hkept : s.manifests.get? id with
    | some manifest => exact .inl rfl
    | none =>
      dsimp only
      cases Exploded.manifest s.files root with
      | ok manifest => exact .inr ⟨rfl, rfl⟩
      | error cause => exact .inl rfl
  | scripted id script =>
    dsimp only [Archive.manifest]
    rw [Attempt.run_bind_lift, Archive.disturb_of_undisturbed hs, Attempt.run_liftExcept]
    exact .inl rfl

/-- Reading the manifest of an archive does not change what it gives as its manifest. -/
lemma manifestOf_self (a : Archive) (hs : s.Undisturbed) :
    (a.manifest s).2.manifestOf a = s.manifestOf a := by
  have hreads := a.manifest_reads hs
  have ht := hreads.undisturbed hs
  rcases manifests_manifest a hs with heq | ⟨-, hinsert⟩
  · exact manifestOf_congr hs ht hreads.files (by rw [heq])
  · cases a with
    | packaged id stream => rw [manifestOf_packaged ht, manifestOf_packaged hs, hreads.files]
    | exploded id root =>
      -- what is kept now is what has been read
      have hkept : ((Archive.exploded id root).manifest s).2.manifests.get? id =
          some (s.manifestOf (.exploded id root)) := by
        rw [hinsert, Table.get?_insert]
        exact if_pos rfl
      rw [manifestOf_exploded, hkept]
    | scripted id script => rw [manifestOf_scripted ht, manifestOf_scripted hs, hreads.files]

namespace Numbered

/-- Reading the manifest of an archive that is held preserves numbers. -/
lemma manifest (h : s.Numbered) (hs : s.Undisturbed) {handler : Nat} {key : Url.Key} {a : Archive}
    (ha : (s.held handler).get? key = some a) : (a.manifest s).2.Numbered := by
  have hreads := a.manifest_reads hs
  have hnext : s.next ≤ (a.manifest s).2.next := a.obeys_manifest next_law.toAskingLaw s
  refine ⟨fun h' key' b hb => ?_, fun h' key' b h'' key'' c hb hc => ?_, fun id hid => ?_⟩
  · rw [hreads.held] at hb
    exact (h.below h' key' b hb).trans_le hnext
  · rw [hreads.held] at hb hc
    exact h.unique h' key' b h'' key'' c hb hc
  · have hnone := h.manifests id (hnext.trans hid)
    rcases manifests_manifest a hs with heq | ⟨-, hinsert⟩
    · rw [heq, hnone]
    · have hlt := h.below handler key a ha
      rw [hinsert, Table.get?_insert, if_neg (by omega), hnone]

/-- Reading the manifest of an archive that is held does not change what archives that are held give
as their manifests. -/
lemma manifestOf_manifest (h : s.Numbered) (hs : s.Undisturbed) {handler handler' : Nat}
    {key key' : Url.Key} {a b : Archive} (ha : (s.held handler).get? key = some a)
    (hb : (s.held handler').get? key' = some b) :
    (a.manifest s).2.manifestOf b = s.manifestOf b := by
  by_cases hid : a.id = b.id
  · obtain rfl := h.unique handler key a handler' key' b ha hb hid
    exact manifestOf_self a hs
  · have hreads := a.manifest_reads hs
    refine manifestOf_congr hs (hreads.undisturbed hs) hreads.files ?_
    rcases manifests_manifest a hs with heq | ⟨-, hinsert⟩
    · rw [heq]
    · rw [hinsert, Table.get?_insert, if_neg hid]

end Numbered

end Store

end AppLauncher
