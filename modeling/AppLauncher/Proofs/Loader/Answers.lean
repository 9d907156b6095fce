import AppLauncher.Loader.Load
import AppLauncher.Proofs.Archive.Naming
import AppLauncher.Proofs.Loader.Lookup

/-!
# What archives answer in a lookup

Three questions are asked in lookups: for a resource, for the file of a class, and for a manifest
that is fit to define the package of a class.  Each is answered by the body of the archive, so that
the lemmas about searches apply (`Layer.Visits`).  A class that a manifest is fit for is in the same
archive, and the entry of a class is never a directory; so whatever is fit to define the package
of a class also has the class (`Archive.Body.file?_of_fit?`).
-/

namespace AppLauncher

open Archive (Body)

/-! ### Answers -/

namespace Archive.Body

/-- The entry of a name, if the archive can be read. -/
def item? (name : String) (files : FileSystem) (body : Body) : Option Entry :=
  (body.find? files name).toOption.join

/-- The entry of a name, if it is no directory. -/
def file? (name : String) (files : FileSystem) (body : Body) : Option Entry :=
  (body.item? name files).filter fun entry => !entry.isDirectory

/-- The manifest of a packaged archive that is fit to define the package of a class: the archive
has the class and the directory of the package. -/
def fit? (className packageName : String) (files : FileSystem) (body : Body) : Option Manifest :=
  if body.isPackaged ∧ (body.item? (Entry.ofClass className) files).isSome ∧
      (body.item? (Entry.ofPackage packageName) files).isSome then
    (body.manifest files).toOption.join
  else none

variable {files : FileSystem} {body : Body}

/-- The entries of a packaged body are those of its index. -/
lemma item?_packaged (stream : Stream) (name : String) :
    (packaged stream).item? name files =
      stream.index.toOption.bind fun index => (index.find? name).map (·.entry) := by
  dsimp only [item?, find?]
  cases stream.index <;> rfl

/-- The entries of an exploded body are what the files have. -/
lemma item?_exploded (root : Path) (name : String) :
    (exploded root).item? name files = Exploded.find? files root name := rfl

/-- An entry that is there is a directory exactly if its name ends with a slash. -/
lemma isDirectory_of_item? (hb : body.IsGenuine) {name : String} {entry : Entry}
    (h : body.item? name files = some entry) :
    entry.isDirectory = Text.endsWithSlash name := by
  cases body with
  | packaged stream =>
    rw [item?_packaged] at h
    obtain ⟨index, hindex, hentry⟩ := Option.bind_eq_some_iff.mp h
    obtain ⟨item, hitem, rfl⟩ := Option.map_eq_some_iff.mp hentry
    exact Stream.isDirectory_eq_of_find? (eq_ok_of_toOption hindex) hitem
  | exploded root => exact Exploded.isDirectory_eq_of_find? h
  | scripted script => exact hb.elim

/-- The entry of a class is a file wherever it is found. -/
lemma file?_ofClass (hb : body.IsGenuine) (className : String) :
    body.file? (Entry.ofClass className) files = body.item? (Entry.ofClass className) files := by
  unfold file?
  cases h : body.item? (Entry.ofClass className) files with
  | none => rfl
  | some entry =>
    rw [Option.filter_some, isDirectory_of_item? hb h, Entry.endsWithSlash_ofClass]
    rfl

/-- What is fit to define the package of a class has the class. -/
lemma file?_of_fit? (hb : body.IsGenuine) {className packageName : String} {manifest : Manifest}
    (h : body.fit? className packageName files = some manifest) :
    (body.file? (Entry.ofClass className) files).isSome := by
  unfold fit? at h
  split at h
  · rename_i hfit
    rw [file?_ofClass hb]
    exact hfit.2.1
  · cases h

end Archive.Body

namespace Layer

/-- Noting that an archive cannot be read is quiet. -/
lemma quiet_noteUnreadable (what : String) (url : Url) (cause : ArchiveError) (s : Store) :
    s.Quiet (noteUnreadable what url cause s).2 :=
  Store.quiet_log _ _ _ _ s

/-- An archive has a resource if it has the entry. -/
lemma visits_resourceIn (name : String) :
    Visits (resourceIn name) (Body.item? name) fun c _ => ⟨c.archive, name⟩ := by
  intro c s hs
  obtain ⟨t, ht, hq⟩ := Archive.find?_spec c.archive name hs
  refine ⟨t, ?_, hq⟩
  unfold resourceIn Body.item?
  rw [Action.run_bind, Attempt.run_run, ht]
  rcases c.archive.body.find? s.files name with cause | _ | entry <;> rfl

/-- An archive has a class if it has the file. -/
lemma visits_classIn (entry : String) :
    Visits (classIn entry) (Body.file? entry) fun c _ => c := by
  intro c s hs
  obtain ⟨t, ht, hq⟩ := Archive.find?_spec c.archive entry hs
  unfold classIn Body.file? Body.item?
  rw [Action.run_bind, Attempt.run_run, ht]
  rcases c.archive.body.find? s.files entry with cause | _ | found
  · exact ⟨_, rfl, hq.trans (quiet_noteUnreadable "archive" c.url cause t)⟩
  · exact ⟨t, rfl, hq⟩
  · refine ⟨t, ?_, hq⟩
    dsimp only
    show _ = (Option.map (fun _ => c) (Option.filter (!·.isDirectory) (some found)), t)
    rw [Option.filter_some]
    cases found.isDirectory <;> rfl

/-- Whether an archive holds a class and its package, seen from its body. -/
lemma holdsClass_spec (a : Archive) (className packageName : String) {s : Store}
    (hs : s.Undisturbed) :
    ∃ r t, holdsClass a className packageName s = (r, t) ∧ s.Quiet t ∧
      (r = .ok true ↔ (a.body.item? (Entry.ofClass className) s.files).isSome ∧
        (a.body.item? (Entry.ofPackage packageName) s.files).isSome) := by
  obtain ⟨t, ht, hq⟩ := Archive.find?_spec a (Entry.ofClass className) hs
  obtain ⟨u, hu, hq'⟩ :=
    Archive.find?_spec a (Entry.ofPackage packageName) (hq.undisturbed hs)
  unfold holdsClass Body.item?
  rw [Attempt.run_bind, ht]
  rcases a.body.find? s.files (Entry.ofClass className) with cause | _ | entry
  · exact ⟨_, t, rfl, hq, by simp [Except.toOption]⟩
  · exact ⟨_, t, rfl, hq, by simp [Except.toOption]⟩
  · dsimp only
    rw [Attempt.run_bind, hu, hq.files]
    rcases a.body.find? s.files (Entry.ofPackage packageName) with cause | _ | entry'
    · exact ⟨_, u, rfl, hq.trans hq', by simp [Except.toOption]⟩
    · exact ⟨_, u, rfl, hq.trans hq', by simp [Except.toOption]⟩
    · exact ⟨_, u, rfl, hq.trans hq', by simp [Except.toOption]⟩

/-- An archive is fit to define the package of a class if its body is. -/
lemma visits_fittingManifest? (className packageName : String) :
    Visits (fittingManifest? className packageName) (Body.fit? className packageName)
      fun c manifest => (c.url, manifest) := by
  intro c s hs
  unfold fittingManifest? Body.fit?
  rw [Archive.isPackaged_body]
  by_cases hpack : c.archive.isPackaged = true
  · rw [if_pos hpack, Action.run_bind, Attempt.run_run]
    obtain ⟨r, t, ht, hq, hr⟩ := holdsClass_spec c.archive className packageName hs
    obtain ⟨u, hu, hq'⟩ := Archive.manifest_spec c.archive hpack (hq.undisturbed hs)
    rw [ht]
    by_cases hholds : r = .ok true
    · rw [if_pos ⟨hpack, hr.mp hholds⟩, hholds]
      dsimp only
      rw [Action.run_bind, Attempt.run_run, hu, hq.files]
      rcases c.archive.body.manifest s.files with cause | _ | manifest
      · exact ⟨_, rfl, (hq.trans hq').trans (quiet_noteUnreadable "manifest" c.url cause u)⟩
      · exact ⟨u, rfl, hq.trans hq'⟩
      · exact ⟨u, rfl, hq.trans hq'⟩
    · rw [if_neg fun h => hholds (hr.mpr h.2)]
      rcases r with cause | _ | _
      · exact ⟨_, rfl, hq.trans (quiet_noteUnreadable "archive" c.url cause t)⟩
      · exact ⟨t, rfl, hq⟩
      · exact absurd rfl hholds
  · rw [if_neg hpack, if_neg fun h => hpack h.1]
    exact ⟨s, rfl, .refl s⟩

end Layer

end AppLauncher
