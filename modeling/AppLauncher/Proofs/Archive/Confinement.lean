import AppLauncher.Proofs.Archive.Body
import AppLauncher.Proofs.Archive.Spelling
import AppLauncher.Proofs.FileSystem.Components

/-!
# Exploded archives cannot be left

An exploded archive puts an entry name behind its directory only if the name descends
(`Path.Descends`): all its components are ordinary names, and there is one at least.  So the path
lies strictly below the directory, component by component (`Path.Descends.components_join`).  The
entry name of a class descends unless the class name starts with a dot or a slash
(`Exploded.descends_ofClass_iff`): the dots that could go up have become slashes.

What an archive looks at shows when the files change.  `Attempt.LooksOnlyAt` says that nothing but
what stands at one path makes a difference to a question, neither to its answer nor to the store it
leaves behind.  Each question about a name either looks only at the path of the name or refuses the
name without a look (`Archive.confined`), and the archives that are opened for listed entries stand
at such paths, too.
-/

namespace AppLauncher

/-! ### Paths that descend -/

namespace Path

/-- A relative path that goes down: it has a component, and all of them are ordinary names. -/
structure Descends (relative : Path) : Prop where
  components_ne_nil : relative.components ≠ []
  isName : ∀ component ∈ relative.components, component.isName = true

variable {relative : Path}

/-- A path that descends starts neither at the root nor by staying. -/
lemma Descends.components_eq (h : relative.Descends) :
    relative.isAbsolute = false ∧ relative.components = relative.pieces.filterMap component? := by
  have hname := h.isName
  unfold components at hname ⊢
  dsimp only at hname ⊢
  split at hname
  · exact absurd (hname .root List.mem_cons_self) (by decide)
  · rename_i habsolute
    rw [if_neg habsolute]
    split at hname
    · exact absurd (hname .current List.mem_cons_self) (by decide)
    · rename_i hcurrent
      exact ⟨Bool.eq_false_iff.mpr habsolute, if_neg hcurrent⟩

/-- What descends from a directory lies strictly below it. -/
lemma Descends.components_join (h : relative.Descends) (directory : Path) :
    (directory.join relative).components = directory.components ++ relative.components := by
  obtain ⟨habsolute, hcomponents⟩ := h.components_eq
  by_cases hempty : directory.text = ""
  · obtain rfl : directory = ⟨""⟩ := congrArg Path.mk hempty
    unfold join
    rw [if_neg (by simp [habsolute]), if_pos (.inl rfl), String.empty_append]
    rfl
  · rw [components_join_of_relative hempty habsolute, hcomponents]

/-- A path is strictly below a directory: it is put together from the directory and a path that
descends. -/
def IsBelow (path directory : Path) : Prop :=
  ∃ relative : Path, relative.Descends ∧ path = directory.join relative

/-- What is below a directory has its components, and then ordinary names. -/
lemma IsBelow.exists_components {path directory : Path} (h : path.IsBelow directory) :
    ∃ below, below ≠ [] ∧ (∀ component ∈ below, component.isName = true) ∧
      path.components = directory.components ++ below := by
  obtain ⟨relative, hdescends, rfl⟩ := h
  exact ⟨relative.components, hdescends.components_ne_nil, hdescends.isName,
    hdescends.components_join directory⟩

/-- A path that is not empty descends if it stays within an archive. -/
lemma descends_iff : relative.Descends ↔
    relative.text ≠ "" ∧ Entry.isSafe relative.text = true := by
  have hsafe : Entry.isSafe relative.text = relative.components.all Component.isName := rfl
  rw [hsafe, List.all_eq_true]
  constructor
  · rintro ⟨hne, hname⟩
    refine ⟨fun hempty => hne ?_, hname⟩
    rw [show relative = ⟨""⟩ from congrArg Path.mk hempty]
    rfl
  · rintro ⟨hne, hname⟩
    exact ⟨fun hnil => hne (components_eq_nil hnil), hname⟩

end Path

namespace Exploded

variable {root : Path} {name : String}

/-- A name that descends is put behind the directory. -/
lemma pathOf?_of_descends (h : Path.Descends ⟨Text.dropSlashes name⟩) :
    pathOf? root name = some (root.join ⟨Text.dropSlashes name⟩) := by
  obtain ⟨hne, hsafe⟩ := Path.descends_iff.mp h
  unfold pathOf?
  dsimp only at hne hsafe ⊢
  rw [if_neg (by simp [hne, hsafe])]

/-- A name that does not descend has no path. -/
lemma pathOf?_of_not_descends (h : ¬ Path.Descends ⟨Text.dropSlashes name⟩) :
    pathOf? root name = none := by
  rw [Path.descends_iff, not_and_or, not_not, Bool.not_eq_true] at h
  exact if_pos h

/-! ### Names of classes -/

/-- The entry name of a class has no slashes at its end to drop. -/
lemma dropSlashes_ofClass (className : String) :
    Text.dropSlashes (Entry.ofClass className) = Entry.ofClass className := by
  have hlast : (Entry.ofClass className).toList.getLast? ≠ some '/' :=
    of_decide_eq_false (Entry.endsWithSlash_ofClass className)
  unfold Text.dropSlashes Text.mapString
  rw [Text.dropTrailing_of_getLast?_ne hlast, String.ofList_toList]

/-- The entry name of a class is put behind the directory as it stands, if it descends. -/
lemma pathOf?_ofClass {className : String} (h : Path.Descends ⟨Entry.ofClass className⟩) :
    pathOf? root (Entry.ofClass className) = some (root.join ⟨Entry.ofClass className⟩) := by
  have hdescends : Path.Descends ⟨Text.dropSlashes (Entry.ofClass className)⟩ := by
    rwa [dropSlashes_ofClass]
  rw [pathOf?_of_descends hdescends, dropSlashes_ofClass]

/-- No piece of the entry name of a class stays or goes up. -/
lemma ordinary_of_mem_pieces_ofClass {className piece : String}
    (h : piece ∈ Path.pieces ⟨Entry.ofClass className⟩) : piece ≠ "." ∧ piece ≠ ".." := by
  have hdots : '.' ∉ Text.replaceChar '.' '/' className.toList :=
    Text.notMem_replaceChar (by decide) className.toList
  unfold Path.pieces at h
  dsimp only at h
  rw [Entry.toList_ofClass, Text.split_append_right _ (by decide)] at h
  obtain ⟨part, hpart, rfl⟩ := List.mem_map.mp h
  rcases List.mem_append.mp hpart with hinner | hlast
  · -- a piece in front of the last slash has no dots left
    have hpiece : '.' ∉ part := fun hdot =>
      hdots (Text.mem_of_mem_split (List.dropLast_subset _ hinner) hdot)
    constructor <;> intro heq <;> refine hpiece ?_
    · rw [show part = ['.'] by simpa using congrArg String.toList heq]
      exact List.mem_singleton.mpr rfl
    · rw [show part = ['.', '.'] by simpa using congrArg String.toList heq]
      exact List.mem_cons_self
  · obtain rfl := List.mem_singleton.mp hlast
    constructor <;> intro heq <;> have hlength := congrArg (fun s => s.toList.length) heq <;>
      simp at hlength

/-- The entry name of a class descends unless the class name starts with a dot or a slash. -/
lemma descends_ofClass_iff {className : String} : Path.Descends ⟨Entry.ofClass className⟩ ↔
    className.toList.head? ≠ some '.' ∧ className.toList.head? ≠ some '/' := by
  have hhead : (Entry.ofClass className).toList.head? = some '/' ↔
      className.toList.head? = some '.' ∨ className.toList.head? = some '/' := by
    rw [Entry.toList_ofClass]
    unfold Text.replaceChar
    cases className.toList with
    | nil => decide
    | cons c cs => by_cases hc : c = '.' <;> simp [hc]
  have hne : Entry.ofClass className ≠ "" := by
    intro hempty
    have hslash := congrArg String.toList hempty
    simp [Entry.ofClass] at hslash
  have hpieces : ∀ piece ∈ Path.pieces ⟨Entry.ofClass className⟩, piece ≠ "." ∧ piece ≠ ".." :=
    fun piece => ordinary_of_mem_pieces_ofClass
  rw [← not_or, ← hhead, Path.descends_iff]
  by_cases habsolute : Path.isAbsolute ⟨Entry.ofClass className⟩ = true
  · refine iff_of_false ?_ (not_not.mpr (of_decide_eq_true habsolute))
    rintro ⟨-, hsafe⟩
    have hdescends : Path.Descends ⟨Entry.ofClass className⟩ := Path.descends_iff.mpr ⟨hne, hsafe⟩
    exact absurd habsolute (Bool.eq_false_iff.mp hdescends.components_eq.1)
  · have hrelative := Bool.eq_false_iff.mpr habsolute
    refine iff_of_true ⟨hne, (Path.isSafe_iff hrelative).mpr ⟨?_, ?_⟩⟩
      (of_decide_eq_false hrelative)
    · exact fun hfirst => (hpieces "." (List.mem_of_head? hfirst)).1 rfl
    · exact fun hup => (hpieces ".." hup).2 rfl

end Exploded

/-! ### What is looked at -/

namespace FileSystem

/-- Two file systems show the same at a path: whether anything stands there and of which kind it is,
and what is read of it. -/
structure ShowSame (path : Path) (files files' : FileSystem) : Prop where
  exists? : files.exists? path = files'.exists? path
  isDirectory : files.isDirectory path = files'.isDirectory path
  isFile : files.isFile path = files'.isFile path
  read : files.read path = files'.read path

end FileSystem

open FileSystem (ShowSame)

namespace Exploded

variable {root : Path} {name : String} {files files' : FileSystem}

/-- The entry of a name depends on what is shown at its path. -/
lemma find?_congr {path : Path} (hpath : pathOf? root name = some path)
    (h : ShowSame path files files') : find? files root name = find? files' root name := by
  have hexists := h.exists?
  have hdirectory := h.isDirectory
  unfold FileSystem.exists? at hexists
  unfold FileSystem.isDirectory at hdirectory
  unfold find?
  rw [hpath, Option.bind_some, Option.bind_some]
  cases hnode : files.node path with
  | error fault =>
    cases hnode' : files'.node path with
    | error fault' => rfl
    | ok node' =>
      rw [hnode, hnode'] at hexists
      cases hexists
  | ok node =>
    cases hnode' : files'.node path with
    | error fault' =>
      rw [hnode, hnode'] at hexists
      cases hexists
    | ok node' =>
      rw [hnode, hnode'] at hdirectory
      dsimp only at hdirectory ⊢
      rw [hdirectory]

/-- The content of an entry depends on what is shown at its path. -/
lemma read?_congr {path : Path} (hpath : pathOf? root name = some path)
    (h : ShowSame path files files') : read? files root name = read? files' root name := by
  unfold read?
  rw [hpath]
  dsimp only
  rw [h.isFile, h.read]

/-- What is nested under a name depends on what is shown at its path. -/
lemma nesting?_congr {path : Path} (hpath : pathOf? root name = some path)
    (h : ShowSame path files files') : nesting? files root name = nesting? files' root name := by
  unfold nesting?
  rw [hpath, Option.bind_some, Option.bind_some, h.isDirectory, h.isFile]

end Exploded

namespace Attempt

variable {ε α β : Type} {paths : Path → Prop}

/-- A computation looks at nothing but what the files show at some paths: any other change of the
files shows neither in its result nor in the rest of the store.  In particular it leaves the files
as they are. -/
def LooksOnlyAt (paths : Path → Prop) (x : Attempt ε α) : Prop :=
  ∀ (s : Store) (files : FileSystem), (∀ path, paths path → ShowSame path files s.files) →
    x { s with files } = ((x s).1, { (x s).2 with files })

/-- A computation that looks at the files does not change them. -/
lemma LooksOnlyAt.files_eq {x : Attempt ε α} (h : LooksOnlyAt paths x) (s : Store) :
    (x s).2.files = s.files :=
  congrArg (fun result => result.2.files) (h s s.files fun _ _ => ⟨rfl, rfl, rfl, rfl⟩)

/-- What looks at some paths only looks at no others when there are more of them. -/
lemma LooksOnlyAt.mono {more : Path → Prop} {x : Attempt ε α} (h : LooksOnlyAt paths x)
    (hmore : ∀ path, paths path → more path) : LooksOnlyAt more x :=
  fun s files hsame => h s files fun path hpath => hsame path (hmore path hpath)

/-- What is given back needs no look at the files. -/
lemma looksOnlyAt_pure (a : α) : LooksOnlyAt paths (pure a : Attempt ε α) := fun _ _ _ => rfl

/-- Two computations look where each of them looks. -/
lemma LooksOnlyAt.bind {x : Attempt ε α} {f : α → Attempt ε β} (hx : LooksOnlyAt paths x)
    (hf : ∀ a, LooksOnlyAt paths (f a)) : LooksOnlyAt paths (x >>= f) := by
  intro s files h
  have hfiles := hx.files_eq s
  rw [run_bind, run_bind, hx s files h]
  rcases hrun : x s with ⟨cause | a, t⟩
  · rfl
  · rw [hrun] at hfiles
    refine hf a t files fun path hpath => ?_
    rw [hfiles]
    exact h path hpath

/-- A function applied to the result needs no look at the files. -/
lemma LooksOnlyAt.map {x : Attempt ε α} (hx : LooksOnlyAt paths x) (f : α → β) :
    LooksOnlyAt paths (f <$> x) := by
  intro s files h
  rw [run_map, run_map, hx s files h]

/-- Computations for the elements of a list look where each of them looks. -/
lemma LooksOnlyAt.mapM {l : List α} {f : α → Attempt ε β}
    (hf : ∀ a ∈ l, LooksOnlyAt paths (f a)) : LooksOnlyAt paths (l.mapM f) := by
  induction l with
  | nil => exact looksOnlyAt_pure []
  | cons a l ih =>
    rw [List.mapM_cons]
    have hrest := ih fun b hb => hf b (List.mem_cons_of_mem a hb)
    exact (hf a List.mem_cons_self).bind fun _ => hrest.bind fun _ => looksOnlyAt_pure _

end Attempt

namespace Archive

open Attempt (LooksOnlyAt)

/-! ### Questions to an exploded archive -/

/-- An archive stands at a path. -/
def StandsAt (path : Path) (a : Archive) : Prop :=
  a.url = .directory path ∨ a.url = .artifact path

/-- An archive refuses a name: it answers all questions about it with nothing, whatever the store,
and with it the files. -/
def Refuses (a : Archive) (name : String) : Prop :=
  ∀ s, a.find? name s = (.ok none, s) ∧ a.read? name s = (.ok none, s) ∧
    a.nested? name s = (.ok none, s)

/-- An archive looks at nothing but one path when it is asked about a name, and what is nested there
stands at this path. -/
structure LooksUpAt (a : Archive) (name : String) (path : Path) : Prop where
  find? : LooksOnlyAt (· = path) (a.find? name)
  read? : LooksOnlyAt (· = path) (a.read? name)
  nested? : LooksOnlyAt (· = path) (a.nested? name)
  standsAt : ∀ s nested, (a.nested? name s).1 = .ok (some nested) → nested.StandsAt path

/-- Opening an artifact looks at its path only. -/
lemma looksOnlyAt_open? (path : Path) : LooksOnlyAt (· = path) (open? path) := by
  intro s files h
  unfold open?
  rw [Attempt.run_bind_files, Attempt.run_bind_files, (h path rfl).read]
  cases s.files.read path with
  | error fault => rfl
  | ok file =>
    dsimp only
    cases Trailer.payload file with
    | error offset => rfl
    | ok data => rfl

/-- An artifact that has been opened stands at its path. -/
lemma standsAt_of_open? {path : Path} {s : Store} {a : Archive} (h : (open? path s).1 = .ok a) :
    a.StandsAt path := by
  obtain ⟨result, t, hopen, hbody, -⟩ := open?_spec path s
  rw [hopen] at h
  dsimp only at h
  subst h
  have hurl := hbody.symm
  unfold Body.open? at hurl
  split at hurl
  · cases hurl
  · split at hurl
    · cases hurl
    · have hartifact := congrArg Body.url (Except.ok.inj hurl)
      rw [url_body] at hartifact
      exact .inr hartifact.symm

/-- The path of what is nested in an exploded archive. -/
def nestingPath : Exploded.Nesting → Path
  | .exploded root => root
  | .artifact path => path

/-- Opening what is nested looks at its path only. -/
lemma looksOnlyAt_openNesting (nesting : Exploded.Nesting) :
    LooksOnlyAt (· = nestingPath nesting) (openNesting nesting) := by
  cases nesting with
  | exploded root => exact fun _ _ _ => rfl
  | artifact path => exact looksOnlyAt_open? path

/-- What is nested is opened at its path. -/
lemma standsAt_of_openNesting {nesting : Exploded.Nesting} {s : Store} {a : Archive}
    (h : (openNesting nesting s).1 = .ok a) : a.StandsAt (nestingPath nesting) := by
  cases nesting with
  | exploded root =>
    cases h
    exact .inl rfl
  | artifact path => exact standsAt_of_open? h

/-- All that is opened for a list stands at the paths of the list. -/
lemma standsAt_of_mapM {nestings : List Exploded.Nesting} {s : Store} {archives : List Archive}
    (h : (nestings.mapM openNesting s).1 = .ok archives) {a : Archive} (ha : a ∈ archives) :
    ∃ nesting ∈ nestings, a.StandsAt (nestingPath nesting) := by
  induction nestings generalizing s archives with
  | nil =>
    cases h
    cases ha
  | cons nesting nestings ih =>
    rw [List.mapM_cons, Attempt.run_bind] at h
    rcases hfirst : openNesting nesting s with ⟨cause | first, u⟩
    · rw [hfirst] at h
      cases h
    · rw [hfirst] at h
      dsimp only at h
      rw [Attempt.run_bind] at h
      rcases hrest : nestings.mapM openNesting u with ⟨cause | rest, v⟩
      · rw [hrest] at h
        cases h
      · rw [hrest] at h
        cases h
        rcases List.mem_cons.mp ha with rfl | hmem
        · have hopened := congrArg Prod.fst hfirst
          exact ⟨nesting, List.mem_cons_self, standsAt_of_openNesting hopened⟩
        · obtain ⟨other, hother, hstands⟩ := ih (congrArg Prod.fst hrest) hmem
          exact ⟨other, List.mem_cons_of_mem nesting hother, hstands⟩

section

variable {id : Nat} {root : Path} {name : String}

/-- A name without a path is refused. -/
lemma refuses_of_pathOf? (h : Exploded.pathOf? root name = none) :
    (exploded id root).Refuses name := by
  intro s
  refine ⟨?_, ?_, ?_⟩
  · dsimp only [find?]
    rw [Attempt.run_bind_files, Attempt.run_pure]
    unfold Exploded.find?
    rw [h, Option.bind_none]
  · dsimp only [read?]
    rw [Attempt.run_bind_files, Attempt.run_liftExcept]
    unfold Exploded.read?
    rw [h]
  · dsimp only [nested?]
    rw [Attempt.run_bind_files]
    unfold Exploded.nesting?
    rw [h, Option.bind_none]
    rfl

/-- What is nested under a name is at the path of the name. -/
lemma nestingPath_of_nesting? {path : Path} (hpath : Exploded.pathOf? root name = some path)
    {files : FileSystem} {nesting : Exploded.Nesting}
    (h : Exploded.nesting? files root name = some nesting) : nestingPath nesting = path := by
  unfold Exploded.nesting? at h
  rw [hpath, Option.bind_some] at h
  split at h
  · cases h
    rfl
  · split at h
    · cases h
      rfl
    · cases h

/-- A name with a path is looked up there and nowhere else. -/
lemma looksUpAt_of_pathOf? {path : Path} (h : Exploded.pathOf? root name = some path) :
    (exploded id root).LooksUpAt name path where
  find? s files hsame := by
    dsimp only [find?]
    rw [Attempt.run_bind_files, Attempt.run_bind_files]
    dsimp only
    rw [Exploded.find?_congr h (hsame path rfl)]
    rfl
  read? s files hsame := by
    dsimp only [read?]
    rw [Attempt.run_bind_files, Attempt.run_bind_files]
    dsimp only
    rw [Exploded.read?_congr h (hsame path rfl), Attempt.run_liftExcept, Attempt.run_liftExcept]
  nested? s files hsame := by
    dsimp only [nested?]
    rw [Attempt.run_bind_files, Attempt.run_bind_files]
    dsimp only
    rw [Exploded.nesting?_congr h (hsame path rfl)]
    cases hnesting : Exploded.nesting? s.files root name with
    | none => rfl
    | some nesting =>
      have hlooks := looksOnlyAt_openNesting nesting
      rw [nestingPath_of_nesting? h hnesting] at hlooks
      exact hlooks.map some s files hsame
  standsAt s nested hnested := by
    dsimp only [nested?] at hnested
    rw [Attempt.run_bind_files] at hnested
    cases hnesting : Exploded.nesting? s.files root name with
    | none =>
      rw [hnesting] at hnested
      cases hnested
    | some nesting =>
      rw [hnesting] at hnested
      dsimp only at hnested
      rw [Attempt.run_map] at hnested
      rcases hopen : openNesting nesting s with ⟨cause | a, u⟩
      · rw [hopen] at hnested
        cases hnested
      · rw [hopen] at hnested
        cases hnested
        rw [← nestingPath_of_nesting? h hnesting]
        exact standsAt_of_openNesting (congrArg Prod.fst hopen)

/-- What is nested under a listed entry is below the directory. -/
lemma isBelow_of_nestingOf? {entry : Entry} {nesting : Exploded.Nesting}
    (h : Exploded.nestingOf? root entry = some nesting) : (nestingPath nesting).IsBelow root := by
  obtain ⟨path, hpath, rfl⟩ := Option.map_eq_some_iff.mp h
  have hbelow : path.IsBelow root := by
    by_cases hdescends : Path.Descends ⟨Text.dropSlashes entry.name⟩
    · rw [Exploded.pathOf?_of_descends hdescends] at hpath
      exact ⟨_, hdescends, (Option.some.inj hpath).symm⟩
    · rw [Exploded.pathOf?_of_not_descends hdescends] at hpath
      cases hpath
  split <;> exact hbelow

/-- The archives nested under entries stand below the directory. -/
lemma isBelow_of_nestedAll {filter : Entry → Bool} {s : Store} {archives : List Archive}
    (h : ((exploded id root).nestedAll filter s).1 = .ok archives) {a : Archive}
    (ha : a ∈ archives) : ∃ path : Path, path.IsBelow root ∧ a.StandsAt path := by
  dsimp only [nestedAll] at h
  rw [Attempt.run_bind_files, Attempt.run_bind, Attempt.run_liftExcept] at h
  cases hentries : Exploded.entries s.files root with
  | error cause =>
    rw [hentries] at h
    cases h
  | ok listed =>
    rw [hentries] at h
    obtain ⟨nesting, hmem, hstands⟩ := standsAt_of_mapM h ha
    obtain ⟨entry, -, hentry⟩ := List.mem_filterMap.mp hmem
    exact ⟨_, isBelow_of_nestingOf? hentry, hstands⟩

/-- Opening the archives nested under entries needs, besides the listing, a look at paths below the
directory only. -/
lemma nestedAll_congr {filter : Entry → Bool} {s : Store} {files : FileSystem}
    (hlisted : Exploded.entries files root = Exploded.entries s.files root)
    (hsame : ∀ path : Path, path.IsBelow root → ShowSame path files s.files) :
    (exploded id root).nestedAll filter { s with files } =
      (((exploded id root).nestedAll filter s).1,
        { ((exploded id root).nestedAll filter s).2 with files }) := by
  dsimp only [nestedAll]
  rw [Attempt.run_bind_files, Attempt.run_bind_files, Attempt.run_bind, Attempt.run_bind,
    Attempt.run_liftExcept, Attempt.run_liftExcept]
  dsimp only
  rw [hlisted]
  cases Exploded.entries s.files root with
  | error cause => rfl
  | ok listed =>
    have hopens : LooksOnlyAt (·.IsBelow root)
        (((listed.filter filter).filterMap (Exploded.nestingOf? root)).mapM openNesting) := by
      refine LooksOnlyAt.mapM fun nesting hmem => ?_
      obtain ⟨entry, -, hentry⟩ := List.mem_filterMap.mp hmem
      have hbelow := isBelow_of_nestingOf? hentry
      exact (looksOnlyAt_openNesting nesting).mono fun path hpath => hpath ▸ hbelow
    exact hopens s files hsame

end

/-- An exploded archive cannot be left.  A name is refused without a look at the files, or nothing
is looked at but one path below the directory; such a path has the components of the directory, and
then ordinary names.  The entry name of a class is refused if the class name starts with a dot or a
slash, and otherwise leads below the directory as it stands.  The archives nested under entries
stand below the directory, and opening them needs, besides the listing, a look at paths there only.
-/
theorem confined (id : Nat) (root : Path) :
    (∀ name, (exploded id root).Refuses name ∨
      ∃ path : Path, path.IsBelow root ∧ (exploded id root).LooksUpAt name path) ∧
    (∀ path : Path, path.IsBelow root → ∃ below, below ≠ [] ∧
      (∀ component ∈ below, component.isName = true) ∧
      path.components = root.components ++ below) ∧
    (∀ className, className.toList.head? = some '.' ∨ className.toList.head? = some '/' →
      (exploded id root).Refuses (Entry.ofClass className)) ∧
    (∀ className, className.toList.head? ≠ some '.' → className.toList.head? ≠ some '/' →
      (root.join ⟨Entry.ofClass className⟩).IsBelow root ∧
      (exploded id root).LooksUpAt (Entry.ofClass className)
        (root.join ⟨Entry.ofClass className⟩)) ∧
    (∀ filter s archives, ((exploded id root).nestedAll filter s).1 = .ok archives →
      ∀ a ∈ archives, ∃ path : Path, path.IsBelow root ∧ a.StandsAt path) ∧
    (∀ filter (s : Store) files, Exploded.entries files root = Exploded.entries s.files root →
      (∀ path : Path, path.IsBelow root → ShowSame path files s.files) →
      (exploded id root).nestedAll filter { s with files } =
        (((exploded id root).nestedAll filter s).1,
          { ((exploded id root).nestedAll filter s).2 with files })) := by
  refine ⟨fun name => ?_, fun path => Path.IsBelow.exists_components, fun className hfirst => ?_,
    fun className hdot hslash => ?_, fun filter s archives h a => isBelow_of_nestedAll h,
    fun filter s files => nestedAll_congr⟩
  · by_cases h : Path.Descends ⟨Text.dropSlashes name⟩
    · exact .inr ⟨_, ⟨_, h, rfl⟩, looksUpAt_of_pathOf? (Exploded.pathOf?_of_descends h)⟩
    · exact .inl (refuses_of_pathOf? (Exploded.pathOf?_of_not_descends h))
  · refine refuses_of_pathOf? (Exploded.pathOf?_of_not_descends fun h => ?_)
    rw [Exploded.dropSlashes_ofClass, Exploded.descends_ofClass_iff] at h
    exact hfirst.elim h.1 h.2
  · have h := Exploded.descends_ofClass_iff.mpr ⟨hdot, hslash⟩
    exact ⟨⟨_, h, rfl⟩, looksUpAt_of_pathOf? (Exploded.pathOf?_ofClass h)⟩

/-- A class is looked up below the directory, one with a dot in front is refused, and the archive
that is opened for a directory stands below as well. -/
theorem confined_classFiles :
    let s : Store := { (default : Store) with files := Exploded.classFiles }
    (⟨"t/p/X.class"⟩ : Path).IsBelow ⟨"t"⟩ ∧
      (exploded 0 ⟨"t"⟩).LooksUpAt "p/X.class" ⟨"t/p/X.class"⟩ ∧
      (exploded 0 ⟨"t"⟩).Refuses "/etc/passwd.class" ∧
      ((exploded 0 ⟨"t"⟩).nestedAll (·.isDirectory) s).1 = .ok [exploded 0 ⟨"t/p"⟩] ∧
      ∃ path : Path, path.IsBelow ⟨"t"⟩ ∧ (exploded 0 ⟨"t/p"⟩).StandsAt path := by
  intro s
  obtain ⟨-, -, hrefused, hclass, hnested, -⟩ := confined 0 ⟨"t"⟩
  have hopened : ((exploded 0 ⟨"t"⟩).nestedAll (·.isDirectory) s).1 =
      .ok [exploded 0 ⟨"t/p"⟩] := by
    dsimp only [nestedAll]
    rw [Attempt.run_bind_files, Exploded.entries_classFiles,
      Attempt.run_bind_ok (Attempt.run_liftExcept _ _)]
    decide +kernel
  have hentry : Entry.ofClass "p.X" = "p/X.class" := by decide +kernel
  have hpath : (⟨"t"⟩ : Path).join ⟨"p/X.class"⟩ = ⟨"t/p/X.class"⟩ := by decide +kernel
  have hbelow := hclass "p.X" (by decide) (by decide)
  rw [hentry, hpath] at hbelow
  have hroot : Entry.ofClass ".etc.passwd" = "/etc/passwd.class" := by decide +kernel
  exact ⟨hbelow.1, hbelow.2, hroot ▸ hrefused ".etc.passwd" (.inl rfl), hopened,
    hnested _ s _ hopened _ List.mem_cons_self⟩

end Archive

end AppLauncher
