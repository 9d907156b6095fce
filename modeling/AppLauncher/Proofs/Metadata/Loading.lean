import AppLauncher.Metadata.Basic
import AppLauncher.Proofs.Loader.Likeness
import AppLauncher.Proofs.Loader.Resources
import AppLauncher.Proofs.Table

/-!
# Loading metadata

The metadata of a chain is read from all resources of one name, in the order in which the chain
gives them (`Loader.exists_parts`): the outermost loader comes first, and each loader has them in
the order of its urls.  What is read from a resource is a matter of the files alone
(`Resource.read_eq`), so that it does not count when each of them is read.  If all of them can be
read, then their entries are added up (`Metadata.readAll_ok`), and otherwise the first one that
cannot be read is reported (`Metadata.readAll_error`).
-/

namespace AppLauncher

/-! ### Reading a resource -/

/-- The content of a resource is that of the entry in its archive. -/
lemma Resource.run_read (r : Resource) (s : Store) :
    ∃ t, r.read s = ((r.archive.body.read? s.files r.name).bind fun content =>
      match content with
      | some content => .ok content
      | none => .error (.missingEntry r.archive.url r.name), t) ∧ s.Quiet t := by
  have hquiet := r.archive.quiet_read? r.name s
  rw [← Archive.read?_spec r.archive r.name s]
  unfold read
  rw [Attempt.run_bind]
  rcases hread : r.archive.read? r.name s with ⟨cause | _ | content, t⟩
  · rw [hread] at hquiet
    exact ⟨t, rfl, hquiet⟩
  · rw [hread] at hquiet
    exact ⟨t, rfl, hquiet⟩
  · rw [hread] at hquiet
    exact ⟨t, rfl, hquiet⟩

/-- The content of a resource depends on the files only. -/
lemma Resource.read_eq (r : Resource) {s t : Store} (h : t.files = s.files) :
    (r.read t).1 = (r.read s).1 := by
  obtain ⟨u, hu, -⟩ := r.run_read t
  obtain ⟨v, hv, -⟩ := r.run_read s
  rw [hu, hv, h]

namespace Metadata

/-- The entries of a properties resource. -/
def entriesOf (content : List UInt8) : List (String × String) :=
  Properties.parse (Text.Latin1.decode content)

/-! ### Reading all resources -/

section

variable {known : Table String String} {r : Resource} {resources : List Resource} {s t : Store}

/-- What is read next adds its entries, or ends the reading if it cannot be read. -/
lemma run_readAll_cons (known : Table String String) (r : Resource) (resources : List Resource)
    (t : Store) :
    ∃ u, u.files = t.files ∧ readAll known (r :: resources) t =
      match (r.read t).1 with
      | .ok content => readAll (known.union (.ofList (entriesOf content))) resources u
      | .error cause => (.error (.read r.text cause), u) := by
  let logged := (Action.log .debug logTarget "Loading auto-configuration metadata"
    [.plain "resource" r.text] t).2
  obtain ⟨u, hu, hquiet⟩ := r.run_read logged
  refine ⟨u, hquiet.files, ?_⟩
  have hread : (r.read t).1 = (r.read logged).1 := r.read_eq rfl
  rw [readAll, Attempt.run_bind_lift, Attempt.run_bind, Attempt.run_adapt, hread, hu]
  cases (r.archive.body.read? logged.files r.name).bind _ <;> rfl

/-- If all resources can be read, then their entries are added to what is known. -/
lemma readAll_ok {contents : List (List UInt8)} (hfiles : t.files = s.files)
    (h : resources.map (fun r => (r.read s).1) = contents.map .ok) :
    (readAll known resources t).1 = .ok
      ⟨(contents.map entriesOf).foldl (fun t entries => t.union (.ofList entries)) known⟩ := by
  induction resources generalizing contents known t with
  | nil =>
    cases contents with
    | nil => rfl
    | cons => cases h
  | cons r resources ih =>
    cases contents with
    | nil => cases h
    | cons content contents =>
      obtain ⟨hcontent, hlater⟩ := List.cons.inj h
      obtain ⟨u, hu, hrun⟩ := run_readAll_cons known r resources t
      have hread : (r.read t).1 = .ok content := (r.read_eq hfiles).trans hcontent
      rw [hrun, hread]
      exact ih (hu.trans hfiles) hlater

/-- The first resource that cannot be read is reported. -/
lemma readAll_error {before after : List Resource} {cause : ArchiveError}
    (hfiles : t.files = s.files) (hbefore : ∀ r ∈ before, ∃ content, (r.read s).1 = .ok content)
    (h : (r.read s).1 = .error cause) :
    (readAll known (before ++ r :: after) t).1 = .error (.read r.text cause) := by
  induction before generalizing known t with
  | nil =>
    obtain ⟨u, -, hrun⟩ := run_readAll_cons known r after t
    rw [List.nil_append, hrun, r.read_eq hfiles, h]
  | cons first before ih =>
    obtain ⟨content, hcontent⟩ := hbefore first (.head _)
    obtain ⟨u, hu, hrun⟩ := run_readAll_cons known first (before ++ r :: after) t
    rw [List.cons_append, hrun, first.read_eq hfiles, hcontent]
    exact ih (hu.trans hfiles) fun r hr => hbefore r (.tail _ hr)

end

/-! ### The last entry wins -/

/-- The resources that metadata is read from come from the outermost loader first, and in the order
of the urls of each loader.  If all of them can be read, then a value of a candidate is that of its
last entry in the last resource that has one, and there are as many entries as there are different
keys.  Otherwise there is no metadata, and the first resource that cannot be read is reported. -/
theorem load_last_wins (loader : Loader) {s : Store} (hs : s.Undisturbed) :
    let found := (loader.resources resourceName s).1
    let content := fun r : Resource => (r.read (loader.resources resourceName s).2).1
    (∃ parts, found = parts.flatten ∧ List.Forall₂ (fun (a : Loader) part => ∃ t,
        t.Undisturbed ∧ t.files = s.files ∧ (a.findResources resourceName t).1 = part ∧
        a.ResourcesAgree resourceName t)
      loader.lineage parts) ∧
    (∀ contents : List (List UInt8), found.map content = contents.map .ok →
      ∃ m, (load loader s).1 = .ok m ∧
        (∀ candidate key, m.get? candidate key = contents.reverse.findSome? fun content =>
          Table.lastValue? (entriesOf content) (candidate ++ "." ++ key)) ∧
        m.size = ((contents.flatMap entriesOf).map Prod.fst).dedup.length) ∧
    ∀ before r after cause, found = before ++ r :: after →
      (∀ earlier ∈ before, ∃ bytes, content earlier = .ok bytes) → content r = .error cause →
      (load loader s).1 = .error (.read r.text cause) := by
  intro found content
  have hload : (load loader s).1 =
      (readAll .empty found (loader.resources resourceName s).2).1 := by
    unfold load
    rw [Attempt.run_bind_lift]
  refine ⟨loader.exists_parts resourceName hs, ?_, ?_⟩
  · intro contents hcontents
    refine ⟨_, hload.trans (readAll_ok rfl hcontents), fun candidate key => ?_, ?_⟩
    · unfold get?
      rw [Table.get?_foldl_union, Table.get?_empty, Option.or_none, Table.lastValue?_flatten,
        ← List.map_reverse, List.findSome?_map]
      rfl
    · unfold size
      rw [Table.size_foldl_union, List.flatMap_def]
  · intro before r after cause hfound hbefore hr
    rw [hload, hfound]
    exact readAll_error rfl hbefore hr

/-- Two directories with metadata. -/
def layeredFiles : FileSystem where
  root := .directory (.cons "d" (.directory (.cons "META-INF" (.directory
      (.cons "spring-autoconfigure-metadata.properties"
        (.file (Text.Utf8.encode "A.k=1\nA.k=2\nB.k=1\n".toList)) .nil)) .nil))
    (.cons "e" (.directory (.cons "META-INF" (.directory
      (.cons "spring-autoconfigure-metadata.properties"
        (.file (Text.Utf8.encode "A.k=3\n".toList)) .nil)) .nil)) .nil))
  working := []

/-- The first directory in the outer layer, the second one in the inner layer. -/
def layeredChain : Loader :=
  .isolated ⟨2, [.directory ⟨"e"⟩], 3⟩ (.isolated ⟨1, [.directory ⟨"d"⟩], 3⟩ .absent)

/-- A store in which nothing has happened to the directories yet. -/
def layeredStore : Store := .start layeredFiles 4

/-- An archive in place of the second directory, of which the metadata cannot be read. -/
def unreadableArchive : Archive :=
  .scripted 0 ⟨.directory ⟨"e"⟩, false, [(resourceName, .failing "lost")], .absent, none⟩

/-- The sample has the value of the inner layer, and none when that cannot be read. -/
theorem load_last_wins_layeredChain :
    layeredStore.Undisturbed ∧
    (∃ m, (load layeredChain layeredStore).1 = .ok m ∧ m.get? "A" "k" = some "3" ∧
      m.get? "B" "k" = some "1" ∧ m.get? "B" "l" = none ∧ m.size = 2) ∧
    (load layeredChain (Handler.register 3 unreadableArchive layeredStore).2).1 =
      .error (.read ("file:e/" ++ resourceName)
        (.malformed (.directory ⟨"e"⟩) (.scripted "lost"))) := by
  obtain ⟨-, hread, -⟩ := load_last_wins layeredChain (s := layeredStore) rfl
  obtain ⟨m, hm, hget, hsize⟩ := hread
    [Text.Utf8.encode "A.k=1\nA.k=2\nB.k=1\n".toList, Text.Utf8.encode "A.k=3\n".toList]
    (by decide +kernel)
  obtain ⟨-, -, hfailed⟩ := load_last_wins layeredChain
    (s := (Handler.register 3 unreadableArchive layeredStore).2) rfl
  have hlost := hfailed [⟨.exploded 4 ⟨"d"⟩, resourceName⟩] ⟨unreadableArchive, resourceName⟩ []
    (.malformed (.directory ⟨"e"⟩) (.scripted "lost")) (by decide +kernel)
    (fun earlier h => ⟨Text.Utf8.encode "A.k=1\nA.k=2\nB.k=1\n".toList, by
      rw [List.mem_singleton.mp h]
      decide +kernel⟩)
    (by decide +kernel)
  refine ⟨rfl, ⟨m, hm, ?_, ?_, ?_, ?_⟩, hlost⟩
  · rw [hget]
    decide +kernel
  · rw [hget]
    decide +kernel
  · rw [hget]
    decide +kernel
  · rw [hsize]
    decide +kernel

end Metadata

end AppLauncher
