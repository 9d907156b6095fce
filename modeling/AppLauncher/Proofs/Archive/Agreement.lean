import AppLauncher.Proofs.Archive.Nesting
import AppLauncher.Proofs.Archive.Relocation

/-!
# Exploded and packaged archives of one tree

A tree of directories and regular files can be read as it is, or from a stream that lists it.  Both
archives answer from the tree (`Archive.AnswersFrom`): an exploded one because its paths lead to the
nodes (`Exploded.Spans.answersFrom`), a packaged one because its index shows the tree
(`Index.Shows.answersFrom`).  So they agree on what they list, find and read (`Archive.Agree`), and
what is nested in them agrees as well (`Archive.exploded_agrees_packaged`).

A nested directory is an exploded archive over a tree on one side and a view on the other, and both
answer from the tree of the directory.  A nested file is a packaged archive on both sides: opened as
an artifact, or taken from the stream.  As the trailer of an artifact counts only when it is opened,
the two hold the same bytes if the file has none.

The paths of the tree have to be short enough to be walked, and a trailer must not point behind its
file: otherwise the exploded archive lists what it cannot find or open, and the packaged one finds
and opens it (`Archive.exploded_disagrees_packaged`).
-/

namespace AppLauncher

open FileSystem (Node Forest)

/-! ### Answers from a tree -/

namespace Archive

/-- An archive answers from a tree, as long as the files are the given ones: it lists the tree, and
for the names that steps can have it finds and reads what the tree has. -/
structure AnswersFrom (a : Archive) (files : FileSystem) (tree : Forest) : Prop where
  entries : ∀ s : Store, s.files = files → (a.entries s).1 = .ok tree.listing
  find? : ∀ steps slash, steps ≠ [] → (∀ step ∈ steps, Path.IsStep step) → ∀ s : Store,
    s.files = files → (a.find? (Entry.nameOf steps slash) s).1 =
      .ok (tree.found? (Entry.nameOf steps slash))
  read? : ∀ steps slash, steps ≠ [] → (∀ step ∈ steps, Path.IsStep step) → ∀ s : Store,
    s.files = files → (a.read? (Entry.nameOf steps slash) s).1 =
      .ok (tree.read? (Entry.nameOf steps slash))

/-- Two archives agree, as long as the files are the given ones: they list the same entries, and
for the names that steps can have they find and read the same. -/
structure Agree (files : FileSystem) (a b : Archive) : Prop where
  entries : ∀ s t : Store, s.files = files → t.files = files →
    ∃ listed, (a.entries s).1 = .ok listed ∧ (b.entries t).1 = .ok listed
  find? : ∀ steps slash, steps ≠ [] → (∀ step ∈ steps, Path.IsStep step) → ∀ s t : Store,
    s.files = files → t.files = files →
      ∃ found, (a.find? (Entry.nameOf steps slash) s).1 = .ok found ∧
        (b.find? (Entry.nameOf steps slash) t).1 = .ok found
  read? : ∀ steps slash, steps ≠ [] → (∀ step ∈ steps, Path.IsStep step) → ∀ s t : Store,
    s.files = files → t.files = files →
      ∃ content, (a.read? (Entry.nameOf steps slash) s).1 = .ok content ∧
        (b.read? (Entry.nameOf steps slash) t).1 = .ok content

/-- Archives that answer from one tree agree. -/
lemma AnswersFrom.agree {files : FileSystem} {tree : Forest} {a b : Archive}
    (ha : a.AnswersFrom files tree) (hb : b.AnswersFrom files tree) : Agree files a b where
  entries s t hs ht := ⟨_, ha.entries s hs, hb.entries t ht⟩
  find? steps slash hne hsteps s t hs ht :=
    ⟨_, ha.find? steps slash hne hsteps s hs, hb.find? steps slash hne hsteps t ht⟩
  read? steps slash hne hsteps s t hs ht :=
    ⟨_, ha.read? steps slash hne hsteps s hs, hb.read? steps slash hne hsteps t ht⟩

end Archive

/-- An exploded archive answers from the tree of its directory. -/
lemma Exploded.Spans.answersFrom {files : FileSystem} {root : Path} {tree : Forest}
    (h : Spans files root tree) (id : Nat) :
    (Archive.exploded id root).AnswersFrom files tree := by
  constructor
  · intro s hs
    dsimp only [Archive.entries]
    rw [Attempt.run_bind_files, Attempt.run_liftExcept, hs]
    exact h.entries_eq
  · intro steps slash hne hsteps s hs
    dsimp only [Archive.find?]
    rw [Attempt.run_bind_files, Attempt.run_pure, hs, h.find?_eq hne hsteps]
  · intro steps slash hne hsteps s hs
    dsimp only [Archive.read?]
    rw [Attempt.run_bind_files, Attempt.run_liftExcept, hs]
    exact h.read?_eq hne hsteps slash

/-- A packaged archive answers from the tree that its index shows. -/
lemma Index.Shows.answersFrom {stream : Stream} {index : Index} {tree : Forest}
    (h : index.Shows stream.data tree) (hindex : stream.index = .ok index) (hplain : tree.IsPlain)
    (id : Nat) (files : FileSystem) : (Archive.packaged id stream).AnswersFrom files tree := by
  constructor
  · intro s _
    rw [Archive.entries_packaged, hindex, ← h.entries]
    rfl
  · intro steps slash hne hsteps s _
    rw [Archive.find?_packaged, hindex, ← h.find?_entry hplain.isTree hne hsteps slash]
    rfl
  · intro steps slash hne hsteps s _
    rw [Archive.read?_packaged, hindex, ← h.find?_content hplain.isTree hne hsteps slash]
    rfl

/-! ### Manifests -/

/-- An index that shows a whole stream has the manifest that is read from the file of the tree. -/
lemma Index.Shows.manifest_eq {stream : Stream} {index : Index} {tree : Forest}
    (h : index.Shows stream.data tree) (hindex : stream.index = .ok index)
    (hwhole : stream.directory = none) (hplain : tree.IsPlain) :
    index.manifest = (tree.content? Manifest.entryName).map Manifest.parse := by
  have hname : Manifest.entryName = Entry.nameOf ["META-INF", "MANIFEST.MF"] false := by
    decide +kernel
  have hslash : Text.endsWithSlash Manifest.entryName = false := by decide +kernel
  have hfile := h.find?_content hplain.isTree (List.cons_ne_nil "META-INF" ["MANIFEST.MF"])
    (fun step hstep => (Exploded.Spans.isPlainName_manifest step hstep).toIsStep) false
  rw [← hname, Forest.read?, hslash, if_neg Bool.false_ne_true] at hfile
  have hmanifest : index.manifest = stream.manifest := by
    rw [Stream.eq_ofItems_of_index hindex]
    rfl
  rw [hmanifest, Stream.manifest_eq hindex hwhole, ← hfile, Option.map_map]
  rfl

namespace Archive

/-- An exploded archive has the manifest that the files have, if it has kept no other one. -/
lemma manifest_exploded {files : FileSystem} {root : Path} {id : Nat} {s : Store}
    (hs : s.files = files) (hkept : ∀ kept, s.manifests.get? id = some kept →
      Exploded.manifest files root = .ok kept) :
    ((exploded id root).manifest s).1 = Exploded.manifest files root := by
  show (explodedManifest id root s).1 = _
  unfold explodedManifest
  cases hcached : s.manifests.get? id with
  | some kept => exact (hkept kept hcached).symm
  | none =>
    dsimp only
    rw [hs]
    cases Exploded.manifest files root <;> rfl

/-! ### The two archives of one tree -/

/-- The manifest of a tree can be read where it is: no file stands where its directory should be and
no directory where it should be itself, and its path is short enough to be walked. -/
structure ManifestInReach (root : Path) (tree : Forest) : Prop where
  directory : ∀ node, tree.get? "META-INF" = some node → node.isDirectory = true
  file : ∀ node, (Node.directory tree).at? ["META-INF", "MANIFEST.MF"] = some node →
    node.isDirectory = false
  short : (root.join ⟨Manifest.entryName⟩).text.utf8ByteSize < FileSystem.maxPathLength

/-- The archives nested under some entries of a tree agree: on both sides there is one for each
entry, in the order of the entries, and those of directories agree.  Those of files differ in their
urls alone, unless the file is marked by a trailer. -/
structure NestedAgree (files : FileSystem) (tree : Forest) (entries : List Entry)
    (xs ys : List Archive) : Prop where
  length_left : xs.length = entries.length
  length_right : ys.length = entries.length
  directory : ∀ (i : Nat) (entry : Entry) (x y : Archive), entries[i]? = some entry →
    xs[i]? = some x → ys[i]? = some y → entry.isDirectory = true → Agree files x y
  file : ∀ (i : Nat) (entry : Entry) (x y : Archive), entries[i]? = some entry →
    xs[i]? = some x → ys[i]? = some y → entry.isDirectory = false →
      ¬ Trailer.IsMarked ((tree.content? entry.name).getD []) → x.SameButUrl y

/-- What is nested under a listed file differs in its url alone, if the file is not marked by a
trailer. -/
lemma sameButUrl_nested {root : Path} {tree : Forest} {data : List UInt8} {url : Url}
    {entry : Entry} (hfile : entry.isDirectory = false)
    (hmark : ¬ Trailer.IsMarked ((tree.content? entry.name).getD [])) {x y : Archive}
    (hx : x.body = Exploded.bodyUnder root tree entry)
    (hy : y.body = .packaged (Stream.nestedUnder ⟨url, data, none⟩ tree entry)) :
    x.SameButUrl y := by
  have hpayload : Exploded.payloadOf tree entry = .ok ((tree.content? entry.name).getD []) :=
    Trailer.payload_of_not_isMarked hmark
  rw [Exploded.bodyUnder, if_neg (by rw [hfile]; exact Bool.false_ne_true), hpayload] at hx
  rw [Stream.nestedUnder, if_neg (by rw [hfile]; exact Bool.false_ne_true)] at hy
  exact HoldSame.sameButUrl ⟨_, _, hx, hy, rfl, rfl⟩

section

variable {files : FileSystem} {root : Path} {tree : Forest} (h : Exploded.Spans files root tree)
  {data : List UInt8} (hlists : Stream.Lists data tree) (id id' : Nat) (url : Url)

include h hlists

/-- The archive over the files and the archive over the stream agree. -/
lemma agree_of_lists : Agree files (exploded id root) (packaged id' ⟨url, data, none⟩) := by
  obtain ⟨index, hindex, hshows⟩ := hlists.shows h.plain url
  have hpackaged : (packaged id' ⟨url, data, none⟩).AnswersFrom files tree :=
    Index.Shows.answersFrom hshows hindex h.plain id' files
  exact (h.answersFrom id).agree hpackaged

/-- Both archives have the same manifest, if it can be read where it is. -/
lemma manifest_of_lists (hreach : ManifestInReach root tree) {s : Store} (hs : s.files = files)
    (hkept : ∀ kept, s.manifests.get? id = some kept → Exploded.manifest files root = .ok kept)
    (t : Store) :
    ((exploded id root).manifest s).1 =
        .ok ((tree.content? Manifest.entryName).map Manifest.parse) ∧
      ((packaged id' ⟨url, data, none⟩).manifest t).1 =
        .ok ((tree.content? Manifest.entryName).map Manifest.parse) := by
  obtain ⟨index, hindex, hshows⟩ := hlists.shows h.plain url
  have hmanifest : index.manifest = (tree.content? Manifest.entryName).map Manifest.parse :=
    Index.Shows.manifest_eq hshows hindex rfl h.plain
  constructor
  · rw [manifest_exploded hs hkept]
    exact h.manifest_eq hreach.directory hreach.file hreach.short
  · rw [manifest_packaged, hindex, ← hmanifest]
    rfl

/-- What is nested under a listed directory agrees. -/
lemma agree_nested {entry : Entry} (hentry : entry ∈ tree.listing)
    (hdirectory : entry.isDirectory = true) {x y : Archive}
    (hx : x.body = Exploded.bodyUnder root tree entry)
    (hy : y.body = .packaged (Stream.nestedUnder ⟨url, data, none⟩ tree entry)) :
    Agree files x y := by
  obtain ⟨index, hindex, hshows⟩ := hlists.shows h.plain url
  obtain ⟨steps, found, hne, hat, rfl⟩ := Forest.exists_of_mem_listing h.isTree hentry
  have hkind : found.isDirectory = true := hdirectory
  cases found with
  | directory children =>
    have hpath := h.pathOfListed_named hne hat
    have hbelow : Exploded.Spans files (root.join ⟨Path.joined steps⟩) children := h.below hne hat
    have hview := hshows.view h.isTree hne hat
    have hseen := Stream.index_view hindex (url.nested (Entry.nameOf steps true))
      (Entry.nameOf steps true)
    rw [Exploded.bodyUnder, if_pos hdirectory, hpath] at hx
    rw [Stream.nestedUnder, if_pos hdirectory] at hy
    obtain ⟨i, rfl⟩ := eq_exploded_of_body hx
    obtain ⟨j, rfl⟩ := eq_packaged_of_body hy
    exact (hbelow.answersFrom i).agree
      (Index.Shows.answersFrom hview hseen hbelow.plain j files)
  | _ => cases hkind

end

/-- An exploded archive over a tree of directories and regular files, and a packaged archive over a
stream that lists the tree, agree.  They list the same entries, and for all names that steps can
have they find and read the same; the manifest is the same one if it can be read where it is.  The
archives nested in them agree, too, if the payload of each selected file is within the file. -/
theorem exploded_agrees_packaged {files : FileSystem} {root : Path} {tree : Forest}
    (h : Exploded.Spans files root tree) {data : List UInt8} (hlists : Stream.Lists data tree)
    (id id' : Nat) (url : Url) :
    let outer := exploded id root
    let other := packaged id' ⟨url, data, none⟩
    Agree files outer other ∧
    (ManifestInReach root tree → ∀ s t : Store, s.files = files →
      (∀ kept, s.manifests.get? id = some kept → Exploded.manifest files root = .ok kept) →
      ∃ manifest, (outer.manifest s).1 = .ok manifest ∧ (other.manifest t).1 = .ok manifest) ∧
    ∀ filter : Entry → Bool,
      (∀ entry ∈ tree.listing, filter entry = true → entry.isDirectory = false →
        (Exploded.payloadOf tree entry).toOption.isSome) →
      ∀ s t : Store, s.files = files → ∃ xs ys, (outer.nestedAll filter s).1 = .ok xs ∧
        (other.nestedAll filter t).1 = .ok ys ∧
        NestedAgree files tree (tree.listing.filter filter) xs ys := by
  intro outer other
  refine ⟨agree_of_lists h hlists id id' url, ?_, ?_⟩
  · intro hreach s t hs hkept
    exact ⟨_, manifest_of_lists h hlists id id' url hreach hs hkept t⟩
  · intro filter hopens s t hs
    obtain ⟨index, hindex, hshows⟩ := hlists.shows h.plain url
    obtain ⟨xs, hxs, hxBodies⟩ := nestedAll_exploded h filter hopens id hs
    obtain ⟨ys, hys, hyBodies⟩ := nestedAll_shows hindex hshows filter id' t
    refine ⟨xs, ys, hxs, hys, ?_⟩
    have hbodies : ∀ (i : Nat) (entry : Entry) (x y : Archive),
        (tree.listing.filter filter)[i]? = some entry → xs[i]? = some x → ys[i]? = some y →
        entry ∈ tree.listing ∧ x.body = Exploded.bodyUnder root tree entry ∧
          y.body = .packaged (Stream.nestedUnder ⟨url, data, none⟩ tree entry) := by
      intro i entry x y hentry hx hy
      have hxBody := congrArg (·[i]?) hxBodies
      have hyBody := congrArg (·[i]?) hyBodies
      simp only [List.getElem?_map, hx, hy, hentry, Option.map_some, Option.some.injEq]
        at hxBody hyBody
      exact ⟨(List.mem_filter.mp (List.mem_of_getElem? hentry)).1, hxBody, hyBody⟩
    constructor
    · simpa using congrArg List.length hxBodies
    · simpa using congrArg List.length hyBodies
    · intro i entry x y hentry hx hy hdirectory
      obtain ⟨hlisted, hxBody, hyBody⟩ := hbodies i entry x y hentry hx hy
      exact agree_nested h hlists url hlisted hdirectory hxBody hyBody
    · intro i entry x y hentry hx hy hfile hmark
      obtain ⟨-, hxBody, hyBody⟩ := hbodies i entry x y hentry hx hy
      exact sameButUrl_nested hfile hmark hxBody hyBody

/-- A file, and a directory with the manifest in it. -/
def sampleForest : Forest :=
  .cons "b" (.file [2]) (.cons "META-INF"
    (.directory (.cons "MANIFEST.MF" (.file (Text.Utf8.encode "Title: t\n".toList)) .nil)) .nil)

/-- Files among which the sample stands in a directory. -/
def sampleFiles : FileSystem := ⟨.directory (.cons "t" (.directory sampleForest) .nil), []⟩

/-- The nodes of the sample as they are written into a stream. -/
def sampleNodes : List Tar.Record :=
  [.plain (Text.Utf8.encode "META-INF".toList) (by decide) none,
    .plain (Text.Utf8.encode Manifest.entryName.toList) (by decide)
      (some (Text.Utf8.encode "Title: t\n".toList)),
    .plain (Text.Utf8.encode "b".toList) (by decide) (some [2])]

/-- The sample is listed in the order of the names. -/
lemma listing_sampleForest : sampleForest.listing =
    [⟨"META-INF/", true⟩, ⟨"META-INF/MANIFEST.MF", false⟩, ⟨"b", false⟩] := by
  simp [sampleForest, Forest.listing, Exploded.inOrder, Exploded.listChildren, Exploded.listNode,
    List.mergeSort, List.MergeSort.Internal.splitInTwo]

/-- The two archives of the sample have the entries and the manifest of the tree, and three nested
archives each. -/
theorem exploded_agrees_packaged_sample :
    let s : Store := { (default : Store) with files := sampleFiles }
    let outer := exploded 0 ⟨"t"⟩
    let other := packaged 1 ⟨.artifact ⟨"p.jar"⟩, Tar.write sampleNodes [], none⟩
    Exploded.Spans sampleFiles ⟨"t"⟩ sampleForest ∧
    Stream.Lists (Tar.write sampleNodes []) sampleForest ∧
    ManifestInReach ⟨"t"⟩ sampleForest ∧
    (outer.entries s).1 = (other.entries s).1 ∧
    (∃ manifest, (outer.manifest s).1 = .ok manifest ∧ (other.manifest s).1 = .ok manifest) ∧
    ∃ xs ys, (outer.nestedAll (fun _ => true) s).1 = .ok xs ∧
      (other.nestedAll (fun _ => true) s).1 = .ok ys ∧ xs.length = 3 ∧ ys.length = 3 := by
  intro s outer other
  have hspans : Exploded.Spans sampleFiles ⟨"t"⟩ sampleForest := by
    have hplain : sampleForest.IsPlain := by decide +kernel
    refine ⟨rfl, hplain, Exploded.fits_of_listing hplain.isTree ?_⟩
    rw [listing_sampleForest]
    decide +kernel
  have hlists : Stream.Lists (Tar.write sampleNodes []) sampleForest := by
    refine Stream.lists_write (by decide +kernel) ?_
    rw [listing_sampleForest]
    refine .cons ?_ (.cons ?_ (.cons ?_ .nil))
    · exact ⟨by decide +kernel, .inr (by decide +kernel), by decide +kernel⟩
    · exact ⟨by decide +kernel, .inl (by decide +kernel), by decide +kernel⟩
    · exact ⟨by decide +kernel, .inl (by decide +kernel), by decide +kernel⟩
  have hreach : ManifestInReach ⟨"t"⟩ sampleForest := by
    refine ⟨?_, ?_, by decide +kernel⟩
    · rintro node ⟨⟩
      rfl
    · rintro node ⟨⟩
      rfl
  have hopens : ∀ entry ∈ sampleForest.listing, (fun _ => true) entry = true →
      entry.isDirectory = false → (Exploded.payloadOf sampleForest entry).toOption.isSome := by
    rw [listing_sampleForest]
    decide +kernel
  obtain ⟨hagree, hmanifest, hnested⟩ :=
    exploded_agrees_packaged hspans hlists 0 1 (.artifact ⟨"p.jar"⟩)
  obtain ⟨listed, houter, hother⟩ := hagree.entries s s rfl rfl
  obtain ⟨xs, ys, hxs, hys, hboth⟩ := hnested (fun _ => true) hopens s s rfl
  have hthree : (sampleForest.listing.filter fun _ => true).length = 3 := by
    rw [listing_sampleForest]
    rfl
  have hkept : ∀ kept, s.manifests.get? 0 = some kept →
      Exploded.manifest sampleFiles ⟨"t"⟩ = .ok kept := by
    rintro kept ⟨⟩
  exact ⟨hspans, hlists, hreach, houter.trans hother.symm, hmanifest hreach s s rfl hkept,
    xs, ys, hxs, hys, hboth.length_left.trans hthree, hboth.length_right.trans hthree⟩

/-! ### Paths that are too long, and trailers that point too far -/

/-- Slashes one after the other. -/
def slashes : Nat → String
  | 0 => ""
  | n + 1 => slashes n ++ "/"

/-- The characters of slashes. -/
lemma toList_slashes (n : Nat) : (slashes n).toList = List.replicate n '/' := by
  induction n with
  | zero => rfl
  | succ n ih =>
    rw [slashes, String.toList_append, ih, List.replicate_succ']
    rfl

/-- Each slash takes a byte. -/
lemma utf8ByteSize_slashes (n : Nat) : (slashes n).utf8ByteSize = n := by
  induction n with
  | zero => rfl
  | succ n ih =>
    rw [slashes, String.utf8ByteSize_append, ih]
    rfl

/-- Slashes at the end of a path make no names. -/
lemma names_slashes (text : String) (n : Nat) :
    Path.names ⟨text ++ slashes n⟩ = Path.names ⟨text⟩ := by
  induction n with
  | zero => rw [slashes, String.append_empty]
  | succ n ih => rw [slashes, ← String.append_assoc, Path.names_slash, ih]

/-- A directory with a file in it. -/
def farForest : Forest := .cons "ff" (.file [1]) .nil

/-- Files among which it stands. -/
def farFiles : FileSystem := ⟨.directory (.cons "t" (.directory farForest) .nil), []⟩

/-- Its path, with slashes behind it. -/
def farRoot (n : Nat) : Path := ⟨"t" ++ slashes (n + 1)⟩

section

variable (n : Nat)

/-- The characters of the path. -/
lemma toList_farRoot : (farRoot n).text.toList = 't' :: List.replicate (n + 1) '/' := by
  unfold farRoot
  rw [String.toList_append, toList_slashes]
  rfl

/-- The path is not empty. -/
lemma farRoot_ne_empty : (farRoot n).text ≠ "" := by
  intro hempty
  have hlist := toList_farRoot n
  rw [hempty] at hlist
  cases hlist

/-- The bytes of the path. -/
lemma utf8ByteSize_farRoot : (farRoot n).text.utf8ByteSize = n + 2 := by
  unfold farRoot
  rw [String.utf8ByteSize_append, utf8ByteSize_slashes, Nat.add_comm]
  rfl

/-- The path ends with a slash. -/
lemma endsWithSlash_farRoot : Text.endsWithSlash (farRoot n).text = true := by
  unfold Text.endsWithSlash
  rw [toList_farRoot, List.replicate_succ', ← List.cons_append]
  exact decide_eq_true List.getLast?_concat

/-- The path leads to the directory if it can be walked, whatever is in the directory. -/
lemma node_farRoot (tree : Forest) (hn : n + 2 < FileSystem.maxPathLength) :
    FileSystem.node ⟨.directory (.cons "t" (.directory tree) .nil), []⟩ (farRoot n) =
      .ok (.directory tree) := by
  have hnul : (farRoot n).text.toList.contains '\x00' = false := by
    rw [toList_farRoot]
    simp
  have habsolute : (farRoot n).isAbsolute = false := by
    unfold Path.isAbsolute
    rw [toList_farRoot]
    rfl
  have hsteps : FileSystem.steps (farRoot n) = ["t", "."] := by
    have hnames : Path.names (farRoot n) = ["t"] := (names_slashes "t" (n + 1)).trans (by decide)
    unfold Path.names at hnames
    unfold FileSystem.steps
    dsimp only
    rw [hnames, endsWithSlash_farRoot]
    rfl
  unfold FileSystem.node FileSystem.resolve
  rw [if_neg (by rw [hnul]; exact Bool.false_ne_true), utf8ByteSize_farRoot,
    if_neg (Nat.not_le.mpr hn), if_neg (farRoot_ne_empty n), habsolute, hsteps]
  rfl

/-- The bytes of a path that goes on behind it. -/
lemma utf8ByteSize_join_farRoot {steps : List String} (hne : steps ≠ [])
    (hsteps : ∀ step ∈ steps, Path.IsStep step) :
    ((farRoot n).join ⟨Path.joined steps⟩).text.utf8ByteSize =
      n + 2 + (Path.joined steps).utf8ByteSize := by
  have hleads := Path.leadsBelow_joined hne hsteps
  rw [Path.join_of_leadsBelow (farRoot_ne_empty n) hleads, Path.lead,
    endsWithSlash_farRoot, if_pos rfl, String.utf8ByteSize_append, utf8ByteSize_farRoot]

end

/-- A directory with a file that ends with a trailer which points behind the file. -/
def cutForest : Forest := .cons "x" (.file (Trailer.encode 1)) .nil

/-- Files among which it stands. -/
def cutFiles : FileSystem := ⟨.directory (.cons "t" (.directory cutForest) .nil), []⟩

/-- A file as it is written into a stream. -/
def farNodes : List Tar.Record := [.plain (Text.Utf8.encode "ff".toList) (by decide) (some [1])]

/-- A file with a trailer as it is written into a stream. -/
def cutNodes : List Tar.Record :=
  [.plain (Text.Utf8.encode "x".toList) (by decide) (some (Trailer.encode 1))]

/-- The directory of the file has a path of 4094 bytes and can be walked, and the file has one of
4096 bytes and cannot: only the packaged archive finds it.  The file with the trailer cannot be
opened as an artifact: only the packaged archive has an archive nested under it. -/
theorem exploded_disagrees_packaged :
    (let s : Store := { (default : Store) with files := farFiles }
    farFiles.node (farRoot 4092) = .ok (.directory farForest) ∧ farForest.IsPlain ∧
      Stream.Lists (Tar.write farNodes []) farForest ∧
      ((exploded 0 (farRoot 4092)).find? "ff" s).1 = .ok none ∧
      ((packaged 1 ⟨.artifact ⟨"p.jar"⟩, Tar.write farNodes [], none⟩).find? "ff" s).1 =
        .ok (some ⟨"ff", false⟩)) ∧
    (let s : Store := { (default : Store) with files := cutFiles }
    Exploded.Spans cutFiles ⟨"t"⟩ cutForest ∧ Stream.Lists (Tar.write cutNodes []) cutForest ∧
      ((exploded 0 ⟨"t"⟩).nestedAll (fun _ => true) s).1 =
        .error (.malformed (.artifact ⟨"t/x"⟩) (.payloadOffset 1)) ∧
      ∃ view, ((packaged 1 ⟨.artifact ⟨"p.jar"⟩, Tar.write cutNodes [], none⟩).nestedAll
        (fun _ => true) s).1 = .ok [view]) := by
  have hfarPlain : farForest.IsPlain := by decide +kernel
  have hcutPlain : cutForest.IsPlain := by decide +kernel
  have hfarListing : farForest.listing = [⟨"ff", false⟩] := by
    simp [farForest, Forest.listing, Exploded.inOrder, Exploded.listChildren, Exploded.listNode]
  have hcutListing : cutForest.listing = [⟨"x", false⟩] := by
    simp [cutForest, Forest.listing, Exploded.inOrder, Exploded.listChildren, Exploded.listNode]
  have hfarLists : Stream.Lists (Tar.write farNodes []) farForest := by
    refine Stream.lists_write (by decide +kernel) ?_
    rw [hfarListing]
    exact .cons ⟨by decide +kernel, .inl (by decide +kernel), by decide +kernel⟩ .nil
  have hcutLists : Stream.Lists (Tar.write cutNodes []) cutForest := by
    refine Stream.lists_write (by decide +kernel) ?_
    rw [hcutListing]
    exact .cons ⟨by decide +kernel, .inl (by decide +kernel), by decide +kernel⟩ .nil
  have hcutSpans : Exploded.Spans cutFiles ⟨"t"⟩ cutForest := by
    refine ⟨rfl, hcutPlain, Exploded.fits_of_listing hcutPlain.isTree ?_⟩
    rw [hcutListing]
    decide +kernel
  refine ⟨⟨node_farRoot 4092 farForest (by decide), hfarPlain, hfarLists, ?_, ?_⟩,
    ⟨hcutSpans, hcutLists, ?_, ?_⟩⟩
  · have hsteps : ∀ step ∈ ["ff"], Path.IsStep step := by decide
    have hlong : ((farRoot 4092).join ⟨Path.joined ["ff"]⟩).text.utf8ByteSize ≥
        FileSystem.maxPathLength := by
      rw [utf8ByteSize_join_farRoot 4092 (List.cons_ne_nil "ff" []) hsteps]
      decide
    have hnone : Exploded.find? farFiles (farRoot 4092) "ff" = none :=
      Exploded.find?_of_long (List.cons_ne_nil "ff" []) hsteps hlong false
    dsimp only [find?]
    rw [Attempt.run_bind_files, Attempt.run_pure, hnone]
  · decide +kernel
  · have hentries : Exploded.entries cutFiles ⟨"t"⟩ = .ok [⟨"x", false⟩] := by
      rw [hcutSpans.entries_eq, hcutListing]
    dsimp only [nestedAll]
    rw [Attempt.run_bind_files]
    dsimp only
    rw [hentries, Attempt.run_bind_ok (Attempt.run_liftExcept _ _)]
    decide +kernel
  · exact ⟨packaged 0 ⟨.packaged ⟨"p.jar"⟩ ["x"], Trailer.encode 1, none⟩, by decide +kernel⟩

end Archive

end AppLauncher
