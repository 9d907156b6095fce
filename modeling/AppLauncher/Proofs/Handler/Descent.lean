import AppLauncher.Proofs.Handler.Identity

/-!
# Nested archives by filter, by name and by url

There are three ways to an archive inside another one.  `Archive.nestedAll` opens one for every
entry that passes a filter, `Archive.nested?` opens the one of a name, and a handler walks along the
names in a url.  The second finds what comes last in the first (`equivalent_getLast?`), because the
table of an index keeps the last item of a name.  And the third is a repetition of the second, for
which `Archive.walk?` is written here: the names in a url have lost the slashes at their end
(`Url.foldl_nested`), which a look-up drops anyway (`Body.descend_map_dropSlashes`).

Archives that are opened separately have different numbers.  They are `Archive.Equivalent` when they
have one url and give the same answers.
-/

namespace AppLauncher

open Archive (Body)

/-! ### Equivalent archives -/

namespace Archive

/-- Two archives with one url that give the same answers in every store. -/
structure Equivalent (a b : Archive) : Prop extends SameAnswers a b where
  url : a.url = b.url

/-- Packaged archives over one stream are equivalent. -/
lemma equivalent_packaged (id id' : Nat) (stream : Stream) :
    (packaged id stream).Equivalent (packaged id' stream) where
  entries s t := by rw [entries_packaged, entries_packaged]
  find? name s t := by rw [find?_packaged, find?_packaged]
  read? name s t := by rw [read?_packaged, read?_packaged]
  manifest s t := by rw [manifest_packaged, manifest_packaged]
  url := rfl

/-- Archives with one packaged body are equivalent. -/
lemma equivalent_of_body {a b : Archive} {stream : Stream} (ha : a.body = .packaged stream)
    (hb : b.body = .packaged stream) : a.Equivalent b := by
  obtain ⟨id, rfl⟩ := eq_packaged_of_body ha
  obtain ⟨id', rfl⟩ := eq_packaged_of_body hb
  exact equivalent_packaged id id' stream

end Archive

/-- A name that has lost the slashes at its end does not end with one. -/
lemma Text.endsWithSlash_dropSlashes (name : String) :
    endsWithSlash (dropSlashes name) = false := by
  unfold endsWithSlash dropSlashes mapString
  rw [String.toList_ofList]
  exact decide_eq_false (getLast?_dropTrailing '/' name.toList)

/-! ### Urls of nested archives -/

/-- Slashes at the end of a name do not change the url nested under it. -/
lemma Url.nested_congr (url : Url) {name other : String}
    (h : Text.dropSlashes name = Text.dropSlashes other) : url.nested name = url.nested other := by
  unfold Url.nested
  rw [h]

/-- The url nested under several names holds them without the slashes at their end. -/
lemma Url.foldl_nested (root : Path) (names more : List String) :
    more.foldl Url.nested (.packaged root names) =
      .packaged root (names ++ more.map Text.dropSlashes) := by
  induction more generalizing names with
  | nil => simp
  | cons name more ih =>
    show more.foldl Url.nested (.packaged root (names ++ [Text.dropSlashes name])) = _
    rw [ih]
    simp

namespace Stream

variable {stream : Stream} {index : Index}

/-- The url of a nested stream is made from the name of the entry. -/
lemma url_nested (stream : Stream) (item : Item) :
    (stream.nested item).url = stream.url.nested item.entry.name := by
  unfold nested
  split <;> rfl

/-- An item that is found loosely is called as was asked, up to slashes at the end. -/
lemma dropSlashes_of_findLoosely? (h : stream.index = .ok index) {name : String} {item : Item}
    (hitem : index.findLoosely? name = some item) :
    Text.dropSlashes item.entry.name = Text.dropSlashes name := by
  rcases Option.or_eq_some_iff.mp hitem with hfile | ⟨-, hdirectory⟩
  · rw [(mem_of_find? h hfile).2]
  · rw [(mem_of_find? h hdirectory).2, Text.dropSlashes_append_slash]

/-- What an index finds for a name is the last of its items that are called so. -/
lemma find?_eq_getLast? (h : stream.index = .ok index) (name : String) :
    index.find? name = (index.items.filter fun item => item.entry.name = name).getLast? := by
  rw [eq_ofItems_of_index h, Index.find?_ofItems, List.findRev?_eq_find?_reverse,
    ← List.head?_filter, List.filter_reverse, List.head?_reverse]
  rfl

/-- Nothing is found loosely for a name that no entry has, with or without a slash. -/
lemma findLoosely?_eq_none_iff (h : stream.index = .ok index) (name : String) :
    index.findLoosely? name = none ↔
      ∀ entry ∈ index.entries, entry.name ≠ name ∧ entry.name ≠ name ++ "/" := by
  rw [Index.findLoosely?, Option.or_eq_none_iff, find?_eq_getLast? h, find?_eq_getLast? h]
  simp [Index.entries, forall_and]

/-- The stream of a file is made of its bytes. -/
lemma nested_of_find? (h : stream.index = .ok index) {name : String} {item : Item}
    (hname : Text.endsWithSlash name = false) (hitem : index.find? name = some item) :
    item.entry.isDirectory = false ∧
      stream.nested item = ⟨stream.url.nested name, item.dataIn stream.data, none⟩ := by
  have hfile : item.entry.isDirectory = false := (isDirectory_eq_of_find? h hitem).trans hname
  refine ⟨hfile, ?_⟩
  unfold nested
  rw [hfile, (mem_of_find? h hitem).2]
  rfl

end Stream

/-! ### Walking along names -/

namespace Archive

variable {files : FileSystem} {stream : Stream} {found : Body}

/-- The archive that is reached by opening what is nested under one name after the other. -/
def walk? (archive : Archive) : List String → Attempt ArchiveError (Option Archive)
  | [] => return archive
  | name :: names => do
    match ← archive.nested? name with
    | some nested => nested.walk? names
    | none => return none

/-- What is nested in a packaged archive is packaged, and its url is made from the name that was
asked for. -/
lemma Body.packaged_of_nested? {name : String}
    (h : (Body.packaged stream).nested? files name = .ok (some found)) :
    ∃ inner, found = .packaged inner ∧ inner.url = stream.url.nested name := by
  dsimp only [nested?] at h
  cases hindex : stream.index with
  | error cause =>
    rw [hindex] at h
    cases h
  | ok index =>
    rw [hindex] at h
    simp only [Except.map, Except.ok.injEq, Option.map_eq_some_iff] at h
    obtain ⟨item, hitem, rfl⟩ := h
    refine ⟨stream.nested item, rfl, ?_⟩
    rw [Stream.url_nested]
    apply Url.nested_congr
    rw [Stream.dropSlashes_of_findLoosely? hindex hitem, Text.dropSlashes_dropSlashes]

/-- What is reached from a packaged archive is packaged, and its url is made from the names. -/
lemma Body.packaged_of_descend {names : List String}
    (h : (Body.packaged stream).descend files names = .ok found) :
    ∃ inner, found = .packaged inner ∧ inner.url = names.foldl Url.nested stream.url := by
  induction names generalizing stream with
  | nil =>
    cases h
    exact ⟨stream, rfl, rfl⟩
  | cons name names ih =>
    rw [descend] at h
    split at h
    · rename_i nested hnested
      obtain ⟨inner, rfl, hurl⟩ := packaged_of_nested? hnested
      obtain ⟨last, rfl, hlast⟩ := ih h
      refine ⟨last, rfl, ?_⟩
      rw [hlast, hurl, List.foldl_cons]
    · cases h
    · cases h

/-- Slashes at the end of the names do not change what they lead to in a packaged archive. -/
lemma Body.descend_map_dropSlashes (names : List String) :
    ((Body.packaged stream).descend files (names.map Text.dropSlashes)).toOption =
      ((Body.packaged stream).descend files names).toOption := by
  induction names generalizing stream with
  | nil => rfl
  | cons name names ih =>
    have hname : (Body.packaged stream).nested? files (Text.dropSlashes name) =
        (Body.packaged stream).nested? files name := by
      dsimp only [nested?]
      rw [Text.dropSlashes_dropSlashes]
    rw [List.map_cons, descend, descend, hname]
    cases hnested : (Body.packaged stream).nested? files name with
    | error cause => rfl
    | ok nested =>
      cases nested with
      | none => rfl
      | some nested =>
        obtain ⟨inner, rfl, -⟩ := packaged_of_nested? hnested
        exact ih

/-- Walking along names finds what the names lead to. -/
lemma walk?_spec (names : List String) (a : Archive) (s : Store) :
    (a.walk? names s).1.toOption.join.map body =
      (a.body.descend s.files names).toOption := by
  induction names generalizing a s with
  | nil => rfl
  | cons name names ih =>
    obtain ⟨r, t, ht, hr, hq⟩ := nested?_spec a name s
    rw [walk?, Body.descend, Attempt.run_bind, ht, ← hr]
    rcases r with cause | _ | nested
    · rfl
    · rfl
    · have hnext := ih nested t
      rw [hq.files] at hnext
      exact hnext

/-- Opening an artifact and walking along names finds what the names lead to in it. -/
lemma open?_walk?_spec (path : Path) (names : List String) (s : Store) :
    ((do (← open? path).walk? names : Attempt ArchiveError _) s).1.toOption.join.map body =
      (Body.open? s.files path).toOption.bind fun body =>
        (body.descend s.files names).toOption := by
  obtain ⟨r, t, ht, hr, hq⟩ := open?_spec path s
  rw [Attempt.run_bind, ht, ← hr]
  cases r with
  | error cause => rfl
  | ok a =>
    have hwalk := walk?_spec names a t
    rw [hq.files] at hwalk
    exact hwalk

/-- What the names in a url lead to in an artifact is what the names lead to that the url has been
made from. -/
lemma Body.bind_descend_map_dropSlashes (path : Path) (names : List String) :
    ((Body.open? files path).toOption.bind fun body =>
      (body.descend files (names.map Text.dropSlashes)).toOption) =
    (Body.open? files path).toOption.bind fun body => (body.descend files names).toOption := by
  cases hopen : Body.open? files path with
  | error cause => rfl
  | ok body =>
    obtain ⟨stream, rfl⟩ := Body.packaged_of_open? hopen
    exact Body.descend_map_dropSlashes names

/-- What names lead to in an artifact is packaged, and its url is made from them. -/
lemma Body.packaged_of_bind_descend {path : Path} {names : List String}
    (h : ((Body.open? files path).toOption.bind fun body =>
      (body.descend files names).toOption) = some found) :
    ∃ inner, found = .packaged inner ∧ inner.url = names.foldl Url.nested (.artifact path) := by
  obtain ⟨body, hopen, hdescend⟩ := Option.bind_eq_some_iff.mp h
  replace hopen := eq_ok_of_toOption hopen
  obtain ⟨stream, rfl⟩ := Body.packaged_of_open? hopen
  have hurl : stream.url = .artifact path := Body.url_of_open? hopen
  rw [← hurl]
  exact Body.packaged_of_descend (eq_ok_of_toOption hdescend)

end Archive

namespace Handler

/-- A handler that holds nothing connects to what the names in the url lead to in its artifact,
with any effort. -/
lemma outcome_of_empty (files : FileSystem) {held : Url.Key → Option Body}
    (hheld : ∀ key, held key = none) (effort : Effort) (root : Path) (names : List String) :
    (outcome files held effort (.packaged root names)).toOption =
      (Body.open? files root).toOption.bind fun body => (body.descend files names).toOption := by
  have hresolution : resolution files held true (.packaged root names) =
      ((Body.open? files root).bind fun body => body.descend files names).mapError some := by
    dsimp only [resolution, artifactBody]
    rw [hheld]
  unfold outcome
  rw [hheld, hresolution]
  dsimp only [fromDisk]
  cases Body.open? files root with
  | error cause => cases effort <;> rfl
  | ok body =>
    dsimp only [Except.bind, Except.toOption, Option.bind_some]
    cases body.descend files names <;> cases effort <;> rfl

/-- A handler that holds nothing connects to the url of names in an artifact if they lead to
something there, and to just that. -/
lemma connect_of_empty {handler : Nat} {s : Store} (hheld : s.held handler = .empty)
    (effort : Effort) (path : Path) (names : List String) :
    let url := names.foldl Url.nested (.artifact path)
    (connect handler effort url s).1.toOption.map (·.archive.body) =
      ((Body.open? s.files path).toOption.bind fun body => (body.descend s.files names).toOption) ∧
    ∀ c, (connect handler effort url s).1 = .ok c → c.url = url := by
  intro url
  have hnone : ∀ key, s.bodies handler key = none := fun key => by
    unfold Store.bodies
    rw [hheld, Table.get?_empty]
    rfl
  have hurl : url = .packaged path (names.map Text.dropSlashes) := Url.foldl_nested path [] names
  have houtcome := outcome_of_empty s.files hnone effort path
    (names.map Text.dropSlashes)
  rw [Body.bind_descend_map_dropSlashes, ← hurl] at houtcome
  have hspec := connect_spec handler effort url s
  rw [← houtcome]
  cases hcase : outcome s.files (s.bodies handler) effort url with
  | error cause =>
    rw [hcase] at hspec
    obtain ⟨t, ht, -⟩ := hspec
    rw [ht]
    exact ⟨rfl, fun c hc => by cases hc⟩
  | ok body =>
    rw [hcase] at hspec
    obtain ⟨a, t, ht, rfl, -⟩ := hspec
    rw [ht]
    exact ⟨rfl, fun c hc => by cases hc; rfl⟩

end Handler

/-! ### The ways agree -/

namespace Archive

/-- The stream of an archive that lists no entries has no index, for the same reason. -/
lemma index_of_entries_error {id : Nat} {stream : Stream} {s : Store} {cause : ArchiveError}
    (h : ((packaged id stream).entries s).1 = .error cause) : stream.index = .error cause := by
  rw [entries_packaged] at h
  cases hindex : stream.index with
  | error other =>
    rw [hindex] at h
    exact congrArg Except.error (Except.error.inj h)
  | ok index =>
    rw [hindex] at h
    cases h

/-- Optional archives with the same packaged body, if any, are equivalent. -/
lemma option_equivalent_of_body {item? : Option Item} {stream : Stream} {a? b? : Option Archive}
    (ha : a?.map body = item?.map fun item => .packaged (stream.nested item))
    (hb : b?.map body = item?.map fun item => .packaged (stream.nested item)) :
    Option.Rel Equivalent a? b? := by
  cases item? with
  | none =>
    rw [Option.map_eq_none_iff.mp ha, Option.map_eq_none_iff.mp hb]
    exact .none
  | some item =>
    obtain ⟨a, rfl, hbody⟩ := Option.map_eq_some_iff.mp ha
    obtain ⟨b, rfl, hbody'⟩ := Option.map_eq_some_iff.mp hb
    exact .some (equivalent_of_body hbody hbody')

/-- The archive of a name is the last one of the entries that are called so. -/
lemma map_getLast? {stream : Stream} {index : Index} {name : String} {views : List Archive}
    (h : stream.index = .ok index)
    (hviews : views.map body = (index.items.filter fun item => item.entry.name = name).map
      fun item => .packaged (stream.nested item)) :
    views.getLast?.map body =
      (index.find? name).map fun item => .packaged (stream.nested item) := by
  rw [← List.getLast?_map, hviews, List.getLast?_map, Stream.find?_eq_getLast? h]

/-- The archive nested under the name of a file is one over the bytes that are read under the
name. -/
lemma equivalent_ofStream {id : Nat} {stream : Stream} {index : Index} {name : String}
    {t : Store} {found : Option Archive} {entry : Entry} (h : stream.index = .ok index)
    (hbody : found.map body = (index.findLoosely? (Text.dropSlashes name)).map fun item =>
      .packaged (stream.nested item))
    (hentry : ((packaged id stream).find? (Text.dropSlashes name) t).1 = .ok (some entry)) :
    entry.isDirectory = false ∧ ∃ content view,
      ((packaged id stream).read? (Text.dropSlashes name) t).1 = .ok (some content) ∧
      found = some view ∧ ∀ u, view.Equivalent
        (ofStream ⟨stream.url.nested (Text.dropSlashes name), content, none⟩ u).1 := by
  rw [find?_packaged, h] at hentry
  obtain ⟨item, hitem, rfl⟩ := Option.map_eq_some_iff.mp (Except.ok.inj hentry)
  obtain ⟨hfile, hnested⟩ := Stream.nested_of_find? h (Text.endsWithSlash_dropSlashes name) hitem
  rw [Index.findLoosely?, hitem, Option.some_or, Option.map_some] at hbody
  obtain ⟨view, rfl, hview⟩ := Option.map_eq_some_iff.mp hbody
  refine ⟨hfile, item.dataIn stream.data, view, ?_, rfl, fun u => ?_⟩
  · rw [read?_packaged, h]
    show Except.ok ((Option.filter _ (index.find? _)).map _) = _
    rw [hitem, Option.filter_some_pos (by rw [hfile]; rfl), Option.map_some]
  · rw [hnested] at hview
    exact equivalent_of_body hview rfl

/-- An archive is nested in an archive under a name exactly if some entry has the name, with or
without a slash.  It is equivalent to the last one that is opened for the entries of the name, or
else of the name with a slash, and for a file also to one over the bytes that are read under the
name.  Opening an artifact and what is nested in it, one name after the other, leads where a handler
that holds nothing connects to for the url of these names, if it leads anywhere. -/
theorem nestings_agree :
    (∀ (id : Nat) (stream : Stream) (name : String) (s t : Store),
      let outer := packaged id stream
      let inner := Text.dropSlashes name
      (∀ cause, (outer.entries t).1 = .error cause → (outer.nested? name s).1 = .error cause ∧
        ∀ filter, (outer.nestedAll filter t).1 = .error cause) ∧
      ∀ entries, (outer.entries t).1 = .ok entries →
        ∃ found files directories, (outer.nested? name s).1 = .ok found ∧
          (found = none ↔ ∀ entry ∈ entries, entry.name ≠ inner ∧ entry.name ≠ inner ++ "/") ∧
          (outer.nestedAll (fun entry => entry.name = inner) t).1 = .ok files ∧
          (outer.nestedAll (fun entry => entry.name = inner ++ "/") t).1 = .ok directories ∧
          Option.Rel Equivalent found (files.getLast?.or directories.getLast?) ∧
          ∀ entry, (outer.find? inner t).1 = .ok (some entry) →
            entry.isDirectory = false ∧ ∃ content view,
              (outer.read? inner t).1 = .ok (some content) ∧ found = some view ∧
              ∀ u, view.Equivalent (ofStream ⟨stream.url.nested inner, content, none⟩ u).1) ∧
    ∀ (handler : Nat) (effort : Effort) (path : Path) (names : List String) (s t : Store),
      s.held handler = .empty → t.files = s.files →
      let url := names.foldl Url.nested (.artifact path)
      let connected := (Handler.connect handler effort url s).1
      let walked := ((do (← open? path).walk? names : Attempt ArchiveError _) t).1
      ((∃ c, connected = .ok c) ↔ ∃ a, walked = .ok (some a)) ∧
      ∀ c a, connected = .ok c → walked = .ok (some a) →
        c.url = url ∧ c.archive.url = url ∧ c.archive.Equivalent a := by
  constructor
  · intro id stream name s t outer inner
    refine ⟨fun cause hcause => ?_, fun entries hentries => ?_⟩
    · have hindex := index_of_entries_error hcause
      exact ⟨nested?_packaged_error id stream s hindex name,
        nestedAll_packaged_error id stream t hindex⟩
    · obtain ⟨index, hindex, rfl⟩ := index_of_entries hentries
      obtain ⟨found, hfound, hbody⟩ := nested?_packaged id stream s hindex name
      obtain ⟨files, hfiles, hfilesBody⟩ := nestedAll_packaged id stream t hindex
        fun entry => entry.name = inner
      obtain ⟨directories, hdirectories, hdirectoriesBody⟩ := nestedAll_packaged id stream t hindex
        fun entry => entry.name = inner ++ "/"
      have hlast : (files.getLast?.or directories.getLast?).map body =
          (index.findLoosely? inner).map fun item => .packaged (stream.nested item) := by
        rw [Option.map_or, map_getLast? hindex hfilesBody, map_getLast? hindex hdirectoriesBody,
          Index.findLoosely?, Option.map_or]
      refine ⟨found, files, directories, hfound, ?_, hfiles, hdirectories,
        option_equivalent_of_body hbody hlast, fun entry => equivalent_ofStream hindex hbody⟩
      rw [← Stream.findLoosely?_eq_none_iff hindex, ← Option.map_eq_none_iff (f := body), hbody,
        Option.map_eq_none_iff]
  · intro handler effort path names s t hheld hfiles url connected walked
    obtain ⟨hreached, hurl⟩ := Handler.connect_of_empty hheld effort path names
    have hconnected : connected.toOption.map (·.archive.body) = _ := hreached
    have hwalked : walked.toOption.join.map body = _ := open?_walk?_spec path names t
    rw [hfiles, ← hconnected] at hwalked
    refine ⟨⟨?_, ?_⟩, fun c a hc ha => ?_⟩
    · rintro ⟨c, hc⟩
      rw [hc] at hwalked
      obtain ⟨a, ha, -⟩ := Option.map_eq_some_iff.mp hwalked
      exact ⟨a, eq_ok_of_toOption (Option.join_eq_some_iff.mp ha)⟩
    · rintro ⟨a, ha⟩
      rw [ha] at hwalked
      obtain ⟨c, hc, -⟩ := Option.map_eq_some_iff.mp hwalked.symm
      exact ⟨c, eq_ok_of_toOption hc⟩
    · rw [hc] at hconnected
      rw [hc, ha] at hwalked
      obtain ⟨inner, hinner, hroot⟩ := Body.packaged_of_bind_descend hconnected.symm
      have hbody : c.archive.body = .packaged inner := hinner
      have hbody' : a.body = .packaged inner := (Option.some.inj hwalked).trans hbody
      refine ⟨hurl c hc, ?_, equivalent_of_body hbody hbody'⟩
      rw [← url_body, hbody]
      exact hroot

/-- An artifact with a file that is written twice, without content first and then as an archive. -/
def rewrittenTree : Stream :=
  ⟨.artifact ⟨"outer.jar"⟩, Tar.write
    [.plain (Text.Utf8.encode "lib.jar".toList) (by decide) (some []),
      .plain (Text.Utf8.encode "lib.jar".toList) (by decide)
        (some (Tar.write [.plain (Text.Utf8.encode "c".toList) (by decide) (some [1])] []))]
    [], none⟩

/-- A store in which nothing has happened to the artifact yet. -/
def rewrittenStore : Store :=
  .start ⟨.directory (.cons "outer.jar" (.file rewrittenTree.data) .nil), []⟩ 1

/-- In the sample the file that is written last is found by its name and by the url of its name. -/
theorem nestings_agree_rewrittenTree :
    ((packaged 0 rewrittenTree).find? "lib.jar" default).1 = .ok (some ⟨"lib.jar", false⟩) ∧
    (∃ content view, ((packaged 0 rewrittenTree).read? "lib.jar" default).1 = .ok (some content) ∧
      ((packaged 0 rewrittenTree).nested? "lib.jar/" default).1 = .ok (some view) ∧
      ∀ u, view.Equivalent
        (ofStream ⟨rewrittenTree.url.nested "lib.jar", content, none⟩ u).1) ∧
    rewrittenStore.held 0 = .empty ∧
    ∃ c a, (Handler.connect 0 .quick ((Url.artifact ⟨"outer.jar"⟩).nested "lib.jar/")
        rewrittenStore).1 = .ok c ∧
      ((do (← open? ⟨"outer.jar"⟩).walk? ["lib.jar/"] : Attempt ArchiveError _)
        rewrittenStore).1 = .ok (some a) ∧
      c.archive.Equivalent a ∧ (a.entries default).1 = .ok [⟨"c", false⟩] := by
  obtain ⟨hparts, hurls⟩ := nestings_agree
  have hfind : ((packaged 0 rewrittenTree).find? "lib.jar" default).1 =
      .ok (some ⟨"lib.jar", false⟩) := by
    decide +kernel
  have hheld : rewrittenStore.held 0 = .empty := rfl
  have hentries : ((packaged 0 rewrittenTree).entries default).1 =
      .ok [⟨"lib.jar", false⟩, ⟨"lib.jar", false⟩] := by
    decide +kernel
  have hinner : Text.dropSlashes "lib.jar/" = "lib.jar" := by decide +kernel
  obtain ⟨found, -, -, hfound, -, -, -, -, hfile⟩ :=
    (hparts 0 rewrittenTree "lib.jar/" default default).2 _ hentries
  rw [hinner] at hfile
  obtain ⟨-, content, view, hread, rfl, hview⟩ := hfile _ hfind
  obtain ⟨⟨-, hconnects⟩, hsame⟩ := hurls 0 .quick ⟨"outer.jar"⟩ ["lib.jar/"] rewrittenStore
    rewrittenStore hheld rfl
  let reached : Archive := packaged 2 ⟨.packaged ⟨"outer.jar"⟩ ["lib.jar"],
    Tar.write [.plain (Text.Utf8.encode "c".toList) (by decide) (some [1])] [], none⟩
  have hwalked : ((do (← open? ⟨"outer.jar"⟩).walk? ["lib.jar/"] : Attempt ArchiveError _)
      rewrittenStore).1 = .ok (some reached) := by
    decide +kernel
  obtain ⟨c, hc⟩ := hconnects ⟨_, hwalked⟩
  exact ⟨hfind, ⟨content, view, hread, hfound, hview⟩, hheld, c, _, hc, hwalked,
    (hsame c _ hc hwalked).2.2, by decide +kernel⟩

end Archive

end AppLauncher
