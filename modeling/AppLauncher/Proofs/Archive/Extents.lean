import AppLauncher.Proofs.Archive.Payload
import AppLauncher.Proofs.Archive.View
import AppLauncher.Proofs.Archive.Written
import AppLauncher.Proofs.Tar.Progress

/-!
# Where the data of entries lies

The places in an index come from sizes in the bytes of an artifact, which may be anything.  They are
safe all the same.  The members of a stream stand one behind the other, and their positions fit into
64 bits; an index is made of them only if all of them lie within the bytes.  So its items lie one
behind the other within the stream, and its table of positions leads to items of the right names
(`Stream.withinData_of_index`).

An archive that is reached from an artifact (`Archive.ReachedFrom`), through views of directories
and nested artifacts, holds a part of the bytes of the artifact.  If its stream has an index, then
all that it reads, its manifest and the artifacts nested in it are parts of its bytes, from the
start to the end of an item (`Archive.reached_within_bounds`): nothing is ever cut off at the end of
the stream, or taken from behind it.
-/

namespace AppLauncher

/-! ### Items within bytes -/

namespace Item

/-- A content is just what stands in the bytes from the start to the end of an item. -/
def IsSlice (item : Item) (data content : List UInt8) : Prop :=
  ∃ before after, data = before ++ (content ++ after) ∧ before.length = item.start ∧
    (before ++ content).length = item.stop

/-- The bytes of an item that lies within the data are a slice of the data. -/
lemma isSlice_dataIn {item : Item} {data : List UInt8} (hle : item.start ≤ item.stop)
    (hinside : item.stop ≤ data.length) : item.IsSlice data (item.dataIn data) := by
  refine ⟨data.take item.start, data.drop item.stop, ?_, ?_, ?_⟩
  · have hrest : item.dataIn data ++ data.drop item.stop = data.drop item.start := by
      have hsum : item.start + (item.stop - item.start) = item.stop := by omega
      have hdrop : data.drop item.stop = (data.drop item.start).drop (item.stop - item.start) := by
        rw [List.drop_drop, hsum]
      rw [hdrop, dataIn, List.take_append_drop]
    rw [hrest, List.take_append_drop]
  · rw [List.length_take]
    omega
  · simp only [dataIn, List.length_append, List.length_take, List.length_drop]
    omega

/-- An item stands for a member at the place of the member. -/
lemma range_of_ofMember? {m : Tar.Member} {item : Item} (h : ofMember? m = some item) :
    item.start = m.start ∧ item.stop = m.stop := by
  rw [ofMember?_eq] at h
  obtain ⟨entry, -, rfl⟩ := Option.map_eq_some_iff.mp h
  exact ⟨rfl, rfl⟩

/-- An item has its place whatever directory is viewed. -/
lemma range_of_within? {directory : Option String} {item seen : Item}
    (h : within? directory item = some seen) :
    seen.start = item.start ∧ seen.stop = item.stop := by
  cases directory with
  | none =>
    cases h
    exact ⟨rfl, rfl⟩
  | some directory =>
    obtain ⟨-, rfl⟩ := within?_eq_some_iff.mp h
    exact ⟨rfl, rfl⟩

end Item

/-- An index whose items lie within the data and one behind the other, so that no byte belongs to
two of them, and whose table of positions leads to an item of each name in it. -/
structure Index.WithinData (index : Index) (data : List UInt8) : Prop where
  bounds : ∀ item ∈ index.items, item.start ≤ item.stop ∧ item.stop ≤ data.length
  ascending : index.items.Pairwise fun a b => a.stop ≤ b.start
  disjoint : ∀ {i j : Nat} {a b : Item}, index.items[i]? = some a → index.items[j]? = some b →
    ∀ k, a.start ≤ k → k < a.stop → b.start ≤ k → k < b.stop → i = j
  positions : ∀ name i, index.positions.get? name = some i →
    ∃ item, index.items[i]? = some item ∧ item.entry.name = name

/-- No place belongs to two items of a list in which they lie one behind the other. -/
lemma Item.eq_of_shared {items : List Item} (h : items.Pairwise fun a b => a.stop ≤ b.start)
    {i j : Nat} {a b : Item} (ha : items[i]? = some a) (hb : items[j]? = some b) {k : Nat}
    (hak : a.start ≤ k ∧ k < a.stop) (hbk : b.start ≤ k ∧ k < b.stop) : i = j := by
  have hpair := List.pairwise_iff_getElem.mp h
  obtain ⟨hi, rfl⟩ := List.getElem?_eq_some_iff.mp ha
  obtain ⟨hj, rfl⟩ := List.getElem?_eq_some_iff.mp hb
  rcases Nat.lt_trichotomy i j with hlt | heq | hgt
  · have hbefore := hpair i j hi hj hlt
    omega
  · exact heq
  · have hbefore := hpair j i hj hi hgt
    omega

namespace Stream

variable {s : Stream} {index : Index}

/-- The items of a stream lie one behind the other. -/
lemma pairwise_items (s : Stream) : s.items.Pairwise fun a b => a.stop ≤ b.start := by
  refine (Tar.pairwise_members s.data).filterMap _ fun m n hmn a ha b hb => ?_
  obtain ⟨-, hstop⟩ := Item.range_of_ofMember? ha
  obtain ⟨hstart, -⟩ := Item.range_of_ofMember? hb
  omega

/-- The places of items fit into 64 bits, even if they do not lie within the stream. -/
lemma range_of_mem_items {item : Item} (h : item ∈ s.items) :
    item.start ≤ item.stop ∧ item.stop < Tar.sizeBound := by
  obtain ⟨m, hm, hitem⟩ := List.mem_filterMap.mp h
  obtain ⟨hstart, hstop⟩ := Item.range_of_ofMember? hitem
  have hfits := Tar.stop_lt_of_mem_members hm
  rw [hstart, hstop]
  exact ⟨Nat.le_add_right _ _, hfits⟩

/-- The items of a stream that can be indexed lie within it. -/
lemma stop_le_of_index (h : s.index = .ok index) {item : Item} (hitem : item ∈ s.items) :
    item.stop ≤ s.data.length := by
  unfold Stream.index malformation? at h
  cases hfind : s.items.find? fun item => item.stop > s.data.length with
  | none => simpa using List.find?_eq_none.mp hfind item hitem
  | some outside =>
    rw [hfind] at h
    cases h

/-- The items of an index are items of the stream, at the same places. -/
lemma exists_of_mem_index (h : s.index = .ok index) {item : Item} (hitem : item ∈ index.items) :
    ∃ whole ∈ s.items, item.start = whole.start ∧ item.stop = whole.stop := by
  rw [eq_ofItems_of_index h] at hitem
  obtain ⟨whole, hwhole, hseen⟩ := List.mem_filterMap.mp hitem
  exact ⟨whole, hwhole, Item.range_of_within? hseen⟩

/-- An index lies within the data of its stream. -/
lemma withinData_of_index (h : s.index = .ok index) : index.WithinData s.data := by
  have hascending : index.items.Pairwise fun a b => a.stop ≤ b.start := by
    rw [eq_ofItems_of_index h]
    refine s.pairwise_items.filterMap _ fun a b hab a' ha' b' hb' => ?_
    obtain ⟨-, hstop⟩ := Item.range_of_within? ha'
    obtain ⟨hstart, -⟩ := Item.range_of_within? hb'
    omega
  refine ⟨fun item hitem => ?_, hascending, fun ha hb k hak hka hbk hkb =>
    Item.eq_of_shared hascending ha hb ⟨hak, hka⟩ ⟨hbk, hkb⟩, fun name i hi => ?_⟩
  · obtain ⟨whole, hwhole, hstart, hstop⟩ := exists_of_mem_index h hitem
    rw [hstart, hstop]
    exact ⟨(range_of_mem_items hwhole).1, stop_le_of_index h hwhole⟩
  · rw [eq_ofItems_of_index h] at hi ⊢
    rcases Index.get?_positionsFrom _ 0 .empty hi with hnone | ⟨-, item, hitem, hname⟩
    · cases hnone
    · exact ⟨item, hitem, hname⟩

end Stream

/-! ### Archives reached from an artifact -/

namespace Archive

/-- The archives that are reached from the bytes of an artifact: the artifact that is opened, the
archive over the bytes as they are, and all that is nested in one that has been reached, for the
entries that pass a filter or for a name. -/
inductive ReachedFrom (file : List UInt8) : Archive → Prop
  | opened {path : Path} {s : Store} {a : Archive} (hread : s.files.read path = .ok file)
      (hopen : (open? path s).1 = .ok a) : ReachedFrom file a
  | streamed (url : Url) (s : Store) : ReachedFrom file (ofStream ⟨url, file, none⟩ s).1
  | filtered {a view : Archive} {views : List Archive} {filter : Entry → Bool} {s : Store}
      (hreached : ReachedFrom file a) (hviews : (a.nestedAll filter s).1 = .ok views)
      (hview : view ∈ views) : ReachedFrom file view
  | named {a view : Archive} {name : String} {s : Store} (hreached : ReachedFrom file a)
      (hview : (a.nested? name s).1 = .ok (some view)) : ReachedFrom file view

/-- An archive that is nested in one over a stream, for an item of the index: over the same bytes
for a directory, and over those of the item for a file. -/
def IsNestedIn (stream : Stream) (index : Index) (inner : Archive) : Prop :=
  ∃ id, ∃ item ∈ index.items, inner = packaged id (stream.nested item) ∧
    if item.entry.isDirectory then (stream.nested item).data = stream.data
    else item.IsSlice stream.data (stream.nested item).data

/-- An archive over a stream reads nothing but parts of its bytes that are the data of an item: the
contents of its files, its manifest, and the artifacts nested in it. -/
structure ReadsWithin (a : Archive) (stream : Stream) (index : Index) : Prop where
  read? : ∀ name s, ∃ found, (a.read? name s).1 = .ok found ∧ ∀ content ∈ found,
    ∃ item ∈ index.items, item.entry = ⟨name, false⟩ ∧ item.IsSlice stream.data content
  manifest : ∀ s, ∃ found, (a.manifest s).1 = .ok found ∧ ∀ manifest ∈ found,
    ∃ item ∈ stream.items, item.entry.name = Manifest.entryName ∧
      ∃ content, item.IsSlice stream.data content ∧ manifest = Manifest.parse content
  nested? : ∀ name s, ∃ found, (a.nested? name s).1 = .ok found ∧ ∀ inner ∈ found,
    IsNestedIn stream index inner
  nestedAll : ∀ filter s, ∃ views, (a.nestedAll filter s).1 = .ok views ∧ ∀ inner ∈ views,
    IsNestedIn stream index inner

/-- What is nested in a stream is made of a part of its bytes. -/
lemma infix_nested (stream : Stream) (item : Item) :
    (stream.nested item).data <:+: stream.data := by
  unfold Stream.nested
  split
  · exact List.infix_rfl
  · exact (List.take_prefix _ _).isInfix.trans (List.drop_suffix _ _).isInfix

section

variable {stream : Stream} {index : Index} (hindex : stream.index = .ok index)

include hindex

/-- An archive with the body of what is nested in a stream is nested in it. -/
lemma isNestedIn_of_body {item : Item} (hitem : item ∈ index.items) {inner : Archive}
    (hbody : inner.body = .packaged (stream.nested item)) : IsNestedIn stream index inner := by
  obtain ⟨id, rfl⟩ := eq_packaged_of_body hbody
  refine ⟨id, item, hitem, rfl, ?_⟩
  obtain ⟨hle, hinside⟩ := (Stream.withinData_of_index hindex).bounds item hitem
  unfold Stream.nested
  split
  · rfl
  · exact Item.isSlice_dataIn hle hinside

/-- An archive over a stream that has an index reads nothing but data of its items. -/
lemma readsWithin (id : Nat) : (packaged id stream).ReadsWithin stream index := by
  have hwithin := Stream.withinData_of_index hindex
  refine ⟨fun name s => ?_, fun s => ?_, fun name s => ?_, fun filter s => ?_⟩
  · refine ⟨_, by rw [read?_packaged, hindex]; rfl, fun content hcontent => ?_⟩
    obtain ⟨item, hfound, rfl⟩ := Option.map_eq_some_iff.mp hcontent
    obtain ⟨hitem, hfile⟩ := Option.filter_eq_some_iff.mp hfound
    obtain ⟨hmem, hname⟩ := Stream.mem_of_find? hindex hitem
    obtain ⟨hle, hinside⟩ := hwithin.bounds item hmem
    have hisFile : item.entry.isDirectory = false := by simpa using hfile
    have hentry : item.entry = ⟨name, false⟩ := by rw [← hname, ← hisFile]
    exact ⟨item, hmem, hentry, Item.isSlice_dataIn hle hinside⟩
  · refine ⟨_, by rw [manifest_packaged, hindex]; rfl, fun manifest hmanifest => ?_⟩
    rw [Stream.eq_ofItems_of_index hindex] at hmanifest
    obtain ⟨item, hitem, rfl⟩ := Option.map_eq_some_iff.mp hmanifest
    rw [List.findRev?_eq_find?_reverse] at hitem
    have hmem : item ∈ stream.items := List.mem_reverse.mp (List.mem_of_find?_eq_some hitem)
    have hname : item.entry.name = Manifest.entryName := by simpa using List.find?_some hitem
    refine ⟨item, hmem, hname, item.dataIn stream.data, ?_, rfl⟩
    exact Item.isSlice_dataIn (Stream.range_of_mem_items hmem).1
      (Stream.stop_le_of_index hindex hmem)
  · obtain ⟨found, hnested, hbody⟩ := nested?_packaged id stream s hindex name
    refine ⟨found, hnested, fun inner hinner => ?_⟩
    rw [hinner, Option.map_some] at hbody
    obtain ⟨item, hitem, heq⟩ := Option.map_eq_some_iff.mp hbody.symm
    exact isNestedIn_of_body hindex (Stream.mem_of_findLoosely? hindex hitem) heq.symm
  · obtain ⟨views, hviews, hbodies⟩ := nestedAll_packaged id stream s hindex filter
    refine ⟨views, hviews, fun inner hinner => ?_⟩
    have hmem : inner.body ∈ views.map body := List.mem_map_of_mem hinner
    rw [hbodies] at hmem
    obtain ⟨item, hitem, hbody⟩ := List.mem_map.mp hmem
    exact isNestedIn_of_body hindex (List.mem_filter.mp hitem).1 hbody.symm

end

/-- What is reached from an artifact is packaged, over a part of the bytes of the artifact. -/
lemma ReachedFrom.exists_stream {file : List UInt8} {a : Archive} (h : ReachedFrom file a) :
    ∃ id stream, a = packaged id stream ∧ stream.data <:+: file := by
  have hinner : ∀ {stream : Stream} {index : Index} {inner : Archive},
      stream.data <:+: file → IsNestedIn stream index inner →
      ∃ id stream, inner = packaged id stream ∧ stream.data <:+: file := by
    rintro stream index inner hdata ⟨id', item, -, rfl, -⟩
    exact ⟨id', _, rfl, (infix_nested stream item).trans hdata⟩
  induction h with
  | @opened path s a hread hopen =>
    obtain ⟨hopens, hfails⟩ := open?_of_payload hread
    cases hpayload : Trailer.payload file with
    | error offset =>
      rw [hfails offset hpayload] at hopen
      cases hopen
    | ok data =>
      obtain ⟨id, hopened⟩ := hopens data hpayload
      rw [hopened] at hopen
      cases hopen
      exact ⟨id, _, rfl, Trailer.infix_of_payload hpayload⟩
  | streamed url s => exact ⟨_, _, rfl, List.infix_rfl⟩
  | @filtered a view views filter s _ hviews hview ih =>
    obtain ⟨id, stream, rfl, hdata⟩ := ih
    cases hindex : stream.index with
    | error cause =>
      rw [nestedAll_packaged_error id stream s hindex] at hviews
      cases hviews
    | ok index =>
      obtain ⟨views', hviews', hnested⟩ := (readsWithin hindex id).nestedAll filter s
      rw [hviews] at hviews'
      cases hviews'
      exact hinner hdata (hnested view hview)
  | @named a view name s _ hview ih =>
    obtain ⟨id, stream, rfl, hdata⟩ := ih
    cases hindex : stream.index with
    | error cause =>
      rw [nested?_packaged_error id stream s hindex] at hview
      cases hview
    | ok index =>
      obtain ⟨found, hfound, hnested⟩ := (readsWithin hindex id).nested? name s
      rw [hview] at hfound
      cases hfound
      exact hinner hdata (hnested view rfl)

/-- An archive that is reached from an artifact is packaged, over a part of the bytes of the
artifact, and the places of its items fit into 64 bits, whatever sizes the bytes tell.  If it has an
index, the items lie within its bytes and one behind the other, the table of positions leads to
items of the right names, and all that is read from it is the whole of an item. -/
theorem reached_within_bounds {file : List UInt8} {a : Archive} (h : ReachedFrom file a) :
    ∃ id stream, a = packaged id stream ∧ stream.data <:+: file ∧
      (∀ item ∈ stream.items, item.start ≤ item.stop ∧ item.stop < Tar.sizeBound) ∧
      ∀ index, stream.index = .ok index →
        index.WithinData stream.data ∧ a.ReadsWithin stream index := by
  obtain ⟨id, stream, rfl, hdata⟩ := h.exists_stream
  refine ⟨id, stream, rfl, hdata, fun item => Stream.range_of_mem_items, fun index hindex => ?_⟩
  exact ⟨Stream.withinData_of_index hindex, readsWithin hindex id⟩

/-- A payload with a directory in which a library lies. -/
def nestingPayload : List UInt8 :=
  Tar.write [.plain (Text.Utf8.encode "lib/".toList) (by decide) none,
    .plain (Text.Utf8.encode "lib/in.jar".toList) (by decide) (some samplePayload)] []

/-- The library in the directory of the payload is reached, lists its file, and has it within its
bytes. -/
theorem reached_within_bounds_nestingPayload :
    ∃ library id stream index, ReachedFrom (executable nestingPayload) library ∧
      (library.entries default).1 = .ok [⟨"Main.class", false⟩] ∧
      library = packaged id stream ∧ stream.index = .ok index ∧ index.WithinData stream.data := by
  let s := executableStore nestingPayload
  let outer := packaged 1 ⟨.artifact ⟨"app"⟩, nestingPayload, none⟩
  let view := packaged 1 ⟨.packaged ⟨"app"⟩ ["lib"], nestingPayload, some "lib/"⟩
  let library := packaged 1 ⟨.packaged ⟨"app"⟩ ["lib", "in.jar"], samplePayload, none⟩
  have hread : s.files.read ⟨"app"⟩ = .ok (executable nestingPayload) := by decide +kernel
  have hopen : (open? ⟨"app"⟩ s).1 = .ok outer := by decide +kernel
  have hview : (outer.nested? "lib" s).1 = .ok (some view) := by decide +kernel
  have hlibrary : (view.nested? "in.jar" s).1 = .ok (some library) := by decide +kernel
  have hentries : (library.entries default).1 = .ok [⟨"Main.class", false⟩] := by decide +kernel
  have hreached : ReachedFrom (executable nestingPayload) library :=
    .named (.named (.opened hread hopen) hview) hlibrary
  obtain ⟨index, hindex, -⟩ := index_of_entries hentries
  obtain ⟨id, stream, heq, -, -, hbounds⟩ := reached_within_bounds hreached
  obtain ⟨rfl, rfl⟩ := packaged.inj heq
  exact ⟨_, _, _, index, hreached, hentries, rfl, hindex, (hbounds index hindex).1⟩

end Archive

end AppLauncher
