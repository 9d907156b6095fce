import AppLauncher.Proofs.Archive.Packaged
import AppLauncher.Proofs.Tar.Reading

/-!
# Archives over streams that were written

What a packaged archive answers when its stream was written entry by entry.  It has an index, it
lists the entries that have a normal name in the order in which they were written, and it reads back
the content of the last file of a name (`answers_of_write`).

The index holds places in the stream, not contents.  So items are compared with what was written by
their entry and by the bytes that they denote in the stream (`Stream.map_items_write`); each
question is then one about the list of what was written.
-/

namespace AppLauncher

/-! ### What was written, as an archive shows it -/

namespace Tar

namespace Record

/-- The normal name of an entry, read as text. -/
def normalName? (r : Record) : Option String :=
  Entry.normalName? (String.ofList (Text.Utf8.decode r.name)) r.isDirectory

/-- The entry of an archive that an entry of a stream is listed as, if it has a normal name. -/
def entry? (r : Record) : Option Entry := r.normalName?.map fun name => ⟨name, r.isDirectory⟩

/-- Whether an entry is a file of a normal name. -/
def isFileOf (name : String) (r : Record) : Bool :=
  !r.isDirectory && decide (r.normalName? = some name)

/-- The kind of an entry shows in its normal name. -/
lemma isDirectory_of_normalName? {r : Record} {name : String} (h : r.normalName? = some name) :
    r.isDirectory = Text.endsWithSlash name :=
  (Entry.endsWithSlash_of_normalName? h).symm

/-- A file has its data as content. -/
lemma content_of_not_isDirectory {r : Record} (h : r.isDirectory = false) :
    r.content = some r.data := by
  unfold isDirectory at h
  unfold data
  cases hcontent : r.content with
  | none =>
    rw [hcontent] at h
    cases h
  | some content => rfl

end Record

/-- The content of the last file of a normal name. -/
def lastContent? (records : List Record) (name : String) : Option (List UInt8) :=
  (records.findRev? (Record.isFileOf name)).bind (·.content)

/-- The last entry of a name that no directory can have is the last file of the name, and there is
no file of any other name. -/
lemma findRev?_isFileOf (records : List Record) (name : String) :
    records.findRev? (Record.isFileOf name) =
      if Text.endsWithSlash name then none
      else records.findRev? fun r => r.normalName? = some name := by
  rw [List.findRev?_eq_find?_reverse, List.findRev?_eq_find?_reverse]
  cases hslash : Text.endsWithSlash name with
  | true =>
    rw [if_pos rfl, List.find?_eq_none]
    intro r _ hr
    simp only [Record.isFileOf, Bool.and_eq_true, Bool.not_eq_true', decide_eq_true_eq] at hr
    have hkind := Record.isDirectory_of_normalName? hr.2
    rw [hr.1, hslash] at hkind
    cases hkind
  | false =>
    rw [if_neg Bool.false_ne_true]
    congr 1
    funext r
    unfold Record.isFileOf
    by_cases hname : r.normalName? = some name
    · simp [hname, Record.isDirectory_of_normalName? hname, hslash]
    · simp [hname]

end Tar

/-! ### The items of the stream -/

namespace Item

/-- The entry that a member of a kind and a name stands for. -/
def entryOf? (kind : Tar.Kind) (name : List UInt8) : Option Entry :=
  let entry (isDirectory : Bool) : Option Entry :=
    (Entry.normalName? (String.ofList (Text.Utf8.decode name)) isDirectory).map fun name =>
      ⟨name, isDirectory⟩
  match kind with
  | .file => entry false
  | .directory => entry true
  | _ => none

/-- An item is the entry of a member and the place of its data. -/
lemma ofMember?_eq (m : Tar.Member) :
    ofMember? m = (entryOf? m.kind m.name).map fun entry =>
      ⟨entry, m.start, m.start + m.size⟩ := by
  unfold ofMember? entryOf?
  cases m.kind <;> simp [Function.comp_def]

/-- The bytes of an item are the data of its member. -/
lemma map_ofMember? (m : Tar.Member) (stream : List UInt8) :
    (ofMember? m).map (fun item => (item.entry, item.dataIn stream)) =
      (entryOf? m.kind m.name).map fun entry => (entry, m.dataIn stream) := by
  rw [ofMember?_eq, Option.map_map]
  simp only [Function.comp_def, dataIn, Tar.Member.dataIn, Nat.add_sub_cancel_left]

/-- The entry of a member is that of what was written. -/
lemma entryOf?_record (r : Tar.Record) : entryOf? (Tar.Kind.ofByte r.type) r.name = r.entry? := by
  rw [r.ofByte_type]
  unfold Tar.Record.entry? Tar.Record.normalName?
  cases r.isDirectory <;> rfl

end Item

namespace Stream

/-- A stream that is read without a fault, with all data within it, has an index of all its
items. -/
lemma index_of_read {data : List UInt8} (hfault : (Tar.read data).fault = none)
    (hinside : ∀ m ∈ (Tar.read data).members, m.start + m.size ≤ data.length) (url : Url) :
    Stream.index ⟨url, data, none⟩ =
      .ok (.ofItems (items ⟨url, data, none⟩) (manifest ⟨url, data, none⟩)) := by
  have hnever : (items ⟨url, data, none⟩).find? (fun item => item.stop > data.length) = none := by
    rw [List.find?_eq_none]
    intro item hitem hout
    obtain ⟨m, hm, hofMember⟩ := List.mem_filterMap.mp hitem
    rw [Item.ofMember?_eq] at hofMember
    obtain ⟨entry, -, rfl⟩ := Option.map_eq_some_iff.mp hofMember
    exact absurd (hinside m hm) (Nat.not_le.mpr (of_decide_eq_true hout))
  have hnone : malformation? ⟨url, data, none⟩ = none := by
    unfold malformation?
    dsimp only
    rw [hnever, hfault]
    rfl
  have hall : Item.within? none = some := rfl
  unfold Stream.index
  rw [hnone]
  dsimp only
  rw [hall, List.filterMap_some]

variable {records : List Tar.Record} {rest : List UInt8}

/-- The items of a stream that was written denote the entries and the data that were written. -/
lemma map_items_write (hfits : (Tar.write records rest).length < Tar.sizeBound) (url : Url)
    (directory : Option String) :
    (items ⟨url, Tar.write records rest, directory⟩).map
        (fun item => (item.entry, item.dataIn (Tar.write records rest))) =
      records.filterMap fun r => r.entry?.map fun entry => (entry, r.data) := by
  have hbytes : (records.flatMap Tar.Record.bytes).length < Tar.sizeBound := by
    rw [Tar.write, List.length_append] at hfits
    omega
  have hmembers := Tar.map_membersAt records [] (List.replicate Tar.blockSize 0 ++ rest)
  unfold items
  dsimp only
  rw [Tar.read_write records rest hbytes, List.map_filterMap]
  simp only [Item.map_ofMember?]
  -- both lists are the entries of a list of kinds, names and data
  calc (Tar.membersAt 0 records).filterMap (fun m => (Item.entryOf? m.kind m.name).map
          fun entry => (entry, m.dataIn (Tar.write records rest)))
      = ((Tar.membersAt 0 records).map fun m =>
          (m.kind, m.name, m.dataIn (Tar.write records rest))).filterMap
            (fun seen => (Item.entryOf? seen.1 seen.2.1).map fun entry => (entry, seen.2.2)) := by
        rw [List.filterMap_map]
        rfl
    _ = (records.map fun r => (Tar.Kind.ofByte r.type, r.name, r.data)).filterMap
            (fun seen => (Item.entryOf? seen.1 seen.2.1).map fun entry => (entry, seen.2.2)) :=
        congrArg _ hmembers
    _ = records.filterMap fun r => r.entry?.map fun entry => (entry, r.data) := by
        rw [List.filterMap_map]
        simp only [Function.comp_def, Item.entryOf?_record]

/-- A stream that was written is read without a fault, and the data of all members is in it. -/
lemma read_write_inside (hfits : (Tar.write records rest).length < Tar.sizeBound) :
    (Tar.read (Tar.write records rest)).fault = none ∧
      ∀ m ∈ (Tar.read (Tar.write records rest)).members,
        m.start + m.size ≤ (Tar.write records rest).length := by
  have hlength : (Tar.write records rest).length = (records.flatMap Tar.Record.bytes).length +
      (List.replicate Tar.blockSize (0 : UInt8) ++ rest).length := by
    rw [Tar.write, List.length_append]
  rw [Tar.read_write records rest (by omega)]
  refine ⟨rfl, fun m hm => ?_⟩
  have hstop := Tar.stop_le_of_mem_membersAt hm
  omega

/-- A stream that was written has an index of all its items. -/
lemma index_write (hfits : (Tar.write records rest).length < Tar.sizeBound) (url : Url) :
    Stream.index ⟨url, Tar.write records rest, none⟩ =
      .ok (.ofItems (items ⟨url, Tar.write records rest, none⟩)
        (manifest ⟨url, Tar.write records rest, none⟩)) :=
  index_of_read (read_write_inside hfits).1 (read_write_inside hfits).2 url

/-- The last item of a name denotes the last entry of the normal name that was written. -/
lemma findRev?_items_write (hfits : (Tar.write records rest).length < Tar.sizeBound) (url : Url)
    (name : String) :
    ((items ⟨url, Tar.write records rest, none⟩).findRev? fun item => item.entry.name = name).map
        (fun item => (item.entry, item.dataIn (Tar.write records rest))) =
      (records.findRev? fun r => r.normalName? = some name).map fun r =>
        (⟨name, r.isDirectory⟩, r.data) := by
  have hitems := congrArg (fun l => l.reverse.find? fun seen => decide (seen.1.name = name))
    (map_items_write hfits url none)
  simp only [← List.map_reverse, List.find?_map, ← List.filterMap_reverse, List.find?_filterMap,
    Function.comp_def] at hitems
  have hany : ∀ r : Tar.Record, (r.entry?.map fun entry => (entry, r.data)).any
      (fun seen => decide (seen.1.name = name)) = decide (r.normalName? = some name) := by
    intro r
    unfold Tar.Record.entry?
    cases r.normalName? <;> simp
  simp only [hany] at hitems
  rw [List.findRev?_eq_find?_reverse, List.findRev?_eq_find?_reverse, hitems]
  cases hfound : records.reverse.find? fun r => decide (r.normalName? = some name) with
  | none => rfl
  | some r =>
    have hname : r.normalName? = some name := by
      simpa using List.find?_some hfound
    simp [Tar.Record.entry?, hname]

/-- The last item of a name, if it is a file, denotes the content of the last file of the name that
was written. -/
lemma lastContent?_eq (hfits : (Tar.write records rest).length < Tar.sizeBound) (url : Url)
    (name : String) :
    (((items ⟨url, Tar.write records rest, none⟩).findRev?
      fun item => item.entry.name = name).filter
        (!·.entry.isDirectory)).map (·.dataIn (Tar.write records rest)) =
      Tar.lastContent? records name := by
  have hfind := congrArg (fun seen => (seen.filter fun seen => !seen.1.isDirectory).map Prod.snd)
    (findRev?_items_write hfits url name)
  simp only [Option.filter_map, Option.map_map] at hfind
  refine Eq.trans hfind ?_
  unfold Tar.lastContent?
  rw [Tar.findRev?_isFileOf]
  cases hfound : records.findRev? fun r => decide (r.normalName? = some name) with
  | none => simp
  | some r =>
    rw [List.findRev?_eq_find?_reverse] at hfound
    have hname : r.normalName? = some name := by
      simpa using List.find?_some hfound
    have hkind := Tar.Record.isDirectory_of_normalName? hname
    cases hslash : Text.endsWithSlash name with
    | true => simp [hkind, hslash]
    | false =>
      rw [hslash] at hkind
      simp [hkind, Tar.Record.content_of_not_isDirectory hkind]

/-- The manifest of a stream that was written is read from the last file of its name. -/
lemma manifest_write (hfits : (Tar.write records rest).length < Tar.sizeBound) (url : Url) :
    manifest ⟨url, Tar.write records rest, none⟩ =
      (Tar.lastContent? records Manifest.entryName).map Manifest.parse := by
  rw [manifest_eq (index_write hfits url) rfl, Index.find?_ofItems, ← Function.comp_def,
    ← Option.map_map, lastContent?_eq hfits url]

end Stream

/-! ### Questions and answers -/

namespace Archive

section

variable {records : List Tar.Record} {rest : List UInt8}
  (hfits : (Tar.write records rest).length < Tar.sizeBound) (id : Nat) (url : Url) (t : Store)

include hfits

/-- An archive over a stream that was written lists what was written. -/
lemma entries_write : ((packaged id ⟨url, Tar.write records rest, none⟩).entries t).1 =
    .ok (records.filterMap Tar.Record.entry?) := by
  have hentries := congrArg (List.map Prod.fst) (Stream.map_items_write hfits url none)
  rw [List.map_map, List.map_filterMap] at hentries
  rw [entries_packaged, Stream.index_write hfits url]
  simpa [Except.map, Index.entries, Index.ofItems, Function.comp_def] using hentries

/-- An archive over a stream that was written reads the last file of a name. -/
lemma read?_write (name : String) :
    ((packaged id ⟨url, Tar.write records rest, none⟩).read? name t).1 =
      .ok (Tar.lastContent? records name) := by
  rw [read?_packaged, Stream.index_write hfits url]
  dsimp only [Except.map]
  rw [Index.find?_ofItems]
  exact congrArg Except.ok (Stream.lastContent?_eq hfits url name)

end

/-- An archive over a stream that was written can be indexed.  It lists the normal names of the
entries in the order in which they were written; it has an entry of a name exactly if it lists the
name; it reads the content of the last file of a name, and nothing of directories and of names that
are not there; and its manifest is read from the last file of that name.  All of this holds of every
stream that is short enough to have addresses of 64 bits, in every store. -/
theorem answers_of_write (records : List Tar.Record) (rest : List UInt8)
    (hfits : (Tar.write records rest).length < Tar.sizeBound) (url : Url) (s t : Store) :
    let archive := (ofStream ⟨url, Tar.write records rest, none⟩ s).1
    (archive.entries t).1 = .ok (records.filterMap Tar.Record.entry?) ∧
    (∀ name, ∃ found, (archive.find? name t).1 = .ok found ∧
      (found.isSome ↔ ∃ entry ∈ records.filterMap Tar.Record.entry?, entry.name = name)) ∧
    (∀ name, (archive.read? name t).1 = .ok (Tar.lastContent? records name)) ∧
    (archive.manifest t).1 =
      .ok ((Tar.lastContent? records Manifest.entryName).map Manifest.parse) := by
  intro archive
  have hindex := Stream.index_write hfits url
  have hfind := Stream.findRev?_items_write hfits url
  refine ⟨entries_write hfits _ url t, fun name => ?_, read?_write hfits _ url t, ?_⟩
  · have hentry := congrArg (Option.map Prod.fst) (hfind name)
    rw [Option.map_map, Option.map_map] at hentry
    refine ⟨(records.findRev? fun r => r.normalName? = some name).map fun r =>
      ⟨name, r.isDirectory⟩, ?_, ?_⟩
    · show ((packaged _ _).find? name t).1 = _
      rw [find?_packaged, hindex]
      dsimp only [Except.map]
      rw [Index.find?_ofItems]
      exact congrArg Except.ok hentry
    · rw [Option.isSome_map, List.findRev?_eq_find?_reverse, List.find?_isSome]
      simp [Tar.Record.entry?]
  · have hmanifest := Stream.manifest_write hfits url
    show ((packaged _ _).manifest t).1 = _
    rw [manifest_packaged, hindex, ← hmanifest]
    rfl

/-- A directory, a manifest that is written twice, and a file whose name does not fit into a
header. -/
def sampleRecords : List Tar.Record :=
  [.plain (Text.Utf8.encode "./META-INF//".toList) (by decide) none,
    .plain (Text.Utf8.encode "META-INF/MANIFEST.MF".toList) (by decide) (some []),
    .plain (Text.Utf8.encode ("p/" ++ String.ofList (List.replicate 100 'x')).toList) (by decide)
      (some [1, 2, 3]),
    .plain (Text.Utf8.encode "\\META-INF\\MANIFEST.MF".toList) (by decide)
      (some (Text.Utf8.encode "Title: t\n".toList))]

/-- In the sample, the manifest that was written last is the one that is read. -/
theorem answers_of_write_sampleRecords :
    (Tar.write sampleRecords []).length < Tar.sizeBound ∧
    let archive := (ofStream ⟨.artifact ⟨"a.jar"⟩, Tar.write sampleRecords [], none⟩ default).1
    (archive.entries default).1 = .ok [⟨"META-INF/", true⟩, ⟨"META-INF/MANIFEST.MF", false⟩,
      ⟨"p/" ++ String.ofList (List.replicate 100 'x'), false⟩, ⟨"META-INF/MANIFEST.MF", false⟩] ∧
    (archive.read? "META-INF/MANIFEST.MF" default).1 =
      .ok (some (Text.Utf8.encode "Title: t\n".toList)) := by
  have hfits : (Tar.write sampleRecords []).length < Tar.sizeBound := by decide +kernel
  obtain ⟨hentries, -, hread, -⟩ :=
    answers_of_write sampleRecords [] hfits (.artifact ⟨"a.jar"⟩) default default
  refine ⟨hfits, hentries.trans ?_, (hread "META-INF/MANIFEST.MF").trans ?_⟩
  · decide +kernel
  · decide +kernel

end Archive

end AppLauncher
