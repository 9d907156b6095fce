import AppLauncher.Proofs.Tar.Writing

/-!
# Reading tar streams that were written

The reader undoes the writer: a stream of entries that was written is listed without a fault, and
the members of the listing have the names, the kinds and the data of the entries (`read_write`,
`map_membersAt`).

The reader keeps a cursor, which stands before the data of the member read last and knows how much
of it is still to be passed over.  `Cursor.At` says at which place of the stream, and before which
bytes, the next header is looked for.  There is one step lemma for each kind of header
(`next_longName`, `next_entry`, `next_zeros`), then one for an entry with all its headers
(`readFrom_record`), and the whole stream is read by induction on the entries.
-/

namespace AppLauncher.Tar

/-! ### One header -/

/-- The next header is looked for at a place in the stream, and these are the bytes from there. -/
structure Cursor.At (c : Cursor) (position : Nat) (bytes : List UInt8) : Prop where
  position_eq : c.position + c.gap = position
  gap_le : c.gap ≤ c.rest.length
  drop_eq : c.rest.drop c.gap = bytes

/-- Reading starts at the start. -/
lemma Cursor.at_start (bytes : List UInt8) : Cursor.At ⟨bytes, 0, 0⟩ 0 bytes :=
  ⟨rfl, Nat.zero_le _, rfl⟩

/-- After a header, the next one is looked for behind the data. -/
lemma Cursor.at_pad (data tail : List UInt8) (start : Nat) :
    Cursor.At ⟨pad data ++ tail, start, padded data.length⟩ (start + padded data.length) tail := by
  refine ⟨rfl, ?_, ?_⟩
  · rw [List.length_append, length_pad]
    exact Nat.le_add_right _ _
  · exact List.drop_left' (length_pad data)

variable {c : Cursor} {position : Nat} {tail : List UInt8}

/-- A block is read as a header: one of zeros ends the stream, and one that is in order announces
what follows it. -/
lemma next_block {block : List UInt8} (hblock : block.length = blockSize)
    (hc : c.At position (block ++ tail)) (e : Extensions) :
    (Header.isZero ⟨block⟩ = true → next e c = finish e) ∧
    ∀ size, Header.isZero ⟨block⟩ = false → Header.check ⟨block⟩ = .ok size →
      next e c = readMember e ⟨block⟩ size (position + blockSize) tail := by
  have hpositive : 0 < blockSize := by decide
  have hne : (block ++ tail).isEmpty = false := by
    rw [List.isEmpty_eq_false_iff]
    intro hnil
    have hzero := congrArg List.length hnil
    rw [List.length_append, hblock, List.length_nil] at hzero
    omega
  have hlong : ¬(block ++ tail).length < blockSize := by
    rw [List.length_append, hblock]
    omega
  unfold next
  rw [if_neg (Nat.not_lt.mpr hc.gap_le), hc.drop_eq, hc.position_eq]
  dsimp only
  rw [hne, if_neg Bool.false_ne_true, if_neg hlong, List.take_left' hblock,
    List.drop_left' hblock]
  constructor
  · intro hzero
    rw [hzero, if_pos rfl]
  · intro size hzero hcheck
    rw [hzero, if_neg Bool.false_ne_true, hcheck]

/-- A header that was written is read as it is. -/
lemma next_header {d : Details} {name : List UInt8} {type : UInt8} {size : Nat}
    (hname : name.length = 100) (hsize : size < sizeBound)
    (hc : c.At position (header d name type size ++ tail)) (e : Extensions) :
    next e c = readMember e ⟨header d name type size⟩ size (position + blockSize) tail := by
  have hheader := next_block (length_header d hname type size) hc e
  exact hheader.2 size (isZero_header d type size) (check_header d type size hname hsize)

/-- A block of zeros is the end of the stream. -/
lemma next_zeros (hc : c.At position (List.replicate blockSize 0 ++ tail)) :
    next .none c = .finished := by
  have hzero : Header.isZero ⟨List.replicate blockSize 0⟩ = true := by
    simp [Header.isZero]
  exact (next_block List.length_replicate hc .none).1 hzero

/-- The sizes that are checked are in range if the stream is. -/
lemma sizes_lt {start size : Nat} (h : start + blockSize + padded size < sizeBound) :
    ¬(size + (blockSize - 1) ≥ sizeBound ∨ start + blockSize + padded size ≥ sizeBound) := by
  have hle := (padded_spec size).1
  unfold blockSize at *
  omega

/-- The data of a member is what stands before the next header. -/
lemma take_pad (data tail : List UInt8) : (pad data ++ tail).take data.length = data := by
  rw [pad, List.append_assoc]
  exact List.take_left

/-- The name before an entry is read as an extension. -/
lemma next_longName {d : Details} {name data : List UInt8} (hname : name.length = 100)
    (hc : c.At position (part d name 0x4C data ++ tail))
    (hfits : position + (part d name 0x4C data).length < sizeBound) :
    ∃ c', next .none c = .extension ⟨some data, none, none⟩ c' ∧
      c'.At (position + (part d name 0x4C data).length) tail := by
  rw [length_part d hname, ← Nat.add_assoc] at hfits ⊢
  have hsize : data.length < sizeBound := by
    have hle := (padded_spec data.length).1
    omega
  rw [part, List.append_assoc] at hc
  refine ⟨_, ?_, Cursor.at_pad data tail (position + blockSize)⟩
  rw [next_header hname hsize hc]
  unfold readMember
  have hkind : Header.kind ⟨header d name 0x4C data.length⟩ = .longName :=
    kind_header d 0x4C data.length hname
  have hgnu : Header.isGnu ⟨header d name 0x4C data.length⟩ = true :=
    isGnu_header d 0x4C data.length hname
  simp only [hkind, hgnu, Extensions.sizeOf, Kind.isExtension, if_true, if_neg (sizes_lt hfits),
    Bool.true_or, decide_true, Bool.and_self, take_pad]
  rfl

/-- The header of a file or a directory is read as a member. -/
lemma next_entry {d : Details} {name data : List UInt8} {type : UInt8} (hname : name.length = 100)
    (htype : Kind.ofByte type = .file ∨ Kind.ofByte type = .directory)
    (hc : c.At position (part d name type data ++ tail))
    (hfits : position + (part d name type data).length < sizeBound)
    {e : Extensions} (he : e.pax = none) :
    ∃ c', next e c = .member ⟨Kind.ofByte type, e.nameOf ⟨header d name type data.length⟩,
        position + blockSize, data.length⟩ c' ∧
      c'.At (position + (part d name type data).length) tail := by
  rw [length_part d hname, ← Nat.add_assoc] at hfits ⊢
  have hsize : data.length < sizeBound := by
    have hle := (padded_spec data.length).1
    omega
  rw [part, List.append_assoc] at hc
  refine ⟨_, ?_, Cursor.at_pad data tail (position + blockSize)⟩
  rw [next_header hname hsize hc]
  unfold readMember
  have hkind := kind_header d type data.length hname
  rcases htype with hfile | hdirectory
  · simp [hkind, hfile, he, Extensions.sizeOf, Kind.isExtension, sizes_lt hfits]
  · simp [hkind, hdirectory, he, Extensions.sizeOf, Kind.isExtension, sizes_lt hfits]

/-! ### One entry -/

namespace Record

/-- The type byte says whether an entry is a directory. -/
lemma ofByte_type (r : Record) :
    Kind.ofByte r.type = if r.isDirectory then .directory else .file := by
  unfold type
  cases r.isDirectory <;> cases r.isOld <;> rfl

/-- The number of headers of an entry. -/
def headers (r : Record) : Nat := if r.name.length ≤ 100 then 1 else 2

/-- The member that an entry is read as, when it stands at a place of the stream. -/
def member (r : Record) (position : Nat) : Member :=
  ⟨Kind.ofByte r.type, r.name, position + r.extension.length + blockSize, r.data.length⟩

/-- Each header takes a block. -/
lemma headers_le (r : Record) : r.headers * blockSize ≤ r.bytes.length := by
  have hentry := length_part r.details r.length_headerName r.type r.data
  unfold headers bytes extension
  split
  · rw [List.nil_append, hentry]
    omega
  · rw [List.length_append, hentry, length_part _ (by simp)]
    omega

end Record

section

variable (r : Record) (fuel : Nat)

/-- The header of an entry announces a file or a directory. -/
lemma Record.ofByte_type_cases :
    Kind.ofByte r.type = .file ∨ Kind.ofByte r.type = .directory := by
  rw [r.ofByte_type]
  cases r.isDirectory
  · exact .inl rfl
  · exact .inr rfl

variable (hc : c.At position (r.bytes ++ tail)) (hfits : position + r.bytes.length < sizeBound)

include hc hfits

/-- An entry whose name fits into the header is read with its header. -/
lemma readFrom_short (hshort : r.name.length ≤ 100) :
    ∃ c', c'.At (position + r.bytes.length) tail ∧
      readFrom (fuel + r.headers) .none c =
        ⟨r.member position :: (readFrom fuel .none c').members,
          (readFrom fuel .none c').fault⟩ := by
  have hextension : r.extension = [] := if_pos hshort
  have hheaders : r.headers = 1 := if_pos hshort
  have hheaderName : r.headerName = nameField r.name := if_pos hshort
  have hname := name_header r.details r.type r.data.length r.length_headerName
  rw [hheaderName, untilNul_nameField r.zero_not_mem] at hname
  unfold Record.bytes at hc hfits ⊢
  rw [hextension, List.nil_append] at hc hfits ⊢
  obtain ⟨c', hnext, hc'⟩ :=
    next_entry r.length_headerName r.ofByte_type_cases hc hfits (e := .none) rfl
  refine ⟨c', hc', ?_⟩
  rw [hheaders, readFrom, hnext]
  unfold Record.member Extensions.nameOf
  simp only [Extensions.none, Option.bind_none, Option.getD_none, hheaderName, hname, hextension,
    List.length_nil, Nat.add_zero]

/-- An entry with a long name is read with the extension before it. -/
lemma readFrom_long (hlong : ¬ r.name.length ≤ 100) :
    ∃ c', c'.At (position + r.bytes.length) tail ∧
      readFrom (fuel + r.headers) .none c =
        ⟨r.member position :: (readFrom fuel .none c').members,
          (readFrom fuel .none c').fault⟩ := by
  have hextension : r.extension = part r.long.details r.long.label.toList 0x4C r.longData :=
    if_neg hlong
  have hheaders : r.headers = 2 := if_neg hlong
  have hlabel : r.long.label.toList.length = 100 := by simp
  unfold Record.bytes at hc hfits ⊢
  rw [List.append_assoc] at hc
  rw [List.length_append, ← Nat.add_assoc] at hfits ⊢
  have hfits' : position + r.extension.length < sizeBound := by omega
  rw [hextension] at hc hfits'
  obtain ⟨c₁, hnext₁, hc₁⟩ := next_longName hlabel hc hfits'
  rw [← hextension] at hc₁
  obtain ⟨c₂, hnext₂, hc₂⟩ := next_entry r.length_headerName r.ofByte_type_cases hc₁ hfits
    (e := ⟨some r.longData, none, none⟩) rfl
  refine ⟨c₂, hc₂, ?_⟩
  rw [hheaders, readFrom, hnext₁]
  dsimp only
  rw [readFrom, hnext₂]
  dsimp only
  rw [r.nameOf_longData]
  rfl

/-- An entry is read with all its headers. -/
lemma readFrom_record :
    ∃ c', c'.At (position + r.bytes.length) tail ∧
      readFrom (fuel + r.headers) .none c =
        ⟨r.member position :: (readFrom fuel .none c').members,
          (readFrom fuel .none c').fault⟩ := by
  by_cases hshort : r.name.length ≤ 100
  · exact readFrom_short r fuel hc hfits hshort
  · exact readFrom_long r fuel hc hfits hshort

end

/-! ### The whole stream -/

/-- The members that entries are read as, one after the other. -/
def membersAt : Nat → List Record → List Member
  | _, [] => []
  | position, r :: rs => r.member position :: membersAt (position + r.bytes.length) rs

/-- Entries are read up to the block of zeros. -/
lemma readFrom_records (records : List Record) (fuel : Nat)
    (hc : c.At position (write records tail))
    (hfits : position + (records.flatMap Record.bytes).length < sizeBound) :
    readFrom (fuel + 1 + (records.map Record.headers).sum) .none c =
      ⟨membersAt position records, none⟩ := by
  induction records generalizing c position with
  | nil =>
    have hzeros : c.At position (List.replicate blockSize 0 ++ tail) := hc
    rw [List.map_nil, List.sum_nil, Nat.add_zero, readFrom, next_zeros hzeros]
    rfl
  | cons r rs ih =>
    have hbytes : write (r :: rs) tail = r.bytes ++ write rs tail := by
      simp [write, List.append_assoc]
    rw [List.flatMap_cons, List.length_append, ← Nat.add_assoc] at hfits
    rw [hbytes] at hc
    have hcount : fuel + 1 + ((r :: rs).map Record.headers).sum =
        fuel + 1 + (rs.map Record.headers).sum + r.headers := by
      rw [List.map_cons, List.sum_cons]
      omega
    obtain ⟨c', hc', hread⟩ :=
      readFrom_record r (fuel + 1 + (rs.map Record.headers).sum) hc (by omega)
    rw [hcount, hread, ih hc' hfits]
    rfl

/-- Each header of the entries takes a block. -/
lemma sum_headers_le (records : List Record) :
    (records.map Record.headers).sum * blockSize ≤ (records.flatMap Record.bytes).length := by
  induction records with
  | nil => simp
  | cons r rs ih =>
    have hr := r.headers_le
    rw [List.map_cons, List.sum_cons, List.flatMap_cons, List.length_append, Nat.add_mul]
    omega

/-- A stream of entries that was written is read as their members, without a fault. -/
theorem read_write (records : List Record) (rest : List UInt8)
    (hfits : (records.flatMap Record.bytes).length < sizeBound) :
    read (write records rest) = ⟨membersAt 0 records, none⟩ := by
  have hlength : (records.map Record.headers).sum ≤ (write records rest).length / blockSize := by
    rw [Nat.le_div_iff_mul_le (by decide)]
    have hsum := sum_headers_le records
    rw [write, List.length_append]
    omega
  obtain ⟨fuel, hfuel⟩ := Nat.exists_eq_add_of_le' hlength
  have hcount : (write records rest).length / blockSize + 1 =
      fuel + 1 + (records.map Record.headers).sum := by
    omega
  unfold read
  rw [hcount]
  exact readFrom_records records fuel (Cursor.at_start _) (by omega)

/-! ### The data of members -/

/-- The bytes of a member. -/
def Member.dataIn (m : Member) (stream : List UInt8) : List UInt8 :=
  (stream.drop m.start).take m.size

/-- The member of an entry has the data of the entry. -/
lemma Record.dataIn_member (r : Record) (before tail : List UInt8) :
    (r.member before.length).dataIn (before ++ (r.bytes ++ tail)) = r.data := by
  have hstart : before ++ (r.bytes ++ tail) =
      before ++ (r.extension ++ header r.details r.headerName r.type r.data.length) ++
        (pad r.data ++ tail) := by
    simp only [Record.bytes, part, List.append_assoc]
  have hlength : (before ++ (r.extension ++
      header r.details r.headerName r.type r.data.length)).length =
        (r.member before.length).start := by
    simp only [List.length_append, length_header r.details r.length_headerName, member]
    omega
  unfold Member.dataIn
  rw [hstart, List.drop_left' hlength]
  exact take_pad r.data tail

/-- The members of entries have the kinds, the names and the data of the entries. -/
theorem map_membersAt (records : List Record) (before tail : List UInt8) :
    (membersAt before.length records).map (fun m =>
        (m.kind, m.name, m.dataIn (before ++ (records.flatMap Record.bytes ++ tail)))) =
      records.map fun r => (Kind.ofByte r.type, r.name, r.data) := by
  induction records generalizing before with
  | nil => rfl
  | cons r rs ih =>
    have hsplit : before ++ ((r :: rs).flatMap Record.bytes ++ tail) =
        before ++ (r.bytes ++ (rs.flatMap Record.bytes ++ tail)) := by
      rw [List.flatMap_cons, List.append_assoc]
    have hrest := ih (before ++ r.bytes)
    rw [List.length_append, List.append_assoc] at hrest
    rw [hsplit, membersAt, List.map_cons, List.map_cons, hrest, r.dataIn_member]
    rfl

/-- The data of members lies within the stream. -/
lemma stop_le_of_mem_membersAt {records : List Record} {position : Nat} {m : Member}
    (hm : m ∈ membersAt position records) :
    m.start + m.size ≤ position + (records.flatMap Record.bytes).length := by
  induction records generalizing position with
  | nil => cases hm
  | cons r rs ih =>
    rw [List.flatMap_cons, List.length_append]
    rcases List.mem_cons.mp hm with rfl | hrest
    · have hentry := length_part r.details r.length_headerName r.type r.data
      have hle := (padded_spec r.data.length).1
      have hbytes : r.bytes.length = r.extension.length + (blockSize + padded r.data.length) := by
        rw [Record.bytes, List.length_append, hentry]
      simp only [Record.member]
      omega
    · have hrest := ih hrest
      omega

end AppLauncher.Tar
