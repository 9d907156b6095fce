import AppLauncher.Proofs.Tar.Number
import AppLauncher.Tar.Reader

/-!
# Writing tar streams

The other side of the reader: a stream is written entry by entry, each with a header of the GNU
format and its data filled up to whole blocks, and a block of zeros ends it (`write`).  A name that
does not fit into the header goes into an extension before the entry.

A writer is free in much of what it writes: owners, times, links, the name that stands in the header
of an entry with a long name, and the way in which numbers end.  None of this is fixed here; it is
part of what is to be written (`Details`, `LongName`).

The lemmas say what the fields of a written header hold.  They are what a reader goes by:
`check_header`, `kind_header`, `name_header` and `isGnu_header`.
-/

namespace AppLauncher.Tar

/-! ### What is written -/

/-- What a header holds besides the name, the kind and the size of an entry, and how its numbers
end. -/
structure Details where
  /-- The mode, and the numbers of the user and the group. -/
  owner : Vector UInt8 24
  time : Vector UInt8 12
  link : Vector UInt8 100
  /-- All that follows the magic bytes. -/
  rest : Vector UInt8 247
  sizeEnding : Ending 1
  sumEnding : Ending 2

/-- Details of which nothing is filled in, with a NUL byte after each number. -/
def Details.blank : Details where
  owner := .replicate 24 0
  time := .replicate 12 0
  link := .replicate 100 0
  rest := .replicate 247 0
  sizeEnding := ⟨[0], by decide, by simp⟩
  sumEnding := ⟨[0], by decide, by simp⟩

/-- How an entry is written whose name does not fit into a header. -/
structure LongName where
  /-- The name in the header of the extension. -/
  label : Vector UInt8 100
  /-- What stands in place of the name in the header of the entry. -/
  shortened : Vector UInt8 100
  details : Details
  /-- Whether a NUL byte follows the name. -/
  terminated : Bool

/-- An entry to be written: a directory, or a file with its content. -/
structure Record where
  name : List UInt8
  zero_not_mem : 0 ∉ name
  /-- The content of a file; directories have none. -/
  content : Option (List UInt8)
  /-- Whether a file has the type byte that old formats have. -/
  isOld : Bool
  details : Details
  /-- How the name is written if it does not fit. -/
  long : LongName

/-- An entry to be written of which only the name and the content matter. -/
def Record.plain (name : List UInt8) (hname : 0 ∉ name) (content : Option (List UInt8)) : Record :=
  ⟨name, hname, content, false, .blank, ⟨.replicate 100 0, .replicate 100 0, .blank, true⟩⟩

/-- The magic bytes of the GNU format. -/
def gnuMagic : List UInt8 := [0x75, 0x73, 0x74, 0x61, 0x72, 0x20, 0x20, 0x00]

/-- The sum of bytes. -/
def byteSum (bytes : List UInt8) : Nat := bytes.foldl (fun n b => n + b.toNat) 0

/-- The part of a header before the checksum. -/
def headerStart (d : Details) (name : List UInt8) (size : Nat) : List UInt8 :=
  name ++ (d.owner.toList ++ (sizeField d.sizeEnding size ++ d.time.toList))

/-- The part of a header after the checksum. -/
def headerEnd (d : Details) (type : UInt8) : List UInt8 :=
  [type] ++ (d.link.toList ++ (gnuMagic ++ d.rest.toList))

/-- The checksum of a header: the sum of its bytes, with blanks in place of the checksum. -/
def headerSum (d : Details) (name : List UInt8) (type : UInt8) (size : Nat) : Nat :=
  byteSum (headerStart d name size) + 8 * 32 + byteSum (headerEnd d type)

/-- The field of the checksum. -/
def sumField (d : Details) (name : List UInt8) (type : UInt8) (size : Nat) : List UInt8 :=
  octalField 8 d.sumEnding (headerSum d name type size)

/-- A header, with the checksum that it should have. -/
def header (d : Details) (name : List UInt8) (type : UInt8) (size : Nat) : List UInt8 :=
  headerStart d name size ++ (sumField d name type size ++ headerEnd d type)

/-- Data filled up to whole blocks. -/
def pad (data : List UInt8) : List UInt8 :=
  data ++ List.replicate (padded data.length - data.length) 0

/-- A header and the data that it announces. -/
def part (d : Details) (name : List UInt8) (type : UInt8) (data : List UInt8) : List UInt8 :=
  header d name type data.length ++ pad data

/-- A name in the field of a header. -/
def nameField (name : List UInt8) : List UInt8 := name ++ List.replicate (100 - name.length) 0

namespace Record

/-- Whether an entry is a directory. -/
def isDirectory (r : Record) : Bool := r.content.isNone

/-- The data of an entry. -/
def data (r : Record) : List UInt8 := r.content.getD []

/-- The type byte of an entry. -/
def type (r : Record) : UInt8 := if r.isDirectory then 0x35 else if r.isOld then 0x00 else 0x30

/-- The data of the extension that holds a long name. -/
def longData (r : Record) : List UInt8 := r.name ++ if r.long.terminated then [0] else []

/-- What is written before an entry: its name, if it does not fit into the header. -/
def extension (r : Record) : List UInt8 :=
  if r.name.length ≤ 100 then []
  else part r.long.details r.long.label.toList 0x4C r.longData

/-- What stands in the field of the name. -/
def headerName (r : Record) : List UInt8 :=
  if r.name.length ≤ 100 then nameField r.name else r.long.shortened.toList

/-- An entry as it is written. -/
def bytes (r : Record) : List UInt8 :=
  r.extension ++ part r.details r.headerName r.type r.data

end Record

/-- A stream of entries, ended by a block of zeros.  What follows the block does not matter. -/
def write (records : List Record) (rest : List UInt8) : List UInt8 :=
  records.flatMap Record.bytes ++ (List.replicate blockSize 0 ++ rest)

/-! ### Lengths -/

/-- Data filled up takes whole blocks. -/
lemma padded_spec (size : Nat) : size ≤ padded size ∧ padded size < size + blockSize ∧
    padded size % blockSize = 0 := by
  unfold padded blockSize
  omega

@[simp] lemma length_pad (data : List UInt8) : (pad data).length = padded data.length := by
  have hle := (padded_spec data.length).1
  simp only [pad, List.length_append, List.length_replicate]
  omega

/-- The part of a header before the checksum has 148 bytes. -/
lemma length_headerStart (d : Details) {name : List UInt8} (hname : name.length = 100)
    (size : Nat) : (headerStart d name size).length = 148 := by
  simp [headerStart, hname]

/-- The part of a header after the checksum has 356 bytes. -/
lemma length_headerEnd (d : Details) (type : UInt8) : (headerEnd d type).length = 356 := by
  simp [headerEnd, gnuMagic]

/-- The field of the checksum has eight bytes. -/
lemma length_sumField (d : Details) (name : List UInt8) (type : UInt8) (size : Nat) :
    (sumField d name type size).length = 8 :=
  length_octalField d.sumEnding (by decide) _

/-- A header takes a block. -/
lemma length_header (d : Details) {name : List UInt8} (hname : name.length = 100) (type : UInt8)
    (size : Nat) : (header d name type size).length = blockSize := by
  simp only [header, List.length_append, length_headerStart d hname, length_headerEnd,
    length_sumField]
  rfl

/-- A header and its data take whole blocks, one for the header. -/
lemma length_part (d : Details) {name : List UInt8} (hname : name.length = 100) (type : UInt8)
    (data : List UInt8) : (part d name type data).length = blockSize + padded data.length := by
  rw [part, List.length_append, length_header d hname, length_pad]

/-- The field of a name has room for 100 bytes. -/
lemma length_nameField {name : List UInt8} (h : name.length ≤ 100) :
    (nameField name).length = 100 := by
  simp only [nameField, List.length_append, List.length_replicate]
  omega

/-- What stands in the field of a name has 100 bytes. -/
lemma Record.length_headerName (r : Record) : r.headerName.length = 100 := by
  unfold headerName
  split
  · exact length_nameField ‹_›
  · simp

/-! ### The fields of a header -/

/-- A field is read where it was written. -/
lemma Header.field_eq (before after : List UInt8) {block inside : List UInt8} {offset length : Nat}
    (hblock : block = before ++ (inside ++ after)) (hbefore : before.length = offset)
    (hinside : inside.length = length) : Header.field ⟨block⟩ offset length = inside := by
  subst hblock hbefore hinside
  simp [Header.field]

/-- The sum of bytes is bounded by their number. -/
lemma byteSum_le (bytes : List UInt8) : byteSum bytes ≤ 255 * bytes.length := by
  suffices h : ∀ n, bytes.foldl (fun n b => n + b.toNat) n ≤ n + 255 * bytes.length by
    simpa [byteSum] using h 0
  induction bytes with
  | nil => simp
  | cons b bytes ih =>
    intro n
    have hb : b.toNat < 256 := b.toNat_lt
    have hrest := ih (n + b.toNat)
    rw [List.foldl_cons, List.length_cons]
    omega

section

variable (d : Details) {name : List UInt8} (type : UInt8) (size : Nat)

/-- A header is no block of zeros. -/
lemma isZero_header : Header.isZero ⟨header d name type size⟩ = false := by
  have hmem : (0x75 : UInt8) ∈ header d name type size := by
    simp [header, headerEnd, gnuMagic]
  unfold Header.isZero
  rw [List.all_eq_false]
  exact ⟨0x75, hmem, by decide⟩

variable (hname : name.length = 100)

include hname

/-- The kind that a header announces. -/
lemma kind_header : Header.kind ⟨header d name type size⟩ = Kind.ofByte type := by
  have hfield : Header.field ⟨header d name type size⟩ 156 1 = [type] := by
    refine Header.field_eq (headerStart d name size ++ sumField d name type size)
      (d.link.toList ++ (gnuMagic ++ d.rest.toList)) ?_ ?_ rfl
    · rw [header, headerEnd, List.append_assoc]
    · rw [List.length_append, length_headerStart d hname, length_sumField]
  rw [Header.kind, hfield]
  rfl

/-- The magic bytes of a header. -/
lemma magic_header : Header.field ⟨header d name type size⟩ 257 8 = gnuMagic := by
  refine Header.field_eq (headerStart d name size ++
    (sumField d name type size ++ ([type] ++ d.link.toList))) d.rest.toList ?_ ?_ rfl
  · simp only [header, headerEnd, List.append_assoc]
  · simp [length_headerStart d hname, length_sumField]

/-- A header has the GNU format. -/
lemma isGnu_header : Header.isGnu ⟨header d name type size⟩ = true := by
  rw [Header.isGnu, magic_header d type size hname]
  rfl

/-- A header does not have the portable format. -/
lemma isUstar_header : Header.isUstar ⟨header d name type size⟩ = false := by
  rw [Header.isUstar, magic_header d type size hname]
  rfl

/-- The name in a header. -/
lemma name_header : Header.name ⟨header d name type size⟩ = untilNul name := by
  have hfield : Header.field ⟨header d name type size⟩ 0 100 = name := by
    refine Header.field_eq [] (d.owner.toList ++ (sizeField d.sizeEnding size ++
      (d.time.toList ++ (sumField d name type size ++ headerEnd d type)))) ?_ rfl hname
    simp only [header, headerStart, List.nil_append, List.append_assoc]
  unfold Header.name
  rw [hfield, isUstar_header d type size hname]
  simp

/-- The size in a header. -/
lemma size?_header (hsize : size < sizeBound) :
    Header.size? ⟨header d name type size⟩ = some size := by
  have hfield : Header.field ⟨header d name type size⟩ 124 12 = sizeField d.sizeEnding size := by
    refine Header.field_eq (name ++ d.owner.toList)
      (d.time.toList ++ (sumField d name type size ++ headerEnd d type)) ?_ ?_ (by simp)
    · simp only [header, headerStart, List.append_assoc]
    · simp [hname]
  rw [Header.size?, hfield, number?_sizeField d.sizeEnding hsize]

/-- The checksum in a header. -/
lemma checksum?_header :
    Header.checksum? ⟨header d name type size⟩ = some (headerSum d name type size) := by
  have hstart := length_headerStart d hname size
  have hend := length_headerEnd d type
  have hfield : Header.field ⟨header d name type size⟩ 148 8 = sumField d name type size :=
    Header.field_eq _ _ rfl hstart (length_sumField d name type size)
  have hsum : headerSum d name type size < 8 ^ 6 := by
    have hsumStart := byteSum_le (headerStart d name size)
    have hsumEnd := byteSum_le (headerEnd d type)
    unfold headerSum
    omega
  have hbound : headerSum d name type size < sizeBound := Nat.lt_trans hsum (by decide)
  rw [Header.checksum?, hfield]
  exact octal?_octalField d.sumEnding (by decide) hsum hbound

/-- The checksum in a header is the one that it should have. -/
lemma sum_header : Header.sum ⟨header d name type size⟩ = headerSum d name type size := by
  have hstart := length_headerStart d hname size
  have hbefore : Header.field ⟨header d name type size⟩ 0 148 = headerStart d name size :=
    Header.field_eq [] _ rfl rfl hstart
  have hafter : (header d name type size).drop 156 = headerEnd d type := by
    rw [header, ← List.append_assoc]
    apply List.drop_left'
    rw [List.length_append, hstart, length_sumField]
  unfold Header.sum
  rw [hbefore, hafter]
  rfl

/-- A header is in order, and announces the size of the data. -/
lemma check_header (hsize : size < sizeBound) :
    Header.check ⟨header d name type size⟩ = .ok size := by
  unfold Header.check
  rw [checksum?_header d type size hname, size?_header d type size hname hsize]
  simp only [sum_header d type size hname, if_true]

end

/-! ### Names -/

/-- A name without NUL bytes is what stands before the first one in its field. -/
lemma untilNul_nameField {name : List UInt8} (h : 0 ∉ name) : untilNul (nameField name) = name := by
  unfold untilNul nameField
  rw [List.takeWhile_append_of_pos]
  · cases 100 - name.length <;> simp [List.replicate_succ]
  · intro b hb
    have hne : b ≠ 0 := fun hzero => h (hzero ▸ hb)
    simpa using hne

/-- A long name is read back without the NUL byte that may follow it. -/
lemma Record.nameOf_longData (r : Record) (pax : Option (List UInt8)) (h : Header) :
    Extensions.nameOf ⟨some r.longData, none, pax⟩ h = r.name := by
  have hlast : r.name.getLast? ≠ some 0 := fun h => r.zero_not_mem (List.mem_of_getLast? h)
  unfold Extensions.nameOf longData
  cases r.long.terminated <;> simp [hlast]

end AppLauncher.Tar
