import AppLauncher.Proofs.Tar.Progress
import AppLauncher.Proofs.Tar.Reading
import Mathlib.Data.List.Infix

/-!
# Streams that were cut off

What the reader makes of the first bytes of a stream that was written.  There are two ways in which
the cut may go unnoticed: it falls between two entries, or behind the block of zeros (`IsCutAt`).
Then the stream is read as the entries in front of the cut (`read_take_of_isCutAt`).

Every other cut is noticed, wherever it falls (`fault_read_take`).  A header that is cut off is too
short.  An extension without the entry that it belongs to is dangling.  And if data or its padding
is cut off, the step that reads the header succeeds all the same; but the cursor that it leaves
behind has less in front of it than is to be passed over, so that the next step fails
(`Step.IsShort`).
-/

namespace AppLauncher.Tar

/-! ### Steps at the end of the bytes -/

variable {c : Cursor} {position : Nat} {bytes tail : List UInt8}

/-- As many bytes are left as there are at the place of the cursor. -/
lemma Cursor.At.left_eq (hc : c.At position bytes) : c.left = bytes.length := by
  rw [← hc.drop_eq, List.length_drop]
  rfl

/-- Where there are no more bytes, the stream ends. -/
lemma next_nil (hc : c.At position []) (e : Extensions) : next e c = finish e := by
  unfold next
  rw [if_neg (Nat.not_lt.mpr hc.gap_le), hc.drop_eq]
  rfl

/-- A part of a block is no header. -/
lemma next_cut (hc : c.At position bytes) (hpositive : 0 < bytes.length)
    (hshort : bytes.length < blockSize) (e : Extensions) : next e c = .fault .shortHeader := by
  have hne : bytes.isEmpty = false := by
    rw [List.isEmpty_eq_false_iff]
    exact List.ne_nil_of_length_pos hpositive
  unfold next
  rw [if_neg (Nat.not_lt.mpr hc.gap_le), hc.drop_eq]
  dsimp only
  rw [hne, if_neg Bool.false_ne_true, if_pos hshort]

/-- A step that fails, or behind which there is less than is to be passed over. -/
inductive Step.IsShort : Step → Prop
  | fault (fault : Fault) : IsShort (.fault fault)
  | extension {e : Extensions} {c : Cursor} : c.rest.length < c.gap → IsShort (.extension e c)
  | member {m : Member} {c : Cursor} : c.rest.length < c.gap → IsShort (.member m c)

/-- Where there is less than is to be passed over, reading fails. -/
lemma readRest_of_short (e : Extensions) (h : c.rest.length < c.gap) :
    readRest e c = ⟨[], some .shortData⟩ := by
  have hnext : next e c = .fault .shortData := if_pos h
  rw [readRest_eq, hnext]

/-- Reading fails at or behind a step that is short. -/
lemma fault_readRest_of_isShort {e : Extensions} (h : (next e c).IsShort) :
    (readRest e c).fault.isSome := by
  rw [readRest_eq]
  cases hnext : next e c with
  | finished =>
    rw [hnext] at h
    cases h
  | fault fault => rfl
  | extension e' c' =>
    rw [hnext] at h
    cases h with | extension hshort =>
    show (readRest e' c').fault.isSome
    rw [readRest_of_short e' hshort]
    rfl
  | member m c' =>
    rw [hnext] at h
    cases h with | member hshort =>
    show (readRest .none c').fault.isSome
    rw [readRest_of_short .none hshort]
    rfl

/-- A header behind which not all of the data and the padding is left is read by a short step. -/
lemma readMember_isShort {e : Extensions} (he : e.pax = none) {h : Header}
    (hkind : h.kind ≠ .sparse) {size : Nat} {rest : List UInt8}
    (hrest : rest.length < padded size) (start : Nat) :
    (readMember e h size start rest).IsShort := by
  have hsize : e.sizeOf h.kind size = size := by
    unfold Extensions.sizeOf
    rw [he]
    split <;> rfl
  unfold readMember
  dsimp only
  rw [hsize]
  split
  · exact .fault _
  · split
    · split
      · exact .extension hrest
      · exact .fault _
    · exact .member hrest

/-- A header with its data is read by a short step if it is cut off anywhere. -/
lemma next_take_part {d : Details} {name data : List UInt8} {type : UInt8}
    (hname : name.length = 100) (hkind : Kind.ofByte type ≠ .sparse)
    (hsize : data.length < sizeBound) {k : Nat} (hpositive : 0 < k)
    (hcut : k < (part d name type data).length)
    (hc : c.At position ((part d name type data ++ tail).take k))
    {e : Extensions} (he : e.pax = none) : (next e c).IsShort := by
  rw [List.take_append_of_le_length hcut.le] at hc
  rw [length_part d hname] at hcut
  have hheader := length_header d hname type data.length
  by_cases hshort : k < blockSize
  · have hlength : ((part d name type data).take k).length = k := by
      rw [List.length_take, length_part d hname]
      omega
    rw [next_cut hc (by omega) (by omega)]
    exact .fault _
  · have htake : (part d name type data).take k =
        header d name type data.length ++ (pad data).take (k - blockSize) := by
      rw [part, List.take_append, hheader, List.take_of_length_le (by omega)]
    rw [htake] at hc
    rw [next_header hname hsize hc]
    refine readMember_isShort he ?_ ?_ _
    · rwa [kind_header d type data.length hname]
    · rw [List.length_take, length_pad]
      omega

/-! ### Entries that are cut off -/

/-- No extension is a sparse file. -/
lemma ofByte_longName : Kind.ofByte 0x4C ≠ .sparse := by decide

/-- No entry that was written is a sparse file. -/
lemma Record.ofByte_type_ne_sparse (r : Record) : Kind.ofByte r.type ≠ .sparse := by
  rcases r.ofByte_type_cases with hkind | hkind <;> rw [hkind] <;> decide

/-- The data of an entry takes less than the entry. -/
lemma Record.length_data_le (r : Record) : r.extension.length + (blockSize + r.data.length) ≤
    r.bytes.length := by
  have hle := (padded_spec r.data.length).1
  rw [bytes, List.length_append, length_part _ r.length_headerName]
  omega

/-- An entry is read by taking all of its steps. -/
lemma readRest_record (r : Record) (hc : c.At position (r.bytes ++ tail))
    (hfits : position + r.bytes.length < sizeBound) :
    ∃ c', c'.At (position + r.bytes.length) tail ∧ readRest .none c =
      ⟨r.member position :: (readRest .none c').members, (readRest .none c').fault⟩ := by
  obtain ⟨c', hc', hread⟩ := readFrom_record r ((r.bytes ++ tail).length / blockSize + 1) hc hfits
  have hbefore : c.left / blockSize < (r.bytes ++ tail).length / blockSize + 1 + r.headers := by
    rw [hc.left_eq]
    omega
  have hafter : c'.left / blockSize < (r.bytes ++ tail).length / blockSize + 1 := by
    rw [hc'.left_eq, Nat.lt_succ_iff]
    exact Nat.div_le_div_right (by simp)
  rw [readFrom_eq hbefore, readFrom_eq hafter] at hread
  exact ⟨c', hc', hread⟩

/-- An entry that is cut off is noticed. -/
lemma fault_readRest_take_record (r : Record) {k : Nat} (hpositive : 0 < k)
    (hcut : k < r.bytes.length) (hc : c.At position ((r.bytes ++ tail).take k))
    (hfits : position + r.bytes.length < sizeBound) : (readRest .none c).fault.isSome := by
  have hdata : r.data.length < sizeBound := by
    have hle := r.length_data_le
    omega
  by_cases hshort : r.name.length ≤ 100
  · have hbytes : r.bytes = part r.details r.headerName r.type r.data := by
      rw [Record.bytes, Record.extension, if_pos hshort, List.nil_append]
    rw [hbytes] at hc hcut
    exact fault_readRest_of_isShort
      (next_take_part r.length_headerName r.ofByte_type_ne_sparse hdata hpositive hcut hc rfl)
  · have hextension : r.extension = part r.long.details r.long.label.toList 0x4C r.longData :=
      if_neg hshort
    have hlabel : r.long.label.toList.length = 100 := by simp
    have hlong : r.longData.length < r.extension.length := by
      have hle := (padded_spec r.longData.length).1
      rw [hextension, length_part _ hlabel]
      unfold blockSize at *
      omega
    have hle := r.length_data_le
    rw [Record.bytes, List.append_assoc] at hc
    rcases Nat.lt_or_ge k r.extension.length with hinside | hbehind
    · -- the name in front of the entry is cut off
      rw [hextension] at hc hinside
      exact fault_readRest_of_isShort
        (next_take_part hlabel ofByte_longName (by omega) hpositive hinside hc rfl)
    · -- the name is read, but the entry itself is missing or cut off
      rw [List.take_append, List.take_of_length_le hbehind, hextension] at hc
      obtain ⟨c', hnext, hc'⟩ := next_longName hlabel hc (by rw [← hextension]; omega)
      rw [← hextension] at hc'
      rw [readRest_eq, hnext]
      show (readRest ⟨some r.longData, none, none⟩ c').fault.isSome
      by_cases hmissing : k - r.extension.length = 0
      · rw [hmissing, List.take_zero] at hc'
        rw [readRest_eq, next_nil hc']
        rfl
      · rw [Record.bytes, List.length_append] at hcut
        exact fault_readRest_of_isShort (next_take_part r.length_headerName
          r.ofByte_type_ne_sparse hdata (Nat.pos_of_ne_zero hmissing) (by omega) hc' rfl)

/-! ### Streams that are cut off -/

/-- A stream of entries is cut off unnoticed behind some of them: right behind them, or anywhere
behind the block of zeros that follows the last one. -/
def IsCutAt (records : List Record) (k n : Nat) : Prop :=
  n ≤ records.length ∧ (k = ((records.take n).flatMap Record.bytes).length ∨
    n = records.length ∧ (records.flatMap Record.bytes).length + blockSize ≤ k)

/-- What is cut off unnoticed behind some entries of a stream is cut off unnoticed behind these and
one before them. -/
lemma IsCutAt.cons {records : List Record} {k n : Nat} {r : Record} (hlong : r.bytes.length ≤ k)
    (h : IsCutAt records (k - r.bytes.length) n) : IsCutAt (r :: records) k (n + 1) := by
  obtain ⟨hn, hcut⟩ := h
  refine ⟨Nat.succ_le_succ hn, ?_⟩
  rw [List.take_succ_cons, List.flatMap_cons, List.flatMap_cons, List.length_append,
    List.length_append, List.length_cons]
  rcases hcut with hbetween | ⟨hall, hbehind⟩
  · exact .inl (by omega)
  · exact .inr ⟨by omega, by omega⟩

/-- Any other cut in a stream is noticed. -/
lemma fault_readRest_take {records : List Record} {k : Nat} (hcut : ∀ n, ¬ IsCutAt records k n)
    (hc : c.At position ((write records tail).take k))
    (hfits : position + (records.flatMap Record.bytes).length < sizeBound) :
    (readRest .none c).fault.isSome := by
  induction records generalizing c position k with
  | nil =>
    have hpositive : k ≠ 0 := fun hzero => hcut 0 ⟨Nat.le_refl _, .inl hzero⟩
    have hshort : k < blockSize := by
      by_contra hlong
      exact hcut 0 ⟨Nat.le_refl _, .inr ⟨rfl, by simpa using hlong⟩⟩
    have hlength : ((write [] tail).take k).length = k := by
      simp only [write, List.flatMap_nil, List.nil_append, List.length_take, List.length_append,
        List.length_replicate]
      omega
    rw [readRest_eq, next_cut hc (by omega) (by omega)]
    rfl
  | cons r rs ih =>
    have hbytes : write (r :: rs) tail = r.bytes ++ write rs tail := by
      simp [write, List.append_assoc]
    rw [List.flatMap_cons, List.length_append, ← Nat.add_assoc] at hfits
    have hpositive : k ≠ 0 := fun hzero => hcut 0 ⟨Nat.zero_le _, .inl hzero⟩
    rw [hbytes] at hc
    rcases Nat.lt_or_ge k r.bytes.length with hinside | hbehind
    · exact fault_readRest_take_record r (Nat.pos_of_ne_zero hpositive) hinside hc (by omega)
    · rw [List.take_append, List.take_of_length_le hbehind] at hc
      obtain ⟨c', hc', hread⟩ := readRest_record r hc (by omega)
      rw [hread]
      exact ih (fun n h => hcut (n + 1) (h.cons hbehind)) hc' hfits

/-- Entries without a block of zeros behind them are read up to their end. -/
lemma readRest_records (records : List Record)
    (hc : c.At position (records.flatMap Record.bytes))
    (hfits : position + (records.flatMap Record.bytes).length < sizeBound) :
    readRest .none c = ⟨membersAt position records, none⟩ := by
  induction records generalizing c position with
  | nil =>
    rw [readRest_eq, next_nil hc]
    rfl
  | cons r rs ih =>
    rw [List.flatMap_cons] at hc hfits
    rw [List.length_append, ← Nat.add_assoc] at hfits
    obtain ⟨c', hc', hread⟩ := readRest_record r hc (by omega)
    rw [hread, ih hc' hfits]
    rfl

variable {records : List Record} {k n : Nat}

/-- What is left of a stream that is cut off unnoticed: the entries in front of the cut, and a part
of what follows the last one. -/
lemma take_of_isCutAt (h : IsCutAt records k n) (rest : List UInt8) :
    ∃ left, (write records rest).take k = (records.take n).flatMap Record.bytes ++ left ∧
      (left = [] ∨ ∃ more, left = List.replicate blockSize 0 ++ more) := by
  obtain ⟨hn, rfl | ⟨rfl, hbehind⟩⟩ := h
  · refine ⟨[], ?_, .inl rfl⟩
    obtain ⟨after, hafter⟩ := (List.take_prefix n records).flatMap Record.bytes
    rw [write, ← hafter, List.append_assoc, List.take_left, List.append_nil]
  · refine ⟨_, ?_, .inr ⟨rest.take (k - ((records.flatMap Record.bytes).length + blockSize)), rfl⟩⟩
    rw [List.take_length, write, ← List.append_assoc, List.take_append, List.length_append,
      List.length_replicate, List.take_of_length_le, List.append_assoc]
    rw [List.length_append, List.length_replicate]
    exact hbehind

variable (hfits : (records.flatMap Record.bytes).length < sizeBound) (rest : List UInt8)

include hfits

/-- A stream that is cut off unnoticed is read as the entries in front of the cut. -/
theorem read_take_of_isCutAt (h : IsCutAt records k n) :
    read ((write records rest).take k) = ⟨membersAt 0 (records.take n), none⟩ := by
  have hle : ((records.take n).flatMap Record.bytes).length < sizeBound :=
    Nat.lt_of_le_of_lt ((List.take_prefix n records).flatMap _).length_le hfits
  obtain ⟨left, htake, rfl | ⟨more, rfl⟩⟩ := take_of_isCutAt h rest
  · rw [htake, List.append_nil, read_eq]
    exact readRest_records _ (Cursor.at_start _) (by omega)
  · rw [htake]
    exact read_write (records.take n) more hle

/-- A stream that is cut off in any other way is not read to its end. -/
theorem fault_read_take (h : ∀ n, ¬ IsCutAt records k n) :
    (read ((write records rest).take k)).fault.isSome := by
  rw [read_eq]
  exact fault_readRest_take h (Cursor.at_start _) (by omega)

end AppLauncher.Tar
