import AppLauncher.Proofs.Archive.Extents
import AppLauncher.Proofs.Archive.Forgetting
import AppLauncher.Proofs.Archive.Indistinguishable
import AppLauncher.Proofs.Archive.Written
import AppLauncher.Proofs.Tar.Truncation

/-!
# Archives over streams that were cut off

A stream that was written may be cut off anywhere, in a header, in the name in front of an entry, in
data or padding, or behind an entry.  The archive over what is left is never a wrong one
(`Archive.answers_of_truncation`).  Where the cut is noticed, the stream has no index, and all that
needs the index fails.  Where it is not, the archive cannot be told from one over the stream of the
entries in front of the cut, as if the writer had stopped there.

The data of these entries is in the part that both streams have in common, so that their items have
the same bytes although the streams go on in different ways (`Stream.looksLike_append`).
-/

namespace AppLauncher

/-- What lies within the front of some data does not depend on what follows. -/
lemma Item.dataIn_append {item : Item} {front : List UInt8} (h : item.stop ≤ front.length)
    (tail : List UInt8) : item.dataIn (front ++ tail) = item.dataIn front := by
  unfold dataIn
  rw [List.drop_append, List.take_append_of_le_length]
  rw [List.length_drop]
  omega

namespace Stream

/-- A stream that is not read to its end has no index. -/
lemma index_of_fault {s : Stream} (h : (Tar.read s.data).fault.isSome) :
    ∃ cause, s.index = .error cause := by
  obtain ⟨fault, hfault⟩ := Option.isSome_iff_exists.mp h
  unfold Stream.index malformation?
  rw [hfault]
  cases s.items.find? fun item => item.stop > s.data.length with
  | none => exact ⟨_, rfl⟩
  | some outside => exact ⟨_, rfl⟩

section

variable {front tail tail' : List UInt8} {members : List Tar.Member}
  (hinside : ∀ m ∈ members, m.stop ≤ front.length) (url : Url)

include hinside

/-- The items that members stand for have their bytes in front of what follows the members. -/
lemma dataIn_of_inside {item : Item} (hitem : item ∈ members.filterMap Item.ofMember?)
    (tail : List UInt8) : item.dataIn (front ++ tail) = item.dataIn front := by
  obtain ⟨m, hm, hofMember⟩ := List.mem_filterMap.mp hitem
  obtain ⟨-, hstop⟩ := Item.range_of_ofMember? hofMember
  exact Item.dataIn_append (hstop ▸ hinside m hm) tail

/-- The index of a stream that is read without a fault is told by its members and by what they have
their data in. -/
lemma index_append (hread : Tar.read (front ++ tail) = ⟨members, none⟩) :
    Stream.index ⟨url, front ++ tail, none⟩ = .ok (.ofItems (members.filterMap Item.ofMember?)
      (((members.filterMap Item.ofMember?).findRev? fun item =>
        item.entry.name = Manifest.entryName).map fun item =>
          Manifest.parse (item.dataIn front))) := by
  have hitems : items ⟨url, front ++ tail, none⟩ = members.filterMap Item.ofMember? := by
    unfold items
    rw [hread]
  have hmanifest : manifest ⟨url, front ++ tail, none⟩ =
      ((members.filterMap Item.ofMember?).findRev? fun item =>
        item.entry.name = Manifest.entryName).map fun item =>
          Manifest.parse (item.dataIn front) := by
    unfold manifest
    rw [hitems]
    refine Option.map_congr fun item hitem => ?_
    rw [List.findRev?_eq_find?_reverse] at hitem
    have hmem := List.mem_reverse.mp (List.mem_of_find?_eq_some hitem)
    exact congrArg Manifest.parse (dataIn_of_inside hinside hmem tail)
  rw [index_of_read (by rw [hread]) ?_ url, hitems, hmanifest]
  intro m hm
  rw [hread] at hm
  rw [List.length_append]
  exact (hinside m hm).trans (Nat.le_add_right _ _)

/-- Streams that are read as the same members look alike if the members have their data in what the
streams have in common. -/
lemma looksLike_append (hread : Tar.read (front ++ tail) = ⟨members, none⟩)
    (hread' : Tar.read (front ++ tail') = ⟨members, none⟩) :
    LooksLike ⟨url, front ++ tail, none⟩ ⟨url, front ++ tail', none⟩ where
  url := rfl
  directory := rfl
  index := (index_append hinside url hread).trans (index_append hinside url hread').symm
  dataIn hindex item hitem := by
    cases (index_append hinside url hread).symm.trans hindex
    exact (dataIn_of_inside hinside hitem tail).trans (dataIn_of_inside hinside hitem tail').symm

end

/-- A stream of entries that is cut off unnoticed looks like the stream of the entries in front of
the cut. -/
lemma looksLike_take {records : List Tar.Record} {rest : List UInt8} {k n : Nat}
    (hfits : (Tar.write records rest).length < Tar.sizeBound) (hcut : Tar.IsCutAt records k n)
    (url : Url) :
    LooksLike ⟨url, (Tar.write records rest).take k, none⟩
      ⟨url, Tar.write (records.take n) [], none⟩ := by
  have hall : (records.flatMap Tar.Record.bytes).length < Tar.sizeBound := by
    rw [Tar.write, List.length_append] at hfits
    omega
  have htaken : ((records.take n).flatMap Tar.Record.bytes).length < Tar.sizeBound :=
    Nat.lt_of_le_of_lt ((List.take_prefix n records).flatMap _).length_le hall
  have hinside : ∀ m ∈ Tar.membersAt 0 (records.take n),
      m.stop ≤ ((records.take n).flatMap Tar.Record.bytes).length := by
    intro m hm
    have hstop := Tar.stop_le_of_mem_membersAt hm
    rwa [Nat.zero_add] at hstop
  have hread := Tar.read_take_of_isCutAt hall rest hcut
  obtain ⟨left, htake, -⟩ := Tar.take_of_isCutAt hcut rest
  rw [htake] at hread ⊢
  exact looksLike_append hinside url hread (Tar.read_write (records.take n) [] htaken)

end Stream

namespace Archive

/-- The archive over the first bytes of a stream that was written.  If the stream is cut off in a
way that is noticed, then all that needs the index fails for one cause, and changes nothing.
Otherwise the archive cannot be told from the one over the stream of the entries in front of the
cut: it lists just these, and it reads what was written last among them as the content of a name. -/
theorem answers_of_truncation (records : List Tar.Record) (rest : List UInt8)
    (hfits : (Tar.write records rest).length < Tar.sizeBound) (k : Nat) (url : Url) (s : Store) :
    let cut := (ofStream ⟨url, (Tar.write records rest).take k, none⟩ s).1
    ((∀ n, ¬ Tar.IsCutAt records k n) → ∃ cause, ∀ question : Question,
      question.needsIndex = true → ∀ t,
        (question.reply cut t).1.fault? = some cause ∧ (question.reply cut t).2 = t) ∧
    ∀ n, Tar.IsCutAt records k n →
      (∀ t, cut.Indistinguishable (ofStream ⟨url, Tar.write (records.take n) [], none⟩ t).1) ∧
      (∀ t, (cut.entries t).1 = .ok ((records.take n).filterMap Tar.Record.entry?)) ∧
      ∀ name t, (cut.read? name t).1 = .ok (Tar.lastContent? (records.take n) name) := by
  intro cut
  have hall : (records.flatMap Tar.Record.bytes).length < Tar.sizeBound := by
    rw [Tar.write, List.length_append] at hfits
    omega
  refine ⟨fun hnoticed => ?_, fun n hcut => ?_⟩
  · obtain ⟨cause, hindex⟩ := Stream.index_of_fault
      (s := ⟨url, (Tar.write records rest).take k, none⟩) (Tar.fault_read_take hall rest hnoticed)
    exact ⟨cause, fun question hneeds t => question.reply_of_error hindex hneeds⟩
  · have hshorter : (Tar.write (records.take n) []).length < Tar.sizeBound := by
      have hle := ((List.take_prefix n records).flatMap Tar.Record.bytes).length_le
      simp only [Tar.write, List.length_append, List.length_nil] at hfits ⊢
      omega
    have hlooks := Stream.looksLike_take hfits hcut url
    have hequivalent := equivalent_of_looksLike hlooks s.next s.next
    exact ⟨fun t => indistinguishable_packaged hlooks _ _,
      fun t => (hequivalent.entries t t).trans (entries_write hshorter _ url t),
      fun name t => (hequivalent.read? name t t).trans (read?_write hshorter _ url t name)⟩

/-- If the sample is cut off behind its second entry, the first of its two manifests is read. -/
theorem answers_of_truncation_sampleRecords :
    let written := Tar.write sampleRecords []
    let cut := (ofStream ⟨.artifact ⟨"a.jar"⟩, written.take 1024, none⟩ default).1
    written.length < Tar.sizeBound ∧ Tar.IsCutAt sampleRecords 1024 2 ∧
    (cut.entries default).1 = .ok [⟨"META-INF/", true⟩, ⟨"META-INF/MANIFEST.MF", false⟩] ∧
    (cut.read? "META-INF/MANIFEST.MF" default).1 = .ok (some []) := by
  intro written cut
  have hfits : written.length < Tar.sizeBound := by decide +kernel
  have hcut : Tar.IsCutAt sampleRecords 1024 2 := ⟨by decide, .inl (by decide +kernel)⟩
  obtain ⟨-, hentries, hread⟩ :=
    (answers_of_truncation sampleRecords [] hfits 1024 (.artifact ⟨"a.jar"⟩) default).2 2 hcut
  refine ⟨hfits, hcut, (hentries default).trans ?_,
    (hread "META-INF/MANIFEST.MF" default).trans ?_⟩
  · decide +kernel
  · decide +kernel

end Archive

end AppLauncher
