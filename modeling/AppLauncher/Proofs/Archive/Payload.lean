import AppLauncher.Proofs.Archive.Indistinguishable
import AppLauncher.Proofs.Archive.Nesting
import Mathlib.Tactic.Common

/-!
# Payloads of executable artifacts

A trailer is written at the end of a file and found there.  The files that are marked by a trailer
are exactly those that end with one that was written, for an offset of 64 bits
(`Trailer.isMarked_iff`); the offset is read back, and the payload is what lies between it and the
trailer (`Trailer.payload_append_encode`).

So an artifact is opened as the payload that its trailer points to, and as a whole if it has no
trailer (`Archive.open?_payload_spec`).  All places in the index of the archive are places in the
payload: in front of it may stand any image, and the archive cannot be told from one over the
payload alone.
-/

namespace AppLauncher

/-! ### Numbers with the least significant byte first -/

namespace Trailer

/-- The number of bytes that a number is written in. -/
@[simp] lemma length_littleEndian (count n : Nat) : (littleEndian count n).length = count := by
  induction count generalizing n with
  | zero => rfl
  | succ count ih => rw [littleEndian, List.length_cons, ih]

/-- A number is read back if it fits into the bytes. -/
lemma ofLittleEndian_littleEndian {count n : Nat} (h : n < 256 ^ count) :
    ofLittleEndian (littleEndian count n) = n := by
  induction count generalizing n with
  | zero =>
    rw [Nat.pow_zero, Nat.lt_one_iff] at h
    exact h.symm
  | succ count ih =>
    have hrest : n / 256 < 256 ^ count := by
      rw [Nat.pow_succ] at h
      omega
    have hbyte : (UInt8.ofNat (n % 256)).toNat = n % 256 := by
      rw [UInt8.toNat_ofNat']
      omega
    calc ofLittleEndian (littleEndian (count + 1) n)
        = (UInt8.ofNat (n % 256)).toNat + 256 * ofLittleEndian (littleEndian count (n / 256)) := rfl
      _ = n % 256 + 256 * (n / 256) := by rw [hbyte, ih hrest]
      _ = n := Nat.mod_add_div n 256

/-- Bytes are the number that is read from them, written in as many bytes. -/
lemma littleEndian_ofLittleEndian (bytes : List UInt8) :
    littleEndian bytes.length (ofLittleEndian bytes) = bytes := by
  induction bytes with
  | nil => rfl
  | cons b bytes ih =>
    have hb : b.toNat < 256 := b.toNat_lt
    have hvalue : ofLittleEndian (b :: bytes) = b.toNat + 256 * ofLittleEndian bytes := rfl
    have hfirst : (b.toNat + 256 * ofLittleEndian bytes) % 256 = b.toNat := by omega
    have hrest : (b.toNat + 256 * ofLittleEndian bytes) / 256 = ofLittleEndian bytes := by omega
    rw [hvalue, List.length_cons, littleEndian, hfirst, hrest, ih, UInt8.ofNat_toNat]

/-- A number that is read from bytes fits into them. -/
lemma ofLittleEndian_lt (bytes : List UInt8) : ofLittleEndian bytes < 256 ^ bytes.length := by
  induction bytes with
  | nil => exact Nat.one_pos
  | cons b bytes ih =>
    have hb : b.toNat < 256 := b.toNat_lt
    have hvalue : ofLittleEndian (b :: bytes) = b.toNat + 256 * ofLittleEndian bytes := rfl
    rw [hvalue, List.length_cons, Nat.pow_succ]
    omega

/-! ### Trailers -/

/-- A trailer has a fixed length. -/
@[simp] lemma length_encode (offset : Nat) : (encode offset).length = length := by
  rw [encode, List.length_append, length_littleEndian]
  rfl

/-- A file is marked exactly if it ends with a trailer that was written for an offset of 64 bits. -/
lemma isMarked_iff {file : List UInt8} :
    IsMarked file ↔ ∃ front offset, offset < 2 ^ 64 ∧ file = front ++ encode offset := by
  constructor
  · rintro ⟨hlength, hmagic⟩
    let trailer := file.drop (file.length - length)
    have hnumber : (trailer.drop 8).length = 8 := by
      simp only [trailer, List.length_drop]
      unfold length at *
      omega
    refine ⟨file.take (file.length - length), ofLittleEndian (trailer.drop 8), ?_, ?_⟩
    · have hlt := ofLittleEndian_lt (trailer.drop 8)
      rwa [hnumber] at hlt
    · have hwritten := littleEndian_ofLittleEndian (trailer.drop 8)
      rw [hnumber] at hwritten
      rw [encode, hwritten, ← hmagic, List.take_append_drop, List.take_append_drop]
  · rintro ⟨front, offset, -, rfl⟩
    refine ⟨?_, ?_⟩
    · rw [List.length_append, length_encode]
      exact Nat.le_add_left _ _
    · rw [List.length_append, length_encode, Nat.add_sub_cancel, List.drop_left]
      rfl

/-- The payload of a file with a trailer lies between the offset and the trailer. -/
lemma payload_append_encode (front : List UInt8) {offset : Nat} (h : offset < 2 ^ 64) :
    payload (front ++ encode offset) =
      if offset > front.length then .error offset else .ok (front.drop offset) := by
  have hstart : (front ++ encode offset).length - length = front.length := by
    rw [List.length_append, length_encode, Nat.add_sub_cancel]
  have hmarked : ¬ ((front ++ encode offset).length < length ∨ (encode offset).take 8 ≠ magic) := by
    rw [List.length_append, length_encode]
    rintro (hshort | hmagic)
    · omega
    · exact hmagic rfl
  have hoffset : ofLittleEndian ((encode offset).drop 8) = offset := ofLittleEndian_littleEndian h
  unfold payload
  dsimp only
  rw [hstart, List.drop_left, List.take_left, if_neg hmarked, hoffset]

/-- The payload of a file is a part of it. -/
lemma infix_of_payload {file data : List UInt8} (h : payload file = .ok data) :
    data <:+: file := by
  unfold payload at h
  dsimp only at h
  split at h
  · cases h
    exact List.infix_rfl
  · split at h
    · cases h
    · cases h
      exact (List.drop_suffix _ _).isInfix.trans (List.take_prefix _ _).isInfix

end Trailer

/-! ### Opening artifacts -/

namespace Archive

/-- A file is opened as its payload, if it has one. -/
lemma open?_of_payload {path : Path} {s : Store} {file : List UInt8}
    (hread : s.files.read path = .ok file) :
    (∀ data, Trailer.payload file = .ok data →
      ∃ id, (open? path s).1 = .ok (packaged id ⟨.artifact path, data, none⟩)) ∧
    ∀ offset, Trailer.payload file = .error offset →
      (open? path s).1 = .error (.malformed (.artifact path) (.payloadOffset offset)) := by
  obtain ⟨r, t, ht, hbody, -⟩ := open?_spec path s
  rw [ht]
  rw [Body.open?, hread] at hbody
  dsimp only at hbody ⊢
  refine ⟨fun data hdata => ?_, fun offset hoffset => ?_⟩
  · rw [hdata] at hbody
    cases r with
    | error cause => cases hbody
    | ok a =>
      obtain ⟨id, rfl⟩ := eq_packaged_of_body (Except.ok.inj hbody)
      exact ⟨id, rfl⟩
  · rw [hoffset] at hbody
    cases r with
    | error cause => exact congrArg Except.error (Except.error.inj hbody)
    | ok a => cases hbody

/-- A file without a trailer is opened as a whole.  A file with a trailer is what stands in front of
it and the trailer, which points to an offset of 64 bits: if the offset lies behind the start of the
trailer, opening fails, and otherwise the archive is over the bytes from the offset up to the
trailer.  So a payload behind an image is opened as an archive that cannot be told from one over the
payload alone. -/
theorem open?_payload_spec {path : Path} {s : Store} {file : List UInt8}
    (hread : s.files.read path = .ok file) :
    (¬ Trailer.IsMarked file →
      ∃ id, (open? path s).1 = .ok (packaged id ⟨.artifact path, file, none⟩)) ∧
    (Trailer.IsMarked file → ∃ front offset, offset < 2 ^ 64 ∧
      file = front ++ Trailer.encode offset) ∧
    (∀ front offset, offset < 2 ^ 64 → file = front ++ Trailer.encode offset →
      Trailer.IsMarked file ∧
      ((open? path s).1 = .error (.malformed (.artifact path) (.payloadOffset offset)) ↔
        offset > file.length - Trailer.length) ∧
      (offset ≤ file.length - Trailer.length →
        ∃ id, (open? path s).1 = .ok (packaged id ⟨.artifact path, front.drop offset, none⟩))) ∧
    ∀ image payload, file = image ++ (payload ++ Trailer.encode image.length) →
      file.length < 2 ^ 64 →
      ∃ a, (open? path s).1 = .ok a ∧
        ∀ t, a.Indistinguishable (ofStream ⟨.artifact path, payload, none⟩ t).1 := by
  obtain ⟨hopens, hfails⟩ := open?_of_payload hread
  refine ⟨fun hmark => hopens file (Trailer.payload_of_not_isMarked hmark),
    Trailer.isMarked_iff.mp, ?_, ?_⟩
  · intro front offset hoffset hfile
    have hpayload := Trailer.payload_append_encode front hoffset
    have hstart : file.length - Trailer.length = front.length := by
      rw [hfile, List.length_append, Trailer.length_encode, Nat.add_sub_cancel]
    rw [← hfile] at hpayload
    rw [hstart]
    by_cases hbehind : offset > front.length
    · rw [if_pos hbehind] at hpayload
      exact ⟨Trailer.isMarked_iff.mpr ⟨front, offset, hoffset, hfile⟩,
        iff_of_true (hfails offset hpayload) hbehind, fun hle => absurd hbehind (by omega)⟩
    · rw [if_neg hbehind] at hpayload
      obtain ⟨id, hopen⟩ := hopens _ hpayload
      refine ⟨Trailer.isMarked_iff.mpr ⟨front, offset, hoffset, hfile⟩,
        iff_of_false (fun herror => ?_) hbehind, fun _ => ⟨id, hopen⟩⟩
      rw [hopen] at herror
      cases herror
  · intro image payload hfile hlength
    have hoffset : image.length < 2 ^ 64 := by
      rw [hfile, List.length_append] at hlength
      omega
    have hpayload := Trailer.payload_append_encode (image ++ payload) hoffset
    have hinside : ¬ image.length > (image ++ payload).length := by
      rw [List.length_append]
      omega
    rw [List.append_assoc, ← hfile, if_neg hinside, List.drop_left] at hpayload
    obtain ⟨id, hopen⟩ := hopens payload hpayload
    exact ⟨_, hopen, fun t => indistinguishable_packaged (.refl _) id _⟩

/-- A payload behind an image of two bytes, and a trailer that points to it. -/
def executable (payload : List UInt8) : List UInt8 := [0x7F, 0x45] ++ (payload ++ Trailer.encode 2)

/-- A store in which the image with the payload is the only file. -/
def executableStore (payload : List UInt8) : Store :=
  .start ⟨.directory (.cons "app" (.file (executable payload)) .nil), []⟩ 1

/-- A payload with one file. -/
def samplePayload : List UInt8 :=
  Tar.write [.plain (Text.Utf8.encode "Main.class".toList) (by decide) (some [1])] []

/-- The payload of the sample is opened and read as if it stood alone. -/
theorem open?_payload_spec_samplePayload :
    (executableStore samplePayload).files.read ⟨"app"⟩ = .ok (executable samplePayload) ∧
    ∃ a, (open? ⟨"app"⟩ (executableStore samplePayload)).1 = .ok a ∧
      (a.read? "Main.class" default).1 = .ok (some [1]) ∧
      ∀ t, a.Indistinguishable (ofStream ⟨.artifact ⟨"app"⟩, samplePayload, none⟩ t).1 := by
  have hread : (executableStore samplePayload).files.read ⟨"app"⟩ =
      .ok (executable samplePayload) := by
    decide +kernel
  have hlength : (executable samplePayload).length < 2 ^ 64 := by decide +kernel
  have hcontent : ((open? ⟨"app"⟩ (executableStore samplePayload)).1.toOption.map
      fun a => (a.read? "Main.class" default).1) = some (.ok (some [1])) := by
    decide +kernel
  obtain ⟨a, hopen, halike⟩ :=
    (open?_payload_spec hread).2.2.2 [0x7F, 0x45] samplePayload rfl hlength
  rw [hopen] at hcontent
  exact ⟨hread, a, hopen, Option.some.inj hcontent, halike⟩

end Archive

end AppLauncher
