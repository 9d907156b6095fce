import AppLauncher.Text.Utf8
import Mathlib.Data.String.Basic
import Mathlib.Tactic.Common

/-!
# UTF-8 that was written

Reading bytes as UTF-8 never fails, so the reader has to be told apart from one that replaces too
much: text that was written as UTF-8 is read back as it was (`decode_encode`), and bytes below 128
are read one by one (`decode_ascii`).

The reader takes one byte at a time.  The lemmas `decodeFrom_*` say what one byte does in each of
its states; for each length of a character, the first byte announces how many bytes follow and in
which range the second one lies (`lead_of_*`), and the written bytes keep to that.

Written text also keeps its order: the bytes of two texts compare like their characters
(`encode_lt_encode_iff`), as a character of more bytes has a greater first byte.
-/

namespace AppLauncher.Text.Utf8

/-! ### One byte -/

/-- A byte that is a character of its own. -/
lemma decodeFrom_char {b : UInt8} {c : Char} (h : lead b = .char c) (bytes : List UInt8) :
    decodeFrom none (b :: bytes) = c :: decodeFrom none bytes := by
  simp [decodeFrom, step, first, h]

/-- A byte that begins a sequence. -/
lemma decodeFrom_begun {b : UInt8} {state : Begun} (h : lead b = .begun state)
    (bytes : List UInt8) : decodeFrom none (b :: bytes) = decodeFrom (some state) bytes := by
  simp [decodeFrom, step, first, h]

/-- A byte in the range that is due, when more bytes are due after it. -/
lemma decodeFrom_inner {low high b : UInt8} (h : low ≤ b ∧ b ≤ high) (due bits : Nat)
    (bytes : List UInt8) :
    decodeFrom (some ⟨due + 2, low, high, bits⟩) (b :: bytes) =
      decodeFrom (some ⟨due + 1, 0x80, 0xBF, bits * 0x40 + b.toNat % 0x40⟩) bytes := by
  simp [decodeFrom, step, h]

/-- The last byte of a sequence, in the range that is due. -/
lemma decodeFrom_last {low high b : UInt8} (h : low ≤ b ∧ b ≤ high) (bits : Nat)
    (bytes : List UInt8) :
    decodeFrom (some ⟨1, low, high, bits⟩) (b :: bytes) =
      Char.ofNat (bits * 0x40 + b.toNat % 0x40) :: decodeFrom none bytes := by
  simp [decodeFrom, step, h]

/-- A byte is in a range if its number is. -/
lemma within_of_toNat {low high b : UInt8} (hlow : low.toNat ≤ b.toNat)
    (hhigh : b.toNat ≤ high.toNat) : low ≤ b ∧ b ≤ high :=
  ⟨UInt8.le_iff_toNat_le.mpr hlow, UInt8.le_iff_toNat_le.mpr hhigh⟩

/-- The number of a byte that follows the first one. -/
lemma toNat_tail (n : Nat) : (UInt8.ofNat (n % 0x40 + 0x80)).toNat = n % 0x40 + 0x80 := by
  rw [UInt8.toNat_ofNat']
  omega

/-- A byte that follows the first one is in the range that is due by default. -/
lemma tail_within (n : Nat) :
    (0x80 : UInt8) ≤ UInt8.ofNat (n % 0x40 + 0x80) ∧ UInt8.ofNat (n % 0x40 + 0x80) ≤ 0xBF := by
  have hn := toNat_tail n
  apply within_of_toNat
  · rw [hn]
    show 0x80 ≤ _
    omega
  · rw [hn]
    show _ ≤ 0xBF
    omega

/-- The bits of a byte that follows the first one. -/
lemma tail_bits (n : Nat) : (UInt8.ofNat (n % 0x40 + 0x80)).toNat % 0x40 = n % 0x40 := by
  have hn := toNat_tail n
  omega

/-! ### The first byte -/

/-- A byte below 128 is a character. -/
lemma lead_of_lt {b : UInt8} (h : b.toNat < 0x80) : lead b = .char (Char.ofNat b.toNat) := by
  simp [lead, h]

/-- The first byte of two. -/
lemma lead_of_two {v : Nat} (hlow : 0x80 ≤ v) (hhigh : v < 0x800) :
    lead (UInt8.ofNat (v / 64 % 0x20 + 0xC0)) = .begun ⟨1, 0x80, 0xBF, v / 64⟩ := by
  have hn : (UInt8.ofNat (v / 64 % 0x20 + 0xC0)).toNat = v / 64 + 0xC0 := by
    rw [UInt8.toNat_ofNat']
    omega
  unfold lead
  dsimp only
  rw [hn, if_neg (by omega), if_neg (by omega), if_pos (by omega)]
  have hbits : (v / 64 + 0xC0) % 0x20 = v / 64 := by omega
  rw [hbits]

/-- The first byte of three, and the second one, whose range leaves out what two bytes can say and
what is no character. -/
lemma lead_of_three {v : Nat} (hlow : 0x800 ≤ v) (hhigh : v < 0x10000)
    (hchar : v < 0xD800 ∨ 0xDFFF < v) :
    ∃ low high, lead (UInt8.ofNat (v / 4096 % 0x10 + 0xE0)) = .begun ⟨2, low, high, v / 4096⟩ ∧
      low ≤ UInt8.ofNat (v / 64 % 0x40 + 0x80) ∧ UInt8.ofNat (v / 64 % 0x40 + 0x80) ≤ high := by
  have hn : (UInt8.ofNat (v / 4096 % 0x10 + 0xE0)).toNat = v / 4096 + 0xE0 := by
    rw [UInt8.toNat_ofNat']
    omega
  have hsecond := toNat_tail (v / 64)
  unfold lead
  dsimp only
  rw [hn, if_neg (by omega), if_neg (by omega), if_neg (by omega)]
  by_cases hfirst : v / 4096 = 0
  · refine ⟨0xA0, 0xBF, by simp [hfirst], within_of_toNat ?_ ?_⟩ <;> rw [hsecond]
    · show 0xA0 ≤ _
      omega
    · show _ ≤ 0xBF
      omega
  · rw [if_neg (by omega)]
    by_cases hsurrogates : v / 4096 = 0xD
    · refine ⟨0x80, 0x9F, by simp [hsurrogates], within_of_toNat ?_ ?_⟩ <;> rw [hsecond]
      · show 0x80 ≤ _
        omega
      · show _ ≤ 0x9F
        omega
    · rw [if_neg (by omega), if_pos (by omega)]
      have hbits : (v / 4096 + 0xE0) % 0x10 = v / 4096 := by omega
      exact ⟨0x80, 0xBF, by rw [hbits], tail_within (v / 64)⟩

/-- The first byte of four, and the second one, whose range leaves out what three bytes can say and
what is above all characters. -/
lemma lead_of_four {v : Nat} (hlow : 0x10000 ≤ v) (hhigh : v < 0x110000) :
    ∃ low high, lead (UInt8.ofNat (v / 262144 % 0x08 + 0xF0)) =
        .begun ⟨3, low, high, v / 262144⟩ ∧
      low ≤ UInt8.ofNat (v / 4096 % 0x40 + 0x80) ∧
      UInt8.ofNat (v / 4096 % 0x40 + 0x80) ≤ high := by
  have hn : (UInt8.ofNat (v / 262144 % 0x08 + 0xF0)).toNat = v / 262144 + 0xF0 := by
    rw [UInt8.toNat_ofNat']
    omega
  have hsecond := toNat_tail (v / 4096)
  unfold lead
  dsimp only
  rw [hn, if_neg (by omega), if_neg (by omega), if_neg (by omega), if_neg (by omega),
    if_neg (by omega), if_neg (by omega)]
  by_cases hfirst : v / 262144 = 0
  · refine ⟨0x90, 0xBF, by simp [hfirst], within_of_toNat ?_ ?_⟩ <;> rw [hsecond]
    · show 0x90 ≤ _
      omega
    · show _ ≤ 0xBF
      omega
  · rw [if_neg (by omega)]
    by_cases hlast : v / 262144 = 4
    · refine ⟨0x80, 0x8F, by simp [hlast], within_of_toNat ?_ ?_⟩ <;> rw [hsecond]
      · show 0x80 ≤ _
        omega
      · show _ ≤ 0x8F
        omega
    · rw [if_pos (by omega)]
      have hbits : (v / 262144 + 0xF0) % 0x08 = v / 262144 := by omega
      exact ⟨0x80, 0xBF, by rw [hbits], tail_within (v / 4096)⟩

/-! ### Whole texts -/

/-- The bytes of a character are read as the character. -/
lemma decodeFrom_utf8EncodeChar (c : Char) (bytes : List UInt8) :
    decodeFrom none (String.utf8EncodeChar c ++ bytes) = c :: decodeFrom none bytes := by
  have hvalid : c.val.toNat < 0xD800 ∨ 0xDFFF < c.val.toNat ∧ c.val.toNat < 0x110000 := c.valid
  have hc : Char.ofNat c.val.toNat = c := Char.ofNat_toNat c
  unfold String.utf8EncodeChar
  generalize hv : c.val.toNat = v at hvalid hc
  dsimp only
  by_cases hone : v ≤ 0x7F
  · have hn : (UInt8.ofNat v).toNat = v := by
      rw [UInt8.toNat_ofNat']
      omega
    have hlt : (UInt8.ofNat v).toNat < 0x80 := by
      rw [hn]
      omega
    rw [if_pos hone]
    show decodeFrom none (UInt8.ofNat v :: bytes) = _
    rw [decodeFrom_char (lead_of_lt hlt), hn, hc]
  rw [if_neg hone]
  by_cases htwo : v ≤ 0x7FF
  · rw [if_pos htwo]
    show decodeFrom none (_ :: _ :: bytes) = _
    have hbits : v / 64 * 0x40 + v % 0x40 = v := by omega
    rw [decodeFrom_begun (lead_of_two (by omega) (by omega)), decodeFrom_last (tail_within v),
      tail_bits, hbits, hc]
  rw [if_neg htwo]
  by_cases hthree : v ≤ 0xFFFF
  · rw [if_pos hthree]
    show decodeFrom none (_ :: _ :: _ :: bytes) = _
    obtain ⟨low, high, hlead, hsecond⟩ := lead_of_three (v := v) (by omega) (by omega) (by omega)
    have hbits : (v / 4096 * 0x40 + v / 64 % 0x40) * 0x40 + v % 0x40 = v := by omega
    rw [decodeFrom_begun hlead, decodeFrom_inner hsecond, decodeFrom_last (tail_within v),
      tail_bits, tail_bits, hbits, hc]
  · rw [if_neg hthree]
    show decodeFrom none (_ :: _ :: _ :: _ :: bytes) = _
    obtain ⟨low, high, hlead, hsecond⟩ := lead_of_four (v := v) (by omega) (by omega)
    have hbits : ((v / 262144 * 0x40 + v / 4096 % 0x40) * 0x40 + v / 64 % 0x40) * 0x40 + v % 0x40 =
        v := by omega
    rw [decodeFrom_begun hlead, decodeFrom_inner hsecond, decodeFrom_inner (tail_within (v / 64)),
      decodeFrom_last (tail_within v), tail_bits, tail_bits, tail_bits, hbits, hc]

/-- Text that was written as UTF-8 is read back as it was. -/
lemma decode_encode (cs : List Char) : decode (encode cs) = cs := by
  induction cs with
  | nil => rfl
  | cons c cs ih =>
    show decodeFrom none (String.utf8EncodeChar c ++ encode cs) = c :: cs
    rw [decodeFrom_utf8EncodeChar]
    exact congrArg (c :: ·) ih

/-- Bytes below 128 are read one by one. -/
lemma decode_ascii {bytes : List UInt8} (h : ∀ b ∈ bytes, b.toNat < 0x80) :
    decode bytes = bytes.map fun b => Char.ofNat b.toNat := by
  induction bytes with
  | nil => rfl
  | cons b bytes ih =>
    have hb : b.toNat < 0x80 := h b List.mem_cons_self
    show decodeFrom none (b :: bytes) = _
    rw [decodeFrom_char (lead_of_lt hb), List.map_cons]
    exact congrArg (_ :: ·) (ih fun b' hb' => h b' (List.mem_cons_of_mem _ hb'))

/-! ### The order of texts and of bytes -/

/-- Bytes come first if the first one of them is smaller. -/
lemma cons_lt_of_lt {m n : Nat} (h : m < n) (hn : n < 0x100) (x y : List UInt8) :
    UInt8.ofNat m :: x < UInt8.ofNat n :: y := by
  refine List.cons_lt_cons_iff.mpr (.inl (UInt8.lt_iff_toNat_lt.mpr ?_))
  rw [UInt8.toNat_ofNat', UInt8.toNat_ofNat']
  omega

/-- Bytes come first if the first one of them is not greater, and the others come first if the
first ones are the same. -/
lemma cons_lt_of_le {m n : Nat} (hle : m ≤ n) (hn : n < 0x100) {x y : List UInt8}
    (h : m = n → x < y) : UInt8.ofNat m :: x < UInt8.ofNat n :: y := by
  rcases Nat.lt_or_eq_of_le hle with hlt | rfl
  · exact cons_lt_of_lt hlt hn x y
  · exact List.cons_lt_cons_iff.mpr (.inr ⟨rfl, h rfl⟩)

/-- The bytes of a smaller character come first, whatever follows them. -/
lemma utf8EncodeChar_append_lt {c d : Char} (h : c < d) (x y : List UInt8) :
    String.utf8EncodeChar c ++ x < String.utf8EncodeChar d ++ y := by
  have hd : d.val.toNat < 0x110000 := by
    have hvalid : d.val.toNat < 0xD800 ∨ 0xDFFF < d.val.toNat ∧ d.val.toNat < 0x110000 := d.valid
    omega
  replace h : c.val.toNat < d.val.toNat := UInt32.lt_iff_toNat_lt.mp h
  unfold String.utf8EncodeChar
  generalize c.val.toNat = v at h
  generalize d.val.toNat = w at h hd
  dsimp only
  -- a character of fewer bytes has a smaller first byte; with as many bytes the first one to differ
  -- decides, which is the last one at the latest
  split_ifs <;> simp only [List.cons_append, List.nil_append]
  all_goals first
    | exact cons_lt_of_lt (by omega) (by omega) _ _
    | exact cons_lt_of_le (by omega) (by omega) fun _ =>
        cons_lt_of_lt (by omega) (by omega) _ _
    | exact cons_lt_of_le (by omega) (by omega) fun _ =>
        cons_lt_of_le (by omega) (by omega) fun _ =>
          cons_lt_of_lt (by omega) (by omega) _ _
    | exact cons_lt_of_le (by omega) (by omega) fun _ =>
        cons_lt_of_le (by omega) (by omega) fun _ =>
          cons_lt_of_le (by omega) (by omega) fun _ =>
            cons_lt_of_lt (by omega) (by omega) _ _

/-- The bytes of a text come in the order of its characters. -/
lemma encode_lt_of_lt {cs ds : List Char} (h : cs < ds) : encode cs < encode ds := by
  unfold encode
  induction ds generalizing cs with
  | nil => exact absurd h (List.not_lt_nil cs)
  | cons d ds ih =>
    cases cs with
    | nil =>
      rw [List.flatMap_nil, List.flatMap_cons]
      obtain ⟨b, bs, hbytes⟩ := List.exists_cons_of_ne_nil (String.utf8EncodeChar_ne_nil (c := d))
      rw [hbytes]
      exact List.nil_lt_cons b _
    | cons c cs =>
      rw [List.flatMap_cons, List.flatMap_cons]
      rcases List.cons_lt_cons_iff.mp h with hlt | ⟨rfl, hrest⟩
      · exact utf8EncodeChar_append_lt hlt _ _
      · exact List.append_left_lt (ih hrest)

/-- Names come in the order of their bytes. -/
lemma encode_lt_encode_iff {s t : String} : encode s.toList < encode t.toList ↔ s < t := by
  constructor
  · intro h
    rcases lt_trichotomy s t with hlt | rfl | hlt
    · exact hlt
    · exact absurd h (List.lt_irrefl _)
    · exact absurd h (List.lt_asymm (encode_lt_of_lt (String.lt_iff_toList_lt.mp hlt)))
  · intro h
    exact encode_lt_of_lt (String.lt_iff_toList_lt.mp h)

end AppLauncher.Text.Utf8
