import AppLauncher.Proofs.Tar.Writing
import Mathlib.Data.List.Pairwise
import Mathlib.Tactic.Common

/-!
# How far the reader of tar streams has come

Each step of the reader goes forward.  A header is looked for behind all that has been read so far,
the data of a member lies between its header and the next one, and at least a block is used up
(`next_within`).  Two things follow for a whole stream, whatever its bytes are.

The members stand one behind the other, and all of their positions fit into 64 bits
(`pairwise_members`, `stop_lt_of_mem_members`), although their sizes come from the stream.  And the
number of headers that the reader allows itself is always enough: reading from a place is one
function of the place (`readRest`), which takes a step and goes on from there (`readRest_eq`).
-/

namespace AppLauncher.Tar

/-! ### One step -/

/-- The position where the next header is looked for. -/
def Cursor.ahead (c : Cursor) : Nat := c.position + c.gap

/-- The number of bytes from the next header on. -/
def Cursor.left (c : Cursor) : Nat := c.rest.length - c.gap

/-- Where the data of a member ends. -/
def Member.stop (m : Member) : Nat := m.start + m.size

/-- What is read lies behind a position, the reader is then behind what has been read, and of the
given number of bytes at least a block is used up. -/
inductive Step.Within (position left : Nat) : Step → Prop
  | finished : Within position left .finished
  | fault (fault : Fault) : Within position left (.fault fault)
  | extension {e : Extensions} {c : Cursor} (hahead : position ≤ c.ahead)
      (hleft : c.left + blockSize ≤ left) : Within position left (.extension e c)
  | member {m : Member} {c : Cursor} (hstart : position ≤ m.start) (hstop : m.stop ≤ c.ahead)
      (hfits : m.stop < sizeBound) (hleft : c.left + blockSize ≤ left) :
      Within position left (.member m c)

/-- What follows a header is read from there on. -/
lemma readMember_within (e : Extensions) (h : Header) (size start : Nat) (rest : List UInt8) :
    (readMember e h size start rest).Within start (rest.length + blockSize) := by
  have hpadded := (padded_spec (e.sizeOf h.kind size)).1
  have hleft : rest.length - padded (e.sizeOf h.kind size) + blockSize ≤
      rest.length + blockSize := by
    omega
  unfold readMember
  dsimp only
  split
  · exact .fault _
  · rename_i hfits
    have hstop : start + e.sizeOf h.kind size < sizeBound := by omega
    split
    · split
      · exact .extension (Nat.le_add_right _ _) hleft
      · exact .fault _
    · split
      · split
        · rename_i blocks _
          refine .member (Nat.le_refl _) ?_ hstop ?_
          · simp only [Member.stop, Cursor.ahead]
            omega
          · simp only [Cursor.left, List.length_drop]
            omega
        · exact .fault _
      · exact .member (Nat.le_refl _) (Nat.add_le_add_left hpadded start) hstop hleft

/-- The end of the stream is no step forward. -/
lemma finish_within (e : Extensions) (position left : Nat) :
    (finish e).Within position left := by
  unfold finish
  split
  · exact .finished
  · exact .fault _

/-- A step of the reader goes forward. -/
lemma next_within (e : Extensions) (c : Cursor) :
    (next e c).Within (c.ahead + blockSize) c.left := by
  unfold next
  split
  · exact .fault _
  · dsimp only
    split
    · exact finish_within e _ _
    · split
      · exact .fault _
      · rename_i hlong
        split
        · exact finish_within e _ _
        · split
          · rename_i size _
            have hleft : c.left = ((c.rest.drop c.gap).drop blockSize).length + blockSize := by
              rw [List.length_drop] at hlong
              simp only [Cursor.left, List.length_drop]
              omega
            rw [hleft]
            exact readMember_within e _ size (c.ahead + blockSize) _
          · exact .fault _

/-! ### Positions of members -/

/-- The members that are read stand one behind the other, with a header in between, behind the place
where reading starts; and their data ends at positions of 64 bits. -/
lemma readFrom_members (headers : Nat) (e : Extensions) (c : Cursor) :
    (readFrom headers e c).members.Pairwise (fun m n => m.stop + blockSize ≤ n.start) ∧
      ∀ m ∈ (readFrom headers e c).members, c.ahead + blockSize ≤ m.start ∧ m.stop < sizeBound := by
  induction headers generalizing e c with
  | zero => exact ⟨.nil, fun m hm => by cases hm⟩
  | succ headers ih =>
    have hstep := next_within e c
    rw [readFrom]
    cases hnext : next e c with
    | finished => exact ⟨.nil, fun m hm => by cases hm⟩
    | fault fault => exact ⟨.nil, fun m hm => by cases hm⟩
    | extension e' c' =>
      rw [hnext] at hstep
      cases hstep with | extension hahead _ =>
      obtain ⟨hordered, hbehind⟩ := ih e' c'
      refine ⟨hordered, fun m hm => ?_⟩
      have hm' := hbehind m hm
      exact ⟨by omega, hm'.2⟩
    | member m c' =>
      rw [hnext] at hstep
      cases hstep with | member hstart hstop hfits _ =>
      obtain ⟨hordered, hbehind⟩ := ih .none c'
      refine ⟨List.pairwise_cons.mpr ⟨fun n hn => ?_, hordered⟩, fun n hn => ?_⟩
      · have hn' := (hbehind n hn).1
        omega
      · rcases List.mem_cons.mp hn with rfl | hn
        · exact ⟨hstart, hfits⟩
        · have hn' := hbehind n hn
          have hle : m.start ≤ m.stop := Nat.le_add_right _ _
          exact ⟨by omega, hn'.2⟩

/-- The members of a stream stand one behind the other, with a header in between. -/
lemma pairwise_members (data : List UInt8) :
    (read data).members.Pairwise fun m n => m.stop + blockSize ≤ n.start :=
  (readFrom_members _ _ _).1

/-- The data of the members of a stream ends at positions of 64 bits. -/
lemma stop_lt_of_mem_members {data : List UInt8} {m : Member} (hm : m ∈ (read data).members) :
    m.stop < sizeBound :=
  ((readFrom_members _ _ _).2 m hm).2

/-! ### Headers are not counted -/

/-- A block less is one less in blocks. -/
lemma blocks_lt {left all : Nat} (h : left + blockSize ≤ all) :
    left / blockSize < all / blockSize := by
  unfold blockSize at *
  omega

/-- Reading does not depend on the number of headers that are allowed for, if there are more of them
than blocks. -/
lemma readFrom_of_enough {headers more : Nat} {e : Extensions} {c : Cursor}
    (h : c.left / blockSize < headers) (hmore : c.left / blockSize < more) :
    readFrom headers e c = readFrom more e c := by
  induction headers generalizing more e c with
  | zero => exact absurd h (Nat.not_lt_zero _)
  | succ headers ih =>
    cases more with
    | zero => exact absurd hmore (Nat.not_lt_zero _)
    | succ more =>
      have hstep := next_within e c
      rw [readFrom, readFrom]
      cases hnext : next e c with
      | finished => rfl
      | fault fault => rfl
      | extension e' c' =>
        rw [hnext] at hstep
        cases hstep with | extension _ hleft =>
        have hblocks := blocks_lt hleft
        exact ih (by omega) (by omega)
      | member m c' =>
        rw [hnext] at hstep
        cases hstep with | member _ _ _ hleft =>
        have hblocks := blocks_lt hleft
        have hrest : readFrom headers .none c' = readFrom more .none c' := ih (by omega) (by omega)
        dsimp only
        rw [hrest]

/-- Reads all that is left. -/
def readRest (e : Extensions) (c : Cursor) : Listing := readFrom (c.left / blockSize + 1) e c

/-- A stream is read from its start. -/
lemma read_eq (data : List UInt8) : read data = readRest .none ⟨data, 0, 0⟩ := rfl

/-- All that is left is read whenever enough headers are allowed for. -/
lemma readFrom_eq {headers : Nat} {e : Extensions} {c : Cursor}
    (h : c.left / blockSize < headers) : readFrom headers e c = readRest e c :=
  readFrom_of_enough h (Nat.lt_succ_self _)

/-- Reading takes a step and goes on from there. -/
lemma readRest_eq (e : Extensions) (c : Cursor) :
    readRest e c = match next e c with
      | .finished => ⟨[], none⟩
      | .fault fault => ⟨[], some fault⟩
      | .extension e c => readRest e c
      | .member m c => ⟨m :: (readRest .none c).members, (readRest .none c).fault⟩ := by
  have hstep := next_within e c
  rw [readRest, readFrom]
  cases hnext : next e c with
  | finished => rfl
  | fault fault => rfl
  | extension e' c' =>
    rw [hnext] at hstep
    cases hstep with | extension _ hleft =>
    exact readFrom_eq (blocks_lt hleft)
  | member m c' =>
    rw [hnext] at hstep
    cases hstep with | member _ _ _ hleft =>
    have hrest : readFrom (c.left / blockSize) .none c' = readRest .none c' :=
      readFrom_eq (blocks_lt hleft)
    dsimp only
    rw [hrest]

end AppLauncher.Tar
