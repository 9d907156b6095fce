import AppLauncher.Tar.Header

/-!
# Sparse members

A sparse member lists the parts of a file that hold data, in its header and in extension blocks
right after it. The member itself is of no use here, but its map has to be consistent for the
stream to be read on.
-/

namespace AppLauncher.Tar.Sparse

/-- How far a map has been read: the end of the last part, and the data not yet assigned. -/
structure Progress where
  reached : Nat
  remaining : Nat
deriving DecidableEq, Repr

/-- Adds a part, given as the twelve bytes of its offset and the twelve bytes of its length. -/
def addPart (size : Nat) (p : Progress) (part : List UInt8) : Except Fault Progress :=
  let offset := part.take 12
  let length := (part.drop 12).take 12
  if offset.headD 0 = 0 ∨ length.headD 0 = 0 then .ok p
  else match number? offset, number? length with
    | some offset, some length =>
      if length ≠ 0 ∧ (size - p.remaining) % blockSize ≠ 0 then .error .badSparseMap
      else if offset < p.reached then .error .badSparseMap
      else if offset + length ≥ sizeBound then .error .badSparseMap
      else if p.remaining < length then .error .badSparseMap
      else .ok ⟨offset + length, p.remaining - length⟩
    | _, _ => .error .badNumber

/-- Adds the given number of parts, which stand one after the other. -/
def addParts (size : Nat) : Nat → List UInt8 → Progress → Except Fault Progress
  | 0, _, p => .ok p
  | count + 1, bytes, p =>
    match addPart size p (bytes.take 24) with
    | .ok p => addParts size count (bytes.drop 24) p
    | .error fault => .error fault

/-- Reads extension blocks while the last one announces another. Gives the number of them. -/
def readBlocks (size : Nat) : Nat → List UInt8 → Progress → Except Fault (Nat × Progress)
  | 0, _, _ => .error .badSparseMap
  | fuel + 1, bytes, p =>
    if bytes.length < blockSize then .error .badSparseMap
    else match addParts size 21 bytes p with
      | .error fault => .error fault
      | .ok p =>
        if (bytes.drop 504).headD 0 = 1 then
          (readBlocks size fuel (bytes.drop blockSize) p).map fun (n, p) => (n + 1, p)
        else .ok (1, p)

/-- Checks the map of a sparse member and gives the number of extension blocks after its header. -/
def check (h : Header) (size : Nat) (rest : List UInt8) : Except Fault Nat :=
  if h.isGnu = false then .error .badSparseMap
  else match addParts size 4 (h.field 386 96) ⟨0, size⟩ with
    | .error fault => .error fault
    | .ok p =>
      let read := if (h.field 482 1).headD 0 = 1 then
          readBlocks size (rest.length / blockSize + 1) rest p
        else .ok (0, p)
      match read with
      | .error fault => .error fault
      | .ok (count, p) =>
        match number? (h.field 483 12) with
        | none => .error .badNumber
        | some real =>
          if p.reached = real ∧ p.remaining = 0 then .ok count else .error .badSparseMap

end AppLauncher.Tar.Sparse
