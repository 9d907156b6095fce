import AppLauncher.Tar.Pax
import AppLauncher.Tar.Sparse

/-!
# Reading tar streams

A stream is read header by header. Extension headers say something about the next member; data and
padding are passed over. Reading yields the members up to the end of the stream or to the first
fault, so that a user of the members sees them in the order in which the faults would strike.
-/

namespace AppLauncher.Tar

/-- A member of a stream: where its data is, and what it is called. -/
structure Member where
  kind : Kind
  name : List UInt8
  start : Nat
  size : Nat
deriving DecidableEq, Repr

/-- The members of a stream in order, and the fault that ends the list before its time. -/
structure Listing where
  members : List Member
  fault : Option Fault
deriving DecidableEq, Repr

/-- What the extension headers read since the last member say about the next one. -/
structure Extensions where
  longName : Option (List UInt8)
  longLink : Option (List UInt8)
  pax : Option (List UInt8)
deriving DecidableEq, Repr

namespace Extensions

/-- Nothing said about the next member. -/
def none : Extensions := ⟨Option.none, Option.none, Option.none⟩

/-- Whether nothing is said about the next member. -/
def isNone (e : Extensions) : Bool :=
  e.longName.isNone && e.longLink.isNone && e.pax.isNone

/-- The name of the next member: a long name before an extended attribute before the header. The
NUL byte at the end of a long name does not belong to it. -/
def nameOf (e : Extensions) (h : Header) : List UInt8 :=
  match e.longName with
  | some name => if name.getLast? = some 0 then name.dropLast else name
  | Option.none => ((e.pax.bind Pax.path?).getD h.name)

/-- Adds the data of an extension header, of which only one of each kind may stand before a
member. -/
def add (e : Extensions) (kind : Kind) (data : List UInt8) : Except Fault Extensions :=
  match kind with
  | .longName =>
    if e.longName.isSome then .error .repeatedExtension else .ok { e with longName := some data }
  | .longLink =>
    if e.longLink.isSome then .error .repeatedExtension else .ok { e with longLink := some data }
  | .pax => if e.pax.isSome then .error .repeatedExtension else .ok { e with pax := some data }
  | _ => .ok e

end Extensions

/-- A place in a stream: the bytes from there on, their position, and how many of them lie before
the next header. -/
structure Cursor where
  rest : List UInt8
  position : Nat
  gap : Nat

/-- What is read at a place. -/
inductive Step where
  | finished
  | fault (fault : Fault)
  | extension (extensions : Extensions) (cursor : Cursor)
  | member (member : Member) (cursor : Cursor)

/-- The length of data with its padding. -/
def padded (size : Nat) : Nat := (size + (blockSize - 1)) / blockSize * blockSize

/-- The end of the stream, which must not come between an extension header and its member. -/
def finish (e : Extensions) : Step := if e.isNone then .finished else .fault .danglingExtension

/-- The size of the data of a member: that of an extended attribute before that of the header. The
attribute is about the member itself, and not about extension headers before it. -/
def Extensions.sizeOf (e : Extensions) (kind : Kind) (size : Nat) : Nat :=
  if kind.isExtension then size else (e.pax.bind Pax.size?).getD size

/-- Reads what follows a header that is in order. -/
def readMember (e : Extensions) (h : Header) (size start : Nat) (rest : List UInt8) : Step :=
  let size := e.sizeOf h.kind size
  if size + (blockSize - 1) ≥ sizeBound ∨ start + padded size ≥ sizeBound then
    .fault .sizeOverflow
  else
    let extends? := (h.isGnu || h.isUstar) &&
      (h.kind = .longName || h.kind = .longLink || h.kind = .pax)
    if extends? then
      match e.add h.kind (rest.take size) with
      | .ok e => .extension e ⟨rest, start, padded size⟩
      | .error fault => .fault fault
    else
      let member : Member := ⟨h.kind, e.nameOf h, start, size⟩
      if h.kind = .sparse then
        match Sparse.check h size rest with
        | .ok blocks =>
          .member member
            ⟨rest.drop (blocks * blockSize), start + blocks * blockSize, padded size⟩
        | .error fault => .fault fault
      else .member member ⟨rest, start, padded size⟩

/-- Reads the next header. A stream ends where no further byte can be read, or at a block of
zeros. -/
def next (e : Extensions) (c : Cursor) : Step :=
  if c.rest.length < c.gap then .fault .shortData
  else
    let bytes := c.rest.drop c.gap
    let start := c.position + c.gap + blockSize
    if bytes.isEmpty then finish e
    else if bytes.length < blockSize then .fault .shortHeader
    else
      let header : Header := ⟨bytes.take blockSize⟩
      if header.isZero then finish e
      else match header.check with
        | .ok size => readMember e header size start (bytes.drop blockSize)
        | .error fault => .fault fault

/-- Reads at most the given number of headers. -/
def readFrom : Nat → Extensions → Cursor → Listing
  | 0, _, _ => ⟨[], Option.none⟩
  | headers + 1, e, c =>
    match next e c with
    | .finished => ⟨[], Option.none⟩
    | .fault fault => ⟨[], some fault⟩
    | .extension e c => readFrom headers e c
    | .member member c =>
      let listing := readFrom headers .none c
      { listing with members := member :: listing.members }

/-- Reads a stream. Each header takes a block, so there are no more headers than blocks, and one
more step finds the end. -/
def read (data : List UInt8) : Listing :=
  readFrom (data.length / blockSize + 1) .none ⟨data, 0, 0⟩

end AppLauncher.Tar
