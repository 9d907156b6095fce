import AppLauncher.Text.Blank
import AppLauncher.Text.Number
import AppLauncher.Text.Utf8

/-!
# Headers of tar streams

A tar stream is a sequence of blocks of 512 bytes. Each member starts with a header block whose
fields are text, ended by the first NUL byte, or numbers in octal text.
-/

namespace AppLauncher.Tar

/-- The number of bytes of a block. -/
def blockSize : Nat := 512

/-- The first number that does not fit into the 64 bits of a size. -/
def sizeBound : Nat := Text.wordBound 64

/-- Why a stream cannot be read. -/
inductive Fault where
  /-- The stream ends within a header. -/
  | shortHeader
  /-- The stream ends within the data of a member or the padding after it. -/
  | shortData
  | badNumber
  | badChecksum
  | sizeOverflow
  /-- Two extension headers of one kind stand before one member. -/
  | repeatedExtension
  /-- No member follows an extension header. -/
  | danglingExtension
  | badSparseMap
deriving DecidableEq, Repr

/-- The fault in words. -/
def Fault.message : Fault → String
  | .shortHeader => "the tar stream ends within a header"
  | .shortData => "the tar stream ends within a member"
  | .badNumber => "a numeric field of a tar header holds no number"
  | .badChecksum => "the checksum of a tar header does not match"
  | .sizeOverflow => "the size of a tar member is out of range"
  | .repeatedExtension => "two tar extension headers of one kind describe the same member"
  | .danglingExtension => "a tar extension header describes no member"
  | .badSparseMap => "the map of a sparse tar member is inconsistent"

/-- All faults. -/
def Fault.all : List Fault :=
  [.shortHeader, .shortData, .badNumber, .badChecksum, .sizeOverflow, .repeatedExtension,
    .danglingExtension, .badSparseMap]

/-- What a member is. -/
inductive Kind where
  | file
  | directory
  /-- The data is the name of the next member. -/
  | longName
  /-- The data is the link target of the next member. -/
  | longLink
  /-- The data is a list of extended attributes of the next member. -/
  | pax
  /-- The data is a list of extended attributes of all members that follow. -/
  | globalPax
  | sparse
  | other
deriving DecidableEq, Repr

/-- The kind that a type byte stands for. -/
def Kind.ofByte (b : UInt8) : Kind :=
  if b = 0x30 ∨ b = 0x00 then .file
  else if b = 0x35 then .directory
  else if b = 0x4C then .longName
  else if b = 0x4B then .longLink
  else if b = 0x78 then .pax
  else if b = 0x67 then .globalPax
  else if b = 0x53 then .sparse
  else .other

/-- Whether a member only says something about others. -/
def Kind.isExtension : Kind → Bool
  | .longName | .longLink | .pax | .globalPax => true
  | _ => false

/-- The bytes before the first NUL byte. -/
def untilNul (bytes : List UInt8) : List UInt8 := bytes.takeWhile (· ≠ 0)

/-- Reads a number in octal text, which may have blanks around it. -/
def octal? (field : List UInt8) : Option Nat :=
  Text.unsigned? 8 sizeBound (Text.trim (Text.Utf8.decode (untilNul field)))

/-- Reads bytes as a number, most significant byte first. -/
def bigEndian (bytes : List UInt8) : Nat := bytes.foldl (fun n b => n * 256 + b.toNat) 0

/-- Reads a number in octal text or, when the top bit of the field is set, in its last eight
bytes. -/
def number? (field : List UInt8) : Option Nat :=
  match field.head? with
  | some b => if b ≥ 0x80 then some (bigEndian (field.drop (field.length - 8))) else octal? field
  | none => none

/-- A header block. -/
structure Header where
  block : List UInt8
deriving DecidableEq, Repr

namespace Header

/-- The bytes of a field. -/
def field (h : Header) (offset length : Nat) : List UInt8 := (h.block.drop offset).take length

/-- Whether all bytes are zero. -/
def isZero (h : Header) : Bool := h.block.all (· = 0)

/-- The kind of the member. -/
def kind (h : Header) : Kind := Kind.ofByte ((h.field 156 1).headD 0)

/-- Whether the block has the magic bytes of the portable format. -/
def isUstar (h : Header) : Bool :=
  h.field 257 8 = [0x75, 0x73, 0x74, 0x61, 0x72, 0x00, 0x30, 0x30]

/-- Whether the block has the magic bytes of the GNU format. -/
def isGnu (h : Header) : Bool :=
  h.field 257 8 = [0x75, 0x73, 0x74, 0x61, 0x72, 0x20, 0x20, 0x00]

/-- The size of the data of the member. -/
def size? (h : Header) : Option Nat := number? (h.field 124 12)

/-- The checksum written in the header. -/
def checksum? (h : Header) : Option Nat := octal? (h.field 148 8)

/-- The checksum that the header should have: the sum of its bytes, with spaces in place of the
checksum. -/
def sum (h : Header) : Nat :=
  let total (bytes : List UInt8) : Nat := bytes.foldl (fun n b => n + b.toNat) 0
  total (h.field 0 148) + 8 * 32 + total (h.block.drop 156)

/-- The name of the member. In the portable format a second field may hold the start of it. -/
def name (h : Header) : List UInt8 :=
  let name := untilNul (h.field 0 100)
  let start := untilNul (h.field 345 155)
  if h.isUstar ∧ start ≠ [] then start ++ [0x2F] ++ name else name

/-- The size of the data, of a header that is in order. -/
def check (h : Header) : Except Fault Nat :=
  match h.checksum?, h.size? with
  | some checksum, some size => if h.sum = checksum then .ok size else .error .badChecksum
  | _, _ => .error .badNumber

end Header

end AppLauncher.Tar
