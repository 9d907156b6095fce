/-!
# Trailers of executable artifacts

A payload appended to an executable image is found through the last sixteen bytes of the file: eight
magic bytes and the offset of the payload, least significant byte first. A file without a trailer
is its own payload.
-/

namespace AppLauncher.Trailer

/-- The magic bytes, `SPRTBOOT`. -/
def magic : List UInt8 := [0x53, 0x50, 0x52, 0x54, 0x42, 0x4F, 0x4F, 0x54]

/-- The number of bytes of a trailer. -/
def length : Nat := 16

/-- A number as the given count of bytes, least significant byte first. -/
def littleEndian : Nat → Nat → List UInt8
  | 0, _ => []
  | count + 1, n => UInt8.ofNat (n % 256) :: littleEndian count (n / 256)

/-- Reads bytes as a number, least significant byte first. -/
def ofLittleEndian (bytes : List UInt8) : Nat := bytes.foldr (fun b n => b.toNat + 256 * n) 0

/-- The trailer that points to a payload. -/
def encode (offset : Nat) : List UInt8 := magic ++ littleEndian 8 offset

/-- The payload of a file, or the offset of a trailer that points behind itself. -/
def payload (file : List UInt8) : Except Nat (List UInt8) :=
  let start := file.length - length
  let trailer := file.drop start
  if file.length < length ∨ trailer.take 8 ≠ magic then .ok file
  else
    let offset := ofLittleEndian (trailer.drop 8)
    if offset > start then .error offset
    else .ok ((file.take start).drop offset)

end AppLauncher.Trailer
