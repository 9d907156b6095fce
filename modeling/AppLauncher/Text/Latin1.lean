/-!
# One byte per character

Text in which each byte is the code point of one character (ISO 8859-1).
-/

namespace AppLauncher.Text.Latin1

/-- Reads each byte as the character with its number. -/
def decode (bytes : List UInt8) : List Char := bytes.map fun b => Char.ofNat b.toNat

/-- Writes each character as one byte, when all of them have a number below 256. -/
def encode? (cs : List Char) : Option (List UInt8) :=
  cs.mapM fun c => if c.toNat < 256 then some (UInt8.ofNat c.toNat) else none

end AppLauncher.Text.Latin1
