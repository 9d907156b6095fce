/-!
# Reading whole numbers

Numbers written in digits of a base up to 16, with an optional sign and a bound. A number out of
bounds is no number at all.
-/

namespace AppLauncher.Text

/-- The first number that does not fit into a word of the given number of bits. -/
def wordBound (bits : Nat) : Nat := Nat.pow 2 bits

/-- The value of a digit in a base up to 16. -/
def digit? (base : Nat) (c : Char) : Option Nat :=
  let n := c.toNat
  let value? :=
    if 0x30 ≤ n ∧ n ≤ 0x39 then some (n - 0x30)
    else if 0x41 ≤ n ∧ n ≤ 0x46 then some (n - 0x37)
    else if 0x61 ≤ n ∧ n ≤ 0x66 then some (n - 0x57)
    else none
  value?.filter (· < base)

/-- The value of digits after a number already read. -/
def digitsFrom? (base value : Nat) : List Char → Option Nat
  | [] => some value
  | c :: cs => (digit? base c).bind fun d => digitsFrom? base (value * base + d) cs

/-- The value of a non-empty run of digits. -/
def digits? (base : Nat) (cs : List Char) : Option Nat :=
  if cs.isEmpty then none else digitsFrom? base 0 cs

/-- Reads a number below `bound`, which may have a plus sign. -/
def unsigned? (base bound : Nat) (cs : List Char) : Option Nat :=
  let digits := match cs with
    | '+' :: rest => rest
    | _ => cs
  (digits? base digits).filter (· < bound)

/-- Reads a decimal number from `-bound` to `bound - 1`, which may have a sign. -/
def signed? (bound : Nat) : List Char → Option Int
  | '-' :: rest => ((digits? 10 rest).filter (· ≤ bound)).map fun n => -(n : Int)
  | cs => (unsigned? 10 bound cs).map Int.ofNat

end AppLauncher.Text
