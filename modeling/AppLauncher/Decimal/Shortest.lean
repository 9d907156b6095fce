/-!
# Shortest decimals

The decimal with the fewest digits that reads back as a given binary fraction, and among those the
nearest one. A binary fraction stands for all reals that round to it: the interval halfway to its
neighbours, ends included exactly when its mantissa is even. On a grid of decimals with a given
number of digits only the two neighbours of the value need a look, since the interval contains the
value.
-/

namespace AppLauncher

/-- The number `digits · 10 ^ exponent`. -/
structure Decimal where
  digits : Nat
  exponent : Int
deriving DecidableEq, Repr

namespace Decimal

/-- The fraction `mantissa · 2 ^ exponent`. Below a power of two the next fraction is only half as
far away (`narrow`). -/
structure Binary where
  mantissa : Nat
  exponent : Int
  narrow : Bool
deriving DecidableEq, Repr

/-- The number of grids with a hit for every double: those of up to seventeen digits, and before
them the one with the power of ten above the value as its first point. -/
def maxGrids : Nat := 18

/-- The bit above the stored bits of the mantissa of a double. -/
def hiddenBit : Nat := Nat.pow 2 52

/-- The number of exponents that a double can store. -/
def exponentCount : Nat := Nat.pow 2 11

/-- The bit of a double that holds its sign. -/
def signBit : Nat := Nat.pow 2 63

namespace Binary

/-- The magnitude of a finite double. -/
def ofBits (bits : Nat) : Binary :=
  let fraction : Nat := bits % hiddenBit
  let biased : Nat := bits / hiddenBit % exponentCount
  if biased = 0 then ⟨fraction, -1074, false⟩
  else ⟨fraction + hiddenBit, (biased : Int) - 1075, fraction = 0 && 1 < biased⟩

/-- The denominator over which a fraction and the ends of its interval are whole numbers. -/
def denominator (b : Binary) : Nat := 4 * Nat.pow 2 (-b.exponent).toNat

/-- The fraction over the denominator. -/
def numerator (b : Binary) : Nat := 4 * b.mantissa * Nat.pow 2 b.exponent.toNat

/-- The lower end of the interval over the denominator. -/
def lower (b : Binary) : Nat :=
  (4 * b.mantissa - if b.narrow then 1 else 2) * Nat.pow 2 b.exponent.toNat

/-- The upper end of the interval over the denominator. -/
def upper (b : Binary) : Nat := (4 * b.mantissa + 2) * Nat.pow 2 b.exponent.toNat

/-- Whether a number over the given denominator reads back as the fraction. -/
def contains (b : Binary) (numerator denominator : Nat) : Bool :=
  let low := b.lower * denominator
  let high := b.upper * denominator
  let value := numerator * b.denominator
  if b.mantissa % 2 = 0 then low ≤ value && value ≤ high else low < value && value < high

end Binary

/-- A power of ten as a numerator and a denominator. -/
def powerOfTen (exponent : Int) : Nat × Nat :=
  (Nat.pow 10 exponent.toNat, Nat.pow 10 (-exponent).toNat)

/-- The number of digits of a positive number. -/
def digitCount (n : Nat) : Nat := (Nat.toDigits 10 n).length

/-- The number of zeros behind the point before the first digit of a fraction below one. -/
def leadingZeros (numerator denominator : Nat) : Nat → Nat
  | 0 => 0
  | steps + 1 =>
    if numerator * 10 < denominator then leadingZeros (numerator * 10) denominator steps + 1 else 0

/-- The exponent of the lowest power of ten above a positive fraction. -/
def magnitude (numerator denominator : Nat) : Int :=
  let whole := numerator / denominator
  if whole = 0 then -(leadingZeros numerator denominator (digitCount denominator) : Int)
  else digitCount whole

/-- The neighbour of a fraction on the grid of the given exponent that reads back as the fraction;
of two the nearer one, and the larger one if they are equally near. -/
def onGrid? (b : Binary) (exponent : Int) : Option Decimal :=
  let (up, down) := powerOfTen exponent
  let numerator := b.numerator * down
  let denominator := b.denominator * up
  let below := numerator / denominator
  let above := below + 1
  let rest := numerator % denominator
  let reads (digits : Nat) : Bool := b.contains (digits * up) down
  let nearest :=
    if 2 * rest < denominator then below else above
  let other := if nearest = below then above else below
  if reads nearest && nearest ≠ 0 then some ⟨nearest, exponent⟩
  else if reads other && other ≠ 0 then some ⟨other, exponent⟩
  else none

/-- The first grid with a neighbour that reads back, given how many grids are left to try. -/
def firstGrid (b : Binary) (exponent : Int) : Nat → Decimal
  | 0 => ⟨0, 0⟩
  | grids + 1 => (onGrid? b exponent).getD (firstGrid b (exponent - 1) grids)

/-- The shortest decimal of a fraction. -/
def shortest (b : Binary) : Decimal :=
  if b.mantissa = 0 then ⟨0, 0⟩
  else firstGrid b (magnitude b.numerator b.denominator) maxGrids

/-- A decimal written out in full, without an exponent. -/
def positional (d : Decimal) : List Char :=
  let digits := Nat.toDigits 10 d.digits
  if 0 ≤ d.exponent then
    if d.digits = 0 then ['0'] else digits ++ List.replicate d.exponent.toNat '0'
  else
    let places := (-d.exponent).toNat
    let padded := List.replicate (places + 1 - digits.length) '0' ++ digits
    let whole := padded.length - places
    padded.take whole ++ ['.'] ++ padded.drop whole

/-- Whether a double has a minus sign. -/
def isNegative (x : Float) : Bool := x.toBits.toNat / signBit = 1

/-- The shortest decimal of the magnitude of a finite double. -/
def ofFloat (x : Float) : Decimal := shortest (Binary.ofBits (x.toBits.toNat % signBit))

/-- The text of a finite double: its shortest decimal, written out in full. -/
def floatText (x : Float) : String :=
  String.ofList ((if isNegative x then ['-'] else []) ++ (ofFloat x).positional)

end Decimal

end AppLauncher
