/-!
# Binary floating point

Numbers of the interchange formats `binary32` and `binary64` as words of bits. A finite word
stands for `m · 2 ^ e / 2 ^ depth` (`decode`); `roundRatio` takes a quotient of naturals to the
word nearest to it, a tie to the even one, and to infinity beyond the largest number. All
arithmetic on words goes through exact quotients (`ratio`).
-/

namespace QueryGate.Decimal

/-- A binary format : significant bits, the exponent of the last bit of the smallest numbers,
and the width of the exponent field. -/
structure BinaryFormat where
  /-- Significant bits, the hidden one included. -/
  precision : Nat
  /-- The smallest number is two to this power, negated. -/
  depth : Nat
  /-- Bits of the exponent field. -/
  exponentBits : Nat
  deriving DecidableEq, Repr

/-- Single precision. -/
def binary32 : BinaryFormat := ⟨24, 149, 8⟩

/-- Double precision. -/
def binary64 : BinaryFormat := ⟨53, 1074, 11⟩

namespace BinaryFormat

variable (f : BinaryFormat)

/-- Bits of the fraction field. -/
def fractionBits : Nat := f.precision - 1

/-- The word of positive infinity. -/
def infinity : Nat := (Nat.pow 2 f.exponentBits - 1) * Nat.pow 2 f.fractionBits

/-- The bit that makes a number negative. -/
def signBit : Nat := Nat.pow 2 (f.fractionBits + f.exponentBits)

/-- A word without its sign. -/
def magnitude (bits : Nat) : Nat := bits % f.signBit

/-- Whether the sign bit is set. -/
def isNegative (bits : Nat) : Bool := f.signBit ≤ bits

/-- Whether the word is not a number. -/
def isNaN (bits : Nat) : Bool := f.infinity < f.magnitude bits

/-- Whether the word is a finite number. -/
def isFinite (bits : Nat) : Bool := f.magnitude bits < f.infinity

/-- The magnitude of a finite word as `m · 2 ^ (e - depth)`. -/
def decode (bits : Nat) : Nat × Nat :=
  let e := f.magnitude bits / Nat.pow 2 f.fractionBits
  let m := f.magnitude bits % Nat.pow 2 f.fractionBits
  if e = 0 then (m, 0) else (m + Nat.pow 2 f.fractionBits, e - 1)

/-- The quotient rounded to the nearest natural number, a tie to the even one. -/
def divNearest (num den : Nat) : Nat :=
  let n := num / den
  let twice := 2 * (num % den)
  if twice < den then n
  else if den < twice then n + 1
  else n + n % 2

/-- The word nearest to `num / den` for a positive `den`. With `e` the least exponent at which
the quotient fits into the significant bits, the word is `e · 2 ^ fractionBits + m` : the hidden
bit of `m` and a carry out of it both count up the exponent field. -/
def roundRatio (num den : Nat) : Nat :=
  let scaled := num * Nat.pow 2 f.depth
  let guess := scaled.log2 - den.log2 - f.precision
  let e := if scaled < den * Nat.pow 2 (guess + f.precision) then guess else guess + 1
  min (e * Nat.pow 2 f.fractionBits + divNearest scaled (den * Nat.pow 2 e)) f.infinity

/-- The word of a magnitude with a sign. -/
def withSign (negative : Bool) (magnitude : Nat) : Nat :=
  if negative then f.signBit + magnitude else magnitude

/-- The magnitude of a finite word as a quotient. -/
def ratio (bits : Nat) : Nat × Nat :=
  let (m, e) := f.decode bits
  (m * Nat.pow 2 e, Nat.pow 2 f.depth)

end BinaryFormat

end QueryGate.Decimal
