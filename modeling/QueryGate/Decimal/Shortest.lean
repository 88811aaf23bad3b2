import QueryGate.Decimal.Binary

/-!
# Shortest decimals

`shortest` gives the fewest decimal digits that read back as a given binary number : for one
digit, two digits and so on it tests the two neighbours of the number on the decimal grid, the
nearer one winning, until one of them rounds to the number.
-/

namespace QueryGate.Decimal

/-- A decimal `0.d₁d₂d₃… · 10 ^ point` with digits `d₁d₂d₃…`, given as one natural number. -/
structure Numeral where
  /-- The digits, read as a natural number. -/
  digits : Nat
  /-- Where the point stands, counted from before the first digit. -/
  point : Int
  deriving DecidableEq, Repr

/-- Number of decimal digits of a positive number. -/
def digitCount (n : Nat) : Nat := (Nat.toDigits 10 n).length

/-- A quotient multiplied by a power of ten. -/
def scaleTen (num den : Nat) (k : Int) : Nat × Nat :=
  if 0 ≤ k then (num * Nat.pow 10 k.toNat, den) else (num, den * Nat.pow 10 (-k).toNat)

/-- Where the point of a positive quotient stands : the least `k` with `num / den < 10 ^ k`. -/
def pointOf (num den : Nat) : Int :=
  let k : Int := digitCount num - digitCount den
  let (a, b) := scaleTen num den (-k)
  if a < b then k else k + 1

/-- The numbers that round to `m · 2 ^ e / 2 ^ depth` lie between these two, in quarters of the
last place. -/
def roundingBounds (f : BinaryFormat) (m e : Nat) : Nat × Nat :=
  (if m = Nat.pow 2 f.fractionBits ∧ e ≠ 0 then 4 * m - 1 else 4 * m - 2, 4 * m + 2)

/-- Whether a quotient of quarters of the last place lies within the bounds; the bounds
themselves round to an even number only. -/
def withinBounds (f : BinaryFormat) (m e num den : Nat) : Bool :=
  let (lo, hi) := roundingBounds f m e
  if m % 2 = 0 then lo * den ≤ num && num ≤ hi * den else lo * den < num && num < hi * den

/-- The nearest of the two neighbours on the grid of `n` digits, if it reads back. Of two that
read back and are equally near, it is the even one. -/
def onGrid? (f : BinaryFormat) (m e : Nat) (point : Int) (n : Nat) : Option Nat :=
  let (num, den) := scaleTen (m * Nat.pow 2 e) (Nat.pow 2 f.depth) (n - point)
  let lower := num / den
  let reads (d : Nat) : Bool :=
    let (a, b) := scaleTen (d * Nat.pow 2 f.depth) 1 (point - n)
    withinBounds f m e (4 * a) (b * Nat.pow 2 e)
  match reads lower, reads (lower + 1) with
  | true, true => some (BinaryFormat.divNearest num den)
  | true, false => some lower
  | false, true => some (lower + 1)
  | false, false => none

/-- A number without the zeros at its end, of which it has at most `fuel`. -/
def dropZeros : (fuel n : Nat) → Nat
  | 0, n => n
  | fuel + 1, n => if n % 10 = 0 then dropZeros fuel (n / 10) else n

/-- The fewest digits that read back as the positive finite word `bits`. -/
def shortest (f : BinaryFormat) (bits : Nat) : Numeral :=
  let (m, e) := f.decode bits
  let point := pointOf (m * Nat.pow 2 e) (Nat.pow 2 f.depth)
  let attempt (n : Nat) := (onGrid? f m e point n).map fun d => (n, d)
  match (List.range' 1 17).findSome? attempt with
  | some (n, d) =>
    if digitCount d ≤ n then ⟨dropZeros n d, point⟩ else ⟨1, point + 1⟩
  | none => ⟨m, point⟩

end QueryGate.Decimal
