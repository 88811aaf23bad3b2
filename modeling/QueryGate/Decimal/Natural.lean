import QueryGate.Decimal.Reader

/-!
# Reading natural numbers

`readNatural` reads a run of decimal digits with an optional plus sign, up to a limit. The first
character at which something is wrong decides what is reported.
-/

namespace QueryGate.Decimal

/-- Why a text is no natural number. -/
inductive NaturalFault where
  | empty
  | notDigit
  /-- The number is above the limit. -/
  | tooLarge
  deriving DecidableEq, Repr

/-- The wording of a fault. -/
def NaturalFault.message : NaturalFault → String
  | empty => "cannot parse integer from empty string"
  | notDigit => "invalid digit found in string"
  | tooLarge => "number too large to fit in target type"

/-- The number of a run of digits behind those that make up `n`. -/
def readDigits (limit : Nat) : Nat → List Char → Except NaturalFault Nat
  | n, [] => .ok n
  | n, c :: s =>
    if !c.isDigit then .error .notDigit
    else
      let m := n * 10 + (c.toNat - 48)
      if limit < m then .error .tooLarge else readDigits limit m s

/-- The number that a whole text stands for. -/
def readNatural (limit : Nat) : List Char → Except NaturalFault Nat
  | [] => .error .empty
  | ['+'] => .error .notDigit
  | '+' :: s => readDigits limit 0 s
  | s => readDigits limit 0 s

/-- The largest number of 64 bits. -/
def maxWord : Nat := Nat.pow 2 64 - 1

end QueryGate.Decimal
