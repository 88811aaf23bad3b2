import QueryGate.Json.Writer
import QueryGate.Text.Basic

/-!
# Identifiers of requests

An identifier is a number of 128 bits, written as 32 hexadecimal digits in groups.
-/

namespace QueryGate

/-- A number of 128 bits. -/
structure Identifier where
  value : Nat
  deriving DecidableEq, Repr

namespace Identifier

/-- The lengths of the groups of digits. -/
def groups : List Nat := [8, 4, 4, 4, 12]

/-- The value of a hexadecimal digit. -/
def hexValue? (c : Char) : Option Nat :=
  if c.isDigit then some (c.toNat - 48)
  else if 'a' ≤ c ∧ c ≤ 'f' then some (c.toNat - 87)
  else if 'A' ≤ c ∧ c ≤ 'F' then some (c.toNat - 55)
  else none

/-- The number of a run of hexadecimal digits. -/
def hexNumber? (s : List Char) : Option Nat :=
  s.foldl (fun n c => n.bind fun n => (hexValue? c).map (n * 16 + ·)) (some 0)

/-- The identifier of 32 digits in groups. -/
def ofGroups? (s : List Char) : Option Identifier :=
  let parts := Text.splitAt '-' s
  if parts.map List.length = groups then (hexNumber? parts.flatten).map Identifier.mk else none

/-- The identifier a text stands for : 32 digits, in groups or not; digits in groups may stand in
braces or behind the name of the scheme. -/
def ofText? (s : List Char) : Option Identifier :=
  if s.length = 32 then (hexNumber? s).map Identifier.mk
  else if "urn:uuid:".toList.isPrefixOf s then ofGroups? (s.drop 9)
  else match s with
    | '\x7b' :: rest => if rest.getLast? = some '\x7d' then ofGroups? rest.dropLast else none
    | _ => ofGroups? s

/-- The identifier made of a random number : a digit for the version and two bits are set to say so. -/
def ofRandom (n : Nat) : Identifier :=
  let low := n % Nat.pow 2 62 + 2 * Nat.pow 2 62
  let middle := n / Nat.pow 2 64 % Nat.pow 2 12 + 4 * Nat.pow 2 12
  let high := n / Nat.pow 2 80 % Nat.pow 2 48
  ⟨(high * Nat.pow 2 16 + middle) * Nat.pow 2 64 + low⟩

/-- The last `n` hexadecimal digits of a number. -/
def hexDigits : Nat → Nat → List Char
  | 0, _ => []
  | n + 1, v => hexDigits n (v / 16) ++ [Json.hexDigit (v % 16)]

/-- A text cut into pieces of the given lengths. -/
def cut : List Nat → List Char → List (List Char)
  | [], _ => []
  | n :: ns, s => s.take n :: cut ns (s.drop n)

/-- The text of an identifier. -/
def text (i : Identifier) : List Char :=
  Text.joinWith ['-'] (cut groups (hexDigits 32 i.value))

end Identifier

end QueryGate
