import QueryGate.Regex.Category
import QueryGate.Text.Alphabetic

/-!
# Quoted texts

A text between double quotes as a reader is to see it : characters that do not show by themselves
are written as escapes.
-/

namespace QueryGate.Text

/-- Characters that join the one before them and are no marks. -/
def joiningRanges : List (Nat × Nat) := [
  (0x9be, 0x9be), (0x9d7, 0x9d7), (0xb3e, 0xb3e), (0xb57, 0xb57), (0xbbe, 0xbbe), (0xbd7, 0xbd7),
  (0xcc2, 0xcc2), (0xcd5, 0xcd6), (0xd3e, 0xd3e), (0xd57, 0xd57), (0xdcf, 0xdcf), (0xddf, 0xddf),
  (0x1b35, 0x1b35), (0x302e, 0x302f), (0xff9e, 0xff9f), (0x1133e, 0x1133e), (0x11357, 0x11357),
  (0x114b0, 0x114b0), (0x114bd, 0x114bd), (0x115af, 0x115af), (0x11930, 0x11930),
  (0x1d165, 0x1d165), (0x1d16e, 0x1d172)]

/-- Categories of characters that do not show by themselves : controls, formats, characters
without meaning, separators other than the space, and marks on other characters. -/
def hiddenCategories : List String := ["Cc", "Cf", "Cn", "Co", "Cs", "Zl", "Zp", "Zs", "Mn", "Me"]

/-- Whether a character shows by itself. -/
def isVisible (c : Char) : Bool :=
  if c.val < 128 then ' ' ≤ c && c ≤ '~'
  else !(hiddenCategories.contains (Regex.categoryOf c)) && !(inRanges joiningRanges c.toNat)

/-- A character inside quotes. -/
def showChar (c : Char) : List Char :=
  if c == '"' || c == '\\' then ['\\', c]
  else if c == '\n' then ['\\', 'n']
  else if c == '\t' then ['\\', 't']
  else if c == '\r' then ['\\', 'r']
  else if c == '\x00' then ['\\', '0']
  else if isVisible c then [c]
  else ['\\', 'u', '\x7b'] ++ Nat.toDigits 16 c.toNat ++ ['\x7d']

/-- A text between double quotes. -/
def showQuoted (s : String) : String :=
  String.ofList ('"' :: s.toList.flatMap showChar ++ ['"'])

end QueryGate.Text
