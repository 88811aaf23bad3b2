import QueryGate.Json.Writer

/-!
# JSON for readers

The form with a line for every item and every field, indented by two blanks a level. Empty arrays
and objects stay on their line.
-/

namespace QueryGate.Json

/-- A new line at a level. -/
def newLine (level : Nat) : List Char :=
  '\n' :: List.replicate (2 * level) ' '

mutual

/-- The text of a value at a level. -/
def layOut (level : Nat) : Json → List Char
  | null => write null
  | bool b => write (bool b)
  | number n => write (number n)
  | string s => write (string s)
  | array [] => ['[', ']']
  | array items => '[' :: layOutItems (level + 1) items ++ newLine level ++ [']']
  | object [] => ['\x7b', '\x7d']
  | object fields => '\x7b' :: layOutFields (level + 1) fields ++ newLine level ++ ['\x7d']

/-- Items, each on lines of its own, with commas between them. -/
def layOutItems (level : Nat) : List Json → List Char
  | [] => []
  | [v] => newLine level ++ layOut level v
  | v :: rest => newLine level ++ layOut level v ++ ',' :: layOutItems level rest

/-- Fields, each on lines of its own, with commas between them. -/
def layOutFields (level : Nat) : List (String × Json) → List Char
  | [] => []
  | [(k, v)] => newLine level ++ quoted k.toList ++ [':', ' '] ++ layOut level v
  | (k, v) :: rest =>
    newLine level ++ quoted k.toList ++ [':', ' '] ++ layOut level v ++
      ',' :: layOutFields level rest

end

end QueryGate.Json
