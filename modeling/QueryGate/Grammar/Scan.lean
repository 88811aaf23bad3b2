import QueryGate.Grammar.Basic
import QueryGate.Text.Basic

/-!
# Matching terminals

How a grammar reads a text : ignored text is passed over (`skipIgnored`), then a terminal takes
what its expression matches (`Terminal.take?`). Quoted words end where words end, and no other
terminal takes a reserved word. Offsets are in bytes (`matchTerminal?`, `skipOffset`).
-/

namespace QueryGate

open Text

variable {ρ : Type} [Scanner ρ]

/-- What a terminal takes off the front of a text. -/
def Terminal.take? (t : Terminal ρ) (reserved : List (List Char)) (s : List Char) :
    Option (List Char) :=
  (Scanner.nonempty? t.regex s).bind fun n =>
    let taken := s.take n
    if t.lexeme.isKeyword && ((s.drop n).head?.any isWordChar) then none
    else if !t.lexeme.isLiteral && reserved.contains (upper taken) then none
    else some taken

/-- One attempt with every ignored expression, one after the other. -/
def skipRound (ignored : List ρ) (s : List Char) : List Char :=
  ignored.foldl (fun s r => s.drop ((Scanner.nonempty? r s).getD 0)) s

theorem skipRound_length_le (ignored : List ρ) (s : List Char) :
    (skipRound ignored s).length ≤ s.length := by
  induction ignored generalizing s with
  | nil => exact Nat.le_refl _
  | cons r rs ih =>
    exact Nat.le_trans (ih _) (by rw [List.length_drop]; exact Nat.sub_le _ _)

/-- A text from the first place on where no ignored expression matches. -/
def skipIgnored (ignored : List ρ) (s : List Char) : List Char :=
  if (skipRound ignored s).length < s.length then skipIgnored ignored (skipRound ignored s)
  else s
termination_by s.length

namespace Grammar

/-- What a terminal takes off the front of a text. -/
def take? (g : Grammar ρ) (terminal : Nat) (s : List Char) : Option (List Char) :=
  g.terminals[terminal]?.bind fun t => t.take? g.reserved s

/-- The offset at which a terminal that begins at `offset` ends. -/
def matchTerminal? (g : Grammar ρ) (terminal : Nat) (text : List Char) (offset : Nat) :
    Option Nat :=
  (dropBytes? text offset).bind fun s =>
    (g.take? terminal s).map fun taken => offset + byteLength taken

/-- The offset from which on no ignored text follows. An offset inside a character stays. -/
def skipOffset (g : Grammar ρ) (text : List Char) (offset : Nat) : Nat :=
  match dropBytes? text offset with
  | none => offset
  | some s => offset + (byteLength s - byteLength (skipIgnored g.ignored s))

end Grammar

end QueryGate
