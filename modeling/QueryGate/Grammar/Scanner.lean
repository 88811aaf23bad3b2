import QueryGate.Regex.Build

/-!
# Scanners

What grammars ask of the expressions that their terminals are matched by : a pattern is compiled to
an expression, and where an expression matches at the start of a text, the match is a part of the
text (`Scanner`). Grammars are compiled and texts are recognized with expressions of any kind; the
ones that the program runs are `Regex`.
-/

namespace QueryGate

/-- A kind of expressions that texts are scanned with. -/
class Scanner (ρ : Type) where
  /-- The expression a pattern stands for. -/
  compile : List Char → Except Regex.PatternFault ρ
  /-- The length of the match of an expression at the start of a text. -/
  matchLength? : ρ → List Char → Option Nat
  /-- A match is a part of the text. -/
  le_length {r : ρ} {s : List Char} {n : Nat} : matchLength? r s = some n → n ≤ s.length

instance : Scanner Regex where
  compile := Regex.compile
  matchLength? r s := r.matchLength? none s
  le_length := Regex.matchLength?_le

namespace Scanner

theorem compile_regex (pattern : List Char) : compile pattern = Regex.compile pattern :=
  rfl

theorem matchLength?_regex (r : Regex) (s : List Char) :
    matchLength? r s = r.matchLength? none s :=
  rfl

variable {ρ : Type} [Scanner ρ] {r : ρ} {s : List Char} {n : Nat}

/-- The length of the match of an expression at the start of a text, if it is not empty. -/
def nonempty? (r : ρ) (s : List Char) : Option Nat :=
  (matchLength? r s).filter (0 < ·)

theorem nonempty?_eq_some_iff : nonempty? r s = some n ↔ matchLength? r s = some n ∧ 0 < n := by
  simp [nonempty?, Option.filter_eq_some_iff]

theorem nonempty?_le (h : nonempty? r s = some n) : 0 < n ∧ n ≤ s.length :=
  have hmatch := nonempty?_eq_some_iff.mp h
  ⟨hmatch.2, le_length hmatch.1⟩

end Scanner

end QueryGate
