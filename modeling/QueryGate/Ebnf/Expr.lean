/-!
# Grammar notation

The definitions a grammar source is made of. The right-hand side of a rule or a terminal is an
expression `Expr`; upper case in the first letter of a name tells terminals from rules
(`isTerminalName`).
-/

namespace QueryGate.Ebnf

/-- The right-hand side of a rule or a terminal. -/
inductive Expr where
  /-- A quoted text, with case ignored under the flag `i`. -/
  | literal (value : String) (anyCase : Bool)
  /-- A regular expression between slashes, with its flags. -/
  | pattern (source : String) (flags : String)
  /-- One character between two bounds. -/
  | range (first last : Char)
  /-- A reference to a rule or a terminal. -/
  | name (symbol : String)
  /-- One part after the other. -/
  | seq (parts : List Expr)
  /-- Any one of the alternatives. -/
  | alt (options : List Expr)
  /-- A number of repetitions between two bounds; without the second one, any number from the
  first on. -/
  | rep (body : Expr) (least : Nat) (most : Option Nat)
  deriving Repr, Inhabited

/-- One statement of a grammar source. -/
inductive Definition where
  /-- A rule and what it derives. -/
  | rule (name : String) (body : Expr)
  /-- A terminal and what it matches. -/
  | terminal (name : String) (body : Expr)
  /-- Terminals taken from a module, as pairs of local and imported name. -/
  | imports (module : String) (names : List (String × String))
  /-- Text to be passed over between terminals. -/
  | ignore (body : Expr)
  deriving Repr, Inhabited

/-- A definition and the line it begins on, counted from one. -/
structure Located where
  line : Nat
  definition : Definition
  deriving Repr, Inhabited

/-- Names whose first ASCII letter is in upper case name terminals. -/
def isTerminalName (name : String) : Bool :=
  ((name.toList.find? Char.isAlpha).map Char.isUpper).getD false

end QueryGate.Ebnf
