import QueryGate.Grammar.Scanner
import QueryGate.Text.Numeric

/-!
# Grammars

A compiled grammar : productions over rules and terminals, both given by their index, with the
tables that the recognizer works with. Its terminals are matched by expressions of some kind, which
are regular expressions where nothing else is said.
-/

namespace QueryGate

/-- What stands on the right-hand side of a production. -/
inductive Symbol where
  | rule (index : Nat)
  | terminal (index : Nat)
  deriving DecidableEq, Repr, Hashable

/-- One way to derive a rule. -/
structure Production where
  lhs : Nat
  rhs : List Symbol
  deriving DecidableEq, Repr

/-- What a terminal was written as. -/
inductive Lexeme where
  /-- A terminal with a name. -/
  | named (name : String)
  /-- A quoted text inside a rule. -/
  | literal (value : String) (anyCase : Bool)
  /-- A regular expression inside a rule. -/
  | pattern (source flags : String)
  /-- A range inside a rule, as the pattern that matches it. -/
  | range (source : String)
  deriving DecidableEq, Repr

/-- A word : a letter or low line, then letters, numbers and low lines. -/
def isWord (s : List Char) : Bool :=
  match s with
  | [] => false
  | c :: cs => (Text.isAlphabetic c || c == '_') && cs.all Text.isWordChar

namespace Lexeme

/-- The name of a terminal in diagnostics. -/
def display : Lexeme → String
  | named name => name
  | literal value _ => "\"" ++ value ++ "\""
  | pattern source flags => "/" ++ source ++ "/" ++ flags
  | range source => source

/-- Whether the terminal is a quoted text. -/
def isLiteral : Lexeme → Bool
  | literal _ _ => true
  | _ => false

/-- The word a quoted text consists of, in upper case. -/
def keyword? : Lexeme → Option (List Char)
  | literal value _ => if isWord value.toList then some (Text.upper value.toList) else none
  | _ => none

/-- Whether the terminal is a quoted word. -/
def isKeyword (x : Lexeme) : Bool :=
  x.keyword?.isSome

end Lexeme

/-- A terminal and the expression that matches it. -/
structure Terminal (ρ : Type) where
  lexeme : Lexeme
  regex : ρ
  deriving DecidableEq, Repr

/-- A compiled grammar. -/
structure Grammar (ρ : Type := Regex) where
  /-- The text it was compiled from. -/
  source : String
  /-- The rule that derives whole statements. -/
  root : Nat
  ruleNames : Array String
  productions : Array Production
  /-- The productions of every rule, in order of creation. -/
  byRule : Array (List Nat)
  /-- Whether a rule derives the empty text. -/
  nullable : Array Bool
  terminals : Array (Terminal ρ)
  /-- What is passed over between terminals. -/
  ignored : List ρ
  /-- Words that only quoted texts may match, in upper case. -/
  reserved : List (List Char)
  deriving Repr

namespace Grammar

variable {ρ : Type}

/-- The name of a rule. -/
def ruleName (g : Grammar ρ) (rule : Nat) : String :=
  g.ruleNames[rule]?.getD ""

/-- The name of the root. -/
def rootName (g : Grammar ρ) : String :=
  g.ruleName g.root

/-- The productions of a rule. -/
def productionsOf (g : Grammar ρ) (rule : Nat) : List Nat :=
  g.byRule[rule]?.getD []

/-- Whether a rule derives the empty text. -/
def isNullable (g : Grammar ρ) (rule : Nat) : Bool :=
  g.nullable[rule]?.getD false

/-- The name of a terminal in diagnostics. -/
def displayOf (g : Grammar ρ) (terminal : Nat) : String :=
  (g.terminals[terminal]?.map fun t => t.lexeme.display).getD ""

/-- Names that begin like this belong to rules made for groups and repetitions. -/
def helperMark : String := "__"

/-- The number of rules the source defines. -/
def ruleCount (g : Grammar ρ) : Nat :=
  g.ruleNames.toList.countP fun n => !(helperMark.toList.isPrefixOf n.toList)

end Grammar

end QueryGate
