import QueryGate.Ebnf.Expr
import QueryGate.Grammar.Error
import QueryGate.Regex.PatternReader

/-!
# Terminals as patterns

A terminal expression is matched as one regular expression. `patternOf` writes its pattern,
`namedPattern` that of a terminal referred to by name. Patterns of names are kept in a `Resolver`
once they are known, and a name met while its own pattern is being written is refused.
-/

namespace QueryGate

open Ebnf

/-- What is known about the patterns of names. -/
structure Resolver where
  /-- Names with their patterns. -/
  resolved : List (String × List Char) := []
  /-- Names whose pattern is being written. -/
  inProgress : List String := []
  deriving Repr

/-- A computation that may add to the known patterns, or find an error. -/
abbrev Resolve := StateT Resolver (Except GrammarError)

namespace TerminalPattern

/-- A text as a pattern that matches just this text. -/
def escape (s : List Char) : List Char :=
  s.flatMap fun c => if Regex.isMeta c then ['\\', c] else [c]

/-- A pattern in a group of its own. -/
def grouped (p : List Char) : List Char :=
  "(?:".toList ++ p ++ [')']

/-- A pattern in a group with flags; without any it is a plain group. -/
def flagged (flags p : List Char) : List Char :=
  if flags.isEmpty then grouped p else "(?".toList ++ flags ++ ':' :: p ++ [')']

/-- The flags of a regular expression that change what it matches. -/
def meaningfulFlags (flags : String) : List Char :=
  flags.toList.filter fun c => c != 'l'

/-- The operator for a number of repetitions. -/
def repetition : Nat → Option Nat → List Char
  | 0, some 1 => ['?']
  | 0, none => ['*']
  | 1, none => ['+']
  | n, none => '\x7b' :: (toString n).toList ++ [',', '\x7d']
  | n, some m => '\x7b' :: (toString n).toList ++ ',' :: (toString m).toList ++ ['\x7d']

/-- The pattern of a quoted text. -/
def ofLiteral (value : String) (anyCase : Bool) : List Char :=
  if anyCase then flagged ['i'] (escape value.toList) else escape value.toList

/-- The pattern of a regular expression with its flags. -/
def ofPattern (source flags : String) : List Char :=
  flagged (meaningfulFlags flags) source.toList

/-- The pattern of a range of characters. -/
def ofRange (first last : Char) : List Char :=
  '[' :: escape [first] ++ '-' :: escape [last] ++ [']']

mutual

/-- The pattern of an expression that belongs to the terminal `owner`; `named` gives the pattern
of a name and who refers to it. -/
def patternOf (named : String → String → Resolve (List Char)) (owner : String) :
    Expr → Resolve (List Char)
  | .literal value anyCase => pure (ofLiteral value anyCase)
  | .pattern source flags => pure (ofPattern source flags)
  | .range first last => pure (ofRange first last)
  | .name symbol =>
    if isTerminalName symbol then do pure (grouped (← named symbol owner))
    else throw (.badTerminal owner (.refersToRule symbol))
  | .seq parts => do pure (grouped (← patternsOf named owner parts).flatten)
  | .alt options => do
    pure (grouped (((← patternsOf named owner options).intersperse ['|']).flatten))
  | .rep body least most => do
    pure (grouped (← patternOf named owner body) ++ repetition least most)

/-- The patterns of expressions, in order. -/
def patternsOf (named : String → String → Resolve (List Char)) (owner : String) :
    List Expr → Resolve (List (List Char))
  | [] => pure []
  | e :: es => do
    let p ← patternOf named owner e
    let ps ← patternsOf named owner es
    pure (p :: ps)

end

/-- The pattern of a name. Of the terminals, the first with the name counts; `fuel` bounds how
many names may be in progress, and there are no more of them than terminals. -/
def namedPattern (terminals : List (String × Expr)) :
    (fuel : Nat) → (name referredBy : String) → Resolve (List Char)
  | fuel, name, referredBy => do
    let known ← get
    match known.resolved.lookup name with
    | some p => pure p
    | none =>
      match terminals.lookup name with
      | none => throw (.undefined name referredBy)
      | some e =>
        if known.inProgress.contains name then throw (.badTerminal name .refersToItself)
        else match fuel with
          | 0 => throw (.badTerminal name .refersToItself)
          | fuel + 1 => do
            set { known with inProgress := name :: known.inProgress }
            let p ← patternOf (namedPattern terminals fuel) name e
            modify fun k => ⟨(name, p) :: k.resolved, k.inProgress.erase name⟩
            pure p

/-- The pattern of a name among terminals. -/
def ofName (terminals : List (String × Expr)) (name referredBy : String) : Resolve (List Char) :=
  namedPattern terminals (terminals.length + 1) name referredBy

/-- The pattern of an expression among terminals. -/
def ofExpr (terminals : List (String × Expr)) (owner : String) (e : Expr) : Resolve (List Char) :=
  patternOf (ofName terminals) owner e

end TerminalPattern

end QueryGate
