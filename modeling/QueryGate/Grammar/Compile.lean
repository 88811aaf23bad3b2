import QueryGate.Ebnf.Source
import QueryGate.Grammar.Basic
import QueryGate.Grammar.TerminalPattern

/-!
# Compiling grammars

`Grammar.compile` reads a source and turns its rules into productions. Groups and repetitions
get rules of their own, the patterns of terminals are compiled once each, and every name that is
used has to be defined.
-/

namespace QueryGate

open Ebnf

/-! ## Terminals for import -/

/-- The terminals that can be imported from the module `common`, with their patterns. -/
def commonTerminals : List (String × String) :=
  let exponent := "[eE][+-]?[0-9]+"
  let decimal := "(?:[0-9]+\\.[0-9]*|\\.[0-9]+)"
  let float := "(?:[0-9]+" ++ exponent ++ "|" ++ decimal ++ "(?:" ++ exponent ++ ")?)"
  let number := "(?:" ++ float ++ "|[0-9]+)"
  [ ("WS", "[ \\t\\f\\r\\n]+"),
    ("WS_INLINE", "[ \\t]+"),
    ("NEWLINE", "(?:\\r?\\n[\\t ]*)+"),
    ("CNAME", "[A-Za-z_][A-Za-z0-9_]*"),
    ("LETTER", "[A-Za-z]"),
    ("DIGIT", "[0-9]"),
    ("WORD", "[A-Za-z]+"),
    ("INT", "[0-9]+"),
    ("SIGNED_INT", "[+-]?[0-9]+"),
    ("DECIMAL", decimal),
    ("FLOAT", float),
    ("NUMBER", number),
    ("SIGNED_NUMBER", "[+-]?" ++ number),
    ("ESCAPED_STRING", "\"(?:[^\"\\\\]|\\\\.)*\"") ]

/-- The module that terminals can be imported from. -/
def commonModule : String := "common"

/-! ## Collecting definitions -/

/-- The definitions of a source by kind. -/
structure Collected where
  /-- Terminals with their expressions; of several with one name the first counts. -/
  terminals : List (String × Expr) := []
  /-- Rules in the order of the source, the last one first. -/
  rules : List (String × Expr) := []
  /-- Expressions to be passed over, the last one first. -/
  ignores : List Expr := []
  deriving Repr

/-- Adds the terminals of an import. -/
def Collected.addImports (c : Collected) :
    List (String × String) → Except GrammarError Collected
  | [] => .ok c
  | (localName, imported) :: rest =>
    match commonTerminals.lookup imported with
    | none => .error (.badTerminal imported .notInModule)
    | some source =>
      addImports { c with terminals := (localName, .pattern source "") :: c.terminals } rest

/-- Adds a definition. -/
def Collected.add (c : Collected) (d : Located) : Except GrammarError Collected :=
  match d.definition with
  | .terminal name e =>
    if (c.terminals.lookup name).isSome then .error (.badLine d.line (.terminalTwice name))
    else .ok { c with terminals := (name, e) :: c.terminals }
  | .rule name e =>
    if (c.rules.lookup name).isSome then .error (.badLine d.line (.ruleTwice name))
    else .ok { c with rules := (name, e) :: c.rules }
  | .imports module names =>
    if module != commonModule then .error (.badLine d.line (.unknownModule module))
    else c.addImports names
  | .ignore e => .ok { c with ignores := e :: c.ignores }

/-- The definitions of a source by kind. -/
def collect (ds : List Located) : Except GrammarError Collected :=
  ds.foldlM Collected.add {}

/-! ## Building productions -/

/-- A grammar while it is being built. -/
structure Draft (ρ : Type) where
  ruleNames : Array String := #[]
  /-- Whether a rule has been given productions. -/
  defined : Array Bool := #[]
  /-- For rules that are referred to, who did so first. -/
  firstUse : List (Nat × String) := []
  productions : Array Production := #[]
  terminals : Array (Terminal ρ) := #[]
  /-- Number of rules made for groups and repetitions. -/
  helpers : Nat := 0
  resolver : Resolver := {}
  deriving Repr

/-- A step in building a grammar. -/
abbrev Build (ρ : Type) := StateT (Draft ρ) (Except GrammarError)

namespace Build

variable {ρ : Type} [Scanner ρ]

/-- The index of a rule, a new one if the name is new. -/
def ruleId (name : String) : Build ρ Nat := do
  let d ← get
  match d.ruleNames.idxOf? name with
  | some i => pure i
  | none =>
    set { d with ruleNames := d.ruleNames.push name, defined := d.defined.push false }
    pure d.ruleNames.size

/-- Notes that a rule has productions. -/
def define (rule : Nat) : Build ρ Unit :=
  modify fun d => { d with defined := d.defined.setIfInBounds rule true }

/-- A rule for a group or a repetition in the rule `owner`. -/
def helperRule (owner : String) : Build ρ Nat := do
  modify fun d => { d with helpers := d.helpers + 1 }
  let d ← get
  let rule ← ruleId (Grammar.helperMark ++ owner ++ "_" ++ toString d.helpers)
  define rule
  pure rule

/-- Adds a production. -/
def produce (lhs : Nat) (rhs : List Symbol) : Build ρ Unit :=
  modify fun d => { d with productions := d.productions.push ⟨lhs, rhs⟩ }

/-- Runs a step of the resolver. -/
def resolve {α : Type} (step : Resolve α) : Build ρ α := fun d => do
  let (a, resolver) ← step d.resolver
  .ok (a, { d with resolver })

/-- A pattern that has to match where it is tried. -/
def anchored (name : String) (pattern : List Char) : Except GrammarError ρ :=
  match Scanner.compile ('^' :: TerminalPattern.grouped pattern) with
  | .ok r => .ok r
  | .error fault => .error (.badTerminal name (.badPattern fault))

/-- The terminal of a lexeme; its pattern is compiled when it is met for the first time. -/
def terminal (x : Lexeme) (pattern : Build ρ (List Char)) : Build ρ Symbol := do
  match (← get).terminals.findIdx? fun t => t.lexeme == x with
  | some i => pure (.terminal i)
  | none =>
    let source ← pattern
    let regex ← anchored x.display source
    let d ← get
    set { d with terminals := d.terminals.push ⟨x, regex⟩ }
    pure (.terminal d.terminals.size)

/-- A reference to a rule. -/
def reference (name owner : String) : Build ρ Symbol := do
  let rule ← ruleId name
  modify fun d =>
    if (d.firstUse.lookup rule).isSome then d
    else { d with firstUse := (rule, owner) :: d.firstUse }
  pure (.rule rule)

/-- A rule that repeats a symbol. Unbounded repetition recurs on the left. -/
def repetition (item : Symbol) (least : Nat) (most : Option Nat) (owner : String) :
    Build ρ Symbol := do
  let rule ← helperRule owner
  match most with
  | none =>
    produce rule (List.replicate least item)
    produce rule [.rule rule, item]
  | some most =>
    for count in List.range' least (max most least + 1 - least) do
      produce rule (List.replicate count item)
  pure (.rule rule)

mutual

/-- The symbol of an expression in the rule `owner`; groups become rules. -/
def symbolOf (terminals : List (String × Expr)) (owner : String) : Expr → Build ρ Symbol
  | .name symbol =>
    if isTerminalName symbol then
      terminal (.named symbol) (resolve (TerminalPattern.ofName terminals symbol owner))
    else reference symbol owner
  | .literal value anyCase =>
    terminal (.literal value anyCase) (pure (TerminalPattern.ofLiteral value anyCase))
  | .pattern source flags =>
    terminal (.pattern source flags) (pure (TerminalPattern.ofPattern source flags))
  | .range first last =>
    let source := TerminalPattern.ofRange first last
    terminal (.range (String.ofList source)) (pure source)
  | .seq parts => do
    let rule ← helperRule owner
    produce rule (← symbolsOf terminals owner parts)
    pure (.rule rule)
  | .alt options => do
    let rule ← helperRule owner
    alternatives terminals owner rule options
    pure (.rule rule)
  | .rep body least most => do
    let item ← symbolOf terminals owner body
    repetition item least most owner

/-- The symbols of expressions one after the other; sequences among them are flattened. -/
def symbolsOf (terminals : List (String × Expr)) (owner : String) :
    List Expr → Build ρ (List Symbol)
  | [] => pure []
  | .seq parts :: es => do
    let inner ← symbolsOf terminals owner parts
    let rest ← symbolsOf terminals owner es
    pure (inner ++ rest)
  | e :: es => do
    let s ← symbolOf terminals owner e
    let rest ← symbolsOf terminals owner es
    pure (s :: rest)

/-- A production of `rule` for every alternative. -/
def alternatives (terminals : List (String × Expr)) (owner : String) (rule : Nat) :
    List Expr → Build ρ Unit
  | [] => pure ()
  | .seq parts :: es => do
    produce rule (← symbolsOf terminals owner parts)
    alternatives terminals owner rule es
  | e :: es => do
    let s ← symbolOf terminals owner e
    produce rule [s]
    alternatives terminals owner rule es

end

/-- The alternatives of an expression. -/
def optionsOf : Expr → List Expr
  | .alt options => options
  | e => [e]

/-- The productions of a rule of the source. -/
def rule (terminals : List (String × Expr)) (name : String) (body : Expr) : Build ρ Unit := do
  let lhs ← ruleId name
  define lhs
  alternatives terminals name lhs (optionsOf body)

/-- The productions of all rules. Rules of the source have the first indices. -/
def rules (c : Collected) : Build ρ Unit := do
  for (name, _) in c.rules.reverse do
    let _ ← ruleId name
  for (name, body) in c.rules.reverse do
    rule c.terminals name body

end Build

/-! ## Tables -/

/-- Whether all symbols are rules known to derive the empty text. -/
def allNullable (nullable : Array Bool) (rhs : List Symbol) : Bool :=
  rhs.all fun
    | .rule r => nullable[r]?.getD false
    | .terminal _ => false

/-- One pass over the productions that marks rules deriving the empty text. -/
def nullablePass (productions : Array Production) (nullable : Array Bool) : Array Bool :=
  productions.foldl (fun marks p =>
    if allNullable marks p.rhs then marks.setIfInBounds p.lhs true else marks) nullable

/-- Passes over the productions until nothing changes, at most `fuel` of them. -/
def nullableClosure (productions : Array Production) : (fuel : Nat) → Array Bool → Array Bool
  | 0, marks => marks
  | fuel + 1, marks =>
    let next := nullablePass productions marks
    if next == marks then marks else nullableClosure productions fuel next

/-- Marks the rules that derive the empty text. Every pass but the last marks a further one. -/
def nullableRules (ruleCount : Nat) (productions : Array Production) : Array Bool :=
  nullableClosure productions ruleCount (Array.replicate ruleCount false)

/-- The productions of every rule, in order of creation. -/
def productionsByRule (ruleCount : Nat) (productions : Array Production) : Array (List Nat) :=
  (Array.range ruleCount).map fun r =>
    (List.range productions.size).filter fun i => productions[i]?.any fun p => p.lhs == r

/-- The first rule that is used and has no productions. -/
def Draft.undefined? {ρ : Type} (d : Draft ρ) : Option GrammarError :=
  (d.defined.findIdx? (!·)).map fun i =>
    .undefined (d.ruleNames[i]?.getD "") ((d.firstUse.lookup i).getD "")

/-- The name under which the pattern of an ignored expression is known. -/
def ignoreName : String := "%ignore"

/-- The expressions of what is passed over. -/
def ignoredRegexes {ρ : Type} [Scanner ρ] (c : Collected) : Resolve (List ρ) :=
  c.ignores.reverse.mapM fun e => do
    let pattern ← TerminalPattern.ofExpr c.terminals ignoreName e
    Build.anchored ignoreName pattern

/-- The grammar of a source with the start symbol `root`. -/
def Grammar.compile {ρ : Type} [Scanner ρ] (source root : String) :
    Except GrammarError (Grammar ρ) := do
  let c ← collect (← definitions source)
  let (_, d) ← (Build.rules c).run {}
  match d.undefined? with
  | some e => .error e
  | none =>
    match d.ruleNames.idxOf? root with
    | none => .error (.noRoot root)
    | some rootRule =>
      let (ignored, _) ← (ignoredRegexes c).run d.resolver
      .ok {
        source := source
        root := rootRule
        ruleNames := d.ruleNames
        productions := d.productions
        byRule := productionsByRule d.ruleNames.size d.productions
        nullable := nullableRules d.ruleNames.size d.productions
        terminals := d.terminals
        ignored := ignored
        reserved := d.terminals.toList.filterMap fun t => t.lexeme.keyword? }

end QueryGate
