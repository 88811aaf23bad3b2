import QueryGate.Grammar.Compile

/-!
# How building goes through expressions

The steps that build symbols and alternatives call one another. What holds of the steps they are
composed of, and is kept where these are composed, holds of all three by one induction
(`Build.Assembles.holds`). Of an expression that is a single terminal only its lexeme matters
(`Build.symbolOf_of_lexeme?`).
-/

namespace QueryGate

open Ebnf

/-- The lexeme of an expression that is a single terminal. -/
def Ebnf.Expr.lexeme? : Expr → Option Lexeme
  | .name symbol => if isTerminalName symbol then some (.named symbol) else none
  | .literal value anyCase => some (.literal value anyCase)
  | .pattern source flags => some (.pattern source flags)
  | .range first last => some (.range (String.ofList (TerminalPattern.ofRange first last)))
  | _ => none

namespace Build

/-- The step that writes the pattern of a lexeme in the rule `owner`. -/
def lexemePattern {ρ : Type} (terminals : List (String × Expr)) (owner : String) :
    Lexeme → Build ρ (List Char)
  | .named name => resolve (TerminalPattern.ofName terminals name owner)
  | .literal value anyCase => pure (TerminalPattern.ofLiteral value anyCase)
  | .pattern source flags => pure (TerminalPattern.ofPattern source flags)
  | .range source => pure source.toList

variable {ρ : Type} [Scanner ρ] {terminals : List (String × Expr)} {owner : String}

theorem symbolOf_of_lexeme? {e : Expr} {x : Lexeme} (h : e.lexeme? = some x) :
    (symbolOf terminals owner e : Build ρ Symbol) =
      terminal x (lexemePattern terminals owner x) := by
  cases e with
  | name symbol =>
    rw [Expr.lexeme?] at h
    split at h
    · next hsymbol =>
      obtain rfl := Option.some.inj h
      rw [symbolOf, if_pos hsymbol, lexemePattern]
    · cases h
  | literal | pattern =>
    obtain rfl := Option.some.inj h
    rw [symbolOf, lexemePattern]
  | range first last =>
    obtain rfl := Option.some.inj h
    rw [symbolOf, lexemePattern, String.toList_ofList]
  | seq | alt | rep => cases h

/-- What the steps have in common that build a symbol for an expression, symbols for expressions,
or alternatives of a rule : it holds of the single steps, and of what is composed of steps of which
it holds. An alternative adds one production, whether it is a sequence or not. -/
structure Assembles (terminals : List (String × Expr)) (owner : String)
    (ofSymbol : Expr → Build ρ Symbol → Prop) (ofSymbols : List Expr → Build ρ (List Symbol) → Prop)
    (ofOptions : Nat → List Expr → Build ρ Unit → Prop) : Prop where
  lexeme : ∀ {e x}, e.lexeme? = some x →
    ofSymbol e (terminal x (lexemePattern terminals owner x))
  name : ∀ {n}, isTerminalName n = false → ofSymbol (.name n) (reference n owner)
  seq : ∀ {parts build}, ofSymbols parts build → ofSymbol (.seq parts) (do
    let r ← helperRule owner
    produce r (← build)
    pure (.rule r))
  alt : ∀ {options} {build : Nat → Build ρ Unit}, (∀ r, ofOptions r options (build r)) →
    ofSymbol (.alt options) (do
      let r ← helperRule owner
      build r
      pure (.rule r))
  rep : ∀ {body build} least most, ofSymbol body build → ofSymbol (.rep body least most) (do
    let item ← build
    repetition item least most owner)
  nil : ofSymbols [] (pure [])
  flat : ∀ {parts es build buildRest}, ofSymbols parts build → ofSymbols es buildRest →
    ofSymbols (.seq parts :: es) (do
      let inner ← build
      let rest ← buildRest
      pure (inner ++ rest))
  cons : ∀ {e es build buildRest}, ofSymbol e build → ofSymbols es buildRest →
    ofSymbols (e :: es) (do
      let s ← build
      let rest ← buildRest
      pure (s :: rest))
  noOption : ∀ r, ofOptions r [] (pure ())
  option : ∀ {r e es build buildRest}, ofSymbols [e] build → ofOptions r es buildRest →
    ofOptions r (e :: es) (do
      produce r (← build)
      buildRest)

variable {ofSymbol : Expr → Build ρ Symbol → Prop}
  {ofSymbols : List Expr → Build ρ (List Symbol) → Prop}
  {ofOptions : Nat → List Expr → Build ρ Unit → Prop}

theorem Assembles.seqOption (h : Assembles terminals owner ofSymbol ofSymbols ofOptions) {r : Nat}
    {parts es : List Expr} {build : Build ρ (List Symbol)} {buildRest : Build ρ Unit}
    (hparts : ofSymbols parts build) (hes : ofOptions r es buildRest) :
    ofOptions r (.seq parts :: es) (do
      produce r (← build)
      buildRest) := by
  simpa using h.option (h.flat hparts h.nil) hes

theorem Assembles.singleOption (h : Assembles terminals owner ofSymbol ofSymbols ofOptions)
    {r : Nat} {e : Expr} {es : List Expr} {build : Build ρ Symbol} {buildRest : Build ρ Unit}
    (he : ofSymbol e build) (hes : ofOptions r es buildRest) :
    ofOptions r (e :: es) (do
      let s ← build
      produce r [s]
      buildRest) := by
  simpa using h.option (h.cons he h.nil) hes

/-- The three recursions follow the constructors of expressions and lists, and so does this. -/
theorem Assembles.holds (h : Assembles terminals owner ofSymbol ofSymbols ofOptions) :
    (∀ e, ofSymbol e (symbolOf terminals owner e)) ∧
      (∀ r es, ofOptions r es (alternatives terminals owner r es)) ∧
      ∀ es, ofSymbols es (symbolsOf terminals owner es) := by
  refine symbolOf.mutual_induct _ _ _ ?name ?ruleName ?literal ?pattern ?range ?seq ?alt ?rep
    ?noOption ?seqOption ?option ?noPart ?seqPart ?part
  case name =>
    intro symbol hsymbol
    have hx : (Expr.name symbol).lexeme? = some (.named symbol) := if_pos hsymbol
    exact symbolOf_of_lexeme? (ρ := ρ) hx ▸ h.lexeme hx
  case ruleName =>
    intro symbol hsymbol
    rw [symbolOf, if_neg hsymbol]
    exact h.name (Bool.eq_false_iff.mpr hsymbol)
  case literal | pattern | range =>
    intros
    rw [symbolOf_of_lexeme? rfl]
    exact h.lexeme rfl
  case seq =>
    intro parts ih
    rw [symbolOf]
    exact h.seq ih
  case alt =>
    intro options ih
    rw [symbolOf]
    exact h.alt ih
  case rep =>
    intro body least most ih
    rw [symbolOf]
    exact h.rep least most ih
  case noOption =>
    intro r
    rw [alternatives]
    exact h.noOption r
  case seqOption =>
    intro r parts es ihparts ih
    rw [alternatives]
    exact h.seqOption ihparts ih
  case option =>
    intro r e es hseq ihe ih
    rw [alternatives]
    · exact h.singleOption ihe ih
    · exact hseq
  case noPart =>
    rw [symbolsOf]
    exact h.nil
  case seqPart =>
    intro parts es ihparts ih
    rw [symbolsOf]
    exact h.flat ihparts ih
  case part =>
    intro e es hseq ihe ih
    rw [symbolsOf]
    · exact h.cons ihe ih
    · exact hseq

end Build

end QueryGate
