import QueryGate.Chart.Reach
import QueryGate.Diagnostic
import QueryGate.Grammar.Scan

/-!
# The recognizer

A text is read from left to right. At every position there is a column of items, each of which
says how far a production has been matched and where it began. A column is the set of items that
can be reached from those the terminals before it led to : a rule is predicted where it is
expected, and finished items move on the items that wait for them. Rules that derive the empty
text are passed over when they are predicted.

Terminals are matched behind ignored text. `recognize` accepts a text if the root is finished
where only ignored text follows, and otherwise reports the furthest column.
-/

namespace QueryGate

open Text

/-- A production matched up to a point. -/
structure Item where
  production : Nat
  /-- Number of symbols matched. -/
  matched : Nat
  /-- The position where the production begins. -/
  origin : Nat
  deriving DecidableEq, Repr, Hashable

/-- The items at one position of a text. -/
structure Column where
  /-- Characters in front of the position. -/
  position : Nat
  /-- The text from the position on. -/
  rest : List Char
  items : List Item
  deriving Repr

/-- For every rule the items of a column that wait for it. -/
abbrev Waiting := Array (List Item)

namespace Chart

variable {ρ : Type} [Scanner ρ] (g : Grammar ρ)

/-- The symbol an item expects; none if it is finished. -/
def nextSymbol (item : Item) : Option Symbol :=
  g.productions[item.production]?.bind fun p => p.rhs[item.matched]?

/-- The rule whose production the item matches. -/
def ruleOf (item : Item) : Option Nat :=
  g.productions[item.production]?.map fun p => p.lhs

/-- The item with one more symbol matched. -/
def advance (item : Item) : Item :=
  { item with matched := item.matched + 1 }

/-- The items that begin a rule at a position. -/
def predicted (rule position : Nat) : List Item :=
  (g.productionsOf rule).map fun p => ⟨p, 0, position⟩

/-- The items of a column that wait for a rule. -/
def waitingFor (columns : Array Waiting) (position rule : Nat) : List Item :=
  ((columns[position]?.bind fun w => w[rule]?)).getD []

/-- The items that an item leads to without reading any text. Items finished where they began
were passed over already. -/
def successors (columns : Array Waiting) (position : Nat) (item : Item) : List Item :=
  match nextSymbol g item with
  | none =>
    if item.origin = position then []
    else match ruleOf g item with
      | some rule => (waitingFor columns item.origin rule).map advance
      | none => []
  | some (.rule rule) =>
    predicted g rule position ++ if g.isNullable rule then [advance item] else []
  | some (.terminal _) => []

/-- Number of points in all productions. -/
def pointCount : Nat :=
  (g.productions.toList.map fun p => p.rhs.length + 1).foldr (· + ·) 0

/-- The items of a column that was reached with the items `kernel`. -/
def closure (columns : Array Waiting) (position : Nat) (kernel : List Item) : List Item :=
  reach (successors g columns position) (pointCount g * (position + 1)) kernel

/-- The items that wait for each rule. -/
def waitingOf (items : List Item) : Waiting :=
  if items.isEmpty then #[]
  else items.foldl (fun w item =>
    match nextSymbol g item with
    | some (.rule rule) => w.modify rule (item :: ·)
    | _ => w) (Array.replicate g.ruleNames.size [])

/-- The terminal an item expects. -/
def nextTerminal? (item : Item) : Option Nat :=
  match nextSymbol g item with
  | some (.terminal t) => some t
  | _ => none

/-- The terminals that items expect, each once. -/
def expectedTerminals (items : List Item) : List Nat :=
  (items.filterMap (nextTerminal? g)).eraseDups

/-- The terminals among those expected that match behind ignored text, with the number of
characters up to where they end. -/
def terminalEnds (items : List Item) (s : List Char) : List (Nat × Nat) :=
  let start := skipIgnored g.ignored s
  let skipped := s.length - start.length
  (expectedTerminals g items).filterMap fun t =>
    (g.take? t start).map fun taken => (t, skipped + taken.length)

/-- The items that terminals lead to, with the positions where these end. -/
def scanned (position : Nat) (items : List Item) (s : List Char) : List (Nat × Item) :=
  let ends := terminalEnds g items s
  items.filterMap fun item =>
    (nextTerminal? g item).bind fun t =>
      (ends.lookup t).map fun n => (position + n, advance item)

/-- The columns from a position on. `pending` holds items for it and for later positions. -/
def columnsFrom (columns : Array Waiting) (pending : List (Nat × Item)) (position : Nat)
    (s : List Char) : List Column :=
  let kernel := (pending.filter fun e => e.1 == position).map (·.2)
  let items := if kernel.isEmpty then [] else closure g columns position kernel
  let column : Column := ⟨position, s, items⟩
  match s with
  | [] => [column]
  | _ :: rest =>
    let ahead := if items.isEmpty then [] else scanned g position items s
    column :: columnsFrom (columns.push (waitingOf g items))
      (ahead ++ pending.filter fun e => position < e.1) (position + 1) rest

/-- The columns of a text. -/
def columns (text : List Char) : List Column :=
  columnsFrom g #[] ((predicted g g.root 0).map fun item => (0, item)) 0 text

/-- Whether the root is finished in a column. -/
def rootFinished (c : Column) : Bool :=
  c.items.any fun item =>
    item.origin == 0 && ruleOf g item == some g.root && (nextSymbol g item).isNone

/-- Whether a statement may end in a column. -/
def isFinal (c : Column) : Bool :=
  !c.items.isEmpty && (skipIgnored g.ignored c.rest).isEmpty && rootFinished g c

/-- The last column with items. -/
def furthest? (cs : List Column) : Option Column :=
  cs.reverse.find? fun c => !c.items.isEmpty

/-- The names of the terminals expected in a column, in order and each once. -/
def expectedNames (c : Column) : List String :=
  (((expectedTerminals g c.items).map g.displayOf).mergeSort fun a b => decide (a ≤ b)).eraseDups

/-- The diagnostic for a text whose furthest column is `c`. -/
def diagnose (text : List Char) (c : Column) : Diagnostic :=
  let start := skipIgnored g.ignored c.rest
  Diagnostic.locate text (byteLength text - byteLength start) (expectedNames g c)

end Chart

/-- The result of reading a text with a grammar. -/
structure Verdict where
  accepted : Bool
  diagnostic : Option Diagnostic
  deriving DecidableEq, Repr

namespace Verdict

/-- The text is accepted. -/
def accept : Verdict := ⟨true, none⟩

/-- The text is rejected at a place. -/
def reject (d : Diagnostic) : Verdict := ⟨false, some d⟩

end Verdict

/-- Whether the root of a grammar derives a text; a diagnostic if it does not. -/
def recognize {ρ : Type} [Scanner ρ] (g : Grammar ρ) (text : List Char) : Verdict :=
  let cs := Chart.columns g text
  if cs.any (Chart.isFinal g) then .accept
  else match Chart.furthest? cs with
    | some c => .reject (Chart.diagnose g text c)
    | none => .reject (Diagnostic.locate text (g.skipOffset text 0) [])

end QueryGate
