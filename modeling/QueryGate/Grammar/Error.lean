import QueryGate.Regex.Pattern
import QueryGate.File

/-!
# What can be wrong with a grammar

Causes of a failure to compile a grammar source, each with its wording (`GrammarError.message`).
-/

namespace QueryGate

/-- What is wrong with the line of a definition. -/
inductive LineFault where
  /-- Nothing is left where more was expected. -/
  | unexpectedEnd
  /-- The text where reading stopped. -/
  | unexpectedInput (near : String)
  /-- A second definition of a terminal. -/
  | terminalTwice (name : String)
  /-- A second definition of a rule. -/
  | ruleTwice (name : String)
  /-- An import from a module that does not exist. -/
  | unknownModule (module : String)
  deriving DecidableEq, Repr

/-- What is wrong with a terminal. -/
inductive TerminalFault where
  /-- The module has no terminal of this name. -/
  | notInModule
  /-- Its expression leads back to it. -/
  | refersToItself
  /-- Its expression names a rule. -/
  | refersToRule (rule : String)
  /-- Its regular expression is refused. -/
  | badPattern (fault : Regex.PatternFault)
  deriving DecidableEq, Repr

/-- Why a grammar cannot be used. -/
inductive GrammarError where
  /-- The file of the source cannot be read. -/
  | unreadable (path : String) (fault : FileFault)
  /-- A line of the source is not a definition that can stand there. -/
  | badLine (line : Nat) (fault : LineFault)
  /-- A name without definition, and the rule or terminal that uses it first. -/
  | undefined (symbol : String) (usedBy : String)
  /-- The start symbol is not defined. -/
  | noRoot (root : String)
  /-- A terminal that cannot be matched. -/
  | badTerminal (name : String) (fault : TerminalFault)
  deriving DecidableEq, Repr

/-- The wording of a fault in a line. -/
def LineFault.message : LineFault → String
  | unexpectedEnd => "unexpected end of definition"
  | unexpectedInput near => s!"unexpected input near '{near}'"
  | terminalTwice name => s!"terminal '{name}' is defined twice"
  | ruleTwice name => s!"rule '{name}' is defined twice"
  | unknownModule module => s!"unsupported import module '{module}'"

/-- The wording of a fault in a terminal. -/
def TerminalFault.message : TerminalFault → String
  | notInModule => "not available in common"
  | refersToItself => "terminal refers to itself"
  | refersToRule rule => s!"terminals cannot refer to rule '{rule}'"
  | badPattern fault => fault.message

/-- The wording of an error. -/
def GrammarError.message : GrammarError → String
  | unreadable path fault => s!"Failed to read grammar source {path}: {fault.message}"
  | badLine line fault => s!"Grammar syntax error at line {line}: {fault.message}"
  | undefined symbol usedBy => s!"Undefined symbol '{symbol}' referenced by '{usedBy}'"
  | noRoot root => s!"Root symbol '{root}' is not defined"
  | badTerminal name fault => s!"Invalid terminal '{name}': {fault.message}"

end QueryGate
