import QueryGate.Settings.Error
import QueryGate.Text.WhiteSpace
import QueryGate.Text.Numeric

/-!
# Filters for the log

A filter is a list of directives between commas. A directive names a target, a span with a field,
or both, and after an equals sign the level up to which they are logged; a word alone is a level
if it names one, else a target. Of two directives for the same place the last one counts.
`LogFilter.ofLevel` adds to the filter of the settings that the libraries for connections only
log warnings.
-/

namespace QueryGate

/-- Levels of the log, from nothing to everything. -/
inductive LogLevel where
  | off
  | error
  | warn
  | info
  | debug
  | trace
  deriving DecidableEq, Repr

namespace LogLevel

/-- The name of a level. -/
def name : LogLevel → String
  | off => "off"
  | error => "error"
  | warn => "warn"
  | info => "info"
  | debug => "debug"
  | trace => "trace"

/-- The levels by number. -/
def all : List LogLevel := [off, error, warn, info, debug, trace]

/-- The level with a number or, in any case, a name. -/
def ofText? (s : List Char) : Option LogLevel :=
  match Decimal.readNatural Decimal.maxWord s with
  | .ok n => all[n]?
  | .error _ => all.find? fun l => Text.sameLetters l.name.toList s

/-- The level in a directive; nothing stands for everything. -/
def ofDirective? (s : List Char) : Option LogLevel :=
  if s.isEmpty then some trace else ofText? s

end LogLevel

/-- A directive : what is logged up to which level. -/
structure LogDirective where
  target : Option (List Char)
  span : Option (List Char)
  fields : List (List Char)
  level : LogLevel
  deriving DecidableEq, Repr

namespace LogDirective

/-- Where in a directive a character stands; numbers are offsets at which a part begins. -/
inductive Place where
  | start
  | word (begin : Nat)
  | span (begin : Nat)
  | field (begin : Nat)
  /-- Behind the fields of a span. -/
  | fields
  /-- Behind a span. -/
  | target
  | level (begin : Nat)
  deriving DecidableEq, Repr

/-- What is left of a text from an offset on. -/
def tail (text : List Char) (i : Nat) : List Char :=
  (Text.dropBytes? text i).getD []

/-- The part of a text between two offsets. -/
def slice (text : List Char) (i j : Nat) : List Char :=
  (tail text i).take ((tail text i).length - (tail text j).length)

/-- The state behind a character at offset `i`. Parts are cut out of `text`. -/
def step (text : List Char) (d : LogDirective) (place : Place) (i : Nat) (c : Char) :
    Option (LogDirective × Place) :=
  match place with
  | .start =>
    if c == '[' then some (d, .span (i + 1))
    else if c == '-' || c == ':' || c == '_' || Text.isAlphanumeric c then some (d, .word i)
    else none
  | .word b =>
    if c == '=' then some ({ d with target := some (slice text b i) }, .level (i + 1))
    else if c == '[' then some ({ d with target := some (slice text b i) }, .span (i + 1))
    else some (d, .word b)
  | .span b =>
    if c == ']' then some ({ d with span := some (slice text b i) }, .target)
    else if c == '\x7b' then
      let name := slice text b i
      some ({ d with span := if name.isEmpty then none else some name }, .field (i + 1))
    else some (d, .span b)
  | .field b =>
    if c == '\x7d' then
      let name := slice text b i
      if name.isEmpty then none else some ({ d with fields := d.fields ++ [name] }, .fields)
    else some (d, .field b)
  | .fields => if c == ']' then some (d, .target) else none
  | .target => if c == '=' then some (d, .level (i + 1)) else none
  | .level b => some (d, .level b)

/-- The state behind a text that begins at an offset. -/
def scan (text : List Char) :
    LogDirective → Place → Nat → List Char → Option (LogDirective × Place)
  | d, place, _, [] => some (d, place)
  | d, place, n, c :: s =>
    (step text d place n c).bind fun (d, place) => scan text d place (n + c.utf8Size) s

/-- What a directive is once its text ends. -/
def finish (text : List Char) (d : LogDirective) : Place → Option LogDirective
  | .word b =>
    let word := tail text b
    match LogLevel.ofText? word with
    | some level => some { d with level := level, target := none }
    | none => some { d with level := .trace, target := some word }
  | .level b =>
    (LogLevel.ofDirective? (tail text b)).map fun level =>
      { d with level := level }
  | .target => some d
  | _ => none

/-- The directive in a text. White space around it is passed over in reading, but parts are cut
out of the whole text. -/
def ofText? (text : List Char) : Option LogDirective :=
  (scan text ⟨none, none, [], .trace⟩ .start 0 (Text.trim text)).bind fun (d, place) =>
    finish text d place

/-- Whether two directives are for the same place. -/
def samePlace (a b : LogDirective) : Bool :=
  a.target == b.target && a.span == b.span && a.fields == b.fields

/-- Whether a directive needs nothing but what is known before the program runs : no span, and
fields without values. -/
def isStatic (d : LogDirective) : Bool :=
  d.span.isNone && d.fields.all fun f => !f.contains '='

/-- Whether a directive has to be looked at while the program runs. -/
def isDynamic (d : LogDirective) : Bool :=
  d.span.isSome || !d.fields.isEmpty

/-- The text of a directive. -/
def display (d : LogDirective) : List Char :=
  let fields := match d.fields with
    | [] => []
    | names => '\x7b' :: (Text.joinWith [','] names ++ ['\x7d'])
  let span := if d.span.isNone && d.fields.isEmpty then []
    else '[' :: (d.span.getD [] ++ fields ++ [']'])
  let place := d.target.getD [] ++ span
  let sign := if d.target.isNone && span.isEmpty then [] else ['=']
  place ++ sign ++ d.level.name.toList

end LogDirective

namespace LogFilter

/-- Libraries that only log warnings. -/
def noisy : List String := ["hyper", "reqwest", "h2", "rustls"]

/-- The text of the filter for a level. -/
def textOf (level : String) : String :=
  ",".intercalate (level :: noisy.map (· ++ "=warn"))

/-- Adds a directive; an earlier one for the same place is dropped. -/
def add (ds : List LogDirective) (d : LogDirective) : List LogDirective :=
  ds.filter (fun e => !(e.samePlace d)) ++ [d]

/-- The directives of a filter. -/
def ofText? (text : String) : Option (List LogDirective) :=
  ((((Text.splitAt ',' text.toList).filter (!·.isEmpty)).mapM LogDirective.ofText?).map
    fun ds => ds.foldl add [])

/-- The texts of directives, those known before the program runs first. -/
def texts (ds : List LogDirective) : List (List Char) :=
  ((ds.filter (·.isStatic)) ++ ds.filter (·.isDynamic)).map (·.display)

/-- The setting of the level. -/
def setting : String := "LOG_LEVEL"

/-- The directives that the level of the settings leads to. -/
def ofLevel (level : String) : Except SettingsError (List LogDirective) :=
  match ofText? (textOf level) with
  | some ds => .ok ds
  | none => .error (.invalid setting (.badFilter (textOf level)))

end LogFilter

end QueryGate
