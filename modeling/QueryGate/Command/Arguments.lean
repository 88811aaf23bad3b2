import QueryGate.Text.Basic

/-!
# Arguments

What the arguments of the program ask for (`Invocation.ofArguments`). The first one names a
command; a command takes one text, or one option with a value. Arguments are taken in order, and
the first one that asks for help or cannot stand where it stands decides.
-/

namespace QueryGate

/-- The commands of the program. -/
inductive Command where
  /-- Answers a question. -/
  | ask (question : String)
  /-- Checks a query. -/
  | validate (query : String)
  /-- Says what a grammar is made of. -/
  | grammar (path : Option String)
  /-- Runs the evaluation suite, or one category of it. -/
  | evals (category : Option String)
  deriving DecidableEq, Repr

/-- What there is help on. -/
inductive Topic where
  | program
  | ask
  | validate
  | grammar
  | evals
  | help
  deriving DecidableEq, Repr

/-- What arguments ask for. -/
inductive Invocation where
  | run (command : Command)
  | help (topic : Topic)
  /-- They cannot be understood. -/
  | misuse
  deriving DecidableEq, Repr

/-- The command that a topic is about, or the word for help. -/
def Topic.ofWord? (word : String) : Option Topic :=
  match word with
  | "ask" => some .ask
  | "validate" => some .validate
  | "grammar" => some .grammar
  | "evals" => some .evals
  | "help" => some .help
  | _ => none

namespace Arguments

/-- An option with a value. -/
structure Flag where
  short : Char
  long : List Char
  /-- Whether the value may be empty. -/
  allowsEmpty : Bool
  deriving DecidableEq, Repr

/-- The path of a grammar. -/
def pathFlag : Flag := ⟨'p', "path".toList, false⟩

/-- The name of a category. -/
def categoryFlag : Flag := ⟨'c', "category".toList, true⟩

/-- What an argument is by itself. -/
inductive Token where
  /-- A text, which does not begin with a hyphen or is one. -/
  | word (text : String)
  /-- Two hyphens, behind which everything is a word. -/
  | separator
  | help
  /-- An option, with its value if that is in the argument. -/
  | flag (value : Option (List Char))
  | unknown
  deriving DecidableEq, Repr

/-- The value behind the letter of an option; an equals sign in front of it does not count. -/
def attached : List Char → Option (List Char)
  | [] => none
  | '=' :: value => some value
  | value => some value

/-- The token in an argument of a command that has the given option. -/
def tokenOf (flag : Option Flag) (argument : String) : Token :=
  match argument.toList with
  | ['-', '-'] => .separator
  | '-' :: '-' :: rest =>
    let name := rest.takeWhile (· != '=')
    if rest == "help".toList then .help
    else if flag.any fun f => f.long == name then
      .flag (attached (rest.dropWhile (· != '=')))
    else .unknown
  | '-' :: letter :: rest =>
    if letter == 'h' then .help
    else if flag.any fun f => f.short == letter then .flag (attached rest)
    else .unknown
  | _ => .word argument

/-- What was found among the arguments of a command. -/
inductive Reading where
  /-- The text or the value of the option, if there is one. -/
  | found (text : Option String)
  | help
  | misuse
  deriving DecidableEq, Repr

/-- Reads arguments that are all words. -/
def readWords (takesText : Bool) : Option String → List String → Reading
  | found, [] => .found found
  | none, [word] => if takesText then .found (some word) else .misuse
  | _, _ => .misuse

/-- Takes the value of an option, which must not have one yet. -/
def acceptValue (flag : Flag) (found : Option String) (value : List Char) : Option String :=
  if found.isSome || (value.isEmpty && !flag.allowsEmpty) then none
  else some (String.ofList value)

/-- Reads the arguments of a command that takes a text. -/
def readText : Option String → List String → Reading
  | found, [] => .found found
  | found, argument :: rest =>
    match tokenOf none argument with
    | .word text => if found.isSome then .misuse else readText (some text) rest
    | .separator => readWords true found rest
    | .help => .help
    | _ => .misuse

/-- Reads the arguments of a command that takes an option. -/
def readFlag (flag : Flag) : Option String → List String → Reading
  | found, [] => .found found
  | found, argument :: rest =>
    match tokenOf (some flag) argument with
    | .separator => readWords false found rest
    | .help => .help
    | .flag (some value) =>
      match acceptValue flag found value with
      | some text => readFlag flag (some text) rest
      | none => .misuse
    | .flag none =>
      match rest with
      | [] => .misuse
      | next :: rest =>
        match tokenOf none next, acceptValue flag found next.toList with
        | .word _, some text => readFlag flag (some text) rest
        | _, _ => .misuse
    | _ => .misuse

/-- What a reading asks for, on a topic and with a command for what was found. -/
def Reading.invocation (topic : Topic) (command : Option String → Option Command) :
    Reading → Invocation
  | found text => match command text with
    | some c => .run c
    | none => .misuse
  | help => .help topic
  | misuse => .misuse

end Arguments

open Arguments in
/-- What arguments ask for. -/
def Invocation.ofArguments : List String → Invocation
  | [] => .misuse
  | first :: rest =>
    match Topic.ofWord? first with
    | some .ask => (readText none rest).invocation .ask fun text => text.map .ask
    | some .validate => (readText none rest).invocation .validate fun text => text.map .validate
    | some .grammar =>
      (readFlag pathFlag none rest).invocation .grammar fun text => some (.grammar text)
    | some .evals =>
      (readFlag categoryFlag none rest).invocation .evals fun text => some (.evals text)
    | some _ =>
      match rest with
      | [] => .help .program
      | [word] => match Topic.ofWord? word with
        | some topic => .help topic
        | none => .misuse
      | _ => .misuse
    | none => if tokenOf none first == .help then .help .program else .misuse

end QueryGate
