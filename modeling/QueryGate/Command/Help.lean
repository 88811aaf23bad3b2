import QueryGate.Command.Arguments

/-!
# Help

The texts that the program shows when it is asked for help. A text says what a thing is for, how
it is written, and what it takes; what stands behind names is aligned.
-/

namespace QueryGate

/-- A part of a help text : a heading, and names with what they mean. -/
structure HelpSection where
  heading : String
  items : List (String × String)
  deriving DecidableEq, Repr

/-- The line of a name with what it means, which begins behind the longest name. -/
def HelpSection.line (width : Nat) (item : String × String) : String :=
  "  " ++ item.1 ++ "".pushn ' ' (width - item.1.length) ++ "  " ++ item.2 ++ "\n"

/-- The text of a part. -/
def HelpSection.text (s : HelpSection) : String :=
  let width := (s.items.map (·.1.length)).foldl max 0
  "\n" ++ s.heading ++ ":\n" ++ String.join (s.items.map (line width))

namespace Topic

/-- The name of the program. -/
def programName : String := "grammarsql"

/-- The commands with what they do. -/
def commands : List (String × String) :=
  [("ask", "Generate a query for the question, check it and run it"),
    ("validate", "Check a query against the grammar and print its normalized form"),
    ("grammar", "Load a grammar and print a summary of it"),
    ("evals", "Run the evaluation suite against the configured backends"),
    ("help", "Print this message or the help of the given subcommand(s)")]

/-- The word for a command. -/
def word : Topic → String
  | program => ""
  | ask => "ask"
  | validate => "validate"
  | grammar => "grammar"
  | evals => "evals"
  | help => "help"

/-- What a thing is for. -/
def about : Topic → String
  | program => "Natural-language questions to grammar-checked, read-only ClickHouse SQL"
  | topic => (commands.lookup topic.word).getD ""

/-- How a thing is written behind the name of the program. -/
def usage : Topic → String
  | program => "<COMMAND>"
  | ask => "ask <QUESTION>"
  | validate => "validate <SQL>"
  | grammar => "grammar [OPTIONS]"
  | evals => "evals [OPTIONS]"
  | help => "help [COMMAND]..."

/-- What asks for help. -/
def helpItem : String × String := ("-h, --help", "Print help")

/-- What a thing takes. -/
def sections : Topic → List HelpSection
  | program => [⟨"Commands", commands⟩, ⟨"Options", [helpItem]⟩]
  | ask => [⟨"Arguments", [("<QUESTION>", "The question in natural language")]⟩,
      ⟨"Options", [helpItem]⟩]
  | validate => [⟨"Arguments", [("<SQL>", "")]⟩, ⟨"Options", [helpItem]⟩]
  | grammar => [⟨"Options",
      [("-p, --path <PATH>",
        "Grammar file (default: GRAMMAR_PATH or grammar/clickhouse_sql.lark)"), helpItem]⟩]
  | evals => [⟨"Options",
      [("-c, --category <CATEGORY>",
        "Only run one category, e.g. \"grammar-compliance\""), helpItem]⟩]
  | help => [⟨"Arguments", [("[COMMAND]...", "Print help for the subcommand(s)")]⟩]

/-- The line that says how a thing is written. -/
def usageLine (t : Topic) : String :=
  "Usage: " ++ programName ++ " " ++ t.usage ++ "\n"

/-- The text of the help on a topic. -/
def text (t : Topic) : String :=
  t.about ++ "\n\n" ++ t.usageLine ++ String.join (t.sections.map (·.text))

end Topic

end QueryGate
