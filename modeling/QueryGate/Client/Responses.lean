import QueryGate.Client.LanguageModel
import QueryGate.Request.Collaborator
import QueryGate.Prompt

/-!
# Language models with tools

A service that takes a grammar : the model is offered one tool, whose input has to be a text of
the grammar. What comes back is a list of items, in which the input of a tool goes before any
text (`output?`).
-/

namespace QueryGate.Client.Responses

/-- The tool that carries a grammar. -/
def tool (description grammar : String) : Json :=
  .object [("type", .string "custom"), ("name", .string Prompt.toolName),
    ("description", .string description),
    ("format", .object [("type", .string "grammar"), ("syntax", .string "lark"),
      ("definition", .string grammar)])]

/-- The body of a request. -/
def requestBody (settings : ModelSettings) (description prompt : String)
    (grammar : Option String) : Json :=
  let tools := match grammar with
    | some g => [("tools", .array [tool description g]), ("parallel_tool_calls", .bool false)]
    | none => []
  Client.requestBody settings ([("input", .string prompt),
    ("text", .object [("format", .object [("type", .string "text")])])] ++ tools)

/-- The string in a field of a value. -/
def stringAt? (key : String) (v : Json) : Option String :=
  (v.field? key).bind Json.string?

/-- The items of an array in a field of a value; none if there is no array. -/
def itemsAt (key : String) (v : Json) : List Json :=
  ((v.field? key).bind Json.items?).getD []

/-- The input of the first tool that has one. -/
def toolInput? (items : List Json) : Option String :=
  items.findSome? (stringAt? "input")

/-- The first text in the contents of items, unless it is blank. -/
def firstText? (items : List Json) : Option String :=
  let parts := (items.flatMap (itemsAt "content")).filter fun part =>
    stringAt? "type" part == some "output_text"
  (parts.findSome? (stringAt? "text")).bind notBlank?

/-- What a model answers with : the input of a tool, else text in the items, else the text beside
them. -/
def output? (answer : Json) : Option ModelOutput :=
  let items := itemsAt "output" answer
  match toolInput? items with
  | some input => some (.toolInput input)
  | none =>
    ((firstText? items).or ((stringAt? "output_text" answer).bind notBlank?)).map .text

/-- The model for queries on a table. -/
def model {m : Type → Type} [Monad m] (t : Transport m) (settings : ModelSettings)
    (table : String) : Model m where
  name := "openai-responses"
  model := settings.model
  capabilities := .withGrammar
  complete prompt grammar := do
    let body := requestBody settings (Prompt.toolDescription table) prompt grammar
    let came ← t.post ⟨address settings.baseUrl "/responses", settings.apiKey, body⟩
    return (answerOf came).map output?

end QueryGate.Client.Responses
