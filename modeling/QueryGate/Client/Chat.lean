import QueryGate.Client.LanguageModel
import QueryGate.Request.Collaborator

/-!
# Language models in a chat

A service that takes no grammar : the model is told its part and then given the prompt. The
answer is the content of the first choice (`output?`).
-/

namespace QueryGate.Client.Chat

/-- What the model is told of its part. -/
def part : String :=
  "You are a SQL expert specializing in ClickHouse. Generate only valid SQL queries."

/-- A message. -/
def message (role content : String) : Json :=
  .object [("role", .string role), ("content", .string content)]

/-- The body of a request. -/
def requestBody (settings : ModelSettings) (prompt : String) : Json :=
  Client.requestBody settings [("messages", .array [message "system" part, message "user" prompt])]

/-- What a model answers with, unless it is blank. -/
def output? (answer : Json) : Option ModelOutput := do
  let choices ← (answer.field? "choices").bind Json.items?
  let message ← (← choices.head?).field? "message"
  let content ← (message.field? "content").bind Json.string?
  return .text (← notBlank? content)

/-- The model. -/
def model {m : Type → Type} [Monad m] (t : Transport m) (settings : ModelSettings) :
    Model m where
  name := "openai-chat"
  model := settings.model
  capabilities := .textOnly
  complete prompt _ := do
    let url := address settings.baseUrl "/chat/completions"
    let came ← t.post ⟨url, settings.apiKey, requestBody settings prompt⟩
    return (answerOf came).map output?

end QueryGate.Client.Chat
