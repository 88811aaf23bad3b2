import QueryGate.Client.Call
import QueryGate.Client.Status
import QueryGate.Json.Reader
import QueryGate.Failure

/-!
# Talking to language models

What all services of language models have in common : a call is answered with an object that
either reports an error or carries the answer (`answerOf`). `requestBody` adds the temperature,
where one is set, to what a service wants to be asked.
-/

namespace QueryGate

/-- A finite word of `binary32` as the number of `binary64` with the same value; null for any
other word. -/
def Json.ofSingle (bits : Nat) : Json :=
  let single := Decimal.binary32
  let double := Decimal.binary64
  if single.isFinite bits then
    let (num, den) := single.ratio bits
    .number (.float (double.withSign (single.isNegative bits) (double.roundRatio num den)))
  else .null

namespace Client

/-- The body of a request with the given fields. -/
def requestBody (settings : ModelSettings) (fields : List (String × Json)) : Json :=
  .object ([("model", .string settings.model)] ++ fields ++
    match settings.temperature with
    | some bits => [("temperature", Json.ofSingle bits)]
    | none => [])

/-- The error that an answer reports. -/
def reportedError? (answer : Json) : Option Json :=
  match answer.field? "error" with
  | none | some .null => none
  | some error => some error

/-- The answer in what came back for a call. -/
def answerOf (came : Except String Reply) : Except GenerationFailure Json :=
  match came with
  | .error why => .error (.unavailable ("LLM API call failed: " ++ why))
  | .ok reply =>
    if !reply.isSuccess then
      .error (.unavailable ("LLM API error (" ++ statusText reply.status ++ "): " ++ reply.body))
    else match Json.readValue? reply.body.toList with
      | none => .error (.unavailable "Failed to parse LLM response: the body is not JSON")
      | some answer =>
        match reportedError? answer with
        | some error => .error (.unavailable ("LLM API error: " ++ error.text))
        | none => .ok answer

/-- A text that is not blank. -/
def notBlank? (text : String) : Option String :=
  if Text.isBlank text.toList then none else some text

end Client

end QueryGate
