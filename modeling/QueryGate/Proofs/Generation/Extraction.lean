import QueryGate.Client.Responses
import QueryGate.Proofs.Text.Trim
import QueryGate.Request.Generation

/-!
# What is taken from an answer

The answer of a model with tools holds any number of inputs and texts. One of them counts : the
first input, or the first text if there is no input, or the text beside the items if that one is
missing or blank (`Responses.Gives`). It becomes the candidate, unless nothing is left of it
without white space and fences (`gives_iff`).

* `exists_outcome_of_generate` : when a candidate comes of a reply, and which one;
* `exists_input_not_taken` : an input behind a blank one does not count.
-/

namespace QueryGate

open Text

theorem Text.trim_eq_nil_iff {s : List Char} : trim s = [] ↔ isBlank s = true := by
  rw [isBlank, List.all_eq_true, ← List.dropWhile_eq_nil_iff]
  refine ⟨fun h => ?_, fun h => ?_⟩
  · have hwhite : ∀ c ∈ trimStart s, isWhite c = true := List.rdropWhile_eq_nil_iff.mp h
    refine List.head?_eq_none_iff.mp (Option.eq_none_iff_forall_not_mem.mpr fun c hc => ?_)
    have hnot := not_isWhite_of_mem_head?_trimStart hc
    rw [hwhite c (List.mem_of_mem_head? hc)] at hnot
    cases hnot
  · rw [trim, trimStart, h]
    rfl

theorem CodeFence.stripFences_eq_nil {s : List Char} (h : isBlank s = true) :
    stripFences s = [] := by
  rw [stripFences, trim_eq_nil_iff.mpr h]
  rfl

namespace Candidate

variable {name model : String} {request : Request} {output : Option ModelOutput}

theorem ofOutput_eq_ok_iff {c : Candidate} : ofOutput name model request output = .ok c ↔
    (∃ o, output = some o ∧ extract o = (c.text, c.mode) ∧ c.text ≠ "") ∧
      c.model = model ∧ c.request = request.id := by
  cases output with
  | none => simp [ofOutput]
  | some o =>
    obtain ⟨text, mode, model', id⟩ := c
    simp only [ofOutput, Option.some.injEq, exists_eq_left']
    cases extract o with
    | mk text' mode' =>
      split_ifs with hempty
      · have htext : text' = "" := by simpa using hempty
        refine iff_of_false nofun fun h => h.1.2 ?_
        rw [← (Prod.mk.inj h.1.1).1, htext]
      · have htext : text' ≠ "" := by simpa using hempty
        simp only [Except.ok.injEq, mk.injEq, Prod.mk.injEq]
        constructor
        · rintro ⟨rfl, rfl, rfl, rfl⟩
          exact ⟨⟨⟨rfl, rfl⟩, htext⟩, rfl, rfl⟩
        · rintro ⟨⟨⟨rfl, rfl⟩, -⟩, rfl, rfl⟩
          exact ⟨rfl, rfl, rfl, rfl⟩

theorem exists_reason_of_ofOutput {why : GenerationFailure}
    (h : ofOutput name model request output = .error why) :
    ∃ reason, why = .noCandidate reason := by
  cases output with
  | none => exact ⟨_, (Except.error.inj h).symm⟩
  | some o =>
    simp only [ofOutput] at h
    split_ifs at h
    exact ⟨_, (Except.error.inj h).symm⟩

end Candidate

namespace Client.Responses

variable {answer : Json} {input text : String} {mode : GenerationMode}

/-- The inputs of the tools in an answer, in order. -/
def inputs (answer : Json) : List String :=
  (itemsAt "output" answer).filterMap (stringAt? "input")

/-- The parts of the items in an answer that are for texts, in order. -/
def textParts (answer : Json) : List Json :=
  ((itemsAt "output" answer).flatMap (itemsAt "content")).filter fun part =>
    stringAt? "type" part == some "output_text"

/-- The texts in these parts. -/
def texts (answer : Json) : List String :=
  (textParts answer).filterMap (stringAt? "text")

/-- A text without fences. -/
def unfenced (text : String) : String :=
  String.ofList (CodeFence.stripFences text.toList)

/-- The candidate that an answer holds, and how it came about. -/
inductive Gives (answer : Json) : String → GenerationMode → Prop
  | input {input : String} (hfirst : (inputs answer).head? = some input)
      (hne : isBlank input.toList = false) : Gives answer (trimString input) .constrained
  | text {text : String} (hnone : inputs answer = []) (hfirst : (texts answer).head? = some text)
      (hne : unfenced text ≠ "") : Gives answer (unfenced text) .freeformFallback
  | beside {text : String} (hnone : inputs answer = [])
      (hblank : ∀ first ∈ (texts answer).head?, isBlank first.toList = true)
      (hbeside : stringAt? "output_text" answer = some text) (hne : unfenced text ≠ "") :
      Gives answer (unfenced text) .freeformFallback

theorem output?_of_inputs (h : (inputs answer).head? = some input) :
    output? answer = some (.toolInput input) := by
  rw [inputs, List.head?_filterMap] at h
  rw [output?, toolInput?, h]

theorem output?_of_inputs_eq_nil (h : inputs answer = []) : output? answer =
    (((texts answer).head?.bind notBlank?).or
      ((stringAt? "output_text" answer).bind notBlank?)).map .text := by
  have hnone : toolInput? (itemsAt "output" answer) = none := by
    rw [toolInput?, ← List.head?_filterMap]
    exact List.head?_eq_none_iff.mpr h
  rw [output?, hnone, texts, List.head?_filterMap]
  rfl

theorem notBlank?_eq_some_iff {s : String} :
    notBlank? s = some text ↔ isBlank s.toList = false ∧ s = text := by
  unfold notBlank?
  split_ifs with hblank <;> simp [hblank]

theorem not_isBlank_of_unfenced (h : unfenced text ≠ "") : isBlank text.toList = false :=
  Bool.eq_false_iff.mpr fun hblank => h (by rw [unfenced, CodeFence.stripFences_eq_nil hblank])

theorem Gives.exists_output (h : Gives answer text mode) :
    ∃ output, output? answer = some output ∧ Candidate.extract output = (text, mode) ∧
      text ≠ "" := by
  cases h with
  | @input input hfirst hne =>
    refine ⟨.toolInput input, output?_of_inputs hfirst, rfl, fun hempty => ?_⟩
    have hnil : trim input.toList = [] := by simpa [trimString] using hempty
    rw [trim_eq_nil_iff.mp hnil] at hne
    cases hne
  | @text text hnone hfirst hne =>
    have hkept := notBlank?_eq_some_iff.mpr ⟨not_isBlank_of_unfenced hne, rfl⟩
    refine ⟨.text text, ?_, rfl, hne⟩
    rw [output?_of_inputs_eq_nil hnone, hfirst, Option.bind_some, hkept, Option.some_or,
      Option.map_some]
  | @beside text hnone hblank hbeside hne =>
    have hkept := notBlank?_eq_some_iff.mpr ⟨not_isBlank_of_unfenced hne, rfl⟩
    have hskip : (texts answer).head?.bind notBlank? = none :=
      Option.bind_eq_none_iff.mpr fun first hfirst => if_pos (hblank first hfirst)
    refine ⟨.text text, ?_, rfl, hne⟩
    rw [output?_of_inputs_eq_nil hnone, hskip, Option.none_or, hbeside, Option.bind_some, hkept,
      Option.map_some]

/-- Without inputs the first text counts, and the text beside the items if that one is blank. -/
theorem gives_of_text_kept {kept : String} (hnone : inputs answer = [])
    (hkept : ((texts answer).head?.bind notBlank?).or
      ((stringAt? "output_text" answer).bind notBlank?) = some kept)
    (hne : unfenced kept ≠ "") : Gives answer (unfenced kept) .freeformFallback := by
  rcases Option.or_eq_some_iff.mp hkept with hkept | ⟨hskip, hkept⟩
  · obtain ⟨first, hfirst, hkept⟩ := Option.bind_eq_some_iff.mp hkept
    obtain ⟨-, rfl⟩ := notBlank?_eq_some_iff.mp hkept
    exact .text hnone hfirst hne
  · obtain ⟨beside, hbeside, hkept⟩ := Option.bind_eq_some_iff.mp hkept
    obtain ⟨-, rfl⟩ := notBlank?_eq_some_iff.mp hkept
    refine .beside hnone (fun first hfirst => ?_) hbeside hne
    have hblank := Option.bind_eq_none_iff.mp hskip first hfirst
    by_contra hnot
    rw [notBlank?_eq_some_iff.mpr ⟨Bool.eq_false_iff.mpr hnot, rfl⟩] at hblank
    cases hblank

/-- What is extracted from an answer is what it gives. -/
theorem gives_iff : Gives answer text mode ↔
    ∃ output, output? answer = some output ∧ Candidate.extract output = (text, mode) ∧
      text ≠ "" := by
  refine ⟨Gives.exists_output, ?_⟩
  rintro ⟨output, houtput, hextract, hne⟩
  cases hinputs : inputs answer with
  | cons input rest =>
    have hfirst : (inputs answer).head? = some input := by rw [hinputs]; rfl
    rw [output?_of_inputs hfirst] at houtput
    obtain rfl := Option.some.inj houtput
    obtain ⟨rfl, rfl⟩ := Prod.mk.inj hextract
    refine .input hfirst (Bool.eq_false_iff.mpr fun hblank => hne ?_)
    rw [trimString, trim_eq_nil_iff.mpr hblank]
  | nil =>
    rw [output?_of_inputs_eq_nil hinputs] at houtput
    obtain ⟨kept, hkept, rfl⟩ := Option.map_eq_some_iff.mp houtput
    obtain ⟨rfl, rfl⟩ := Prod.mk.inj hextract
    exact gives_of_text_kept hinputs hkept hne

theorem Gives.mode_eq (h : Gives answer text mode) (hinputs : inputs answer ≠ []) :
    mode = .constrained := by
  cases h with
  | input => rfl
  | text hnone => exact absurd hnone hinputs
  | beside hnone => exact absurd hnone hinputs

/-- The call that asks a model for a query. -/
def callFor (settings : ModelSettings) (table : String) (schema : Schema) (g : Grammar)
    (request : Request) : Call :=
  ⟨address settings.baseUrl "/responses", settings.apiKey, requestBody settings
    (Prompt.toolDescription table) (Prompt.build schema request.question) (some g.source)⟩

theorem answerOf_eq_ok {reply : Reply} (hsuccess : reply.isSuccess = true)
    (hread : Json.readValue? reply.body.toList = some answer)
    (herror : reportedError? answer = none) : answerOf (.ok reply) = .ok answer := by
  simp [answerOf, hsuccess, hread, herror]

section Transports

variable {m : Type → Type} [Monad m] [LawfulMonad m] (t : Transport m) (settings : ModelSettings)
  (table : String) (schema : Schema) (g : Grammar) (request : Request)

/-- What a model generates is a matter of what comes back for its call. -/
theorem generate_model : (model t settings table).generate schema g request =
    (fun came => ((answerOf came).map output?).bind
      (Candidate.ofOutput "openai-responses" settings.model request)) <$>
        t.post (callFor settings table schema g request) := by
  simp only [Model.generate, model, bind_assoc, pure_bind, map_eq_pure_bind]
  rfl

/-- Whoever carries the calls : if a service replies with an answer that reports no error, a
candidate comes of it exactly if the answer gives one, and then it is that one. No text is taken
from an answer with an input in it. -/
theorem exists_outcome_of_generate :
    ∃ outcome : Except String Reply → Except GenerationFailure Candidate,
      (model t settings table).generate schema g request =
        outcome <$> t.post (callFor settings table schema g request) ∧
      ∀ reply answer, reply.isSuccess = true → Json.readValue? reply.body.toList = some answer →
        reportedError? answer = none →
        (∀ c, outcome (.ok reply) = .ok c ↔
          Gives answer c.text c.mode ∧ c.model = settings.model ∧ c.request = request.id) ∧
        (∀ why, outcome (.ok reply) = .error why → ∃ reason, why = .noCandidate reason) ∧
        (inputs answer ≠ [] → ∀ c, outcome (.ok reply) = .ok c → c.mode = .constrained) := by
  refine ⟨_, generate_model t settings table schema g request, ?_⟩
  intro reply answer hsuccess hread herror
  have hok : ∀ c, Candidate.ofOutput "openai-responses" settings.model request
      (output? answer) = .ok c ↔
        Gives answer c.text c.mode ∧ c.model = settings.model ∧ c.request = request.id :=
    fun c => by rw [Candidate.ofOutput_eq_ok_iff, ← gives_iff]
  rw [answerOf_eq_ok hsuccess hread herror]
  exact ⟨hok, fun why => Candidate.exists_reason_of_ofOutput,
    fun hinputs c hc => ((hok c).mp hc).1.mode_eq hinputs⟩

end Transports

/-- A transport that always brings the same answer. -/
def always (answer : Json) : Transport Id := ⟨fun _ => pure (.ok ⟨200, answer.text⟩)⟩

/-- A model that is asked with a key that can be sent. -/
def keyed : ModelSettings := ⟨.constrained, "key", "http://localhost", "m", none, 120⟩

/-- A grammar without rules. -/
def ruleless : Grammar := ⟨"", 0, #[], #[], #[], #[], #[], [], []⟩

theorem post_always (answer : Json) (schema : Schema) (g : Grammar) (request : Request) :
    (always answer).post (callFor keyed "t" schema g request) = pure (.ok ⟨200, answer.text⟩) :=
  have hsendable : (Call.mk "" keyed.apiKey .null).isSendable = true := by decide
  if_pos hsendable

/-- A part without a text comes first, and a text in fences behind it. -/
def fencedAnswer : Json :=
  .object [("output", .array [.object [("content", .array [
    .object [("type", .string "output_text")],
    .object [("type", .string "output_text"), ("text", .string "```sql\nSELECT 1```")]])]])]

theorem exists_outcome_of_generate_fenced :
    (model (always fencedAnswer) keyed "t").generate ⟨"t", []⟩ ruleless ⟨⟨1⟩, "q"⟩ =
      pure (.ok ⟨"SELECT 1", .freeformFallback, "m", ⟨1⟩⟩) := by
  obtain ⟨outcome, hgenerate, houtcome⟩ := exists_outcome_of_generate
    (always fencedAnswer) keyed "t" ⟨"t", []⟩ ruleless ⟨⟨1⟩, "q"⟩
  rw [post_always] at hgenerate
  have hsyntax : Json.read? fencedAnswer.text.toList = some fencedAnswer := by cbv
  have hread : Json.readValue? fencedAnswer.text.toList = some fencedAnswer := by
    rw [Json.readValue?, hsyntax]
    rfl
  obtain ⟨hok, -, -⟩ := houtcome ⟨200, fencedAnswer.text⟩ fencedAnswer rfl hread rfl
  have hgives : Gives fencedAnswer (unfenced "```sql\nSELECT 1```") .freeformFallback :=
    .text rfl rfl (by decide)
  have hunfenced : unfenced "```sql\nSELECT 1```" = "SELECT 1" := by decide
  rw [hunfenced] at hgives
  rw [hgenerate, map_pure, (hok ⟨"SELECT 1", .freeformFallback, "m", ⟨1⟩⟩).mpr ⟨hgives, rfl, rfl⟩]

/-- Behind a blank input stands another one. -/
def blankAnswer : Json :=
  .object [("output", .array [.object [("input", .string " ")],
    .object [("input", .string "SELECT 1 FORMAT JSON")]])]

/-- An input behind a blank one does not count. -/
theorem exists_input_not_taken : reportedError? blankAnswer = none ∧
    "SELECT 1 FORMAT JSON" ∈ inputs blankAnswer ∧
    (model (always blankAnswer) keyed "t").generate ⟨"t", []⟩ ruleless ⟨⟨1⟩, "q"⟩ =
      pure (.error (.noCandidate "openai-responses returned an empty candidate")) := by
  have hsyntax : Json.read? blankAnswer.text.toList = some blankAnswer := by cbv
  have hread : Json.readValue? blankAnswer.text.toList = some blankAnswer := by
    rw [Json.readValue?, hsyntax]
    rfl
  have hsuccess : (Reply.mk 200 blankAnswer.text).isSuccess = true := rfl
  refine ⟨rfl, by decide, ?_⟩
  rw [generate_model, post_always, map_pure, answerOf_eq_ok hsuccess hread rfl]
  rfl

end Client.Responses

end QueryGate
