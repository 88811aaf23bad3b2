import QueryGate.Proofs.Request.Sessions
import QueryGate.Proofs.Text.Trim

/-!
# Runs of a pipeline

`Pipeline.Course` has one case for each place where a run can end, with all that the model and the
engine did in it. Every run takes such a course, whatever a model answers and an engine replies
(`exists_course_of_run`). To say so, what the two do is written down in a journal
(`Pipeline.journaled`); this changes nothing else (`run'_askAll_journaled`).

Over any number of runs the engine is given the queries that passed the gates in front of it, in
order, and nothing else (`exists_faithful_runs_of_askAll`).
-/

namespace QueryGate

open Text

/-! ## Candidates -/

theorem Candidate.trimString_extract (output : ModelOutput) :
    trimString (extract output).1 = (extract output).1 := by
  cases output <;> simp [extract, trimString, CodeFence.stripFences, trim_trim]

/-- A candidate is not empty, and there is no white space around it. -/
theorem Candidate.trimmed_of_ofOutput {name model : String} {request : Request}
    {output : Option ModelOutput} {c : Candidate} (h : ofOutput name model request output = .ok c) :
    c.text ≠ "" ∧ trimString c.text = c.text := by
  cases output with
  | none => cases h
  | some output =>
    simp only [ofOutput] at h
    split_ifs at h with hempty
    obtain rfl := Except.ok.inj h
    exact ⟨by simpa using hempty, trimString_extract output⟩

/-! ## Courses -/

/-- What a model answers. -/
abbrev ModelAnswer := Except GenerationFailure (Option ModelOutput)

/-- A text that an engine is given, and what it replies. -/
abbrev EngineCall := List Char × Except ExecutionFailure QueryResult

/-- What happened in a run; there is no outcome where the normalizer could not go on. -/
structure Run where
  request : Request
  answer : ModelAnswer
  calls : List EngineCall
  outcome : Option Outcome

namespace Pipeline

section Course

variable {m : Type → Type} {p : Pipeline m} {g : Grammar} {session : Session} {r : Run}

/-- The candidate in an answer to a request. -/
def candidateOf (p : Pipeline m) (request : Request) (answer : ModelAnswer) :
    Except GenerationFailure Candidate :=
  answer.bind (Candidate.ofOutput p.model.name p.model.model request)

/-- The moves of a request through some states. -/
def movesThrough (states : List State) : List Transition :=
  (states.foldl Trail.advance .start).transitions

/-- How a run goes with a grammar : one case for each place where it ends. -/
inductive Course (p : Pipeline m) (g : Grammar) : Run → Prop
  | ungenerated {request answer why} (hc : p.candidateOf request answer = .error why) :
      Course p g ⟨request, answer, [], some ⟨request,
        movesThrough [.generating, .generationFailed],
        .failed .generationFailed none (.generation why)⟩⟩
  | invalid {request answer c d} (hc : p.candidateOf request answer = .ok c)
      (hvalid : validate p.recognizer g c.text.toList = .error d) :
      Course p g ⟨request, answer, [], some ⟨request,
        movesThrough [.generating, .generated, .validating, .invalid],
        .failed .invalid (some c.text) (.validation d)⟩⟩
  | broken {request answer c} (hc : p.candidateOf request answer = .ok c)
      (hvalid : validate p.recognizer g c.text.toList = .ok ())
      (hnormal : p.normalizer.normalize c.text.toList = .broken) :
      Course p g ⟨request, answer, [], none⟩
  | refused {request answer c why} (hc : p.candidateOf request answer = .ok c)
      (hvalid : validate p.recognizer g c.text.toList = .ok ())
      (hnormal : p.normalizer.normalize c.text.toList = .refused why) :
      Course p g ⟨request, answer, [], some ⟨request,
        movesThrough [.generating, .generated, .validating, .valid, .normalizing,
          .normalizationFailed],
        .failed .normalizationFailed (some c.text) (.normalization why)⟩⟩
  | unexecuted {request answer c q why} (hc : p.candidateOf request answer = .ok c)
      (hvalid : validate p.recognizer g c.text.toList = .ok ())
      (hnormal : p.normalizer.normalize c.text.toList = .query q) :
      Course p g ⟨request, answer, [(q, .error why)], some ⟨request,
        movesThrough [.generating, .generated, .validating, .valid, .normalizing, .normalized,
          .executing, .executionFailed],
        .failed .executionFailed (some c.text) (.execution why)⟩⟩
  | executed {request answer c q result} (hc : p.candidateOf request answer = .ok c)
      (hvalid : validate p.recognizer g c.text.toList = .ok ())
      (hnormal : p.normalizer.normalize c.text.toList = .query q) :
      Course p g ⟨request, answer, [(q, .ok result)], some ⟨request,
        movesThrough [.generating, .generated, .validating, .valid, .normalizing, .normalized,
          .executing, .executed],
        .executed c q result⟩⟩

/-- What the stages in front of the engine make of a run : the query that may be executed, or the
failure of the stage that failed; nothing if the normalizer cannot go on. -/
def checked (p : Pipeline m) (session : Session) (r : Run) : Option (Except Failure (List Char)) :=
  match p.candidateOf r.request r.answer with
  | .error why => some (.error (.generation why))
  | .ok c => p.check session c.text.toList

/-- The query of a run that may be executed, if there is one. -/
def passed? (p : Pipeline m) (session : Session) (r : Run) : Option (List Char) :=
  (p.checked session r).bind Except.toOption

/-- The engine was given the query that passed, and the outcome carries the candidate and the
failure of the stage that failed. -/
structure Faithful (p : Pipeline m) (session : Session) (r : Run) : Prop where
  candidate : ∀ c, p.candidateOf r.request r.answer = .ok c →
    c.text ≠ "" ∧ trimString c.text = c.text
  calls : r.calls.map (·.1) = (p.passed? session r).toList
  broken : r.outcome = none ↔ p.checked session r = none
  stopped : ∀ f, p.checked session r = some (.error f) →
    r.calls = [] ∧ ∃ o, r.outcome = some o ∧ o.failure? = some f
  unexecuted : ∀ q why, (q, .error why) ∈ r.calls →
    ∃ o, r.outcome = some o ∧ o.failure? = some (.execution why)
  executed : ∀ q result, (q, .ok result) ∈ r.calls →
    ∃ o, r.outcome = some o ∧ o.failure? = none ∧ o.result? = some result
  generatedQuery : ∀ o ∈ r.outcome, o.request = r.request ∧
    o.generatedQuery = (p.candidateOf r.request r.answer).toOption.map (·.text)

/-- The recognizer accepts the candidate of a run, and the normalizer cannot go on with it. -/
def BreaksOn (p : Pipeline m) (g : Grammar) (r : Run) : Prop :=
  ∃ c, p.candidateOf r.request r.answer = .ok c ∧
    validate p.recognizer g c.text.toList = .ok () ∧
    p.normalizer.normalize c.text.toList = .broken

theorem trimmed_of_candidateOf {request : Request} {answer : ModelAnswer} {c : Candidate}
    (h : p.candidateOf request answer = .ok c) : c.text ≠ "" ∧ trimString c.text = c.text := by
  cases answer with
  | error why => cases h
  | ok output => exact Candidate.trimmed_of_ofOutput h

/-- There is no other reason for a run to have no outcome. -/
theorem Course.outcome_eq_none_iff (h : p.Course g r) : r.outcome = none ↔ p.BreaksOn g r := by
  cases h <;> simp [BreaksOn, *]

theorem Course.faithful (h : p.Course session.catalog.current r) : p.Faithful session r where
  candidate _ hc := trimmed_of_candidateOf hc
  calls := by cases h <;> simp [passed?, checked, check, checkQuery, Except.toOption, *]
  broken := by cases h <;> simp [checked, check, checkQuery, *]
  stopped := by cases h <;> simp [checked, check, checkQuery, Outcome.failure?, *]
  unexecuted := by cases h <;> simp [Outcome.failure?]
  executed := by cases h <;> simp [Outcome.failure?, Outcome.result?]
  generatedQuery := by cases h <;> simp [Outcome.generatedQuery, Except.toOption, *]

end Course

end Pipeline

/-! ## Journals -/

/-- What the model and the engine of a pipeline did, in order. -/
structure Journal where
  answers : List ModelAnswer
  calls : List EngineCall

namespace Journal

/-- Nothing has happened yet. -/
def empty : Journal := ⟨[], []⟩

/-- The journal behind one more run. -/
def add (j : Journal) (r : Run) : Journal :=
  ⟨j.answers ++ [r.answer], j.calls ++ r.calls⟩

theorem add_of_calls_eq_nil (j : Journal) {r : Run} (h : r.calls = []) :
    j.add r = ⟨j.answers ++ [r.answer], j.calls⟩ := by
  rw [add, h, List.append_nil]

theorem foldl_add (j : Journal) (rs : List Run) :
    rs.foldl add j = ⟨j.answers ++ rs.map (·.answer), j.calls ++ rs.flatMap (·.calls)⟩ := by
  induction rs generalizing j with
  | nil => simp
  | cons r rs ih => simp [ih, add]

end Journal

section Journaled

variable {m : Type → Type} [Monad m]

/-- A model whose answers are written down. -/
def Model.journaled (model : Model m) : Model (StateT Journal m) where
  name := model.name
  model := model.model
  capabilities := model.capabilities
  complete := fun prompt grammar => do
    let answer ← model.complete prompt grammar
    modify fun j => { j with answers := j.answers ++ [answer] }
    return answer

/-- An engine whose calls are written down. -/
def Engine.journaled (engine : Engine m) : Engine (StateT Journal m) where
  name := engine.name
  execute := fun query => do
    let reply ← engine.execute query
    modify fun j => { j with calls := j.calls ++ [(query, reply)] }
    return reply
  isHealthy := engine.isHealthy

/-- A clock; nothing is written down of it. -/
def Clock.journaled (clock : Clock m) : Clock (StateT Journal m) where
  newIdentifier := clock.newIdentifier
  now := clock.now
  elapsed := clock.elapsed

namespace Pipeline

/-- A pipeline that writes down what its model and its engine do. -/
def journaled (p : Pipeline m) : Pipeline (StateT Journal m) where
  model := p.model.journaled
  engine := p.engine.journaled
  clock := p.clock.journaled
  schema := p.schema
  recognizer := p.recognizer
  normalizer := p.normalizer

@[simp] theorem journaled_recognizer (p : Pipeline m) : p.journaled.recognizer = p.recognizer :=
  rfl

@[simp] theorem journaled_normalizer (p : Pipeline m) : p.journaled.normalizer = p.normalizer :=
  rfl

/-- Puts questions to a pipeline, one after the other. -/
def askAll (p : Pipeline m) (session : Session) :
    List String → m (List (Option Outcome) × Session)
  | [] => return ([], session)
  | question :: rest => do
    let (outcome, session) ← p.ask session question
    let (outcomes, session) ← askAll p session rest
    return (outcome :: outcomes, session)

end Pipeline

end Journaled

namespace Pipeline

/-! ### Writing down changes nothing -/

section Erased

variable {m : Type → Type} [Monad m] [LawfulMonad m] {α β : Type} {p : Pipeline m}

theorem run'_bind_of_forall {x : StateT Journal m α} {y : m α} {f : α → StateT Journal m β}
    {f' : α → m β} (hx : ∀ j, x.run' j = y) (hf : ∀ a j, (f a).run' j = f' a) (j : Journal) :
    (x >>= f).run' j = y >>= f' := by
  rw [← hx j]
  simp only [StateT.run'_eq, StateT.run_bind, map_bind, bind_map_left] at hf ⊢
  exact bind_congr fun r => hf r.1 r.2

theorem run'_complete_journaled (prompt : String) (grammar : Option String) (j : Journal) :
    (p.journaled.model.complete prompt grammar).run' j = p.model.complete prompt grammar := by
  simp [journaled, Model.journaled, StateT.run'_eq]

theorem run'_execute_journaled (q : List Char) (j : Journal) :
    (p.journaled.engine.execute q).run' j = p.engine.execute q := by
  simp [journaled, Engine.journaled, StateT.run'_eq]

theorem run'_submit_journaled (g : Grammar) (request : Request) (trail : Trail)
    (c : Candidate) (j : Journal) :
    (p.journaled.submit g request trail c).run' j = p.submit g request trail c := by
  simp only [submit, journaled_recognizer, journaled_normalizer]
  cases validate p.recognizer g c.text.toList with
  | error d => simp [StateT.run'_eq]
  | ok u =>
    cases p.normalizer.normalize c.text.toList with
    | broken => simp [StateT.run'_eq]
    | refused why => simp [StateT.run'_eq]
    | query q =>
      simp only [execute, map_eq_pure_bind]
      refine run'_bind_of_forall (run'_bind_of_forall (run'_execute_journaled q) ?_) ?_ j
      · intro reply j
        cases reply <;> simp [StateT.run'_eq]
      · intro o j
        simp [StateT.run'_eq]

theorem run'_run_journaled (g : Grammar) (request : Request) (j : Journal) :
    (p.journaled.run g request).run' j = p.run g request := by
  refine run'_bind_of_forall (run'_bind_of_forall (run'_complete_journaled _ _) ?_) ?_ j
  · intro answer j
    simp [StateT.run'_eq]
    rfl
  · intro generated j
    cases generated with
    | error why => simp [StateT.run'_eq]
    | ok c => exact run'_submit_journaled g request _ c j

theorem run'_record_journaled (session : Session) (outcome : Outcome) (j : Journal) :
    (p.journaled.record session outcome).run' j = p.record session outcome := by
  rcases session with ⟨catalog, - | log⟩ <;>
    simp [record, journaled, Clock.journaled, StateT.run'_eq]

theorem run'_ask_journaled (session : Session) (question : String) (j : Journal) :
    (p.journaled.ask session question).run' j = p.ask session question := by
  refine run'_bind_of_forall (fun j => ?_) (fun id j => ?_) j
  · simp [journaled, Clock.journaled, StateT.run'_eq]
  refine run'_bind_of_forall (run'_run_journaled _ _) (fun o j => ?_) j
  cases o with
  | none => simp [StateT.run'_eq]
  | some outcome =>
    refine run'_bind_of_forall (run'_record_journaled session outcome) (fun session j => ?_) j
    simp [StateT.run'_eq]

/-- A pipeline does the same whether its journal is kept or not. -/
theorem run'_askAll_journaled (session : Session) (questions : List String) (j : Journal) :
    (p.journaled.askAll session questions).run' j = p.askAll session questions := by
  induction questions generalizing session j with
  | nil => simp [askAll, StateT.run'_eq]
  | cons question rest ih =>
    refine run'_bind_of_forall (run'_ask_journaled session question) (fun r j => ?_) j
    refine run'_bind_of_forall (ih r.2) (fun rs j => ?_) j
    simp [StateT.run'_eq]

end Erased

/-! ### What reaches the recognizer -/

section Recognizers

variable {m : Type → Type} [Monad m] [LawfulMonad m] {p : Pipeline m} {recognizer : Recognizer}

theorem run_congr
    (h : ∀ g text, text ≠ [] → trim text = text → recognizer g text = p.recognizer g text)
    (g : Grammar) (request : Request) :
    { p with recognizer := recognizer }.run g request = p.run g request := by
  simp only [run, Model.generate, bind_assoc, pure_bind]
  refine bind_congr fun answer => ?_
  cases hc : answer.bind (Candidate.ofOutput p.model.name p.model.model request) with
  | error why => rfl
  | ok c =>
    obtain ⟨hne, htrim⟩ := trimmed_of_candidateOf hc
    have hsame : recognizer g c.text.toList = p.recognizer g c.text.toList := by
      refine h g _ (by simpa using hne) ?_
      simpa [trimString] using congrArg String.toList htrim
    simp only [submit, validate, hsame]
    rfl

/-- Nothing reaches the recognizer that is empty or has white space around it : on such texts it
may say what it likes. -/
theorem askAll_congr
    (h : ∀ g text, text ≠ [] → trim text = text → recognizer g text = p.recognizer g text)
    (session : Session) (questions : List String) :
    { p with recognizer := recognizer }.askAll session questions = p.askAll session questions := by
  induction questions generalizing session with
  | nil => rfl
  | cons question rest ih =>
    have hask : { p with recognizer := recognizer }.ask session question =
        p.ask session question := by
      simp only [ask, run_congr h]
      rfl
    simp only [askAll, hask, ih]

end Recognizers

/-! ### Every run takes a course -/

section Runs

variable {σ : Type} (p : Pipeline (StateM σ))

theorem run_complete_journaled (prompt : String) (grammar : Option String) (j : Journal) (s : σ) :
    ((p.journaled.model.complete prompt grammar).run j).run s =
      let r := (p.model.complete prompt grammar).run s
      pure ((r.1, ⟨j.answers ++ [r.1], j.calls⟩), r.2) :=
  rfl

theorem run_execute_journaled (q : List Char) (j : Journal) (s : σ) :
    ((p.journaled.engine.execute q).run j).run s =
      let r := (p.engine.execute q).run s
      pure ((r.1, ⟨j.answers, j.calls ++ [(q, r.1)]⟩), r.2) :=
  rfl

theorem run_newIdentifier_journaled (j : Journal) (s : σ) :
    (p.journaled.clock.newIdentifier.run j).run s =
      let r := p.clock.newIdentifier.run s
      pure ((r.1, j), r.2) :=
  rfl

theorem exists_course_of_run (g : Grammar) (request : Request) (j : Journal) (s : σ) :
    ∃ r s', r.request = request ∧ p.Course g r ∧
      ((p.journaled.run g request).run j).run s = pure ((r.outcome, j.add r), s') := by
  simp only [run, Model.generate, StateT.run_bind, bind_assoc, pure_bind, run_complete_journaled]
  generalize (p.model.complete _ _).run s = answered
  obtain ⟨answer, s₁⟩ := answered
  dsimp only
  cases hc : answer.bind
      (Candidate.ofOutput p.journaled.model.name p.journaled.model.model request) with
  | error why => exact ⟨_, s₁, rfl, .ungenerated hc, by rw [j.add_of_calls_eq_nil rfl]; rfl⟩
  | ok c =>
    simp only [submit]
    cases hvalid : validate p.journaled.recognizer g c.text.toList with
    | error d => exact ⟨_, s₁, rfl, .invalid hc hvalid, by rw [j.add_of_calls_eq_nil rfl]; rfl⟩
    | ok u =>
      cases hnormal : p.journaled.normalizer.normalize c.text.toList with
      | broken =>
        exact ⟨_, s₁, rfl, .broken hc hvalid hnormal, by rw [j.add_of_calls_eq_nil rfl]; rfl⟩
      | refused why =>
        exact ⟨_, s₁, rfl, .refused hc hvalid hnormal, by rw [j.add_of_calls_eq_nil rfl]; rfl⟩
      | query q =>
        simp only [execute, StateT.run_map, StateT.run_bind, pure_bind, run_execute_journaled]
        generalize (p.engine.execute q).run s₁ = replied
        obtain ⟨reply, s₂⟩ := replied
        cases reply with
        | error why => exact ⟨_, s₂, rfl, .unexecuted hc hvalid hnormal, rfl⟩
        | ok result => exact ⟨_, s₂, rfl, .executed hc hvalid hnormal, rfl⟩

/-- An outcome gets an entry in the log, and the grammar in use stays as it is. -/
theorem exists_session_of_record (session : Session) (outcome : Outcome) (j : Journal) (s : σ) :
    ∃ session' s', session.Follows [outcome] session' ∧
      ((p.journaled.record session outcome).run j).run s = pure ((session', j), s') := by
  rcases session with ⟨catalog, - | log⟩
  · exact ⟨_, s, ⟨rfl, nofun⟩, rfl⟩
  · let time := p.clock.now.run s
    let elapsed := p.clock.elapsed.run time.2
    refine ⟨⟨catalog, some (log.record (outcome.entry time.1 elapsed.1))⟩, elapsed.2,
      ⟨rfl, ?_⟩, rfl⟩
    rintro _ ⟨⟩
    exact ⟨[_], rfl, .cons ⟨time.1, elapsed.1, rfl⟩ .nil⟩

theorem exists_course_of_ask (session : Session) (question : String) (j : Journal) (s : σ) :
    ∃ r session' s', r.request.question = question ∧ p.Course session.catalog.current r ∧
      session.Follows r.outcome.toList session' ∧
      ((p.journaled.ask session question).run j).run s =
        pure (((r.outcome, session'), j.add r), s') := by
  simp only [ask, StateT.run_bind]
  rw [run_newIdentifier_journaled]
  generalize p.clock.newIdentifier.run s = made
  obtain ⟨id, s₁⟩ := made
  obtain ⟨r, s₂, hr, hcourse, hrun⟩ :=
    p.exists_course_of_run session.catalog.current ⟨id, question⟩ j s₁
  simp only [pure_bind, hrun]
  cases houtcome : r.outcome with
  | none => exact ⟨r, session, s₂, by rw [hr], hcourse, by rw [houtcome]; exact .refl session,
      by rw [houtcome]; rfl⟩
  | some outcome =>
    obtain ⟨session', s₃, hsession, hrecord⟩ :=
      p.exists_session_of_record session outcome (j.add r) s₂
    refine ⟨r, session', s₃, by rw [hr], hcourse, by rw [houtcome]; exact hsession, ?_⟩
    rw [houtcome, StateT.run_bind, StateT.run_bind, hrecord]
    rfl

/-- Every sequence of runs takes courses, one behind the other. -/
theorem exists_courses_of_askAll (session : Session) (questions : List String) (j : Journal)
    (s : σ) : ∃ (rs : List Run) (session' : Session) (s' : σ),
      rs.map (·.request.question) = questions ∧
      (∀ r ∈ rs, p.Course session.catalog.current r) ∧
      session.Follows (rs.flatMap (·.outcome.toList)) session' ∧
      ((p.journaled.askAll session questions).run j).run s =
        pure (((rs.map (·.outcome), session'), rs.foldl Journal.add j), s') := by
  induction questions generalizing session j s with
  | nil => exact ⟨[], session, s, rfl, by simp, .refl session, rfl⟩
  | cons question rest ih =>
    obtain ⟨r, session₁, s₁, hquestion, hcourse, hfollows, hask⟩ :=
      p.exists_course_of_ask session question j s
    obtain ⟨rs, session₂, s₂, hquestions, hcourses, hfollowsAll, haskAll⟩ :=
      ih session₁ (j.add r) s₁
    refine ⟨r :: rs, session₂, s₂, by simp [hquestion, hquestions], ?_,
      hfollows.trans hfollowsAll, ?_⟩
    · rw [hfollows.catalog] at hcourses
      exact List.forall_mem_cons.mpr ⟨hcourse, hcourses⟩
    · simp only [askAll, StateT.run_bind, hask, pure_bind, haskAll]
      rfl

/-- However many questions are put to a pipeline, the engine is given the queries of those runs
whose candidate passed the gates, in order and nothing else; every run is told faithfully, and
nothing reaches the recognizer but texts that are not empty and have no white space around them. -/
theorem exists_faithful_runs_of_askAll (session : Session) (questions : List String) (s : σ) :
    ∃ (rs : List Run) (session' : Session) (journal : Journal) (s' : σ),
      (p.askAll session questions).run s = pure ((rs.map (·.outcome), session'), s') ∧
      ((p.journaled.askAll session questions).run .empty).run s =
        pure (((rs.map (·.outcome), session'), journal), s') ∧
      rs.map (·.request.question) = questions ∧ journal.answers = rs.map (·.answer) ∧
      journal.calls = rs.flatMap (·.calls) ∧
      journal.calls.map (·.1) = rs.filterMap (p.passed? session) ∧
      (∀ r ∈ rs, p.Faithful session r) ∧
      ∀ recognizer : Recognizer,
        (∀ g text, text ≠ [] → trim text = text → recognizer g text = p.recognizer g text) →
          { p with recognizer := recognizer }.askAll session questions =
            p.askAll session questions := by
  obtain ⟨rs, session', s', hquestions, hcourses, -, hrun⟩ :=
    p.exists_courses_of_askAll session questions .empty s
  have hfaithful : ∀ r ∈ rs, p.Faithful session r := fun r hr => (hcourses r hr).faithful
  have hplain : (p.askAll session questions).run s =
      pure ((rs.map (·.outcome), session'), s') := by
    rw [← run'_askAll_journaled session questions .empty, StateT.run'_eq, StateT.run_map, hrun]
    rfl
  rw [Journal.foldl_add] at hrun
  refine ⟨rs, session', _, s', hplain, hrun, hquestions, rfl, rfl, ?_, hfaithful,
    fun recognizer h => askAll_congr h session questions⟩
  calc (Journal.empty.calls ++ rs.flatMap (·.calls)).map (·.1)
      = rs.flatMap fun r => r.calls.map (·.1) := by
        rw [Journal.empty, List.nil_append, List.map_flatMap]
    _ = rs.flatMap fun r => (p.passed? session r).toList :=
        List.flatMap_congr fun r hr => (hfaithful r hr).calls
    _ = rs.filterMap (p.passed? session) := (List.filterMap_eq_flatMap_toList _ _).symm

end Runs

end Pipeline

end QueryGate
