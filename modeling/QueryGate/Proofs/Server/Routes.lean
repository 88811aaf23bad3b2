import QueryGate.Proofs.Eval.Verdicts
import QueryGate.Proofs.Http.RequestLine
import QueryGate.Proofs.Json.Parts
import QueryGate.Proofs.Request.Trails

/-!
# What a request may touch

`Server.Handles` has one case for each way a request can go, with the runs that are made in it, the
response and the session behind it; every request goes one of these ways
(`exists_handles_of_respond`). What requests own is read off the cases (`Server.Handles.owns`) :
questions are put to the pipeline only where they are asked, and the grammar in use changes only
where it is read again.

* `exists_owns_of_respond` : a request that is answered touches nothing but what it owns, and what
  stands behind its path makes no difference; one that is not answered broke the normalizer.
-/

namespace QueryGate

open Http Text

/-- Files; nothing is written down of them. -/
def Files.journaled {m : Type → Type} [Monad m] (files : Files m) : Files (StateT Journal m) where
  read := fun path => files.read path

namespace Server

/-! ## Routes -/

/-- The method and the path of a request. -/
def IsFor (request : List Char) (method path : String) : Prop :=
  requestLine? request = some (method.toList, path.toList)

section Routes

variable {m : Type → Type} [Monad m] (s : Server m) (session : Session) {request : List Char}

/-- A server that writes down what its model and its engine do. -/
def journaled : Server (StateT Journal m) where
  pipeline := s.pipeline.journaled
  files := s.files.journaled
  pagePath := s.pagePath

@[simp] theorem journaled_pipeline : s.journaled.pipeline = s.pipeline.journaled :=
  rfl

theorem respond_congr {other : List Char} (hline : requestLine? other = requestLine? request)
    (hbody : body other = body request) : s.respond session other = s.respond session request := by
  rw [respond, respond, hline, hbody]

theorem respond_query (h : IsFor request "POST" "/query") :
    s.respond session request = s.answer session (questionOf (body request)) := by
  rw [respond, h]
  rfl

theorem respond_suite (h : IsFor request "GET" "/run-evals") :
    s.respond session request = s.evaluate session := by
  rw [respond, h]
  rfl

theorem respond_reload (h : IsFor request "POST" "/grammar/reload") :
    s.respond session request = s.reload session >>= fun r => pure (some r.1, r.2) := by
  rw [respond, h]
  rfl

/-! ### Where nothing is written down -/

/-- Steps of a server whose journal is kept leave it as it was. -/
def IsSilent {α : Type} (x : StateT Journal m α) (y : m α) : Prop :=
  ∀ j, x.run j = (fun a => (a, j)) <$> y

section Silent

variable [LawfulMonad m] {α β : Type} {x : StateT Journal m α} {y : m α}

theorem isSilent_pure (a : α) : IsSilent (m := m) (pure a) (pure a) := fun j => by simp

theorem IsSilent.bind {f : α → StateT Journal m β} {f' : α → m β} (hx : IsSilent x y)
    (hf : ∀ a, IsSilent (f a) (f' a)) : IsSilent (x >>= f) (y >>= f') := by
  intro j
  rw [StateT.run_bind, hx, bind_map_left, map_bind]
  exact bind_congr fun a => hf a j

theorem isSilent_lift (y : m α) : IsSilent (liftM y) y := fun j => by
  rw [map_eq_pure_bind]
  rfl

theorem isSilent_page : IsSilent s.journaled.page s.page :=
  (isSilent_lift _).bind fun content => by cases content <;> exact isSilent_pure _

theorem isSilent_health : IsSilent s.journaled.health s.health :=
  (isSilent_lift _).bind fun _ => isSilent_pure _

theorem isSilent_reload : IsSilent (s.journaled.reload session) (s.reload session) := by
  unfold reload
  cases session.catalog.path with
  | none =>
    refine (isSilent_pure _).bind fun content => ?_
    dsimp only
    cases session.catalog.reload content <;> exact isSilent_pure _
  | some path =>
    refine (isSilent_lift _).bind fun content => ?_
    dsimp only
    cases session.catalog.reload content <;> exact isSilent_pure _

/-- On most ways the session stays as it was. -/
theorem exists_respond_eq (hquery : ¬ IsFor request "POST" "/query")
    (hsuite : ¬ IsFor request "GET" "/run-evals")
    (hreload : ¬ IsFor request "POST" "/grammar/reload") :
    ∃ x : m Response, s.respond session request = x >>= (fun r => pure (some r, session)) ∧
      IsSilent (s.journaled.respond session request) (s.respond session request) := by
  have hpure : ∀ r : Response,
      (pure (some r, session) : m (Option Response × Session)) =
        pure r >>= fun r => pure (some r, session) := fun r => by rw [pure_bind]
  unfold respond
  split
  · exact ⟨pure _, hpure _, isSilent_pure _⟩
  · next method path hline =>
    have hfor : ∀ {a b : String}, String.ofList method = a → String.ofList path = b →
        IsFor request a b := by
      rintro _ _ rfl rfl
      rw [IsFor, String.toList_ofList, String.toList_ofList]
      exact hline
    split
    · exact ⟨s.page, rfl, s.isSilent_page.bind fun r => isSilent_pure _⟩
    · exact ⟨s.health, rfl, s.isSilent_health.bind fun r => isSilent_pure _⟩
    · next hmethod hpath => exact absurd (hfor hmethod hpath) hquery
    · next hmethod hpath => exact absurd (hfor hmethod hpath) hsuite
    · next hmethod hpath => exact absurd (hfor hmethod hpath) hreload
    · exact ⟨pure _, hpure _, isSilent_pure _⟩
    · exact ⟨pure _, hpure _, isSilent_pure _⟩
    · exact ⟨pure _, hpure _, isSilent_pure _⟩

theorem IsSilent.run' (h : IsSilent x y) (j : Journal) : x.run' j = y := by
  rw [StateT.run'_eq, h j]
  simp

open Pipeline in
theorem run'_answer_journaled (question : String) (j : Journal) :
    (s.journaled.answer session question).run' j = s.answer session question := by
  unfold answer
  split_ifs
  · simp [StateT.run'_eq]
  · refine run'_bind_of_forall (run'_ask_journaled session question) (fun r j => ?_) j
    simp [StateT.run'_eq]

open Pipeline in
/-- A server does the same whether its journal is kept or not. -/
theorem run'_respond_journaled (j : Journal) :
    (s.journaled.respond session request).run' j = s.respond session request := by
  by_cases hquery : IsFor request "POST" "/query"
  · rw [respond_query _ _ hquery, respond_query _ _ hquery]
    exact s.run'_answer_journaled session _ j
  by_cases hsuite : IsFor request "GET" "/run-evals"
  · rw [respond_suite _ _ hsuite, respond_suite _ _ hsuite]
    refine run'_bind_of_forall (Eval.run'_evaluate_journaled session Eval.suite) (fun r j => ?_) j
    simp [StateT.run'_eq]
  by_cases hreload : IsFor request "POST" "/grammar/reload"
  · rw [respond_reload _ _ hreload, respond_reload _ _ hreload]
    exact ((s.isSilent_reload session).bind fun r => isSilent_pure _).run' j
  · obtain ⟨-, -, hsilent⟩ := s.exists_respond_eq session hquery hsuite hreload
    exact hsilent.run' j

end Silent

end Routes

/-! ## Ways of a request -/

section Ways

variable {m : Type → Type} {s : Server m} {session session' : Session} {request : List Char}
  {rs : List Run} {response : Option Response}

/-- How a request can go, with the runs that are made, the response and the session behind it. -/
inductive Handles (s : Server m) (session : Session) (request : List Char) :
    List Run → Option Response → Session → Prop
  | asked {r : Run} {session' : Session} (hfor : IsFor request "POST" "/query")
      (hasks : isBlank (questionOf (body request)).toList = false)
      (hquestion : r.request.question = questionOf (body request))
      (hcourse : s.pipeline.Course session.catalog.current r)
      (hfollows : session.Follows r.outcome.toList session') :
      Handles s session request [r] (r.outcome.map outcomeReply) session'
  | unasked {response : Response} (hfor : IsFor request "POST" "/query")
      (hblank : isBlank (questionOf (body request)).toList = true)
      (hstatus : response.status = 400) : Handles s session request [] (some response) session
  | evaluated {rs : List Run} {results : Option (List Eval.CaseResult)} {session' : Session}
      (hfor : IsFor request "GET" "/run-evals")
      (hjudged : Eval.Judged s.pipeline session.catalog.current Eval.suite rs results)
      (hfollows : session.Follows (rs.flatMap (·.outcome.toList)) session') :
      Handles s session request rs ((results.map Eval.Report.ofCases).map reportReply) session'
  | reloaded {content : FileContent} {catalog : Catalog} {response : Response}
      (hfor : IsFor request "POST" "/grammar/reload")
      (hreload : session.catalog.reload content = .ok catalog) (hstatus : response.status = 200) :
      Handles s session request [] (some response) { session with catalog := catalog }
  | kept {response : Response} (hquery : ¬ IsFor request "POST" "/query")
      (hsuite : ¬ IsFor request "GET" "/run-evals") :
      Handles s session request [] (some response) session

/-- The question in a request. -/
def Asks (request : List Char) (question : String) : Prop :=
  IsFor request "POST" "/query" ∧ isBlank question.toList = false ∧
    ∃ v, Json.readValue? (body request) = some v ∧ v.field? "query" = some (.string question)

/-- The questions that a request puts to the pipeline. -/
inductive Puts (request : List Char) : List String → Prop
  | question {question : String} (h : Asks request question) : Puts request [question]
  | suite (h : IsFor request "GET" "/run-evals") : Puts request (Eval.suite.map (·.question))
  | nothing (hasks : ∀ question, ¬ Asks request question)
      (hsuite : ¬ IsFor request "GET" "/run-evals") : Puts request []

/-- The status of the response to a question tells how its run ended, if one was made. -/
structure StatusTells (status : Nat) (rs : List Run) : Prop where
  ok : status = 200 ↔ ∃ r ∈ rs, ∃ o ∈ r.outcome, o.finalState = .executed
  unprocessable : status = 422 ↔
    ∃ r ∈ rs, ∃ o ∈ r.outcome, o.finalState = .invalid ∨ o.finalState = .normalizationFailed
  badGateway : status = 502 ↔
    ∃ r ∈ rs, ∃ o ∈ r.outcome, o.finalState = .generationFailed ∨ o.finalState = .executionFailed
  badRequest : status = 400 ↔ rs = []

/-- What a request that was answered may touch. -/
structure Owns (s : Server m) (session : Session) (request : List Char) (rs : List Run)
    (response : Response) (session' : Session) : Prop where
  puts : Puts request (rs.map (·.request.question))
  course : ∀ r ∈ rs, s.pipeline.Course session.catalog.current r
  /-- The log has an entry more for each run. -/
  follows : session.Follows (rs.flatMap (·.outcome.toList))
    { session' with catalog := session.catalog }
  log : rs = [] → session'.log = session.log
  catalog : session'.catalog = session.catalog ∨
    IsFor request "POST" "/grammar/reload" ∧ response.status = 200 ∧
      ∃ content, session.catalog.reload content = .ok session'.catalog
  status : IsFor request "POST" "/query" → StatusTells response.status rs

/-- A request without a question has an empty one, which is blank. -/
theorem asks_iff {question : String} : Asks request question ↔
    IsFor request "POST" "/query" ∧ isBlank (questionOf (body request)).toList = false ∧
      questionOf (body request) = question := by
  obtain ⟨found, hfound⟩ : ∃ found, ((Json.readValue? (body request)).bind (·.field? "query")).bind
      Json.string? = found := ⟨_, rfl⟩
  have hfield : (∃ v, Json.readValue? (body request) = some v ∧
      v.field? "query" = some (.string question)) ↔ found = some question := by
    rw [← hfound]
    simp [Option.bind_eq_some_iff, Json.string?_eq_some_iff]
  rw [Asks, questionOf, hfound, hfield]
  refine and_congr_right fun _ => ?_
  cases found with
  | none => simp [isBlank]
  | some text =>
    rw [Option.some.injEq, Option.getD_some]
    refine ⟨?_, ?_⟩ <;> rintro ⟨hblank, rfl⟩ <;> exact ⟨hblank, rfl⟩

theorem IsFor.eq {method path method' path' : String} (h : IsFor request method path)
    (h' : IsFor request method' path') : method = method' ∧ path = path' := by
  obtain ⟨hmethod, hpath⟩ := Prod.mk.inj (Option.some.inj (h.symm.trans h'))
  exact ⟨String.toList_injective hmethod, String.toList_injective hpath⟩

theorem statusTells_outcomeReply {r : Run} {o : Outcome} (h : o.IsLegal) (ho : r.outcome = some o) :
    StatusTells (outcomeReply o).status [r] := by
  obtain ⟨status, hstatus⟩ : ∃ status, (outcomeReply o).status = status := ⟨_, rfl⟩
  cases hending : o.ending with
  | executed c q result =>
    have hfinal := (h.executed c q result hending).1
    have hstatus : (outcomeReply o).status = 200 := by rw [outcomeReply, hending]; rfl
    constructor <;> simp [hstatus, ho, hfinal]
  | failed state c f =>
    obtain ⟨hfinal, ⟨stage, rfl⟩, -, hkind⟩ := h.failed state c f hending
    have hstatus : (outcomeReply o).status = f.kind.status.1 := by rw [outcomeReply, hending]; rfl
    rw [hstatus, hkind]
    cases stage <;> constructor <;> simp [ho, hfinal, Stage.failureState]

theorem not_asks_of_isFor {method path : String} (h : IsFor request method path)
    (hne : ("POST", "/query") ≠ (method, path)) (question : String) : ¬ Asks request question := by
  intro hasks
  obtain ⟨rfl, rfl⟩ := hasks.1.eq h
  exact hne rfl

theorem questions_of_judged {p : Pipeline m} {g : Grammar} {cases : List Eval.Case}
    {all : List Eval.CaseResult} (h : Eval.Judged p g cases rs (some all)) :
    rs.map (·.request.question) = cases.map (·.question) := by
  refine h.questions_prefix.eq_of_length ?_
  rw [List.length_map, List.length_map, h.judges_getElem?.1]

theorem Handles.courses (h : s.Handles session request rs response session') :
    ∀ r ∈ rs, s.pipeline.Course session.catalog.current r := by
  cases h with
  | asked _ _ _ hcourse => exact List.forall_mem_singleton.mpr hcourse
  | evaluated _ hjudged => exact hjudged.courses
  | unasked | reloaded | kept => exact List.forall_mem_nil _

/-- A request is left without a response only where the normalizer breaks on a candidate. -/
theorem Handles.eq_none_iff (h : s.Handles session request rs response session') :
    response = none ↔ ∃ r ∈ rs, s.pipeline.BreaksOn session.catalog.current r := by
  have hbreaks : (∃ r ∈ rs, s.pipeline.BreaksOn session.catalog.current r) ↔
      ∃ r ∈ rs, r.outcome = none :=
    exists_congr fun r => and_congr_right fun hr => (h.courses r hr).outcome_eq_none_iff.symm
  rw [hbreaks]
  cases h with
  | asked => simp
  | evaluated _ hjudged =>
    rw [Option.map_eq_none_iff, Option.map_eq_none_iff, hjudged.eq_none_iff]
  | unasked | reloaded | kept => simp

theorem Handles.owns {response : Response}
    (h : s.Handles session request rs (some response) session') :
    s.Owns session request rs response session' := by
  have hcourses := h.courses
  generalize hresponse : some response = answered at h
  cases h with
  | @asked r session' hfor hasks hquestion hcourse hfollows =>
    obtain ⟨o, ho, rfl⟩ := Option.map_eq_some_iff.mp hresponse.symm
    exact {
      puts := .question (asks_iff.mpr ⟨hfor, hasks, hquestion.symm⟩)
      course := hcourses
      follows := ⟨rfl, by simpa using hfollows.log⟩
      log := nofun
      catalog := .inl hfollows.catalog
      status := fun _ => statusTells_outcomeReply (hcourse.isLegal ho) ho }
  | unasked hfor hblank hstatus =>
    obtain rfl := Option.some.inj hresponse
    have hasks : ∀ question, ¬ Asks request question := fun question hasks => by
      rw [(asks_iff.mp hasks).2.1] at hblank
      cases hblank
    exact {
      puts := .nothing hasks fun hsuite => absurd (hfor.eq hsuite) (by decide)
      course := hcourses
      follows := .refl session
      log := fun _ => rfl
      catalog := .inl rfl
      status := fun _ => by constructor <;> simp [hstatus] }
  | evaluated hfor hjudged hfollows =>
    obtain ⟨report, hreport, -⟩ := Option.map_eq_some_iff.mp hresponse.symm
    obtain ⟨all, rfl, -⟩ := Option.map_eq_some_iff.mp hreport
    have hquestions := questions_of_judged hjudged
    exact {
      puts := hquestions ▸ .suite hfor
      course := hcourses
      follows := ⟨rfl, hfollows.log⟩
      log := fun hnil => by
        subst hnil
        cases hquestions
      catalog := .inl hfollows.catalog
      status := fun hquery => absurd (hfor.eq hquery) (by decide) }
  | reloaded hfor hreload hstatus =>
    obtain rfl := Option.some.inj hresponse
    exact {
      puts := .nothing (not_asks_of_isFor hfor (by decide)) fun hsuite =>
        absurd (hfor.eq hsuite) (by decide)
      course := hcourses
      follows := .refl session
      log := fun _ => rfl
      catalog := .inr ⟨hfor, hstatus, _, hreload⟩
      status := fun hquery => absurd (hfor.eq hquery) (by decide) }
  | kept hquery hsuite =>
    exact {
      puts := .nothing (fun question hasks => hquery hasks.1) hsuite
      course := hcourses
      follows := .refl session
      log := fun _ => rfl
      catalog := .inl rfl
      status := fun hfor => absurd hfor hquery }

end Ways

section Runs

variable {σ : Type} (s : Server (StateM σ)) (session : Session) (request : List Char) (w : σ)

theorem exists_handles_of_reload (hquery : ¬ IsFor request "POST" "/query")
    (hsuite : ¬ IsFor request "GET" "/run-evals")
    (hreload : IsFor request "POST" "/grammar/reload") :
    ∃ (response : Response) (session' : Session) (w' : σ),
      Handles s session request [] (some response) session' ∧
      (s.reload session).run w = pure ((response, session'), w') := by
  unfold reload
  cases session.catalog.path with
  | none =>
    simp only [pure_bind]
    cases hcatalog : session.catalog.reload (.error .missing) with
    | error e => exact ⟨_, session, w, .kept hquery hsuite, rfl⟩
    | ok catalog => exact ⟨_, _, w, .reloaded hreload hcatalog rfl, rfl⟩
  | some path =>
    obtain ⟨content, w', hread⟩ : ∃ content w', (s.files.read path).run w = pure (content, w') :=
      ⟨_, _, rfl⟩
    simp only [StateT.run_bind, hread, pure_bind]
    cases hcatalog : session.catalog.reload content with
    | error e => exact ⟨_, session, w', .kept hquery hsuite, rfl⟩
    | ok catalog => exact ⟨_, _, w', .reloaded hreload hcatalog rfl, rfl⟩

theorem exists_handles_of_respond (j : Journal) :
    ∃ (rs : List Run) (response : Option Response) (session' : Session) (w' : σ),
      Handles s session request rs response session' ∧
      ((s.journaled.respond session request).run j).run w =
        pure (((response, session'), rs.foldl Journal.add j), w') := by
  by_cases hquery : IsFor request "POST" "/query"
  · rw [respond_query _ _ hquery, answer]
    cases hasks : isBlank (questionOf (body request)).toList with
    | true => exact ⟨[], _, session, w, .unasked hquery hasks rfl, rfl⟩
    | false =>
      obtain ⟨r, session', w', hquestion, hcourse, hfollows, hask⟩ :=
        s.pipeline.exists_course_of_ask session (questionOf (body request)) j w
      refine ⟨[r], _, session', w', .asked hquery hasks hquestion hcourse hfollows, ?_⟩
      rw [if_neg Bool.false_ne_true]
      simp only [StateT.run_bind, journaled_pipeline, hask, pure_bind]
      rfl
  by_cases hsuite : IsFor request "GET" "/run-evals"
  · rw [respond_suite _ _ hsuite, evaluate, Eval.evaluate]
    obtain ⟨rs, results, session', w', hjudged, hfollows, hrun⟩ :=
      Eval.exists_judged_of_runCases s.pipeline session Eval.suite j w
    refine ⟨rs, _, session', w', .evaluated hsuite hjudged hfollows, ?_⟩
    simp only [StateT.run_bind, journaled_pipeline, hrun, pure_bind]
    rfl
  by_cases hreload : IsFor request "POST" "/grammar/reload"
  · rw [respond_reload _ _ hreload]
    obtain ⟨response, session', w', hhandles, hrun⟩ :=
      s.exists_handles_of_reload session request w hquery hsuite hreload
    refine ⟨[], _, session', w', hhandles, ?_⟩
    rw [StateT.run_bind, s.isSilent_reload session j, map_eq_pure_bind]
    simp only [StateT.run_bind, hrun, pure_bind]
    rfl
  · obtain ⟨x, hx, hsilent⟩ := s.exists_respond_eq session hquery hsuite hreload
    rw [hsilent j, hx]
    exact ⟨[], _, session, _, .kept hquery hsuite, rfl⟩

/-- Whatever a model answers and an engine replies : a request is answered unless the normalizer
breaks on a candidate. One that is answered makes the runs that it asks for, one for each question,
and touches nothing but what it owns; slashes and parameters behind its path make no difference. -/
theorem exists_owns_of_respond :
    ∃ (rs : List Run) (response : Option Response) (session' : Session) (journal : Journal)
      (w' : σ),
      (s.respond session request).run w = pure ((response, session'), w') ∧
      ((s.journaled.respond session request).run .empty).run w =
        pure (((response, session'), journal), w') ∧
      journal.answers = rs.map (·.answer) ∧ journal.calls = rs.flatMap (·.calls) ∧
      (response = none ↔ ∃ r ∈ rs, s.pipeline.BreaksOn session.catalog.current r) ∧
      (∀ answered, response = some answered →
        s.Owns session request rs answered session') ∧
      ∀ (a : Addressed) (extra : List Char) (h : IsIdle extra), a.request = request →
        s.respond session (a.extend extra h.not_isWhite).request = s.respond session request := by
  obtain ⟨rs, response, session', w', hhandles, hrun⟩ :=
    s.exists_handles_of_respond session request w .empty
  have hplain : (s.respond session request).run w = pure ((response, session'), w') := by
    rw [← s.run'_respond_journaled session .empty, StateT.run'_eq, StateT.run_map, hrun]
    rfl
  rw [Journal.foldl_add] at hrun
  refine ⟨rs, response, session', _, w', hplain, hrun, rfl, rfl, hhandles.eq_none_iff, ?_, ?_⟩
  · rintro answered rfl
    exact hhandles.owns
  · rintro a extra h rfl
    exact s.respond_congr session (a.requestLine?_extend h) (a.body_extend h.not_isWhite)

end Runs

end Server

end QueryGate
