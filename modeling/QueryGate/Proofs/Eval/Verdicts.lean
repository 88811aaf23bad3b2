import QueryGate.Proofs.Eval.Counts
import QueryGate.Proofs.Request.Runs

/-!
# Verdicts on cases

A case passes if its request ended as it had to (`Passes`) : all that is expected of query and
result is so, or the engine failed and nothing is expected of a result. A list of failures is empty
for no other reason, since each run takes a course (`passed_ofOutcome_iff`), and a case that passed
has a query that went through the gates (`exists_query_of_passes`).

* `exists_judged_runs_of_evaluate` : a suite makes one run for each case, in order, and reports what
  became of it.
-/

namespace QueryGate.Eval

variable {m : Type → Type} {p : Pipeline m} {g : Grammar} {c : Case} {r : Run} {o : Outcome}
  {failure : Failure}

/-! ## One case -/

/-- The query and its result are as a case expects. -/
def Case.Met (c : Case) (sql : String) (result : Option QueryResult) : Prop :=
  ∀ e ∈ c.expectations, e.holds sql.toList result = true

/-- A query was executed and all is as expected, or the engine failed and all is as expected of the
query alone. -/
inductive Passes (c : Case) : Ending → Prop
  | executed {candidate : Candidate} {query : List Char} {result : QueryResult}
      (hmet : c.Met candidate.text (some result)) : Passes c (.executed candidate query result)
  | unexecuted {sql : String} {failure : Failure} (hresult : c.needsResult = false)
      (hmet : c.Met sql none) : Passes c (.failed .executionFailed (some sql) failure)

theorem filterMap_failure?_isEmpty_iff {sql : String} {result : Option QueryResult} :
    (c.expectations.filterMap fun e => e.failure? sql.toList result).isEmpty = true ↔
      c.Met sql result := by
  rw [List.isEmpty_iff, List.filterMap_eq_nil_iff]
  refine forall₂_congr fun e _ => ?_
  unfold Expectation.failure?
  split_ifs with h <;> simp [h]

namespace CaseResult

/-- A failure that keeps a case from being judged is in its list. -/
theorem passed_of_blocking (h : blocking? c o = some failure) :
    (ofOutcome c o).passed = false := by
  rw [ofOutcome, failuresOf, h]
  rfl

theorem passed_iff_of_not_blocking {sql : String} (h : blocking? c o = none)
    (hsql : o.generatedQuery = some sql) :
    (ofOutcome c o).passed = true ↔ c.Met sql o.result? := by
  rw [← filterMap_failure?_isEmpty_iff, ofOutcome, failuresOf, h, hsql]

theorem blocking?_eq (h : o.failure? = some failure) : blocking? c o =
    if o.finalState = .executionFailed ∧ c.needsResult = false then none else some failure := by
  rw [blocking?, h]
  cases c.needsResult <;> by_cases hstate : o.finalState = .executionFailed <;> simp [hstate]

end CaseResult

open CaseResult in
/-- A verdict without failures is one of the two kinds. -/
theorem passed_ofOutcome_iff (hcourse : p.Course g r) (ho : r.outcome = some o) :
    (ofOutcome c o).passed = true ↔ Passes c o.ending := by
  cases hcourse with
  | broken => cases ho
  | ungenerated | invalid | refused =>
    obtain rfl := Option.some.inj ho
    rw [passed_of_blocking ((blocking?_eq rfl).trans (if_neg (by simp [Outcome.finalState])))]
    exact iff_of_false Bool.false_ne_true nofun
  | unexecuted =>
    obtain rfl := Option.some.inj ho
    cases hresult : c.needsResult with
    | false =>
      rw [passed_iff_of_not_blocking ((blocking?_eq rfl).trans (if_pos ⟨rfl, hresult⟩)) rfl]
      refine ⟨.unexecuted hresult, fun h => ?_⟩
      cases h with
      | unexecuted _ hmet => exact hmet
    | true =>
      rw [passed_of_blocking ((blocking?_eq rfl).trans (if_neg (by simp [hresult])))]
      refine iff_of_false Bool.false_ne_true fun h => ?_
      cases h with
      | unexecuted hnone => simp [hresult] at hnone
  | executed =>
    obtain rfl := Option.some.inj ho
    rw [passed_iff_of_not_blocking rfl rfl]
    refine ⟨.executed, fun h => ?_⟩
    cases h with
    | executed hmet => exact hmet

/-- A case that passed has a query that the recognizer accepts and the normalizer passes on. -/
theorem exists_query_of_passes (hcourse : p.Course g r) (ho : r.outcome = some o)
    (h : Passes c o.ending) : ∃ sql q, (CaseResult.ofOutcome c o).generatedQuery = some sql ∧
      validate p.recognizer g sql.toList = .ok () ∧
      p.normalizer.normalize sql.toList = .query q := by
  cases hcourse with
  | broken => cases ho
  | ungenerated | invalid | refused =>
    obtain rfl := Option.some.inj ho
    cases h
  | unexecuted hc hvalid hnormal =>
    obtain rfl := Option.some.inj ho
    exact ⟨_, _, rfl, hvalid, hnormal⟩
  | executed hc hvalid hnormal =>
    obtain rfl := Option.some.inj ho
    exact ⟨_, _, rfl, hvalid, hnormal⟩

/-! ## Runs for cases -/

/-- What the result of a case says of the run that was made for it. -/
structure Judges (p : Pipeline m) (g : Grammar) (c : Case) (r : Run) (result : CaseResult) :
    Prop where
  course : p.Course g r
  request : r.request.question = c.question
  category : result.category = c.category
  name : result.name = c.name
  question : result.question = c.question
  exists_outcome : ∃ o, r.outcome = some o ∧ result.generatedQuery = o.generatedQuery ∧
    (result.passed = true ↔ Passes c o.ending)
  /-- A case that passed has a query that went through both gates. -/
  query : result.passed = true → ∃ sql q, result.generatedQuery = some sql ∧
    validate p.recognizer g sql.toList = .ok () ∧ p.normalizer.normalize sql.toList = .query q

theorem judges_ofOutcome (hcourse : p.Course g r) (hquestion : r.request.question = c.question)
    (ho : r.outcome = some o) : Judges p g c r (CaseResult.ofOutcome c o) where
  course := hcourse
  request := hquestion
  category := rfl
  name := rfl
  question := rfl
  exists_outcome := ⟨o, ho, rfl, passed_ofOutcome_iff hcourse ho⟩
  query h := exists_query_of_passes hcourse ho ((passed_ofOutcome_iff hcourse ho).mp h)

/-- Runs that are made for cases, one after the other, with the results. A run without outcome is
the last one, and there are no results then. -/
inductive Judged (p : Pipeline m) (g : Grammar) :
    List Case → List Run → Option (List CaseResult) → Prop
  | nil : Judged p g [] [] (some [])
  | broken {c : Case} {r : Run} {cases : List Case} (hcourse : p.Course g r)
      (hquestion : r.request.question = c.question) (ho : r.outcome = none) :
      Judged p g (c :: cases) [r] none
  | cons {c : Case} {r : Run} {o : Outcome} {cases : List Case} {rs : List Run}
      {results : Option (List CaseResult)} (hcourse : p.Course g r)
      (hquestion : r.request.question = c.question) (ho : r.outcome = some o)
      (h : Judged p g cases rs results) :
      Judged p g (c :: cases) (r :: rs) (results.map (CaseResult.ofOutcome c o :: ·))

namespace Judged

variable {cases : List Case} {rs : List Run} {results : Option (List CaseResult)}

theorem questions_prefix (h : Judged p g cases rs results) :
    rs.map (·.request.question) <+: cases.map (·.question) := by
  induction h with
  | nil => exact List.prefix_refl _
  | broken _ hquestion _ => simp [hquestion]
  | cons _ hquestion _ _ ih =>
    rw [List.map_cons, List.map_cons, hquestion]
    exact List.cons_prefix_cons.mpr ⟨rfl, ih⟩

theorem courses (h : Judged p g cases rs results) : ∀ r ∈ rs, p.Course g r := by
  induction h with
  | nil => exact List.forall_mem_nil _
  | broken hcourse => exact List.forall_mem_singleton.mpr hcourse
  | cons hcourse _ _ _ ih => exact List.forall_mem_cons.mpr ⟨hcourse, ih⟩

theorem eq_none_iff (h : Judged p g cases rs results) :
    results = none ↔ ∃ r ∈ rs, r.outcome = none := by
  induction h with
  | nil => simp
  | broken _ _ ho => simp [ho]
  | cons _ _ ho _ ih => simp [ho, ih]

/-- Where there are results, there is one of them and one run for each case. -/
theorem judges_getElem? {all : List CaseResult} (h : Judged p g cases rs (some all)) :
    rs.length = cases.length ∧ all.length = cases.length ∧
      ∀ (i : Nat) (c : Case), cases[i]? = some c →
        ∃ r result, rs[i]? = some r ∧ all[i]? = some result ∧ Judges p g c r result := by
  generalize hresults : some all = results at h
  induction h generalizing all with
  | nil =>
    obtain rfl := Option.some.inj hresults
    exact ⟨rfl, rfl, nofun⟩
  | broken => cases hresults
  | cons hcourse hquestion ho _ ih =>
    obtain ⟨rest, rfl, rfl⟩ := Option.map_eq_some_iff.mp hresults.symm
    obtain ⟨hruns, hall, hjudges⟩ := ih rfl
    refine ⟨congrArg Nat.succ hruns, congrArg Nat.succ hall, fun i c hc => ?_⟩
    cases i with
    | zero =>
      obtain rfl := Option.some.inj hc
      exact ⟨_, _, rfl, rfl, judges_ofOutcome hcourse hquestion ho⟩
    | succ i => exact hjudges i c hc

end Judged

/-! ## A suite -/

section Suites

variable {m : Type → Type} [Monad m] [LawfulMonad m] {p : Pipeline m}

open Pipeline in
/-- Cases are put to a pipeline in the same way whether its journal is kept or not. -/
theorem run'_runCases_journaled (session : Session) (cases : List Case) (j : Journal) :
    (runCases p.journaled session cases).run' j = runCases p session cases := by
  induction cases generalizing session j with
  | nil => simp [runCases, StateT.run'_eq]
  | cons c rest ih =>
    refine run'_bind_of_forall (run'_ask_journaled session c.question) (fun r j => ?_) j
    obtain ⟨- | outcome, session⟩ := r
    · simp [StateT.run'_eq]
    · refine run'_bind_of_forall (ih session) (fun rs j => ?_) j
      simp [StateT.run'_eq]

theorem run'_evaluate_journaled (session : Session) (cases : List Case) (j : Journal) :
    (evaluate p.journaled session cases).run' j = evaluate p session cases := by
  refine Pipeline.run'_bind_of_forall (run'_runCases_journaled session cases) (fun rs j => ?_) j
  simp [StateT.run'_eq]

end Suites

section Runs

variable {σ : Type} (p : Pipeline (StateM σ))

/-- Cases make runs until one has no outcome. -/
theorem exists_judged_of_runCases (session : Session) (cases : List Case) (j : Journal) (s : σ) :
    ∃ (rs : List Run) (results : Option (List CaseResult)) (session' : Session) (s' : σ),
      Judged p session.catalog.current cases rs results ∧
      session.Follows (rs.flatMap (·.outcome.toList)) session' ∧
      ((runCases p.journaled session cases).run j).run s =
        pure (((results, session'), rs.foldl Journal.add j), s') := by
  induction cases generalizing session j s with
  | nil => exact ⟨[], some [], session, s, .nil, .refl session, rfl⟩
  | cons c rest ih =>
    obtain ⟨r, session₁, s₁, hquestion, hcourse, hfollows, hask⟩ :=
      p.exists_course_of_ask session c.question j s
    simp only [runCases, StateT.run_bind, hask, pure_bind]
    cases ho : r.outcome with
    | none =>
      refine ⟨[r], none, session₁, s₁, .broken hcourse hquestion ho, ?_, rfl⟩
      simpa using hfollows
    | some o =>
      obtain ⟨rs, results, session₂, s₂, hjudged, hfollowsAll, hrun⟩ := ih session₁ (j.add r) s₁
      rw [hfollows.catalog] at hjudged
      refine ⟨r :: rs, _, session₂, s₂, .cons hcourse hquestion ho hjudged,
        hfollows.trans hfollowsAll, ?_⟩
      simp only [StateT.run_bind, hrun, pure_bind]
      rfl

/-- Whatever a model answers and an engine replies, a suite makes its runs for the cases in order,
and has a report unless one of them has no outcome. The report judges each case by its run, and adds
up. -/
theorem exists_judged_runs_of_evaluate (session : Session) (cases : List Case) (s : σ) :
    ∃ (rs : List Run) (report : Option Report) (session' : Session) (journal : Journal) (s' : σ),
      (evaluate p session cases).run s = pure ((report, session'), s') ∧
      ((evaluate p.journaled session cases).run .empty).run s =
        pure (((report, session'), journal), s') ∧
      journal.answers = rs.map (·.answer) ∧ journal.calls = rs.flatMap (·.calls) ∧
      (∀ r ∈ rs, p.Course session.catalog.current r) ∧
      rs.map (·.request.question) <+: cases.map (·.question) ∧
      (report = none ↔ ∃ r ∈ rs, r.outcome = none) ∧
      ∀ rep, report = some rep → rep.AddsUp ∧ rs.length = cases.length ∧
        rep.cases.length = cases.length ∧ ∀ (i : Nat) (c : Case), cases[i]? = some c →
          ∃ r result, rs[i]? = some r ∧ rep.cases[i]? = some result ∧
            Judges p session.catalog.current c r result := by
  obtain ⟨rs, results, session', s', hjudged, -, hrun⟩ :=
    exists_judged_of_runCases p session cases .empty s
  have hjournaled : ((evaluate p.journaled session cases).run .empty).run s =
      pure (((results.map Report.ofCases, session'), rs.foldl Journal.add .empty), s') := by
    simp only [evaluate, StateT.run_bind, hrun, pure_bind]
    rfl
  have hplain : (evaluate p session cases).run s =
      pure ((results.map Report.ofCases, session'), s') := by
    rw [← run'_evaluate_journaled session cases .empty, StateT.run'_eq, StateT.run_map, hjournaled]
    rfl
  rw [Journal.foldl_add] at hjournaled
  refine ⟨rs, results.map Report.ofCases, session', _, s', hplain, hjournaled, rfl, rfl,
    hjudged.courses, hjudged.questions_prefix, ?_, fun rep hrep => ?_⟩
  · rw [Option.map_eq_none_iff, hjudged.eq_none_iff]
  · obtain ⟨all, rfl, rfl⟩ := Option.map_eq_some_iff.mp hrep
    obtain ⟨hruns, hall, hjudges⟩ := hjudged.judges_getElem?
    exact ⟨Report.addsUp_ofCases all, hruns, hall, hjudges⟩

end Runs

end QueryGate.Eval
