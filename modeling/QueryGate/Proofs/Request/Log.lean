import Mathlib.Data.List.ReduceOption
import QueryGate.Proofs.Request.Trails

/-!
# The log and the runs

Over any number of questions the log of a session has one entry for each outcome, in order, and
keeps the last of them (`Pipeline.exists_mirrors_of_askAll`). An entry says how the request ended,
as its trail and its ending tell it (`LogEntry.Mirrors`).
-/

namespace QueryGate

/-- What an entry says of a request is what happened to it. -/
structure LogEntry.Mirrors (e : LogEntry) (o : Outcome) : Prop where
  request : e.request = o.request.id
  question : e.question = o.request.question
  finalState : o.transitions.getLast?.map (·.target.name) = some e.finalState
  generatedQuery : e.generatedQuery = o.generatedQuery
  failed : ∀ state c f, o.ending = .failed state c f →
    e.errorKind = some f.kind.name ∧ e.errorMessage = some f.message ∧ e.rowsReturned = none
  executed : ∀ c q result, o.ending = .executed c q result →
    e.errorKind = none ∧ e.errorMessage = none ∧ e.rowsReturned = some result.rowCount

variable {o : Outcome} {e : LogEntry}

theorem Outcome.HasEntry.mirrors (h : o.HasEntry e) (ho : o.IsLegal) : e.Mirrors o := by
  obtain ⟨time, elapsedMs, rfl⟩ := h
  refine ⟨rfl, rfl, ?_, rfl, fun state c f hend => ?_, fun c q result hend => ?_⟩
  · have htarget := congrArg (Option.map State.name) ho.path.target
    rwa [Option.map_map, Option.map_some] at htarget
  · simp [Outcome.entry, Outcome.failure?, Outcome.result?, hend]
  · simp [Outcome.entry, Outcome.failure?, Outcome.result?, hend]

namespace Pipeline

variable {m : Type → Type} {p : Pipeline m} {g : Grammar}

theorem reduceOption_map_outcome (rs : List Run) :
    (rs.map (·.outcome)).reduceOption = rs.flatMap (·.outcome.toList) := by
  rw [List.reduceOption, List.filterMap_map, List.filterMap_eq_flatMap_toList]
  rfl

theorem forall₂_mirrors_of_courses {rs : List Run} {es : List LogEntry}
    (h : ∀ r ∈ rs, p.Course g r)
    (hentries : List.Forall₂ Outcome.HasEntry (rs.flatMap (·.outcome.toList)) es) :
    List.Forall₂ LogEntry.Mirrors es (rs.flatMap (·.outcome.toList)) := by
  have hlegal : ∀ o ∈ rs.flatMap (·.outcome.toList), o.IsLegal := by
    intro o ho
    obtain ⟨r, hr, houtcome⟩ := List.mem_flatMap.mp ho
    exact (h r hr).isLegal (Option.mem_toList.mp houtcome)
  have hboth := (List.forall₂_and_left _ _).mpr ⟨hlegal, hentries⟩
  exact (hboth.imp fun o e he => he.2.mirrors he.1).flip

/-- However many questions are put to a pipeline with a log, the log has the last entries of one
for each outcome, in order, and each of them mirrors the outcome it is for. A question has no
outcome only where the normalizer breaks on its candidate. -/
theorem exists_mirrors_of_askAll {σ : Type} (p : Pipeline (StateM σ)) (catalog : Catalog)
    (n : Nat) (file : LogFile) (questions : List String) (s : σ) :
    ∃ (rs : List Run) (outcomes : List (Option Outcome)) (session' : Session) (journal : Journal)
      (log : RequestLog) (s' : σ),
      (p.askAll ⟨catalog, some (.empty n file)⟩ questions).run s =
        pure ((outcomes, session'), s') ∧
      ((p.journaled.askAll ⟨catalog, some (.empty n file)⟩ questions).run .empty).run s =
        pure (((outcomes, session'), journal), s') ∧
      outcomes = rs.map (·.outcome) ∧ rs.map (·.request.question) = questions ∧
      journal.answers = rs.map (·.answer) ∧ journal.calls = rs.flatMap (·.calls) ∧
      (∀ r ∈ rs, (r.outcome = none ↔ p.BreaksOn catalog.current r)) ∧
      List.Forall₂ (fun question outcome => ∀ o ∈ outcome, o.request.question = question)
        questions outcomes ∧
      session'.log = some log ∧ log.entries.length = min n outcomes.reduceOption.length ∧
      List.Forall₂ LogEntry.Mirrors log.entries (outcomes.reduceOption.rtake n) := by
  obtain ⟨rs, session', s', hquestions, hcourses, hfollows, hrun⟩ :=
    p.exists_courses_of_askAll ⟨catalog, some (.empty n file)⟩ questions .empty s
  obtain ⟨es, hlog, hentries⟩ := hfollows.log _ rfl
  have hmirrors := forall₂_mirrors_of_courses hcourses hentries
  have hkept := RequestLog.entries_foldl_record_empty n file es
  have hplain : (p.askAll ⟨catalog, some (.empty n file)⟩ questions).run s =
      pure ((rs.map (·.outcome), session'), s') := by
    rw [← run'_askAll_journaled _ questions .empty, StateT.run'_eq, StateT.run_map, hrun]
    rfl
  rw [Journal.foldl_add] at hrun
  refine ⟨rs, _, session', _, _, s', hplain, hrun, rfl, hquestions, rfl, rfl,
    fun r hr => (hcourses r hr).outcome_eq_none_iff, ?_, hlog, ?_, ?_⟩
  · rw [← hquestions, List.forall₂_map_left_iff, List.forall₂_map_right_iff, List.forall₂_same]
    intro r hr o ho
    rw [((hcourses r hr).faithful.generatedQuery o ho).1]
  · rw [hkept, reduceOption_map_outcome, ← hmirrors.length_eq, ← RequestLog.last_eq_rtake,
      RequestLog.length_last]
  · rw [hkept, reduceOption_map_outcome, List.rtake, List.rtake, hmirrors.length_eq]
    exact List.forall₂_drop _ hmirrors

end Pipeline

end QueryGate
