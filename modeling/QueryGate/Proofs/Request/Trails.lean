import Mathlib.Data.List.Chain
import QueryGate.Proofs.Request.Runs
import QueryGate.Server

/-!
# Trails of requests

A trail is legal if each of its moves is one that the machine of states allows
(`Trail.IsLegal`). All else about its moves follows from this : they are linked, no state that
requests end in lies on the way, and where the request stands tells all the states that it came
through (`Trail.IsLegal.map_target`).

Whatever course a run takes, its moves are those of a legal trail, and the state it ends in, the
failure, the candidate and the status for clients agree (`Pipeline.Course.isLegal`,
`Pipeline.exists_isLegal_of_ask`).
-/

namespace QueryGate

/-! ## The machine of states -/

namespace State

variable {a b : State}

theorem canMoveTo_iff : a.canMoveTo b = true ↔ b ∈ a.successors :=
  List.contains_iff_mem

theorem not_isFinal_of_canMoveTo (h : a.canMoveTo b = true) : a.isFinal = false := by
  rw [canMoveTo_iff] at h
  cases a with
  | generationFailed | invalid | normalizationFailed | executed | executionFailed => cases h
  | _ => rfl

/-- The states that a request in the given state has come through since it was received, the state
itself included. -/
def way : State → List State
  | received => []
  | generating => [generating]
  | generated => [generating, generated]
  | generationFailed => [generating, generationFailed]
  | validating => [generating, generated, validating]
  | valid => [generating, generated, validating, valid]
  | invalid => [generating, generated, validating, invalid]
  | normalizing => [generating, generated, validating, valid, normalizing]
  | normalized => [generating, generated, validating, valid, normalizing, normalized]
  | normalizationFailed =>
    [generating, generated, validating, valid, normalizing, normalizationFailed]
  | executing => [generating, generated, validating, valid, normalizing, normalized, executing]
  | executed =>
    [generating, generated, validating, valid, normalizing, normalized, executing, executed]
  | executionFailed =>
    [generating, generated, validating, valid, normalizing, normalized, executing,
      executionFailed]

/-- No state can be come to from two others. -/
theorem way_eq_of_canMoveTo (h : a.canMoveTo b = true) : b.way = a.way ++ [b] := by
  have hway : ∀ b ∈ a.successors, b.way = a.way ++ [b] := by
    cases a <;> decide
  exact hway b (canMoveTo_iff.mp h)

end State

/-! ## Legal trails -/

namespace Trail

variable {t : Trail} {next : State} {states : List State}

/-- A trail whose moves the machine allows. -/
inductive IsLegal : Trail → Prop
  | start : IsLegal .start
  | advance {t : Trail} {next : State} (h : IsLegal t) (hmove : t.state.canMoveTo next = true) :
      IsLegal (t.advance next)

theorem IsLegal.foldl_advance (h : t.IsLegal)
    (hstates : (t.state :: states).IsChain fun a b => a.canMoveTo b = true) :
    (states.foldl Trail.advance t).IsLegal := by
  induction states generalizing t with
  | nil => exact h
  | cons next states ih =>
    obtain ⟨hmove, hstates⟩ := List.isChain_cons_cons.mp hstates
    exact ih (h.advance hmove) hstates

theorem IsLegal.ne_nil (h : t.IsLegal) (hne : t.state ≠ .received) : t.transitions ≠ [] := by
  cases h with
  | start => exact absurd rfl hne
  | advance h hmove => simp [Trail.advance]

/-- The last move leads to where the request stands. -/
theorem IsLegal.target_of_mem_getLast? (h : t.IsLegal) :
    ∀ mv ∈ t.transitions.getLast?, mv.target = t.state := by
  cases h with
  | start => simp [Trail.start]
  | advance h hmove => simp [Trail.advance]

theorem IsLegal.canMoveTo (h : t.IsLegal) :
    ∀ mv ∈ t.transitions, mv.source.canMoveTo mv.target = true := by
  induction h with
  | start => simp [Trail.start]
  | advance h hmove ih => exact List.forall_mem_append.mpr ⟨ih, List.forall_mem_singleton.mpr hmove⟩

/-- Each move begins where the one before it ended. -/
theorem IsLegal.isChain (h : t.IsLegal) :
    t.transitions.IsChain fun a b => b.source = a.target := by
  induction h with
  | start => exact List.isChain_nil
  | advance h hmove ih =>
    refine ih.append (List.isChain_singleton _) fun mv hmv last hlast => ?_
    obtain rfl := Option.some.inj hlast
    exact (h.target_of_mem_getLast? mv hmv).symm

theorem IsLegal.map_target (h : t.IsLegal) : t.transitions.map (·.target) = t.state.way := by
  induction h with
  | start => rfl
  | advance h hmove ih =>
    rw [Trail.advance, List.map_append, ih]
    exact (State.way_eq_of_canMoveTo hmove).symm

theorem IsLegal.source_of_mem_head? (h : t.IsLegal) :
    ∀ mv ∈ t.transitions.head?, mv.source = .received := by
  induction h with
  | start => simp [Trail.start]
  | @advance t next h hmove ih =>
    cases htransitions : t.transitions with
    | nil =>
      have hstate : t.state = .received := by_contra fun hne => h.ne_nil hne htransitions
      simp [Trail.advance, htransitions, hstate]
    | cons mv rest => simpa [Trail.advance, htransitions] using ih

/-- A request that has come to a state it ends in makes no further move. -/
theorem IsLegal.not_isFinal (h : t.IsLegal) :
    ∀ mv ∈ t.transitions.dropLast, mv.target.isFinal = false := by
  induction h with
  | start => simp [Trail.start]
  | @advance t next h hmove ih =>
    intro mv hmv
    rw [Trail.advance, List.dropLast_concat] at hmv
    obtain ⟨mvs, last, hlast⟩ := (List.eq_nil_or_concat' t.transitions).resolve_left
      (List.ne_nil_of_mem hmv)
    have htarget := h.target_of_mem_getLast? last (by simp [hlast])
    rw [hlast, List.dropLast_concat] at ih
    rw [hlast, List.mem_append, List.mem_singleton] at hmv
    rcases hmv with hmv | rfl
    · exact ih mv hmv
    · rw [htarget]
      exact State.not_isFinal_of_canMoveTo hmove

end Trail

/-! ## Failures and the states they end in -/

/-- The state that a request ends in if a stage fails. -/
def Stage.failureState : Stage → State
  | generation => .generationFailed
  | validation => .invalid
  | normalization => .normalizationFailed
  | execution => .executionFailed

namespace FailureKind

variable {k : FailureKind}

/-- The stage of a kind can be read off its name. -/
theorem isPrefix_name_iff {stage : Stage} :
    (stage.name ++ ".").toList <+: k.name.toList ↔ stage = k.stage := by
  simp only [name, String.toList_append]
  constructor
  · intro h
    cases stage <;> cases hk : k.stage <;> simp [hk, Stage.name] at h ⊢
  · rintro rfl
    exact List.prefix_append _ _

theorem failureState_eq_iff {stage : Stage} :
    k.stage.failureState = stage.failureState ↔ (stage.name ++ ".").toList <+: k.name.toList := by
  rw [isPrefix_name_iff]
  cases k.stage <;> cases stage <;> decide

/-- Clients are to blame for what is rejected in between, collaborators for the rest. -/
theorem status_eq : k.status.1 =
    if k.stage.failureState = .invalid ∨ k.stage.failureState = .normalizationFailed then 422
    else 502 := by
  unfold status
  cases k.stage <;> rfl

end FailureKind

theorem Failure.stage_generation (why : GenerationFailure) :
    (Failure.generation why).kind.stage = .generation := by
  cases why <;> rfl

theorem Failure.stage_execution (why : ExecutionFailure) :
    (Failure.execution why).kind.stage = .execution := by
  cases why <;> rfl

/-! ## Outcomes -/

/-- The moves of a request that was received and has ended in a state. -/
structure IsPath (moves : List Transition) (last : State) : Prop where
  source : moves.head?.map (·.source) = some .received
  linked : moves.IsChain fun a b => b.source = a.target
  allowed : ∀ mv ∈ moves, mv.source.canMoveTo mv.target = true
  unfinished : (∀ mv ∈ moves, mv.source.isFinal = false) ∧
    ∀ mv ∈ moves.dropLast, mv.target.isFinal = false
  target : moves.getLast?.map (·.target) = some last
  isFinal : last.isFinal = true

/-- The stages that a query passes, by the states behind them. -/
def State.passed : List State := [.generated, .valid, .normalized, .executed]

/-- What an outcome says of its end agrees with its moves. -/
structure Outcome.IsLegal (o : Outcome) : Prop where
  path : IsPath o.transitions o.finalState
  executed : ∀ c q result, o.ending = .executed c q result →
    o.finalState = .executed ∧ State.passed.Sublist (o.transitions.map (·.target))
  failed : ∀ state c f, o.ending = .failed state c f → o.finalState = state ∧
    (∃ stage : Stage, state = stage.failureState) ∧
    (∀ stage : Stage,
      state = stage.failureState ↔ (stage.name ++ ".").toList <+: f.kind.name.toList) ∧
    f.kind.status.1 = if state = .invalid ∨ state = .normalizationFailed then 422 else 502
  ungenerated : o.generatedQuery = none ↔ o.finalState = .generationFailed

theorem Trail.IsLegal.isPath {t : Trail} (h : t.IsLegal) (hfinal : t.state.isFinal = true) :
    IsPath t.transitions t.state where
  source := by
    obtain ⟨mv, moves, hmoves⟩ := List.exists_cons_of_ne_nil (h.ne_nil (ne_received hfinal))
    rw [hmoves]
    exact congrArg some (h.source_of_mem_head? mv (by rw [hmoves]; rfl))
  linked := h.isChain
  allowed := h.canMoveTo
  unfinished := ⟨fun mv hmv => State.not_isFinal_of_canMoveTo (h.canMoveTo mv hmv), h.not_isFinal⟩
  target := by
    obtain ⟨moves, mv, hmoves⟩ :=
      (List.eq_nil_or_concat' t.transitions).resolve_left (h.ne_nil (ne_received hfinal))
    rw [hmoves, List.getLast?_concat]
    exact congrArg some (h.target_of_mem_getLast? mv (by rw [hmoves]; simp))
  isFinal := hfinal
where
  ne_received {s : State} (hfinal : s.isFinal = true) : s ≠ .received := by
    rintro rfl
    cases hfinal

namespace Pipeline

variable {m : Type → Type} {p : Pipeline m} {g : Grammar} {r : Run} {o : Outcome}
  {request : Request} {states : List State} {last : State}

/-- The moves through states that the machine allows one behind the other. -/
theorem isPath_movesThrough
    (h : (State.received :: (states ++ [last])).IsChain fun a b => a.canMoveTo b = true)
    (hfinal : last.isFinal = true) : IsPath (movesThrough (states ++ [last])) last ∧
      (movesThrough (states ++ [last])).map (·.target) = last.way := by
  have hlegal := Trail.IsLegal.start.foldl_advance h
  have hstate : ((states ++ [last]).foldl Trail.advance .start).state = last := by
    rw [List.foldl_append]
    rfl
  refine ⟨?_, ?_⟩
  · have hpath := hlegal.isPath (by rw [hstate]; exact hfinal)
    rwa [hstate] at hpath
  · rw [movesThrough, hlegal.map_target, hstate]

theorem isLegal_of_failed (states : List State) (stage : Stage) {c : Option String} {f : Failure}
    (hstage : f.kind.stage = stage)
    (hstates : (State.received :: (states ++ [stage.failureState])).IsChain
      fun a b => a.canMoveTo b = true)
    (hc : c = none ↔ stage = .generation) :
    Outcome.IsLegal ⟨request, movesThrough (states ++ [stage.failureState]),
      .failed stage.failureState c f⟩ where
  path := (isPath_movesThrough hstates (by cases stage <;> rfl)).1
  executed := nofun
  failed := by
    rintro state c f ⟨⟩
    subst hstage
    exact ⟨rfl, ⟨_, rfl⟩, fun stage => FailureKind.failureState_eq_iff, FailureKind.status_eq⟩
  ungenerated := by
    refine hc.trans ?_
    change _ ↔ stage.failureState = _
    cases stage <;> decide

theorem isLegal_of_executed (states : List State) {c : Candidate} {q : List Char}
    {result : QueryResult}
    (hstates : (State.received :: (states ++ [.executed])).IsChain
      fun a b => a.canMoveTo b = true) :
    Outcome.IsLegal ⟨request, movesThrough (states ++ [.executed]), .executed c q result⟩ where
  path := (isPath_movesThrough hstates rfl).1
  executed := by
    rintro c q result ⟨⟩
    refine ⟨rfl, ?_⟩
    rw [(isPath_movesThrough hstates rfl).2]
    decide
  failed := nofun
  ungenerated := iff_of_false nofun nofun

/-- Every run takes a legal trail to its end. -/
theorem Course.isLegal (h : p.Course g r) (ho : o ∈ r.outcome) : o.IsLegal := by
  cases h with
  | broken => cases ho
  | ungenerated hc =>
    obtain rfl := Option.some.inj ho
    exact isLegal_of_failed [.generating] .generation (Failure.stage_generation _) (by decide)
      (by decide)
  | invalid hc hvalid =>
    obtain rfl := Option.some.inj ho
    exact isLegal_of_failed [.generating, .generated, .validating] .validation rfl (by decide)
      (by simp)
  | refused hc hvalid hnormal =>
    obtain rfl := Option.some.inj ho
    exact isLegal_of_failed [.generating, .generated, .validating, .valid, .normalizing]
      .normalization rfl (by decide) (by simp)
  | unexecuted hc hvalid hnormal =>
    obtain rfl := Option.some.inj ho
    exact isLegal_of_failed
      [.generating, .generated, .validating, .valid, .normalizing, .normalized, .executing]
      .execution (Failure.stage_execution _) (by decide) (by simp)
  | executed hc hvalid hnormal =>
    obtain rfl := Option.some.inj ho
    exact isLegal_of_executed
      [.generating, .generated, .validating, .valid, .normalizing, .normalized, .executing]
      (by decide)

/-- Whatever grammar is in use, and whatever a model answers and an engine replies : a question has
an outcome unless the normalizer breaks on the candidate. It is told by a legal trail, and state,
failure, candidate and status agree in it. -/
theorem exists_isLegal_of_ask {σ : Type} (p : Pipeline (StateM σ)) (session : Session)
    (question : String) (s : σ) :
    ∃ (r : Run) (session' : Session) (journal : Journal) (s' : σ),
      (p.ask session question).run s = pure ((r.outcome, session'), s') ∧
      ((p.journaled.ask session question).run .empty).run s =
        pure (((r.outcome, session'), journal), s') ∧
      r.request.question = question ∧ journal.answers = [r.answer] ∧ journal.calls = r.calls ∧
      (r.outcome = none ↔ p.BreaksOn session.catalog.current r) ∧
      ∀ o ∈ r.outcome, o.request.question = question ∧ o.IsLegal := by
  obtain ⟨r, session', s', hquestion, hcourse, -, hask⟩ :=
    p.exists_course_of_ask session question .empty s
  refine ⟨r, session', _, s', ?_, hask, hquestion, rfl, rfl, hcourse.outcome_eq_none_iff,
    fun o ho => ⟨?_, hcourse.isLegal ho⟩⟩
  · rw [← run'_ask_journaled session question .empty, StateT.run'_eq, StateT.run_map, hask]
    rfl
  · rw [(hcourse.faithful.generatedQuery o ho).1, hquestion]

end Pipeline

end QueryGate
