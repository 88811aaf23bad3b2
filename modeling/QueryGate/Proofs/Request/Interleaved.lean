import Mathlib.Logic.Function.Basic
import QueryGate.Proofs.Chart.Recognizer
import QueryGate.Proofs.Request.Runs

/-!
# Requests side by side

Many requests are worked on at a time, and the grammar is read again between their moves. A request
looks at the grammar in use twice : when the model is asked, and when the candidate is validated.
`Pipeline.deskRun` takes the requests through a schedule of moves and reloads.

* `Pipeline.IsConsistent.advance` : a request that has ended went as a run goes with the grammar it
  was judged by, so the schedule decides about nothing else;
* `exists_moves_of_course` : every course of a run is taken by a request that makes its moves under
  one grammar;
* `exists_isJudged_of_deskRun` : where the two grammars of a request come from, and that they are
  one if nothing is reloaded in between;
* `exists_judged_by_another_grammar` : they need not be.
-/

namespace QueryGate

open Text

/-- What a request has come to. -/
inductive Phase where
  | received
  /-- The model has been asked and has not answered. -/
  | asking
  | generated (answer : ModelAnswer) (c : Candidate)
  | validated (answer : ModelAnswer) (c : Candidate)
  | normalized (answer : ModelAnswer) (c : Candidate) (q : List Char)
  | ended (r : Run)

/-- How far a request has come. -/
structure Ticket where
  request : Request
  phase : Phase
  /-- What the model was given of a grammar. -/
  given : Option String
  /-- The grammar that the candidate was validated with. -/
  judge : Option Grammar

/-- A request that nothing has been done about. -/
def Ticket.start (request : Request) : Ticket := ⟨request, .received, none, none⟩

/-- One move of a request. -/
inductive Move where
  | ask
  | receive (answer : ModelAnswer)
  | validate
  | normalize
  | execute (reply : Except ExecutionFailure QueryResult)

/-- A move of a request, or a reload with what the file of the grammar holds. -/
inductive Event where
  | move (i : Nat) (mv : Move)
  | reload (content : FileContent)

/-- The catalog that all requests share, and how far each has come. -/
structure Desk where
  catalog : Catalog
  tickets : Nat → Ticket

namespace Pipeline

variable {m : Type → Type} {p : Pipeline m} {g : Grammar} {x x' : Ticket} {mv : Move}
  {i j : Nat} {s s' : Desk} {e : Event} {es : List Event} {r : Run}

/-- A request that ends as a failure behind the given states. -/
def failed (request : Request) (answer : ModelAnswer) (calls : List EngineCall)
    (candidate : Option Candidate) (states : List State) (final : State) (why : Failure) : Phase :=
  .ended ⟨request, answer, calls, some ⟨request, movesThrough (states ++ [final]),
    .failed final (candidate.map (·.text)) why⟩⟩

/-- The request behind a move, with the grammar that is in use then; nothing if it cannot make the
move. -/
def advance (p : Pipeline m) (g : Grammar) (x : Ticket) : Move → Option Ticket
  | .ask =>
    match x.phase with
    | .received => some { x with phase := .asking, given := p.model.grammarFor g }
    | _ => none
  | .receive answer =>
    match x.phase with
    | .asking => some { x with
        phase := match p.candidateOf x.request answer with
          | .error why =>
            failed x.request answer [] none [.generating] .generationFailed (.generation why)
          | .ok c => .generated answer c }
    | _ => none
  | .validate =>
    match x.phase with
    | .generated answer c => some { x with
        judge := some g
        phase := match QueryGate.validate p.recognizer g c.text.toList with
          | .error d => failed x.request answer [] (some c) [.generating, .generated, .validating]
              .invalid (.validation d)
          | .ok _ => .validated answer c }
    | _ => none
  | .normalize =>
    match x.phase with
    | .validated answer c => some { x with
        phase := match p.normalizer.normalize c.text.toList with
          | .broken => .ended ⟨x.request, answer, [], none⟩
          | .refused why => failed x.request answer [] (some c)
              [.generating, .generated, .validating, .valid, .normalizing] .normalizationFailed
              (.normalization why)
          | .query q => .normalized answer c q }
    | _ => none
  | .execute reply =>
    match x.phase with
    | .normalized answer c q => some { x with
        phase := match reply with
          | .error why => failed x.request answer [(q, reply)] (some c)
              [.generating, .generated, .validating, .valid, .normalizing, .normalized, .executing]
              .executionFailed (.execution why)
          | .ok result => .ended ⟨x.request, answer, [(q, reply)], some ⟨x.request,
              movesThrough [.generating, .generated, .validating, .valid, .normalizing,
                .normalized, .executing, .executed], .executed c q result⟩⟩ }
    | _ => none

/-- The desk behind an event, if the event can happen : a reload has to succeed. -/
def deskStep (p : Pipeline m) (s : Desk) : Event → Option Desk
  | .move i mv => (p.advance s.catalog.current (s.tickets i) mv).map fun x =>
      { s with tickets := Function.update s.tickets i x }
  | .reload content => (s.catalog.reload content).toOption.map fun c => { s with catalog := c }

/-- The desk behind a schedule, if all of its events can happen. -/
def deskRun (p : Pipeline m) (s : Desk) (es : List Event) : Option Desk :=
  es.foldlM p.deskStep s

/-! ## Requests that have ended -/

/-- What is known of a request in its phase. -/
def IsConsistent (p : Pipeline m) (x : Ticket) : Prop :=
  match x.phase with
  | .received => x.given = none ∧ x.judge = none
  | .asking => x.judge = none
  | .generated answer c => x.judge = none ∧ p.candidateOf x.request answer = .ok c
  | .validated answer c => p.candidateOf x.request answer = .ok c ∧ ∃ g, x.judge = some g ∧
      QueryGate.validate p.recognizer g c.text.toList = .ok ()
  | .normalized answer c q => p.candidateOf x.request answer = .ok c ∧
      p.normalizer.normalize c.text.toList = .query q ∧ ∃ g, x.judge = some g ∧
        QueryGate.validate p.recognizer g c.text.toList = .ok ()
  | .ended r => r.request = x.request ∧ ∀ g, (∀ g' ∈ x.judge, g' = g) → p.Course g r

theorem isConsistent_start (p : Pipeline m) (request : Request) :
    p.IsConsistent (.start request) :=
  ⟨rfl, rfl⟩

theorem IsConsistent.advance (h : p.IsConsistent x) (hx : p.advance g x mv = some x') :
    p.IsConsistent x' := by
  obtain ⟨request, phase, given, judge⟩ := x
  cases mv with
  | ask =>
    cases phase with
    | received =>
      obtain rfl := Option.some.inj hx
      exact h.2
    | _ => cases hx
  | receive answer =>
    cases phase with
    | asking =>
      obtain rfl := Option.some.inj hx
      obtain rfl : judge = none := h
      cases hc : p.candidateOf request answer with
      | error why => simpa [IsConsistent, hc, failed] using fun g => .ungenerated hc
      | ok c => simp [IsConsistent, hc]
    | _ => cases hx
  | validate =>
    cases phase with
    | generated answer c =>
      obtain rfl := Option.some.inj hx
      obtain ⟨-, hc⟩ := h
      cases hvalid : QueryGate.validate p.recognizer g c.text.toList with
      | error d => simpa [IsConsistent, hvalid, failed] using Course.invalid hc hvalid
      | ok u => simpa [IsConsistent, hvalid] using hc
    | _ => cases hx
  | normalize =>
    cases phase with
    | validated answer c =>
      obtain rfl := Option.some.inj hx
      obtain ⟨hc, g', rfl, hvalid⟩ := h
      cases hnormal : p.normalizer.normalize c.text.toList with
      | broken => simpa [IsConsistent, hnormal] using Course.broken hc hvalid hnormal
      | refused why => simpa [IsConsistent, hnormal, failed] using Course.refused hc hvalid hnormal
      | query q => simpa [IsConsistent, hnormal, hvalid] using hc
    | _ => cases hx
  | execute reply =>
    cases phase with
    | normalized answer c q =>
      obtain rfl := Option.some.inj hx
      obtain ⟨hc, hnormal, g', rfl, hvalid⟩ := h
      cases reply with
      | error why => simpa [IsConsistent, failed] using Course.unexecuted hc hvalid hnormal
      | ok result => simpa [IsConsistent] using Course.executed hc hvalid hnormal
    | _ => cases hx

/-- Every course of a run is taken by a request that makes its moves under one grammar. -/
theorem exists_moves_of_course (h : p.Course g r) : ∃ (mvs : List Move) (x : Ticket),
    mvs.foldlM (p.advance g) (Ticket.start r.request) = some x ∧ x.phase = .ended r ∧
      x.given = p.model.grammarFor g ∧ ∀ g' ∈ x.judge, g' = g := by
  cases h with
  | @ungenerated _ answer _ hc =>
    refine ⟨[.ask, .receive answer], ?_⟩
    simp [List.foldlM, Ticket.start, advance, hc, failed]
  | @invalid _ answer _ _ hc hvalid =>
    refine ⟨[.ask, .receive answer, .validate], ?_⟩
    simp [List.foldlM, Ticket.start, advance, hc, hvalid, failed]
  | @broken _ answer _ hc hvalid hnormal =>
    refine ⟨[.ask, .receive answer, .validate, .normalize], ?_⟩
    simp [List.foldlM, Ticket.start, advance, hc, hvalid, hnormal]
  | @refused _ answer _ _ hc hvalid hnormal =>
    refine ⟨[.ask, .receive answer, .validate, .normalize], ?_⟩
    simp [List.foldlM, Ticket.start, advance, hc, hvalid, hnormal, failed]
  | @unexecuted _ answer _ _ why hc hvalid hnormal =>
    refine ⟨[.ask, .receive answer, .validate, .normalize, .execute (.error why)], ?_⟩
    simp [List.foldlM, Ticket.start, advance, hc, hvalid, hnormal, failed]
  | @executed _ answer _ _ result hc hvalid hnormal =>
    refine ⟨[.ask, .receive answer, .validate, .normalize, .execute (.ok result)], ?_⟩
    simp [List.foldlM, Ticket.start, advance, hc, hvalid, hnormal]

/-! ## Schedules -/

theorem deskRun_append_iff {es' : List Event} : p.deskRun s (es ++ es') = some s' ↔
    ∃ s₁, p.deskRun s es = some s₁ ∧ p.deskRun s₁ es' = some s' := by
  rw [deskRun, List.foldlM_append]
  exact Option.bind_eq_some_iff

theorem deskRun_singleton : p.deskRun s [e] = p.deskStep s e := by
  simp [deskRun]

/-- Only a reload changes the grammar in use. -/
theorem catalog_deskRun (h : p.deskRun s es = some s')
    (hes : ∀ content, Event.reload content ∉ es) : s'.catalog = s.catalog := by
  induction es generalizing s with
  | nil => exact congrArg Desk.catalog (Option.some.inj h).symm
  | cons e es ih =>
    rw [← List.singleton_append, deskRun_append_iff] at h
    obtain ⟨s₁, hstep, hrun⟩ := h
    rw [ih hrun fun content hmem => hes content (List.mem_cons_of_mem _ hmem)]
    rw [deskRun_singleton] at hstep
    cases e with
    | reload content => exact absurd (List.mem_cons_self ..) (hes content)
    | move i mv =>
      obtain ⟨x, -, rfl⟩ := Option.map_eq_some_iff.mp hstep
      rfl

/-- What a move does to what a request knows of grammars. -/
theorem advance_cases (h : p.advance g x mv = some x') :
    (mv = .ask ∧ x.phase = .received ∧ x'.given = p.model.grammarFor g ∧ x'.judge = x.judge) ∨
    (mv = .validate ∧ (∃ answer c, x.phase = .generated answer c) ∧ x'.given = x.given ∧
      x'.judge = some g) ∨
    (x.phase ≠ .received ∧ x'.given = x.given ∧ x'.judge = x.judge) := by
  obtain ⟨request, phase, given, judge⟩ := x
  cases mv with
  | ask =>
    cases phase with
    | received =>
      obtain rfl := Option.some.inj h
      exact Or.inl ⟨rfl, rfl, rfl, rfl⟩
    | _ => cases h
  | validate =>
    cases phase with
    | generated answer c =>
      obtain rfl := Option.some.inj h
      exact Or.inr (Or.inl ⟨rfl, ⟨answer, c, rfl⟩, rfl, rfl⟩)
    | _ => cases h
  | receive answer =>
    cases phase with
    | asking =>
      obtain rfl := Option.some.inj h
      exact Or.inr (Or.inr ⟨nofun, rfl, rfl⟩)
    | _ => cases h
  | normalize =>
    cases phase with
    | validated answer c =>
      obtain rfl := Option.some.inj h
      exact Or.inr (Or.inr ⟨nofun, rfl, rfl⟩)
    | _ => cases h
  | execute reply =>
    cases phase with
    | normalized answer c q =>
      obtain rfl := Option.some.inj h
      exact Or.inr (Or.inr ⟨nofun, rfl, rfl⟩)
    | _ => cases h

/-- Where in a schedule a request was asked about and judged : the model was given the grammar in
use at the one place, the candidate was judged with the one in use at the other. -/
inductive IsTraced (p : Pipeline m) (start : Desk) (i : Nat) : List Event → Ticket → Prop
  | fresh {es : List Event} {x : Ticket} (hphase : x.phase = .received) :
      IsTraced p start i es x
  | asked {before after : List Event} {s : Desk} {x : Ticket}
      (hbefore : p.deskRun start before = some s)
      (hgiven : x.given = p.model.grammarFor s.catalog.current) (hjudge : x.judge = none) :
      IsTraced p start i (before ++ .move i .ask :: after) x
  | judged {before middle after : List Event} {s s' : Desk} {x : Ticket}
      (hbefore : p.deskRun start before = some s)
      (hmiddle : p.deskRun start (before ++ .move i .ask :: middle) = some s')
      (hgiven : x.given = p.model.grammarFor s.catalog.current)
      (hjudge : x.judge = some s'.catalog.current) :
      IsTraced p start i (before ++ .move i .ask :: (middle ++ .move i .validate :: after)) x

theorem IsTraced.more {start : Desk} {es' : List Event} (h : p.IsTraced start i es x)
    (hgiven : x'.given = x.given) (hjudge : x'.judge = x.judge)
    (hphase : x.phase = .received → x'.phase = .received) : p.IsTraced start i (es ++ es') x' := by
  cases h with
  | fresh h => exact .fresh (hphase h)
  | asked hbefore hg hj =>
    rw [List.append_assoc, List.cons_append]
    exact .asked hbefore (hgiven.trans hg) (hjudge.trans hj)
  | judged hbefore hmiddle hg hj =>
    rw [List.append_assoc, List.cons_append, List.append_assoc, List.cons_append]
    exact .judged hbefore hmiddle (hgiven.trans hg) (hjudge.trans hj)

/-- One event more leaves a request traced. -/
theorem IsTraced.step {start : Desk} (h : p.IsTraced start i es (s.tickets i))
    (hrun : p.deskRun start es = some s) (hx : p.IsConsistent (s.tickets i))
    (hstep : p.deskStep s e = some s') : p.IsTraced start i (es ++ [e]) (s'.tickets i) := by
  cases e with
  | reload content =>
    obtain ⟨c, -, rfl⟩ := Option.map_eq_some_iff.mp hstep
    exact h.more rfl rfl id
  | move j mv =>
    obtain ⟨x, hadvance, rfl⟩ := Option.map_eq_some_iff.mp hstep
    by_cases hij : i = j
    · subst hij
      simp only [Function.update_self]
      rcases advance_cases hadvance with ⟨rfl, hphase, hgiven, hjudge⟩ |
        ⟨rfl, ⟨answer, c, hphase⟩, hgiven, hjudge⟩ | ⟨hphase, hgiven, hjudge⟩
      · refine .asked hrun hgiven (hjudge.trans ?_)
        rw [IsConsistent, hphase] at hx
        exact hx.2
      · rw [IsConsistent, hphase] at hx
        obtain ⟨hnone, -⟩ := hx
        generalize s.tickets i = y at h hphase hnone hgiven
        cases h with
        | fresh h => rw [hphase] at h; cases h
        | judged _ _ _ hj => rw [hnone] at hj; cases hj
        | asked hbefore hg hj =>
          rw [List.append_assoc, List.cons_append]
          exact .judged hbefore hrun (hgiven.trans hg) hjudge
      · exact h.more hgiven hjudge fun hreceived => absurd hreceived hphase
    · simp only [Function.update_of_ne hij]
      exact h.more rfl rfl id

/-- What a schedule leaves known of requests. -/
theorem isConsistent_isTraced_deskRun {start : Desk}
    (hstart : ∀ i, ∃ request, start.tickets i = .start request) (h : p.deskRun start es = some s) :
    ∀ i, p.IsConsistent (s.tickets i) ∧ p.IsTraced start i es (s.tickets i) := by
  induction es using List.reverseRecOn generalizing s with
  | nil =>
    intro i
    obtain rfl := Option.some.inj h
    obtain ⟨request, hrequest⟩ := hstart i
    rw [hrequest]
    exact ⟨p.isConsistent_start request, .fresh rfl⟩
  | append_singleton es e ih =>
    intro i
    obtain ⟨s₁, hrun, hstep⟩ := deskRun_append_iff.mp h
    rw [deskRun_singleton] at hstep
    refine ⟨?_, (ih hrun i).2.step hrun (ih hrun i).1 hstep⟩
    cases e with
    | reload content =>
      obtain ⟨c, -, rfl⟩ := Option.map_eq_some_iff.mp hstep
      exact (ih hrun i).1
    | move j mv =>
      obtain ⟨x, hadvance, rfl⟩ := Option.map_eq_some_iff.mp hstep
      by_cases hij : i = j
      · subst hij
        simp only [Function.update_self]
        exact (ih hrun i).1.advance hadvance
      · simp only [Function.update_of_ne hij]
        exact (ih hrun i).1

/-! ## A reload between the two -/

/-- The catalog is reloaded while the model writes its answer. -/
def overtaken (answer : ModelAnswer) (content : FileContent) : List Event :=
  [.move 0 .ask, .move 0 (.receive answer), .reload content, .move 0 .validate]

/-- The phase of a request whose candidate was validated. -/
def judgedPhase (p : Pipeline m) (g : Grammar) (request : Request) (answer : ModelAnswer)
    (c : Candidate) : Phase :=
  match validate p.recognizer g c.text.toList with
  | .error d => failed request answer [] (some c) [.generating, .generated, .validating] .invalid
      (.validation d)
  | .ok _ => .validated answer c

theorem validate_eq_error {recognizer : Recognizer} {text : List Char} {d : Diagnostic}
    (h : (recognizer g text).diagnostic = some d) : validate recognizer g text = .error d := by
  simp [validate, h]

/-- A candidate is judged with the grammar of the reload, whatever the model was given. -/
theorem exists_deskRun_overtaken (p : Pipeline m) {catalog catalog' : Catalog}
    {content : FileContent} {request : Request} {answer : ModelAnswer} {c : Candidate}
    (hreload : catalog.reload content = .ok catalog')
    (hc : p.candidateOf request answer = .ok c) : ∃ s,
      p.deskRun ⟨catalog, fun _ => .start request⟩ (overtaken answer content) = some s ∧
      s.tickets 0 = ⟨request, p.judgedPhase catalog'.current request answer c,
        p.model.grammarFor catalog.current, some catalog'.current⟩ := by
  simp [deskRun, overtaken, List.foldlM, deskStep, advance, Ticket.start, hc, hreload,
    Except.toOption, judgedPhase]

/-- A model that takes grammars, with collaborators that are not needed. -/
def constrainedOnly : Pipeline Option where
  model := ⟨"model", "model-1", .withGrammar, fun _ _ => none⟩
  engine := ⟨"none", fun _ => none, none⟩
  clock := ⟨none, none, none⟩
  schema := .employees
  recognizer := recognize
  normalizer := .default

/-- A grammar of one word. -/
def wordSource (value : String) : String := "start: \"" ++ value ++ "\"\n"

/-- A grammar of one terminal accepts what the terminal takes and ignored text behind it. -/
theorem recognize_accepted_iff_of_singleton {source root : String} {text : List Char}
    (hg : Grammar.compile source root = .ok g)
    (hproductions : g.productions = #[⟨g.root, [.terminal 0]⟩]) :
    (recognize g text).accepted = true ↔
      ∃ e, g.matchTerminal? 0 text (g.skipOffset text 0) = some e ∧
        g.skipOffset text e = byteLength text := by
  rw [recognize_accepted_iff hg]
  constructor
  · rintro ⟨e, ⟨p, hp, -, hspans⟩, hskip⟩
    rw [hproductions, List.mem_toArray, List.mem_singleton] at hp
    subst hp
    exact ⟨e, spans_terminal_iff.mp hspans, hskip⟩
  · rintro ⟨e, htakes, hskip⟩
    refine ⟨e, ⟨⟨g.root, [.terminal 0]⟩, ?_, rfl, spans_terminal_iff.mpr htakes⟩, hskip⟩
    rw [hproductions]
    exact List.mem_toArray.mpr (List.mem_singleton.mpr rfl)

/-- The grammar of one word accepts that word, and the one of another word does not. -/
theorem exists_compile_wordSource : ∃ g₁ g₂ : Grammar,
    Grammar.compile (wordSource "a") "start" = .ok g₁ ∧
    Grammar.compile (wordSource "b") "start" = .ok g₂ ∧ g₁.source = wordSource "a" ∧
    g₂.source = wordSource "b" ∧ (recognize g₁ "a".toList).accepted = true ∧
    (recognize g₂ "a".toList).accepted = false := by
  have hparts : (Grammar.compile (wordSource "a") "start").toOption.any (fun g : Grammar =>
      g.source = wordSource "a" ∧ g.productions = #[⟨g.root, [.terminal 0]⟩] ∧
        g.matchTerminal? 0 "a".toList (g.skipOffset "a".toList 0) = some 1 ∧
        g.skipOffset "a".toList 1 = byteLength "a".toList) = true := by decide +kernel
  have hparts' : (Grammar.compile (wordSource "b") "start").toOption.any (fun g : Grammar =>
      g.source = wordSource "b" ∧ g.productions = #[⟨g.root, [.terminal 0]⟩] ∧
        g.matchTerminal? 0 "a".toList (g.skipOffset "a".toList 0) = none) = true := by
    decide +kernel
  cases h : Grammar.compile (ρ := Regex) (wordSource "a") "start" with
  | error e => simp [h, Except.toOption] at hparts
  | ok g₁ =>
    cases h' : Grammar.compile (ρ := Regex) (wordSource "b") "start" with
    | error e => simp [h', Except.toOption] at hparts'
    | ok g₂ =>
      obtain ⟨hsource, hproductions, htakes, hskip⟩ : _ ∧ _ ∧ _ ∧ _ := by
        simpa [h, Except.toOption] using hparts
      obtain ⟨hsource', hproductions', hnone⟩ : _ ∧ _ ∧ _ := by
        simpa [h', Except.toOption] using hparts'
      refine ⟨g₁, g₂, rfl, rfl, hsource, hsource', ?_, Bool.eq_false_iff.mpr fun haccepted => ?_⟩
      · exact (recognize_accepted_iff_of_singleton h hproductions).mpr ⟨1, htakes, hskip⟩
      · obtain ⟨e, htakes', -⟩ :=
          (recognize_accepted_iff_of_singleton h' hproductions').mp haccepted
        exact absurd (hnone.symm.trans htakes') (by simp)

/-- Requests about which nothing has been done, with a file of a grammar of one word. -/
def wordDesk (g : Grammar) : Desk :=
  ⟨⟨some "word.lark", "start", g⟩, fun _ => .start ⟨⟨0⟩, "Which word?"⟩⟩

/-- The model writes the one word, and the file holds the other by then. -/
def overtakenWord : List Event :=
  overtaken (.ok (some (.toolInput "a"))) (.ok (wordSource "b"))

theorem exists_deskRun_wordSource (g₁ : Grammar) {g₂ : Grammar}
    (h : Grammar.compile (wordSource "b") "start" = .ok g₂) : ∃ s,
      constrainedOnly.deskRun (wordDesk g₁) overtakenWord = some s ∧
      s.tickets 0 = ⟨⟨⟨0⟩, "Which word?"⟩, constrainedOnly.judgedPhase g₂ ⟨⟨0⟩, "Which word?"⟩
        (.ok (some (.toolInput "a"))) ⟨"a", .constrained, "model-1", ⟨0⟩⟩, some g₁.source,
        some g₂⟩ := by
  have hreload : Catalog.reload ⟨some "word.lark", "start", g₁⟩ (.ok (wordSource "b")) =
      .ok ⟨some "word.lark", "start", g₂⟩ := by
    simp [Catalog.reload, Catalog.readGrammar, h, Except.map]
  exact exists_deskRun_overtaken constrainedOnly hreload rfl

/-! ## Which grammar judges -/

/-- How a request came to be judged with a grammar : the model was asked behind `before`, at the
desk `asked`, and the candidate was validated behind `middle`, at the desk `judged`. -/
structure IsJudged (p : Pipeline m) (start : Desk) (es : List Event) (i : Nat) (x : Ticket)
    (g : Grammar) (before middle : List Event) (asked judged : Desk) : Prop where
  schedule : ∃ after, es = before ++ .move i .ask :: (middle ++ .move i .validate :: after)
  asked_eq : p.deskRun start before = some asked
  judged_eq : p.deskRun start (before ++ .move i .ask :: middle) = some judged
  /-- The model was given the grammar in use when it was asked. -/
  given : x.given = some asked.catalog.current.source
  /-- The grammar is the one in use when the candidate was validated. -/
  judge : g = judged.catalog.current
  /-- If nothing was reloaded in between, they are one. -/
  undisturbed : (∀ content, Event.reload content ∉ middle) → g = asked.catalog.current
  /-- Apart from that, the request went as a run goes. -/
  course : ∀ r, x.phase = .ended r → p.Course g r

/-- A candidate is judged with the grammar that is in use when it is validated, and the model was
given the one in use when it was asked; if nothing is reloaded in between, they are one. -/
theorem exists_isJudged_of_deskRun {start : Desk}
    (hstart : ∀ i, ∃ request, start.tickets i = .start request)
    (hmodel : p.model.capabilities.constrained = true) (h : p.deskRun start es = some s) (i : Nat)
    (hjudge : (s.tickets i).judge = some g) : ∃ before middle asked judged,
      p.IsJudged start es i (s.tickets i) g before middle asked judged := by
  obtain ⟨hx, htraced⟩ := isConsistent_isTraced_deskRun hstart h i
  generalize hy : s.tickets i = y at hx htraced hjudge
  cases htraced with
  | fresh hphase =>
    rw [IsConsistent, hphase] at hx
    rw [hx.2] at hjudge
    cases hjudge
  | asked _ _ hnone =>
    rw [hnone] at hjudge
    cases hjudge
  | @judged before middle after asked judged _ hbefore hmiddle hgiven hj =>
    obtain rfl := Option.some.inj (hj.symm.trans hjudge)
    refine ⟨before, middle, asked, judged, ⟨after, rfl⟩, hbefore, hmiddle, ?_, rfl,
      fun hnone => ?_, fun r hr => ?_⟩
    · rw [hgiven, Model.grammarFor, if_pos hmodel]
    · obtain ⟨s₁, hs₁, hrun⟩ := deskRun_append_iff.mp hmiddle
      obtain rfl := Option.some.inj (hbefore.symm.trans hs₁)
      rw [catalog_deskRun hrun fun content hmem => ?_]
      exact hnone content ((List.mem_cons.mp hmem).resolve_left nofun)
    · rw [IsConsistent, hr] at hx
      refine hx.2 _ fun g' hg' => ?_
      rw [hj] at hg'
      exact (Option.some.inj hg').symm

/-- The request of the overtaken model was given the one grammar and judged with the other. -/
theorem exists_isJudged_of_deskRun_overtaken : ∃ (g₁ g₂ : Grammar) (s : Desk),
    (∀ i, ∃ request, (wordDesk g₁).tickets i = .start request) ∧
    constrainedOnly.model.capabilities.constrained = true ∧
    constrainedOnly.deskRun (wordDesk g₁) overtakenWord = some s ∧
    (s.tickets 0).judge = some g₂ ∧ ∃ before middle asked judged,
      constrainedOnly.IsJudged (wordDesk g₁) overtakenWord 0 (s.tickets 0) g₂ before middle asked
        judged := by
  obtain ⟨g₁, g₂, -, h₂, -⟩ := exists_compile_wordSource
  obtain ⟨s, hrun, hticket⟩ := exists_deskRun_wordSource g₁ h₂
  have hjudge : (s.tickets 0).judge = some g₂ := by rw [hticket]
  exact ⟨g₁, g₂, s, fun _ => ⟨_, rfl⟩, rfl, hrun, hjudge,
    exists_isJudged_of_deskRun (fun _ => ⟨_, rfl⟩) rfl hrun 0 hjudge⟩

/-- The candidate of a request is written for one grammar, which accepts it, and judged with
another, which does not. -/
theorem exists_judged_by_another_grammar : ∃ (g₁ g₂ : Grammar) (s : Desk),
    Grammar.compile (wordSource "a") "start" = .ok g₁ ∧
    Grammar.compile (wordSource "b") "start" = .ok g₂ ∧
    constrainedOnly.deskRun (wordDesk g₁) overtakenWord = some s ∧
    (s.tickets 0).given = some (wordSource "a") ∧ (s.tickets 0).judge = some g₂ ∧
    g₂.source = wordSource "b" ∧ (recognize g₁ "a".toList).accepted = true ∧
    ∃ r o d, (s.tickets 0).phase = .ended r ∧ r.outcome = some o ∧
      o.failure? = some (.validation d) := by
  obtain ⟨g₁, g₂, h₁, h₂, hsource₁, hsource₂, haccepted, hrejected⟩ := exists_compile_wordSource
  obtain ⟨s, hrun, hticket⟩ := exists_deskRun_wordSource g₁ h₂
  refine ⟨g₁, g₂, s, h₁, h₂, hrun, ?_, by rw [hticket], hsource₂, haccepted, ?_⟩
  · rw [hticket, ← hsource₁]
  · cases hd : (recognize g₂ "a".toList).diagnostic with
    | none =>
      rw [diagnostic_eq_none_iff.mp hd] at hrejected
      cases hrejected
    | some d =>
      have hvalid : validate constrainedOnly.recognizer g₂ "a".toList = .error d :=
        validate_eq_error hd
      rw [hticket, judgedPhase, hvalid]
      exact ⟨_, _, d, rfl, rfl, rfl⟩

end Pipeline

end QueryGate
