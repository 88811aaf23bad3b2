import QueryGate.Proofs.Grammar.Resolver

/-!
# When the resolver ends, and when it finds a pattern

Each terminal whose pattern is being written is one less that can still be begun
(`card_free_cons_lt`), so that no bound above the number of these terminals is ever met
(`agree_namedPattern`). Where all names that an expression leads to are terminals without cycles,
nothing stands in the way of its pattern (`succeeds_patternOf`), and a pattern is found for no other
expression (`resolves_as_inlined`).
-/

namespace QueryGate

open Ebnf TerminalPattern

namespace Resolver

/-- Terminals whose pattern is not being written. -/
def free (terminals : List (String × Expr)) (inProgress : List String) : Finset String :=
  (terminals.map Prod.fst).toFinset \ inProgress.toFinset

/-- What is known is right, and these are the names in progress. -/
structure Ready (terminals : List (String × Expr)) (inProgress : List String)
    (known : Resolver) : Prop where
  sound : known.Sound terminals (Grounded terminals)
  inProgress_eq : known.inProgress = inProgress

/-- Two steps do the same while these names are in progress. -/
def Agree {α : Type} (terminals : List (String × Expr)) (inProgress : List String)
    (step step' : Resolve α) : Prop :=
  ∀ known, Ready terminals inProgress known → step known = step' known

/-- The step succeeds while these names are in progress. -/
def Succeeds {α : Type} (terminals : List (String × Expr)) (inProgress : List String)
    (step : Resolve α) : Prop :=
  ∀ known, Ready terminals inProgress known → ∃ a known', step known = .ok (a, known')

variable {α β : Type} {terminals : List (String × Expr)} {inProgress : List String} {a : α}
  {step step' : Resolve α} {next next' : α → Resolve β} {post : α → Prop} {name owner : String}
  {e : Expr} {p : List Char} {known known' : Resolver} {fuel fuel' : Nat}
  {named named' : String → String → Resolve (List Char)}

theorem card_free_le (inProgress : List String) :
    (free terminals inProgress).card ≤ terminals.length :=
  calc (free terminals inProgress).card
    _ ≤ (terminals.map Prod.fst).toFinset.card := Finset.card_le_card Finset.sdiff_subset
    _ ≤ (terminals.map Prod.fst).length := List.toFinset_card_le _
    _ = terminals.length := List.length_map ..

/-- One more name in progress is one less that can be begun. -/
theorem card_free_cons_lt (he : terminals.lookup name = some e) (hfree : name ∉ inProgress) :
    (free terminals (name :: inProgress)).card < (free terminals inProgress).card := by
  have hmem : name ∈ (terminals.map Prod.fst).toFinset := by
    obtain ⟨before, after, rfl, -⟩ := List.lookup_eq_some_iff.mp he
    simp
  have hsubset : free terminals (name :: inProgress) ⊆ free terminals inProgress :=
    Finset.sdiff_subset_sdiff subset_rfl (by simp)
  refine Finset.card_lt_card (hsubset.ssubset_of_mem_notMem (a := name) ?_ ?_)
  · exact Finset.mem_sdiff.mpr ⟨hmem, fun h => hfree (List.mem_toFinset.mp h)⟩
  · simp [free]

theorem Ready.after (h : Ready terminals inProgress known)
    (hstep : Ensures terminals (Grounded terminals) step post)
    (hrun : step known = .ok (a, known')) :
    Ready terminals inProgress known' := by
  obtain ⟨-, hsound, hprogress⟩ := hstep _ _ _ h.sound hrun
  exact ⟨hsound, hprogress.trans h.inProgress_eq⟩

theorem Ready.begin (h : Ready terminals inProgress known) (name : String) :
    Ready terminals (name :: inProgress) { known with inProgress := name :: known.inProgress } :=
  ⟨h.sound, congrArg (name :: ·) h.inProgress_eq⟩

theorem Reached.ready (h : Reached terminals known) : Ready terminals [] known :=
  ⟨(h.soundIn (scope_grounded terminals)).1, (h.soundIn (scope_grounded terminals)).2⟩

/-! ## The bound -/

theorem agree_refl (step : Resolve α) : Agree terminals inProgress step step :=
  fun _ _ => rfl

theorem Agree.bind (h : Agree terminals inProgress step step')
    (hstep : Ensures terminals (Grounded terminals) step post)
    (hnext : ∀ a, Agree terminals inProgress (next a) (next' a)) :
    Agree terminals inProgress (step >>= next) (step' >>= next') := by
  intro known hready
  change (step known >>= fun found => next found.1 found.2) =
    (step' known >>= fun found => next' found.1 found.2)
  rw [← h known hready]
  cases hrun : step known with
  | error fault => rfl
  | ok found => exact hnext found.1 found.2 (hready.after hstep hrun)

mutual

/-- Steps for names that do the same make for the same pattern. -/
theorem agree_patternOf
    (hnamed : ∀ name owner, Ensures terminals (Grounded terminals) (named name owner)
      (IsWrittenFor terminals (Grounded terminals) name))
    (h : ∀ name owner, Agree terminals inProgress (named name owner) (named' name owner))
    (owner : String) : ∀ e : Expr,
    Agree terminals inProgress (patternOf named owner e) (patternOf named' owner e)
  | .literal _ _ | .pattern _ _ | .range _ _ => agree_refl _
  | .name symbol => by
    rw [patternOf, patternOf]
    split_ifs
    · exact (h symbol owner).bind (hnamed symbol owner) fun _ => agree_refl _
    · exact agree_refl _
  | .seq parts => (agree_patternsOf hnamed h owner parts).bind
      (ensures_patternsOf (scope_grounded terminals) hnamed owner parts) fun _ => agree_refl _
  | .alt options => (agree_patternsOf hnamed h owner options).bind
      (ensures_patternsOf (scope_grounded terminals) hnamed owner options) fun _ => agree_refl _
  | .rep body _ _ => (agree_patternOf hnamed h owner body).bind
      (ensures_patternOf (scope_grounded terminals) hnamed owner body) fun _ => agree_refl _

theorem agree_patternsOf
    (hnamed : ∀ name owner, Ensures terminals (Grounded terminals) (named name owner)
      (IsWrittenFor terminals (Grounded terminals) name))
    (h : ∀ name owner, Agree terminals inProgress (named name owner) (named' name owner))
    (owner : String) : ∀ es : List Expr,
    Agree terminals inProgress (patternsOf named owner es) (patternsOf named' owner es)
  | [] => agree_refl _
  | e :: es => (agree_patternOf hnamed h owner e).bind
      (ensures_patternOf (scope_grounded terminals) hnamed owner e) fun _ =>
        (agree_patternsOf hnamed h owner es).bind
          (ensures_patternsOf (scope_grounded terminals) hnamed owner es) fun _ => agree_refl _

end

/-- The bound on the names in progress makes no difference if it is above the number of terminals
that are not. -/
theorem agree_namedPattern (hfuel : (free terminals inProgress).card < fuel)
    (hfuel' : (free terminals inProgress).card < fuel') (name owner : String) :
    Agree terminals inProgress (namedPattern terminals fuel name owner)
      (namedPattern terminals fuel' name owner) := by
  induction fuel generalizing fuel' inProgress name owner with
  | zero => omega
  | succ n ih =>
    obtain ⟨n', rfl⟩ : ∃ n', fuel' = n' + 1 := ⟨fuel' - 1, by omega⟩
    intro known hready
    cases hknown : known.resolved.lookup name with
    | some p => rw [namedPattern_of_resolved hknown, namedPattern_of_resolved hknown]
    | none =>
      cases he : terminals.lookup name with
      | none => rw [namedPattern_of_lookup_none hknown he, namedPattern_of_lookup_none hknown he]
      | some e =>
        by_cases hbusy : name ∈ known.inProgress
        · rw [namedPattern_of_mem_inProgress hknown he hbusy,
            namedPattern_of_mem_inProgress hknown he hbusy]
        · have hlt := card_free_cons_lt he (hready.inProgress_eq ▸ hbusy)
          have hnamed : ∀ name' owner', Agree terminals (name :: inProgress)
              (namedPattern terminals n name' owner') (namedPattern terminals n' name' owner') :=
            ih (by omega) (by omega)
          have hbody := agree_patternOf (ensures_namedPattern (scope_grounded terminals) n)
            hnamed name e _ (hready.begin name)
          rw [namedPattern_of_lookup hknown he hbusy, namedPattern_of_lookup hknown he hbusy, hbody]

/-! ## Success -/

theorem succeeds_pure (a : α) : Succeeds terminals inProgress (pure a : Resolve α) :=
  fun known _ => ⟨a, known, rfl⟩

theorem Succeeds.bind (h : Succeeds terminals inProgress step)
    (hstep : Ensures terminals (Grounded terminals) step post)
    (hnext : ∀ a, Succeeds terminals inProgress (next a)) :
    Succeeds terminals inProgress (step >>= next) := by
  intro known hready
  obtain ⟨a, known', hrun⟩ := h known hready
  obtain ⟨b, known'', hrun'⟩ := hnext a known' (hready.after hstep hrun)
  exact ⟨b, known'', Build.bind_eq_ok.mpr ⟨a, known', hrun, hrun'⟩⟩

mutual

/-- A pattern is found for an expression if one is found for each of its names. -/
theorem succeeds_patternOf
    (hnamed : ∀ name owner, Ensures terminals (Grounded terminals) (named name owner)
      (IsWrittenFor terminals (Grounded terminals) name)) (owner : String) : ∀ e : Expr,
    (∀ n ∈ e.names, isTerminalName n = true ∧ Succeeds terminals inProgress (named n owner)) →
      Succeeds terminals inProgress (patternOf named owner e)
  | .literal _ _, _ | .pattern _ _, _ | .range _ _, _ => succeeds_pure _
  | .name symbol, h => by
    obtain ⟨hname, hsymbol⟩ := h symbol (List.mem_singleton_self _)
    rw [patternOf, if_pos hname]
    exact hsymbol.bind (hnamed symbol owner) fun _ => succeeds_pure _
  | .seq parts, h => (succeeds_patternsOf hnamed owner parts h).bind
      (ensures_patternsOf (scope_grounded terminals) hnamed owner parts) fun _ => succeeds_pure _
  | .alt options, h => (succeeds_patternsOf hnamed owner options h).bind
      (ensures_patternsOf (scope_grounded terminals) hnamed owner options) fun _ => succeeds_pure _
  | .rep body _ _, h => (succeeds_patternOf hnamed owner body h).bind
      (ensures_patternOf (scope_grounded terminals) hnamed owner body) fun _ => succeeds_pure _

theorem succeeds_patternsOf
    (hnamed : ∀ name owner, Ensures terminals (Grounded terminals) (named name owner)
      (IsWrittenFor terminals (Grounded terminals) name)) (owner : String) : ∀ es : List Expr,
    (∀ n ∈ Expr.namesOf es,
      isTerminalName n = true ∧ Succeeds terminals inProgress (named n owner)) →
      Succeeds terminals inProgress (patternsOf named owner es)
  | [], _ => succeeds_pure _
  | e :: es, h => by
    obtain ⟨he, hes⟩ := List.forall_mem_append.mp h
    exact (succeeds_patternOf hnamed owner e he).bind
      (ensures_patternOf (scope_grounded terminals) hnamed owner e) fun _ =>
        (succeeds_patternsOf hnamed owner es hes).bind
          (ensures_patternsOf (scope_grounded terminals) hnamed owner es) fun _ => succeeds_pure _

end

/-- A pattern is found for a name if one is found for its expression. -/
theorem succeeds_namedPattern_of_lookup (he : terminals.lookup name = some e)
    (hfuel : (free terminals inProgress).card < fuel) (hfree : name ∉ inProgress)
    (hbody : ∀ n, (free terminals (name :: inProgress)).card < n →
      Succeeds terminals (name :: inProgress) (patternOf (namedPattern terminals n) name e))
    (owner : String) :
    Succeeds terminals inProgress (namedPattern terminals fuel name owner) := by
  intro known hready
  cases hknown : known.resolved.lookup name with
  | some p => exact ⟨p, known, namedPattern_of_resolved hknown⟩
  | none =>
    have hlt := card_free_cons_lt he hfree
    obtain ⟨n, rfl⟩ : ∃ n, fuel = n + 1 := ⟨fuel - 1, by omega⟩
    obtain ⟨p, known', hrun⟩ := hbody n (by omega) _ (hready.begin name)
    exact ⟨p, _, (namedPattern_of_lookup hknown he (hready.inProgress_eq ▸ hfree)).trans
      (except_bind_eq_ok.mpr ⟨(p, known'), hrun, rfl⟩)⟩

/-- A pattern is found for a name that leads to no cycle and to none of the names in progress. -/
theorem succeeds_namedPattern (h : Grounded terminals name)
    (hfuel : (free terminals inProgress).card < fuel)
    (hclear : ∀ m ∈ inProgress, ¬ Relation.ReflTransGen (Refers terminals) name m)
    (owner : String) :
    Succeeds terminals inProgress (namedPattern terminals fuel name owner) := by
  induction h generalizing fuel inProgress owner with
  | @intro name e hname he hnames ih =>
    refine succeeds_namedPattern_of_lookup he hfuel (fun hmem => hclear name hmem .refl)
      (fun n hn => ?_) owner
    refine succeeds_patternOf (ensures_namedPattern (scope_grounded terminals) n) name e
      fun m hm => ⟨(hnames m hm).isTerminalName, ih m hm hn ?_ name⟩
    -- a way from `m` back to a name in progress would be one from `name`
    refine List.forall_mem_cons.mpr ⟨fun hback => ?_, fun m' hm' hpath => ?_⟩
    · exact (Grounded.intro hname he hnames).not_refers_self (.head' ⟨e, he, hm⟩ hback)
    · exact hclear m' hm' (.head ⟨e, he, hm⟩ hpath)

/-- A pattern is found for an expression whose names lead to no cycle and to none of the names in
progress. -/
theorem succeeds_patternOf_of_grounded (h : ∀ n ∈ e.names, Grounded terminals n)
    (hfuel : (free terminals inProgress).card < fuel)
    (hclear : ∀ n ∈ e.names, ∀ m ∈ inProgress, ¬ Relation.ReflTransGen (Refers terminals) n m)
    (owner : String) :
    Succeeds terminals inProgress (patternOf (namedPattern terminals fuel) owner e) :=
  succeeds_patternOf (ensures_namedPattern (scope_grounded terminals) fuel) owner e fun n hn =>
    ⟨(h n hn).isTerminalName, succeeds_namedPattern (h n hn) hfuel (hclear n hn) owner⟩

theorem card_free_nil_lt (terminals : List (String × Expr)) :
    (free terminals []).card < terminals.length + 1 :=
  Nat.lt_succ_of_le (card_free_le [])

theorem exists_ofName (hknown : Reached terminals known)
    (he : terminals.lookup name = some e) (h : ∀ n ∈ e.names, Grounded terminals n)
    (hself : ¬ Relation.TransGen (Refers terminals) name name) (owner : String) :
    ∃ p known', ofName terminals name owner known = .ok (p, known') := by
  refine succeeds_namedPattern_of_lookup he (card_free_nil_lt terminals) List.not_mem_nil
    (fun n hn => ?_) owner known hknown.ready
  exact succeeds_patternOf_of_grounded h hn (fun m hm => List.forall_mem_singleton.mpr
    fun hback => hself (.head' ⟨e, he, hm⟩ hback)) name

theorem exists_ofExpr (hknown : Reached terminals known)
    (h : ∀ n ∈ e.names, Grounded terminals n) (owner : String) :
    ∃ p known', ofExpr terminals owner e known = .ok (p, known') :=
  succeeds_patternOf_of_grounded h (card_free_nil_lt terminals) (fun _ _ => nofun) owner known
    hknown.ready

end Resolver

variable {terminals : List (String × Expr)} {known : Resolver}

/-- After any patterns that were found, the pattern of a further expression does not depend on how
many names may be in progress beyond the number of terminals. It is found exactly if the expression
leads to terminals without cycles only, and it is what is written for the expression with everything
in place of its names. -/
theorem resolves_as_inlined (hknown : Resolver.Reached terminals known) (owner : String)
    (e : Expr) :
    (∀ fuel, terminals.length < fuel →
      patternOf (namedPattern terminals fuel) owner e known = ofExpr terminals owner e known) ∧
    ((∃ p known', ofExpr terminals owner e known = .ok (p, known')) ↔ e.Resolvable terminals) ∧
    ∀ p known', ofExpr terminals owner e known = .ok (p, known') →
      p = (e.expanded terminals).written ∧ (e.expanded terminals).names = [] := by
  have hready := hknown.ready
  have hensures := Resolver.isWritten_ofExpr (Resolver.scope_grounded terminals) owner e
  have hwritten : ∀ p known', ofExpr terminals owner e known = .ok (p, known') →
      Resolver.IsWritten terminals (Grounded terminals) e p :=
    fun p known' hrun => (hensures _ _ _ hready.sound hrun).1
  refine ⟨fun fuel hfuel => ?_, ⟨?_, fun h => ?_⟩, fun p known' hrun => ?_⟩
  · have hroom := Resolver.card_free_nil_lt terminals
    have hnamed := Resolver.ensures_namedPattern (Resolver.scope_grounded terminals) fuel
    exact Resolver.agree_patternOf hnamed
      (Resolver.agree_namedPattern (Nat.lt_of_lt_of_le hroom hfuel) hroom) owner e known hready
  · rintro ⟨p, known', hrun⟩
    exact resolvable_iff.mpr (hwritten p known' hrun).names
  · exact Resolver.exists_ofExpr hknown (resolvable_iff.mp h) owner
  · have hp := hwritten p known' hrun
    exact ⟨hp.eq_written, names_expanded hp.names⟩

/-- A terminal that two others refer to, and two that refer to each other. -/
def sharedAndLooped : List (String × Expr) :=
  [("A", .literal "a" false), ("B", .seq [.name "A", .literal "b" false]),
    ("C", .seq [.name "A", .literal "c" false]), ("D", .alt [.name "B", .name "C"]),
    ("LOOP", .alt [.name "A", .name "KNOT"]), ("KNOT", .seq [.name "LOOP", .name "D"])]

theorem resolves_as_inlined_shared :
    ∃ p known, ofName sharedAndLooped "D" "start" {} = .ok (p, known) ∧
      (∃ q known', ofExpr sharedAndLooped "E" (.rep (.name "D") 2 none) known = .ok (q, known') ∧
        q = "(?:(?:(?:(?:(?:(?:a)b))|(?:(?:(?:a)c)))))\x7b2,\x7d".toList) ∧
      ¬ ∃ q known', ofExpr sharedAndLooped "E" (.seq [.name "D", .name "LOOP"]) known =
        .ok (q, known') := by
  have ha : Grounded sharedAndLooped "A" := .intro rfl rfl nofun
  have hnames : ∀ n ∈ (Expr.alt [.name "B", .name "C"]).names,
      Grounded sharedAndLooped n := by
    refine List.forall_mem_cons.mpr ⟨?_, List.forall_mem_singleton.mpr ?_⟩
    · exact .intro rfl rfl (List.forall_mem_singleton.mpr ha)
    · exact .intro rfl rfl (List.forall_mem_singleton.mpr ha)
  have hd : Grounded sharedAndLooped "D" := .intro rfl rfl hnames
  obtain ⟨p, known, hrun⟩ :=
    Resolver.exists_ofName .start rfl hnames hd.not_refers_self "start"
  have hknown : Resolver.Reached sharedAndLooped known := .ofName .start hrun
  refine ⟨p, known, hrun, ?_, ?_⟩
  · obtain ⟨-, hiff, hwritten⟩ := resolves_as_inlined hknown "E" (.rep (.name "D") 2 none)
    obtain ⟨q, known', hq⟩ := hiff.mpr (resolvable_iff.mpr (List.forall_mem_singleton.mpr hd))
    exact ⟨q, known', hq, (hwritten q known' hq).1.trans (by decide +kernel)⟩
  · obtain ⟨-, hiff, -⟩ := resolves_as_inlined hknown "E" (.seq [.name "D", .name "LOOP"])
    have hknot : Refers sharedAndLooped "LOOP" "KNOT" := ⟨_, rfl, by decide⟩
    have hloop : Refers sharedAndLooped "KNOT" "LOOP" := ⟨_, rfl, by decide⟩
    exact fun h => (hiff.mp h).acyclic "LOOP" ⟨"LOOP", by decide, .refl⟩
      (.head hknot (.single hloop))

end QueryGate
