import QueryGate.Proofs.Chart.Recognizer
import QueryGate.Proofs.Diagnostic.Places
import QueryGate.Proofs.Grammar.Partial
import QueryGate.Proofs.Text.Order

/-!
# Diagnostics are exact

The columns of a chart are where partial derivations stand : a column has an item that expects a
terminal exactly if a partial derivation that stands there can take the terminal next
(`exists_charted_terminal_iff`). So the furthest column is the furthest place that a derivation gets
to, and what is expected there is all that could go on.
-/

namespace QueryGate

open Chart Text

variable {ρ : Type} [Scanner ρ] {g : Grammar ρ} {text : List Char} {item : Item} {p : Production}
  {s : Symbol} {ss : List Symbol} {r t j k m : Nat}

/-! ## Items and partial derivations -/

/-- What an item has matched is left behind in a derivation that wants its rule. -/
theorem Chart.HasMatched.standing (h : HasMatched g text k item p)
    (hwanted : Standing g.productions (g.Reads text) g.root (.rule p.lhs :: ss) item.origin) :
    Standing g.productions (g.Reads text) g.root (p.rhs.drop item.matched ++ ss) k := by
  refine Standing.of_spans h.spans ?_
  rw [← List.append_assoc, List.take_append_drop]
  exact hwanted.expand (Array.mem_of_getElem? h.production)

/-- A derivation that is behind an item has the symbol left that the item expects. -/
theorem Standing.of_nextSymbol (hp : g.productions[item.production]? = some p)
    (hs : nextSymbol g item = some s)
    (h : Standing g.productions (g.Reads text) g.root (p.rhs.drop item.matched ++ ss) k) :
    ∃ ss, Standing g.productions (g.Reads text) g.root (s :: ss) k := by
  rw [nextSymbol_eq hp] at hs
  rw [List.drop_eq_getElem_cons (List.getElem?_eq_some_iff.mp hs).1,
    (List.getElem?_eq_some_iff.mp hs).2] at h
  exact ⟨_, h⟩

/-- Where an item begins, a derivation wants its rule. -/
theorem Charted.wanted (hg : g.WellFormed) (h : Charted g text k item) :
    ∃ p ss, g.productions[item.production]? = some p ∧
      Standing g.productions (g.Reads text) g.root (.rule p.lhs :: ss) item.origin := by
  induction h with
  | root h =>
    obtain ⟨⟨p, hp, hlhs⟩, -, horigin⟩ := (mem_predicted_iff hg).mp h
    exact ⟨p, [], hp, horigin ▸ hlhs ▸ .start⟩
  | predict h hr hbegun ih =>
    obtain ⟨q, ss, hq, hwanted⟩ := ih
    obtain ⟨q', hmatched⟩ := h.hasMatched hg
    obtain rfl := Option.some.inj (hq.symm.trans hmatched.production)
    obtain ⟨ss, hstands⟩ := Standing.of_nextSymbol hq hr (hmatched.standing hwanted)
    obtain ⟨⟨p, hp, hlhs⟩, -, horigin⟩ := (mem_predicted_iff hg).mp hbegun
    exact ⟨p, ss, hp, horigin ▸ hlhs ▸ hstands⟩
  | pass _ _ _ ih => exact ih
  | complete _ _ _ _ _ _ _ ih => exact ih
  | scan _ _ _ ih => exact ih

/-- An item is of a derivation that has what is behind its point left. -/
theorem Charted.standing (hg : g.WellFormed) (h : Charted g text k item) : ∃ p ss,
    g.productions[item.production]? = some p ∧
      Standing g.productions (g.Reads text) g.root (p.rhs.drop item.matched ++ ss) k := by
  obtain ⟨p, ss, hp, hwanted⟩ := h.wanted hg
  obtain ⟨q, hq⟩ := h.hasMatched hg
  obtain rfl := Option.some.inj (hp.symm.trans hq.production)
  exact ⟨p, ss, hp, hq.standing hwanted⟩

/-- The chart has an item for a symbol that is to come : one that expects the terminal, or all that
begin the rule. -/
def Expects (g : Grammar ρ) (text : List Char) : Symbol → Nat → Prop
  | .terminal t, k => ∃ item, Charted g text k item ∧ nextSymbol g item = some (.terminal t)
  | .rule r, k => ∀ item ∈ predicted g r k, Charted g text k item

theorem Charted.expects (h : Charted g text k item) (hs : nextSymbol g item = some s) :
    Expects g text s k := by
  cases s with
  | terminal t => exact ⟨item, h, hs⟩
  | rule r => exact fun _ hbegun => h.predict hs hbegun

/-- Whatever the first symbols left of a derivation derive, the chart has an item for the symbol
behind them. -/
theorem Standing.expects_behind (hg : g.WellFormed)
    (h : Standing g.productions (g.Reads text) g.root ss k) :
    ∀ (front : List Symbol) (s : Symbol) (rest : List Symbol) (m : Nat), ss = front ++ s :: rest →
      Spans g.productions (g.Reads text) front k m → Expects g text s m := by
  induction h with
  | start =>
    intro front s rest m hss hspans
    rcases List.append_eq_cons_iff.mp hss.symm with ⟨rfl, htail⟩ | ⟨tail, rfl, htail⟩
    · obtain ⟨rfl, -⟩ := List.cons.inj htail
      cases hspans
      exact fun _ h => .root h
    · simp at htail
  | @expand p ss k hp h ih =>
    intro front s rest m hss hspans
    rcases List.append_eq_append_iff.mp hss with ⟨front', rfl, hrest⟩ | ⟨tail, hrhs, hrest⟩
    · -- the symbol stands behind those of the production
      obtain ⟨m', hleft, hright⟩ := spans_append_iff.mp hspans
      exact ih (.rule p.lhs :: front') s rest m (by rw [hrest]; rfl) (.rule hp hleft hright)
    · cases tail with
      | nil =>
        rw [List.append_nil] at hrhs
        exact ih [.rule p.lhs] s rest m (by rw [hrest]; rfl) (.rule hp (hrhs ▸ hspans) (.nil m))
      | cons s' tail =>
        -- the symbol is one of the production, which is begun here
        obtain rfl : s = s' := (List.cons.inj hrest).1
        obtain ⟨n, hn⟩ := Array.mem_iff_getElem?.mp hp
        have hbegun : Charted g text k ⟨n, 0, k⟩ := ih [] (.rule p.lhs) ss k rfl (.nil k) _
          ((mem_predicted_iff hg).mpr ⟨⟨p, hn, rfl⟩, rfl, rfl⟩)
        obtain ⟨next, hnext, hproduction, -, hdrop⟩ :=
          hbegun.advance_spans hg hn (List.drop_zero.trans hrhs) hspans
        have hn' : g.productions[next.production]? = some p := hproduction ▸ hn
        exact hnext.expects (nextSymbol_of_drop hn' hdrop).1
  | @take t ss k k' h ht ih =>
    intro front s rest m hss hspans
    exact ih (.terminal t :: front) s rest m (by rw [hss]; rfl) (.terminal ht hspans)

theorem Standing.expects (hg : g.WellFormed)
    (h : Standing g.productions (g.Reads text) g.root (s :: ss) k) : Expects g text s k :=
  h.expects_behind hg [] s ss k rfl (.nil k)

/-- A column has an item that expects a terminal exactly if a derivation can take the terminal
there. -/
theorem exists_charted_terminal_iff (hg : g.WellFormed) :
    (∃ item, Charted g text k item ∧ nextSymbol g item = some (.terminal t)) ↔
      ∃ ss, Standing g.productions (g.Reads text) g.root (.terminal t :: ss) k := by
  constructor
  · rintro ⟨item, hitem, ht⟩
    obtain ⟨p, ss, hp, hstands⟩ := hitem.standing hg
    exact hstands.of_nextSymbol hp ht
  · rintro ⟨ss, hstands⟩
    exact hstands.expects hg

/-- Behind the start of the text, derivations stand only where there are items. -/
theorem Standing.exists_charted (hg : g.WellFormed)
    (h : Standing g.productions (g.Reads text) g.root ss k) :
    k = 0 ∨ ∃ item, Charted g text k item := by
  induction h with
  | start => exact Or.inl rfl
  | expand _ _ ih => exact ih
  | take h ht _ =>
    obtain ⟨item, hitem, hnext⟩ := h.expects hg
    exact Or.inr ⟨_, hitem.scan hnext ht⟩

theorem Charted.le_length (h : Charted g text k item) : k ≤ text.length := by
  induction h with
  | root => exact Nat.zero_le _
  | scan _ _ hreads _ => exact hreads.le_length
  | predict _ _ _ ih => exact ih
  | pass _ _ _ ih => exact ih
  | complete _ _ _ _ _ _ ih _ => exact ih

/-! ## The furthest column -/

namespace Chart

/-- What is known of the columns that a chart consists of. -/
theorem exists_column (hg : g.WellFormed) (hk : k ≤ text.length) :
    ∃ c ∈ columns g text, c.position = k ∧ c.Exact g text := by
  obtain ⟨hpositions, hexact⟩ := columns_exact hg text
  have hmem : k ∈ (columns g text).map (·.position) := by
    rw [hpositions]
    exact List.mem_range.mpr (Nat.lt_succ_of_le hk)
  obtain ⟨c, hc, hposition⟩ := List.mem_map.mp hmem
  exact ⟨c, hc, hposition, hexact c hc⟩

/-- Behind the furthest column there are no items. -/
theorem furthest?_columns {c : Column} (hg : g.WellFormed)
    (h : furthest? (columns g text) = some c) : c.Exact g text ∧ c.items ≠ [] ∧
      ∀ k item, Charted g text k item → k ≤ c.position := by
  obtain ⟨hpositions, hexact⟩ := columns_exact hg text
  obtain ⟨hc, behind, before, hcolumns, hbehind⟩ := List.find?_eq_some_iff_append.mp h
  have hsplit : columns g text = before.reverse ++ c :: behind.reverse := by
    rw [← List.reverse_reverse (columns g text), hcolumns]
    simp
  have hmem : c ∈ columns g text := hsplit ▸ List.mem_append_right _ (List.mem_cons_self ..)
  refine ⟨hexact c hmem, by simpa using hc, fun k item hitem => ?_⟩
  obtain ⟨c', hc', rfl, hexact'⟩ := exists_column hg hitem.le_length
  have hsorted : ((columns g text).map (·.position)).Pairwise (· < ·) :=
    hpositions ▸ List.pairwise_lt_range
  rw [hsplit, List.map_append, List.pairwise_append] at hsorted
  rw [hsplit, List.mem_append] at hc'
  rcases hc' with hc' | hc'
  · exact Nat.le_of_lt (hsorted.2.2 _ (List.mem_map_of_mem hc') _ (by simp))
  · rcases List.mem_cons.mp hc' with rfl | hc'
    · exact Nat.le_refl _
    · have hempty : c'.items = [] := by simpa using hbehind c' (List.mem_reverse.mp hc')
      exact absurd ((hexact'.mem_items_iff item).mpr hitem) (by simp [hempty])

theorem furthest?_columns_eq_none (hg : g.WellFormed) (h : furthest? (columns g text) = none) :
    ¬Charted g text k item := by
  intro hitem
  obtain ⟨c, hc, rfl, hexact⟩ := exists_column hg hitem.le_length
  have hempty : c.items = [] := by
    simpa using List.find?_eq_none.mp h c (List.mem_reverse.mpr hc)
  exact absurd ((hexact.mem_items_iff item).mpr hitem) (by simp [hempty])

end Chart

/-! ## The diagnostic -/

/-- Between two characters, a diagnostic is for the offset it is made for. -/
theorem Diagnostic.offset_locate (u v : List Char) (expected : List String) :
    (locate (u ++ v) (byteLength u) expected).offset = byteLength u := by
  simp [locate, splitBytes_byteLength_append]

/-- The diagnostic behind a character is for the place behind the ignored text that follows. -/
theorem Diagnostic.offset_locate_skipOffset (g : Grammar ρ) (text : List Char) (k : Nat)
    (expected : List String) :
    (locate text (g.skipOffset text (byteLength (text.take k))) expected).offset =
      g.skipOffset text (byteLength (text.take k)) := by
  obtain ⟨u, htext, -, hskip⟩ := g.exists_skipOffset_eq text k
  have hlocate := offset_locate (text.take k ++ u) (skipIgnored g.ignored (text.drop k)) expected
  rwa [htext, ← hskip] at hlocate

/-- What can be taken at a position is what items of its column expect. -/
theorem canTake_iff (hg : g.WellFormed) (hk : k ≤ text.length) :
    g.CanTake text t (byteLength (text.take k)) ↔
      ∃ item, Charted g text k item ∧ nextSymbol g item = some (.terminal t) := by
  rw [exists_charted_terminal_iff hg]
  refine exists_congr fun ss => Grammar.standsAt_iff.trans ⟨?_, fun h => ⟨k, ⟨hk, rfl⟩, h⟩⟩
  rintro ⟨k', hk', h⟩
  obtain rfl := hk'.unique ⟨hk, rfl⟩
  exact h

namespace Chart

/-- The furthest column is at the last place where a derivation stands. -/
theorem isFurthest_of_furthest? {c : Column} (hg : g.WellFormed)
    (h : furthest? (columns g text) = some c) :
    g.IsFurthest text (byteLength (text.take c.position)) := by
  obtain ⟨hexact, hne, hlast⟩ := furthest?_columns hg h
  obtain ⟨item, hitem⟩ := List.exists_mem_of_ne_nil _ hne
  obtain ⟨p, ss, -, hstands⟩ := ((hexact.mem_items_iff item).mp hitem).standing hg
  refine ⟨⟨_, Grammar.standsAt_iff.mpr ⟨_, ⟨hexact.position_le, rfl⟩, hstands⟩⟩,
    fun ss b hstands => ?_⟩
  obtain ⟨k, ⟨hk, rfl⟩, hreads⟩ := Grammar.standsAt_iff.mp hstands
  have hle : k ≤ c.position := by
    rcases hreads.exists_charted hg with rfl | ⟨item, hitem⟩
    · exact Nat.zero_le _
    · exact hlast k item hitem
  rcases Nat.lt_or_eq_of_le hle with hlt | rfl
  · exact Nat.le_of_lt (Grammar.byteLength_take_lt hlt hexact.position_le)
  · exact Nat.le_refl _

/-- Without items no derivation gets anywhere. -/
theorem isFurthest_zero (hg : g.WellFormed) (h : furthest? (columns g text) = none) :
    g.IsFurthest text 0 := by
  refine ⟨⟨_, .start⟩, fun ss b hstands => ?_⟩
  obtain ⟨k, ⟨hk, rfl⟩, hreads⟩ := Grammar.standsAt_iff.mp hstands
  rcases hreads.exists_charted hg with rfl | ⟨item, hitem⟩
  · simp
  · exact absurd hitem (furthest?_columns_eq_none hg h)

theorem offset_diagnose {c : Column} (hc : c.Exact g text) : (diagnose g text c).offset =
    g.skipOffset text (byteLength (text.take c.position)) := by
  have hskip := g.skipOffset_byteLength_take text c.position
  have hoffset : byteLength text - byteLength (skipIgnored g.ignored c.rest) =
      g.skipOffset text (byteLength (text.take c.position)) := by
    rw [hc.rest_eq]
    omega
  rw [diagnose, hoffset]
  exact Diagnostic.offset_locate_skipOffset ..

theorem mem_expectedNames_iff {c : Column} (hg : g.WellFormed) (hc : c.Exact g text)
    {name : String} : name ∈ expectedNames g c ↔
      ∃ t, g.CanTake text t (byteLength (text.take c.position)) ∧ g.displayOf t = name := by
  rw [expectedNames, List.mem_eraseDups, List.mem_mergeSort, List.mem_map]
  refine exists_congr fun t => and_congr_left fun _ => ?_
  rw [mem_expectedTerminals_iff, canTake_iff hg hc.position_le]
  exact exists_congr fun item => and_congr_left fun _ => hc.mem_items_iff item

omit [Scanner ρ] in
/-- The names are in the order of their bytes, each once. -/
theorem pairwise_expectedNames (c : Column) :
    (expectedNames g c).Pairwise fun a b => utf8 a < utf8 b := by
  refine (pairwise_lt_eraseDups ?_).imp utf8_lt_of_lt
  refine (List.pairwise_mergeSort (fun a b c hab hbc => ?_) (fun a b => ?_) _).imp of_decide_eq_true
  · exact decide_eq_true (le_trans (of_decide_eq_true hab) (of_decide_eq_true hbc))
  · simpa using le_total a b

end Chart

/-- Rejections are explained exactly. There is no diagnostic exactly where the text is accepted, and
otherwise it is for the last offset `f` at which a partial derivation from the root stands : it says
where the ignored text behind `f` ends, and names the terminals that can be taken at `f`, in the
order of their bytes and each name once. None of these terminals matches there. -/
theorem recognize_diagnostic {source root : String} (h : Grammar.compile source root = .ok g)
    (text : List Char) :
    ((recognize g text).accepted = true ↔ (recognize g text).diagnostic = none) ∧
      ∀ d, (recognize g text).diagnostic = some d → ∃ f, g.IsFurthest text f ∧
        d.offset = g.skipOffset text f ∧ (d.expected.Pairwise fun a b => utf8 a < utf8 b) ∧
        (∀ name, name ∈ d.expected ↔ ∃ t, g.CanTake text t f ∧ g.displayOf t = name) ∧
        ∀ t, g.CanTake text t f → g.matchTerminal? t text d.offset = none := by
  have hg := Grammar.wellFormed_of_compile h
  refine ⟨diagnostic_eq_none_iff.symm, fun d hd => ?_⟩
  unfold recognize at hd
  dsimp only at hd
  split_ifs at hd with hfinal
  · cases hd
  split at hd
  next c hc =>
    obtain rfl := Option.some.inj hd
    obtain ⟨hexact, -, -⟩ := furthest?_columns hg hc
    have hfurthest := isFurthest_of_furthest? hg hc
    refine ⟨_, hfurthest, offset_diagnose hexact, pairwise_expectedNames c, fun name =>
      mem_expectedNames_iff hg hexact, fun t ht => ?_⟩
    rw [offset_diagnose hexact]
    exact hfurthest.matchTerminal?_eq_none ht
  next hnone =>
    obtain rfl := Option.some.inj hd
    have hfurthest := isFurthest_zero hg hnone
    have hplace : (Diagnostic.locate text (g.skipOffset text 0) []).offset =
        g.skipOffset text 0 := by
      simpa using Diagnostic.offset_locate_skipOffset g text 0 []
    have hnothing : ∀ t, ¬g.CanTake text t 0 := fun t ht => by
      have ht' : g.CanTake text t (byteLength (text.take 0)) := by simpa using ht
      obtain ⟨item, hitem, -⟩ := (canTake_iff hg (Nat.zero_le _)).mp ht'
      exact furthest?_columns_eq_none hg hnone hitem
    refine ⟨0, hfurthest, hplace, .nil, fun name => ?_, fun t ht => absurd ht (hnothing t)⟩
    simp [Diagnostic.locate, hnothing]

/-- Brackets around brackets, with blanks between them. -/
def bracketSource : String :=
  "s: \"(\" s \")\" | \"x\"\n%ignore / +/\n"

theorem recognize_diagnostic_bracket : ∃ g : Grammar, ∃ d f,
    Grammar.compile bracketSource "s" = .ok g ∧
      (recognize g "( ]".toList).diagnostic = some d ∧ g.IsFurthest "( ]".toList f ∧
        d.offset = g.skipOffset "( ]".toList f ∧ ∀ t,
          g.CanTake "( ]".toList t f → g.matchTerminal? t "( ]".toList d.offset = none := by
  have hparts : (Grammar.compile bracketSource "s").toOption.any (fun g : Grammar =>
      g.productions.toList = [⟨g.root, [.terminal 0, .rule g.root, .terminal 1]⟩,
        ⟨g.root, [.terminal 2]⟩] ∧
      g.matchTerminal? 0 "( ]".toList (g.skipOffset "( ]".toList 0) = some 1 ∧
      g.matchTerminal? 2 "( ]".toList (g.skipOffset "( ]".toList 0) = none ∧
      [0, 2].all fun t => g.matchTerminal? t "( ]".toList (g.skipOffset "( ]".toList 1) = none) =
        true := by decide +kernel
  obtain ⟨g, h, hproductions, hopen, hx, hall⟩ := exists_ok_of_any hparts
  have hbehind : g.matchTerminal? 0 "( ]".toList (g.skipOffset "( ]".toList 1) = none ∧
      g.matchTerminal? 2 "( ]".toList (g.skipOffset "( ]".toList 1) = none := by simpa using hall
  obtain ⟨hiff, hdiagnostic⟩ := recognize_diagnostic h "( ]".toList
  cases hd : (recognize g "( ]".toList).diagnostic with
  | some d =>
    obtain ⟨f, hf, hoffset, -, -, hnone⟩ := hdiagnostic d hd
    exact ⟨g, d, f, h, hd, hf, hoffset, hnone⟩
  | none =>
    -- Accepted, the text would have a statement behind its bracket, where nothing matches.
    obtain ⟨e, ⟨p, hp, -, hspans⟩, -⟩ := (recognize_accepted_iff h _).mp (hiff.mpr hd)
    have hmem : ∀ p ∈ g.productions, p = ⟨g.root, [.terminal 0, .rule g.root, .terminal 1]⟩ ∨
        p = ⟨g.root, [.terminal 2]⟩ := by
      simp [← Array.mem_toList_iff, hproductions]
    have hnothing : ∀ p ∈ g.productions, ∀ e,
        ¬Spans g.productions (g.Takes "( ]".toList) p.rhs 1 e := by
      intro p hp e hspans
      obtain rfl | rfl := hmem p hp
      · cases hspans with
        | terminal ht _ => exact absurd (hbehind.1.symm.trans ht) (by simp)
      · cases hspans with
        | terminal ht _ => exact absurd (hbehind.2.symm.trans ht) (by simp)
    obtain rfl | rfl := hmem p hp
    · cases hspans with
      | terminal ht hs =>
        obtain rfl := Option.some.inj (hopen.symm.trans ht)
        generalize hss : [Symbol.rule g.root, .terminal 1] = ss at hs
        cases hs with
        | nil => cases hss
        | terminal => cases hss
        | rule hp h _ => exact absurd h (hnothing _ hp _)
    · exact absurd (hx.symm.trans (spans_terminal_iff.mp hspans)) (by simp)

end QueryGate
