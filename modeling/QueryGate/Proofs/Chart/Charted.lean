import QueryGate.Chart.Recognizer
import QueryGate.Proofs.Grammar.Scan
import QueryGate.Proofs.Grammar.WellFormed

/-!
# Items and derivations

`Charted` says which items a chart has to have at a position, without columns or tables. An item of
it has matched what its production derives so far (`Charted.hasMatched`), and it is moved on behind
all that its next symbols derive (`Charted.advance_spans`), although an item finished where it began
moves nothing on : the rule it finishes vanishes, and was passed over.

* `exists_charted_iff` : the chart finishes a rule exactly where it derives the text.
-/

namespace QueryGate

open Chart

variable {ρ : Type} [Scanner ρ] {g : Grammar ρ} {text : List Char} {item : Item} {p : Production}
  {s : Symbol} {r i j k : Nat}

/-- The items of the columns of a text. -/
inductive Charted (g : Grammar ρ) (text : List Char) : Nat → Item → Prop
  | root {item : Item} (h : item ∈ predicted g g.root 0) : Charted g text 0 item
  | predict {k r : Nat} {item begun : Item} (h : Charted g text k item)
      (hr : nextSymbol g item = some (.rule r)) (hbegun : begun ∈ predicted g r k) :
      Charted g text k begun
  | pass {k r : Nat} {item : Item} (h : Charted g text k item)
      (hr : nextSymbol g item = some (.rule r)) (hnull : g.isNullable r = true) :
      Charted g text k (advance item)
  | complete {k r : Nat} {item parent : Item} (h : Charted g text k item)
      (hdone : nextSymbol g item = none) (horigin : item.origin ≠ k)
      (hrule : ruleOf g item = some r) (hparent : Charted g text item.origin parent)
      (hr : nextSymbol g parent = some (.rule r)) : Charted g text k (advance parent)
  | scan {k m t : Nat} {item : Item} (h : Charted g text k item)
      (ht : nextSymbol g item = some (.terminal t)) (hreads : g.Reads text t k m) :
      Charted g text m (advance item)

namespace Chart

omit [Scanner ρ] in
theorem nextSymbol_eq (hp : g.productions[item.production]? = some p) :
    nextSymbol g item = p.rhs[item.matched]? := by
  rw [nextSymbol, hp, Option.bind_some]

omit [Scanner ρ] in
theorem ruleOf_eq (hp : g.productions[item.production]? = some p) :
    ruleOf g item = some p.lhs := by
  rw [ruleOf, hp, Option.map_some]

omit [Scanner ρ] in
theorem mem_predicted_iff (hg : g.WellFormed) : item ∈ predicted g r k ↔
    (∃ p, g.productions[item.production]? = some p ∧ p.lhs = r) ∧ item.matched = 0 ∧
      item.origin = k := by
  rw [predicted, List.mem_map]
  constructor
  · rintro ⟨i, hi, rfl⟩
    exact ⟨hg.mem_productionsOf_iff.mp hi, rfl, rfl⟩
  · rintro ⟨hp, hmatched, horigin⟩
    refine ⟨item.production, hg.mem_productionsOf_iff.mpr hp, ?_⟩
    rw [← hmatched, ← horigin]

/-- An item has matched what stands in front of its point. -/
structure HasMatched (g : Grammar ρ) (text : List Char) (k : Nat) (item : Item) (p : Production) :
    Prop where
  production : g.productions[item.production]? = some p
  matched_le : item.matched ≤ p.rhs.length
  spans : Spans g.productions (g.Reads text) (p.rhs.take item.matched) item.origin k

theorem HasMatched.advance (h : HasMatched g text k item p) (hs : nextSymbol g item = some s)
    (hspans : Spans g.productions (g.Reads text) [s] k j) :
    HasMatched g text j (advance item) p := by
  rw [nextSymbol_eq h.production] at hs
  obtain ⟨hlt, rfl⟩ := List.getElem?_eq_some_iff.mp hs
  refine ⟨h.production, hlt, ?_⟩
  change Spans _ _ (p.rhs.take (item.matched + 1)) item.origin j
  rw [List.take_succ_eq_append_getElem hlt]
  exact spans_append_iff.mpr ⟨k, h.spans, hspans⟩

theorem HasMatched.spans_of_done (h : HasMatched g text k item p)
    (hdone : nextSymbol g item = none) :
    Spans g.productions (g.Reads text) p.rhs item.origin k := by
  rw [nextSymbol_eq h.production, List.getElem?_eq_none_iff] at hdone
  have hspans := h.spans
  rwa [List.take_of_length_le hdone] at hspans

end Chart

/-- The items of a chart have matched what they say. -/
theorem Charted.hasMatched (hg : g.WellFormed) (h : Charted g text k item) :
    ∃ p, HasMatched g text k item p := by
  have hbegun : ∀ {r k : Nat} {begun : Item}, begun ∈ predicted g r k →
      ∃ p, HasMatched g text k begun p := by
    intro r k begun hmem
    obtain ⟨⟨p, hp, -⟩, hmatched, horigin⟩ := (mem_predicted_iff hg).mp hmem
    refine ⟨p, hp, by omega, ?_⟩
    rw [hmatched, horigin]
    exact .nil k
  induction h with
  | root h => exact hbegun h
  | predict _ _ hmem _ => exact hbegun hmem
  | pass _ hr hnull ih =>
    obtain ⟨p, hp⟩ := ih
    exact ⟨p, hp.advance hr ((hg.isNullable_iff.mp hnull).spans _)⟩
  | complete _ hdone _ hrule _ hr ih ihparent =>
    obtain ⟨p, hp⟩ := ih
    obtain ⟨q, hq⟩ := ihparent
    rw [ruleOf_eq hp.production] at hrule
    refine ⟨q, hq.advance hr (spans_rule_iff.mpr ⟨p, ?_, Option.some.inj hrule, ?_⟩)⟩
    · exact Array.mem_of_getElem? hp.production
    · exact hp.spans_of_done hdone
  | scan _ ht hreads ih =>
    obtain ⟨p, hp⟩ := ih
    exact ⟨p, hp.advance ht (spans_terminal_iff.mpr hreads)⟩

theorem Chart.HasMatched.origin_le (h : HasMatched g text k item p) : item.origin ≤ k :=
  h.spans.le fun _ _ _ => Grammar.Reads.lt

omit [Scanner ρ] in
theorem Chart.nextSymbol_of_drop {ss : List Symbol}
    (hp : g.productions[item.production]? = some p) (hss : p.rhs.drop item.matched = s :: ss) :
    nextSymbol g item = some s ∧ p.rhs.drop (advance item).matched = ss := by
  constructor
  · rw [nextSymbol_eq hp, ← List.head?_drop, hss, List.head?_cons]
  · change p.rhs.drop (item.matched + 1) = ss
    rw [← List.tail_drop, hss, List.tail_cons]

/-- A rule that derives a piece moves on an item that expects it, also if the piece is empty. -/
theorem Charted.advance_rule (hg : g.WellFormed) {i : Nat} {done : Item}
    (h : Charted g text i item) (hr : nextSymbol g item = some (.rule p.lhs))
    (hp : p ∈ g.productions) (hspans : Spans g.productions (g.Reads text) p.rhs i k)
    (hdone : Charted g text k done) (hfinished : nextSymbol g done = none)
    (hrule : ruleOf g done = some p.lhs) (horigin : done.origin = i) :
    Charted g text k (advance item) := by
  by_cases hik : i = k
  · subst hik
    have hvanishes : Vanishes g.productions [.rule p.lhs] :=
      spans_rule_iff.mpr ⟨p, hp, rfl,
        vanishes_of_spans (fun _ _ _ => Grammar.Reads.lt) hspans (Nat.le_refl _)⟩
    exact h.pass hr (hg.isNullable_iff.mpr hvanishes)
  · subst horigin
    exact hdone.complete hfinished hik hrule h hr

/-- Where the next symbols of an item derive a piece, the chart has the item behind them. -/
theorem Charted.advance_spans (hg : g.WellFormed) {ss ss' : List Symbol}
    (h : Charted g text k item) (hp : g.productions[item.production]? = some p)
    (hss : p.rhs.drop item.matched = ss ++ ss')
    (hspans : Spans g.productions (g.Reads text) ss k j) :
    ∃ next : Item, Charted g text j next ∧ next.production = item.production ∧
      next.origin = item.origin ∧ p.rhs.drop next.matched = ss' := by
  induction hspans generalizing item p ss' with
  | nil => exact ⟨item, h, rfl, rfl, hss⟩
  | @rule q ss i k j hq hspans hrest ih ihrest =>
    obtain ⟨hr, hss⟩ := nextSymbol_of_drop hp hss
    obtain ⟨n, hn⟩ := Array.mem_iff_getElem?.mp hq
    have hbegun : Charted g text i ⟨n, 0, i⟩ :=
      h.predict hr ((mem_predicted_iff hg).mpr ⟨⟨q, hn, rfl⟩, rfl, rfl⟩)
    obtain ⟨done, hdone, hproduction, horigin, hend⟩ :=
      ih hbegun hn (by rw [List.drop_zero, List.append_nil])
    have hn' : g.productions[done.production]? = some q := hproduction ▸ hn
    have hfinished : nextSymbol g done = none := by
      rw [nextSymbol_eq hn', List.getElem?_eq_none_iff]
      exact List.drop_eq_nil_iff.mp hend
    have hrule : ruleOf g done = some q.lhs := ruleOf_eq hn'
    have hadvance := h.advance_rule hg hr hq hspans hdone hfinished hrule horigin
    exact @ihrest (advance item) p ss' hadvance hp hss
  | terminal ht _ ih =>
    obtain ⟨hr, hss⟩ := nextSymbol_of_drop hp hss
    exact @ih (advance item) p ss' (h.scan hr ht) hp hss

/-- Where the symbols behind the point of an item derive a piece, the item is finished. -/
theorem Charted.finish (hg : g.WellFormed) {ss : List Symbol} (h : Charted g text k item)
    (hp : g.productions[item.production]? = some p) (hss : p.rhs.drop item.matched = ss)
    (hspans : Spans g.productions (g.Reads text) ss k j) :
    ∃ done : Item, Charted g text j done ∧ nextSymbol g done = none ∧
      done.production = item.production ∧ done.origin = item.origin := by
  obtain ⟨done, hdone, hproduction, horigin, hend⟩ :=
    h.advance_spans hg hp (hss.trans (List.append_nil ss).symm) hspans
  have hp' : g.productions[done.production]? = some p := hproduction ▸ hp
  refine ⟨done, hdone, ?_, hproduction, horigin⟩
  rw [nextSymbol_eq hp', List.getElem?_eq_none_iff]
  exact List.drop_eq_nil_iff.mp hend

/-- The chart finishes the root at a position exactly if it derives the text up to there. -/
theorem exists_charted_iff (hg : g.WellFormed) :
    (∃ item, Charted g text k item ∧ item.origin = 0 ∧ ruleOf g item = some g.root ∧
        nextSymbol g item = none) ↔
      ∃ p ∈ g.productions, p.lhs = g.root ∧ Spans g.productions (g.Reads text) p.rhs 0 k := by
  constructor
  · rintro ⟨item, hitem, horigin, hrule, hdone⟩
    obtain ⟨p, hp⟩ := hitem.hasMatched hg
    rw [ruleOf_eq hp.production] at hrule
    refine ⟨p, Array.mem_of_getElem? hp.production, Option.some.inj hrule, ?_⟩
    rw [← horigin]
    exact hp.spans_of_done hdone
  · rintro ⟨p, hp, hlhs, hspans⟩
    obtain ⟨n, hn⟩ := Array.mem_iff_getElem?.mp hp
    have hbegun : Charted g text 0 ⟨n, 0, 0⟩ :=
      .root ((mem_predicted_iff hg).mpr ⟨⟨p, hn, hlhs⟩, rfl, rfl⟩)
    obtain ⟨done, hdone, hfinished, hproduction, horigin⟩ :=
      hbegun.finish hg hn List.drop_zero hspans
    exact ⟨done, hdone, horigin, hlhs ▸ ruleOf_eq (hproduction ▸ hn), hfinished⟩

end QueryGate
