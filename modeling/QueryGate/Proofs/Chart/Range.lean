import QueryGate.Proofs.Chart.Recognizer

/-!
# The recognizer stays in range

Whatever the recognizer looks up for a column is there (`Column.InRange`) : productions, the rules
and terminals in them, columns further left, and places in the text. The search inside a column
ends because nothing is left to look at. All of this is known in front of a column from the columns
to its left (`Chart.Behind`), and it is known again in front of the next one.

* `columns_inRange` : this is so for all columns of a text, whatever grammar it is read with.
-/

namespace QueryGate

open Chart Text

variable {ρ : Type} [Scanner ρ] {g : Grammar ρ} {text s : List Char} {item : Item} {k m t : Nat}
  {before : List Column} {columns : Array Waiting} {pending : List (Nat × Item)}

namespace Chart

/-- The waiting lists of columns. -/
def tables (g : Grammar ρ) (before : List Column) : Array Waiting :=
  (before.map fun c => waitingOf g c.items).toArray

/-- The items that begin the root, and those that terminals lead to from columns, with the positions
they belong to. -/
def leads (g : Grammar ρ) (before : List Column) : List (Nat × Item) :=
  before.reverse.flatMap (fun c => scanned g c.position c.items c.rest) ++
    (predicted g g.root 0).map fun item => (0, item)

end Chart

/-- A column that has the columns `before` to its left, and that looks up nothing that is not
there. -/
structure Column.InRange (g : Grammar ρ) (text : List Char) (before : List Column) (c : Column) :
    Prop where
  position_eq : c.position = before.length
  position_le : c.position ≤ text.length
  /-- The text can be cut at the byte where the column is. -/
  dropBytes?_eq : dropBytes? text (byteLength (text.take c.position)) = some c.rest
  /-- It can be cut behind ignored text. -/
  dropBytes?_skipOffset : dropBytes? text (g.skipOffset text (byteLength (text.take c.position))) =
    some (skipIgnored g.ignored c.rest)
  /-- Items are of productions that there are, and are at one of their points. -/
  exists_production : ∀ item ∈ c.items, ∃ p, g.productions[item.production]? = some p ∧
    p.Within g.ruleNames.size g.terminals.size ∧ item.matched ≤ p.rhs.length ∧
      item.origin ≤ c.position
  /-- No item is there twice. -/
  nodup : c.items.Nodup
  /-- The column has all items that its items lead to. -/
  closed : ∀ item ∈ c.items, ∀ next ∈ successors g (tables g before) c.position item,
    next ∈ c.items
  /-- The search for the items begins with what the columns to the left lead to. It ends because
  there are no others : however many more it might look at, it would find the same. -/
  reach_eq : ∀ fuel, pointCount g * (c.position + 1) ≤ fuel →
    reach (successors g (tables g before) c.position) fuel (kernel (leads g before) c.position) =
      c.items
  /-- A finished item that began further left looks at a column that is complete. -/
  exists_left : ∀ item ∈ c.items, nextSymbol g item = none → item.origin ≠ c.position →
    ∃ left, before[item.origin]? = some left ∧ left.position = item.origin ∧
      (tables g before)[item.origin]? = some (waitingOf g left.items)
  /-- Terminals lead to columns further right. -/
  lt_of_scanned : ∀ m item, (m, item) ∈ scanned g c.position c.items c.rest →
    c.position < m ∧ m ≤ text.length
  /-- An item is moved on by a terminal to the column at the byte where the terminal ends. -/
  takes_iff : ∀ item ∈ c.items, ∀ t, nextSymbol g item = some (.terminal t) → ∀ stop,
    g.Takes text t (byteLength (text.take c.position)) stop ↔
      ∃ m, (m, advance item) ∈ scanned g c.position c.items c.rest ∧
        stop = byteLength (text.take m)

namespace Chart

/-- What is known in front of a column from the columns to its left. -/
structure Behind (g : Grammar ρ) (text : List Char) (before : List Column) (columns : Array Waiting)
    (pending : List (Nat × Item)) : Prop where
  progress : Progress g text before.length columns pending
  columns_eq : columns = tables g before
  kernel_eq : ∀ m, before.length ≤ m → kernel pending m = kernel (leads g before) m
  positions : before.map (·.position) = List.range before.length

theorem behind_nil (g : Grammar ρ) (text : List Char) :
    Behind g text [] #[] ((predicted g g.root 0).map fun item => (0, item)) :=
  ⟨.start g text, rfl, fun _ _ => rfl, rfl⟩

theorem advance_inj {item item' : Item} (h : advance item = advance item') : item = item' := by
  obtain ⟨production, matched, origin⟩ := item
  obtain ⟨production', matched', origin'⟩ := item'
  simpa [advance] using h

theorem kernel_append (pending pending' : List (Nat × Item)) (m : Nat) :
    kernel (pending ++ pending') m = kernel pending m ++ kernel pending' m := by
  rw [kernel, List.filter_append, List.map_append]
  rfl

theorem leads_append_singleton (g : Grammar ρ) (before : List Column) (c : Column) :
    leads g (before ++ [c]) = scanned g c.position c.items c.rest ++ leads g before := by
  rw [leads, List.reverse_append, List.reverse_singleton, List.singleton_append, List.flatMap_cons,
    List.append_assoc]
  rfl

/-- What is pending behind a column is what it leads to, and what was pending before. -/
theorem kernel_pendingBehind {items : List Item} (hm : k < m) :
    kernel (pendingBehind g pending k items s) m =
      kernel (scanned g k items s) m ++ kernel pending m := by
  have hlater : kernel (pending.filter fun e => decide (k < e.1)) m = kernel pending m := by
    unfold kernel
    rw [List.filter_filter]
    refine congrArg (List.map _) (List.filter_congr fun e _ => ?_)
    by_cases he : e.1 = m <;> simp [he, hm]
  rw [pendingBehind, kernel_append, hlater]
  split_ifs with hempty
  · rw [List.isEmpty_iff.mp hempty]
    rfl
  · rfl

namespace Behind

/-- The next column has one more to its left. -/
theorem step (hg : g.WellFormed) (h : Behind g text before columns pending)
    (hs : text.drop before.length = s) :
    Behind g text (before ++ [⟨before.length, s, itemsAt g columns pending before.length⟩])
      (columns.push (waitingOf g (itemsAt g columns pending before.length)))
      (pendingBehind g pending before.length (itemsAt g columns pending before.length) s) := by
  refine ⟨?_, ?_, fun m hm => ?_, ?_⟩
  · rw [List.length_append, List.length_singleton, ← hs]
    exact h.progress.step hg
  · rw [h.columns_eq, tables, tables, List.map_append, List.push_toArray]
    rfl
  · rw [List.length_append, List.length_singleton] at hm
    rw [kernel_pendingBehind hm, leads_append_singleton, kernel_append,
      h.kernel_eq m (Nat.le_of_succ_le hm)]
  · rw [List.map_append, h.positions, List.length_append, List.length_singleton, List.range_succ]
    rfl

/-- The search for the items of a column ends because there are no others. -/
theorem reach_eq_itemsAt (hg : g.WellFormed) (h : Behind g text before columns pending)
    {fuel : Nat} (hfuel : pointCount g * (before.length + 1) ≤ fuel) :
    reach (successors g columns before.length) fuel (kernel pending before.length) =
      itemsAt g columns pending before.length := by
  have hall : ∀ item, Reachable (successors g columns before.length)
      (kernel pending before.length) item → item ∈ allItems g before.length :=
    fun item hitem => (h.progress.charted_of_reachable hg hitem).mem_allItems hg
  refine (reachFrom_eq_reachFrom hall (Frontier.explores_start _ _)
    (Nat.le_of_eq length_allItems) hfuel).trans ?_
  unfold itemsAt
  split_ifs with hempty
  · rw [List.isEmpty_iff.mp hempty]
    exact reach_nil _ _
  · rfl

theorem mem_itemsAt_of_successors (hg : g.WellFormed) (h : Behind g text before columns pending)
    {next : Item} (hitem : item ∈ itemsAt g columns pending before.length)
    (hnext : next ∈ successors g columns before.length item) :
    next ∈ itemsAt g columns pending before.length := by
  rw [h.progress.mem_itemsAt_iff hg] at hitem ⊢
  exact h.progress.charted_of_reachable hg ((h.progress.reachable_of_charted hg hitem).step hnext)

/-- Columns to the left are complete. -/
theorem exists_left (h : Behind g text before columns pending) (hk : k < before.length) :
    ∃ left, before[k]? = some left ∧ left.position = k ∧
      (tables g before)[k]? = some (waitingOf g left.items) := by
  have hleft : before[k]? = some before[k] := List.getElem?_eq_getElem hk
  have hposition : (before.map (·.position))[k]? = some before[k].position := by
    rw [List.getElem?_map, hleft, Option.map_some]
  rw [h.positions, List.getElem?_range hk] at hposition
  refine ⟨before[k], hleft, (Option.some.inj hposition).symm, ?_⟩
  rw [tables, List.getElem?_toArray, List.getElem?_map, hleft, Option.map_some]

theorem takes_iff_scanned (hk : k ≤ text.length) {items : List Item} (hitem : item ∈ items)
    (ht : nextSymbol g item = some (.terminal t)) {stop : Nat} :
    g.Takes text t (byteLength (text.take k)) stop ↔
      ∃ m, (m, advance item) ∈ scanned g k items (text.drop k) ∧
        stop = byteLength (text.take m) := by
  rw [Grammar.takes_byteLength_take_iff hk]
  refine exists_congr fun m => and_congr_left fun _ => ?_
  rw [mem_scanned_iff]
  constructor
  · exact fun hreads => ⟨item, hitem, t, ht, hreads, rfl⟩
  · rintro ⟨item', -, t', ht', hreads, heq⟩
    obtain rfl := advance_inj heq
    obtain rfl : t = t' := by simpa [ht] using ht'
    exact hreads

theorem inRange (hg : g.WellFormed) (h : Behind g text before columns pending)
    (hs : text.drop before.length = s) (hk : before.length ≤ text.length) :
    Column.InRange g text before
      ⟨before.length, s, itemsAt g columns pending before.length⟩ := by
  subst hs
  have hmatched : ∀ item ∈ itemsAt g columns pending before.length,
      ∃ p, HasMatched g text before.length item p :=
    fun item hitem => ((h.progress.mem_itemsAt_iff hg).mp hitem).hasMatched hg
  refine
    { position_eq := rfl
      position_le := hk
      dropBytes?_eq := Grammar.dropBytes?_byteLength_take text before.length
      dropBytes?_skipOffset := ?_
      exists_production := fun item hitem => ?_
      nodup := ?_
      closed := fun item hitem next hnext => ?_
      reach_eq := fun fuel hfuel => ?_
      exists_left := fun item hitem _ horigin => ?_
      lt_of_scanned := fun m item hscanned => ?_
      takes_iff := fun item hitem t ht stop => takes_iff_scanned hk hitem ht }
  · obtain ⟨u, htext, -, hskip⟩ := Grammar.exists_skipOffset_eq g text before.length
    have hcut := dropBytes?_byteLength_append (text.take before.length ++ u)
      (skipIgnored g.ignored (text.drop before.length))
    rwa [htext, ← hskip] at hcut
  · obtain ⟨p, hp⟩ := hmatched item hitem
    exact ⟨p, hp.production, hg.within p (Array.mem_of_getElem? hp.production), hp.matched_le,
      hp.origin_le⟩
  · rw [← h.reach_eq_itemsAt hg (Nat.le_refl _)]
    exact nodup_reachFrom _ (Frontier.explores_start _ _)
  · exact h.mem_itemsAt_of_successors hg hitem (h.columns_eq ▸ hnext)
  · rw [← h.kernel_eq _ (Nat.le_refl _), ← h.columns_eq]
    exact h.reach_eq_itemsAt hg hfuel
  · obtain ⟨p, hp⟩ := hmatched item hitem
    exact h.exists_left (Nat.lt_of_le_of_ne hp.origin_le horigin)
  · obtain ⟨-, -, t, -, hreads, -⟩ := mem_scanned_iff.mp hscanned
    exact ⟨hreads.lt, hreads.le_length⟩

/-- All columns from one on look up nothing that is not there. -/
theorem inRange_of_columnsFrom (hg : g.WellFormed)
    (h : Behind g text before columns pending) (hs : text.drop before.length = s)
    (hk : before.length ≤ text.length) {front after : List Column} {c : Column}
    (hsplit : columnsFrom g columns pending before.length s = front ++ c :: after) :
    c.InRange g text (before ++ front) := by
  induction s generalizing before columns pending front with
  | nil =>
    rw [columnsFrom_nil] at hsplit
    obtain ⟨rfl, rfl, -⟩ : front = [] ∧ c = _ ∧ after = [] := by
      simpa [List.cons_eq_append_iff] using hsplit
    rw [List.append_nil]
    exact h.inRange hg hs hk
  | cons char s ih =>
    rw [columnsFrom_cons] at hsplit
    rcases List.cons_eq_append_iff.mp hsplit with ⟨rfl, heq⟩ | ⟨front, rfl, hrest⟩
    · obtain ⟨rfl, -⟩ := List.cons.inj heq
      rw [List.append_nil]
      exact h.inRange hg hs hk
    · have hlength : text.length - before.length = s.length + 1 := by
        rw [← List.length_drop, hs, List.length_cons]
      have hnext := h.step hg hs
      rw [List.append_cons]
      refine ih hnext ?_ ?_ ?_
      · rw [List.length_append, List.length_singleton, ← List.tail_drop, hs, List.tail_cons]
      · rw [List.length_append, List.length_singleton]
        omega
      · rw [List.length_append, List.length_singleton]
        exact hrest

end Behind

end Chart

/-- For all columns of a text that is read with a compiled grammar, whatever is looked up is there :
the tables of the grammar have an entry for every rule, there is a column for every position of the
text, and no column leads out of range. -/
theorem columns_inRange {source root : String} (h : Grammar.compile source root = .ok g)
    (text : List Char) :
    (g.root < g.ruleNames.size ∧ g.byRule.size = g.ruleNames.size ∧
        g.nullable.size = g.ruleNames.size) ∧
      (Chart.columns g text).map (·.position) = List.range (text.length + 1) ∧
      ∀ before c after, Chart.columns g text = before ++ c :: after →
        c.InRange g text before := by
  have hg := Grammar.wellFormed_of_compile h
  refine ⟨⟨Grammar.root_lt_of_compile h, hg.size_byRule, hg.size_nullable⟩,
    (columns_exact hg text).1, fun before c after hsplit => ?_⟩
  exact (behind_nil g text).inRange_of_columnsFrom hg List.drop_zero (Nat.zero_le _) hsplit

/-- The text has three characters and five bytes, and the rules of the grammar go round in circles
at each place. -/
theorem columns_inRange_cyclic : ∃ g : Grammar, Grammar.compile cyclicSource "s" = .ok g ∧
    (Chart.columns g " → ".toList).map (·.position) = [0, 1, 2, 3] ∧
      ∀ c ∈ Chart.columns g " → ".toList, c.items.Nodup ∧
        (c.position = 2 → dropBytes? " → ".toList 4 = some c.rest) := by
  have hcompiles : (Grammar.compile cyclicSource "s").toOption.any
      (fun _ : Grammar => True) = true := by decide +kernel
  obtain ⟨g, h, -⟩ := exists_ok_of_any hcompiles
  obtain ⟨-, hpositions, hrange⟩ := columns_inRange h " → ".toList
  refine ⟨g, h, hpositions, fun c hc => ?_⟩
  obtain ⟨before, after, hsplit⟩ := List.append_of_mem hc
  have hinRange := hrange before c after hsplit
  refine ⟨hinRange.nodup, fun hposition => ?_⟩
  have hcut := hinRange.dropBytes?_eq
  rwa [hposition] at hcut

end QueryGate
