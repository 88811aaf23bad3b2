import QueryGate.Proofs.Chart.Charted
import QueryGate.Proofs.Chart.Reach

/-!
# Columns hold the items of the chart

The recognizer builds its columns from left to right and never comes back to one. `Progress` is what
it knows in front of a column : the waiting lists of all columns before it are final, and the items
that terminals before it led to are pending. With that the column has exactly the items of the
chart (`Progress.mem_itemsAt_iff`), and the next column is reached with the same knowledge
(`Progress.step`).

* `columns_exact` : the columns of a text are there for all its positions, with these items.
-/

namespace QueryGate

open Chart

variable {ρ : Type} [Scanner ρ] {g : Grammar ρ} {text s : List Char} {item : Item}
  {items : List Item} {j k m n r t : Nat} {columns : Array Waiting} {pending : List (Nat × Item)}

/-! ## What a column is made of -/

namespace Chart

/-- The items that a column is reached with. -/
def kernel (pending : List (Nat × Item)) (position : Nat) : List Item :=
  (pending.filter fun e => e.1 == position).map (·.2)

/-- The items of a column. -/
def itemsAt (g : Grammar ρ) (columns : Array Waiting) (pending : List (Nat × Item))
    (position : Nat) : List Item :=
  if (kernel pending position).isEmpty then []
  else closure g columns position (kernel pending position)

/-- The items that are pending behind a column. -/
def pendingBehind (g : Grammar ρ) (pending : List (Nat × Item)) (position : Nat) (items : List Item)
    (s : List Char) : List (Nat × Item) :=
  (if items.isEmpty then [] else scanned g position items s) ++
    pending.filter fun e => position < e.1

theorem columnsFrom_nil : columnsFrom g columns pending k [] =
    [⟨k, [], itemsAt g columns pending k⟩] :=
  rfl

theorem columnsFrom_cons {c : Char} : columnsFrom g columns pending k (c :: s) =
    ⟨k, c :: s, itemsAt g columns pending k⟩ ::
      columnsFrom g (columns.push (waitingOf g (itemsAt g columns pending k)))
        (pendingBehind g pending k (itemsAt g columns pending k) (c :: s)) (k + 1) s :=
  rfl

theorem mem_kernel_iff : item ∈ kernel pending k ↔ (k, item) ∈ pending := by
  simp [kernel]

/-! ## All items of a column -/

/-- The points of the productions from number `n` on, for items that begin at `origin`. -/
def points (origin : Nat) : Nat → List Production → List Item
  | _, [] => []
  | n, p :: ps => (List.range (p.rhs.length + 1)).map (fun matched => ⟨n, matched, origin⟩) ++
      points origin (n + 1) ps

theorem length_points (origin n : Nat) (ps : List Production) :
    (points origin n ps).length = (ps.map fun p => p.rhs.length + 1).foldr (· + ·) 0 := by
  induction ps generalizing n with
  | nil => rfl
  | cons p ps ih => simp [points, ih]

theorem mem_points {origin : Nat} {ps : List Production} {p : Production} {i matched : Nat}
    (hp : ps[i]? = some p) (hmatched : matched ≤ p.rhs.length) :
    ⟨n + i, matched, origin⟩ ∈ points origin n ps := by
  induction ps generalizing i n with
  | nil => simp at hp
  | cons q ps ih =>
    rw [points, List.mem_append]
    cases i with
    | zero =>
      obtain rfl : q = p := by simpa using hp
      refine Or.inl (List.mem_map.mpr ⟨matched, ?_, rfl⟩)
      exact List.mem_range.mpr (Nat.lt_succ_of_le hmatched)
    | succ i =>
      have hmem := ih (n := n + 1) (by simpa using hp)
      rw [Nat.add_right_comm] at hmem
      exact Or.inr hmem

/-- Every item that a column at a position may have. -/
def allItems (g : Grammar ρ) (position : Nat) : List Item :=
  (List.range (position + 1)).flatMap fun origin => points origin 0 g.productions.toList

omit [Scanner ρ] in
theorem length_allItems : (allItems g k).length = pointCount g * (k + 1) := by
  simp [allItems, length_points, List.length_flatMap, pointCount, Nat.mul_comm]

end Chart

theorem Charted.mem_allItems (hg : g.WellFormed) (h : Charted g text k item) :
    item ∈ allItems g k := by
  obtain ⟨p, hp⟩ := h.hasMatched hg
  refine List.mem_flatMap.mpr ⟨item.origin, List.mem_range.mpr (Nat.lt_succ_of_le hp.origin_le), ?_⟩
  have hlist : g.productions.toList[item.production]? = some p := by
    simpa using hp.production
  have hmem : ⟨0 + item.production, item.matched, item.origin⟩ ∈
      points item.origin 0 g.productions.toList := mem_points hlist hp.matched_le
  rwa [Nat.zero_add] at hmem

/-! ## Waiting lists and terminals -/

namespace Chart

/-- Notes that an item waits for a rule. -/
def noteWaiting (g : Grammar ρ) (w : Waiting) (item : Item) : Waiting :=
  match nextSymbol g item with
  | some (.rule rule) => w.modify rule (item :: ·)
  | _ => w

omit [Scanner ρ] in
theorem size_noteWaiting (w : Waiting) : (noteWaiting g w item).size = w.size := by
  unfold noteWaiting
  split <;> simp

omit [Scanner ρ] in
theorem mem_noteWaiting_iff {w : Waiting} {new : Item} (hr : r < w.size) :
    item ∈ (noteWaiting g w new)[r]?.getD [] ↔
      (item = new ∧ nextSymbol g new = some (.rule r)) ∨ item ∈ w[r]?.getD [] := by
  unfold noteWaiting
  split
  next rule hrule =>
    rw [Array.getElem?_modify, Array.getElem?_eq_getElem hr, hrule]
    by_cases heq : rule = r
    · simp [heq]
    · simp [heq]
  next hother =>
    have hne : nextSymbol g new ≠ some (.rule r) := hother r
    simp [hne]

omit [Scanner ρ] in
omit [Scanner ρ] in
theorem mem_foldl_noteWaiting_iff {w : Waiting} (hr : r < w.size) :
    item ∈ (items.foldl (noteWaiting g) w)[r]?.getD [] ↔
      (item ∈ items ∧ nextSymbol g item = some (.rule r)) ∨ item ∈ w[r]?.getD [] := by
  induction items generalizing w with
  | nil => simp
  | cons new items ih =>
    rw [List.foldl_cons, ih (by rwa [size_noteWaiting]), mem_noteWaiting_iff hr, List.mem_cons]
    constructor
    · rintro (⟨hmem, hnext⟩ | ⟨rfl, hnext⟩ | hold)
      · exact Or.inl ⟨Or.inr hmem, hnext⟩
      · exact Or.inl ⟨Or.inl rfl, hnext⟩
      · exact Or.inr hold
    · rintro (⟨rfl | hmem, hnext⟩ | hold)
      · exact Or.inr (Or.inl ⟨rfl, hnext⟩)
      · exact Or.inl ⟨hmem, hnext⟩
      · exact Or.inr (Or.inr hold)

omit [Scanner ρ] in
/-- The items that wait for a rule are those that expect it. -/
theorem mem_waitingOf_iff (hr : r < g.ruleNames.size) :
    item ∈ (waitingOf g items)[r]?.getD [] ↔
      item ∈ items ∧ nextSymbol g item = some (.rule r) := by
  have hfold : item ∈ (items.foldl (noteWaiting g)
      (Array.replicate g.ruleNames.size []))[r]?.getD [] ↔
        item ∈ items ∧ nextSymbol g item = some (.rule r) := by
    rw [mem_foldl_noteWaiting_iff (by simpa using hr)]
    simp [hr]
  rw [← hfold]
  unfold waitingOf
  split_ifs with hempty
  · rw [List.isEmpty_iff.mp hempty]
    simp [hr]
  · rfl

omit [Scanner ρ] in
theorem nextTerminal?_eq_some_iff :
    nextTerminal? g item = some t ↔ nextSymbol g item = some (.terminal t) := by
  unfold nextTerminal?
  split
  next t' ht' => simp [ht']
  next hother => simpa using hother t

omit [Scanner ρ] in
omit [Scanner ρ] in
theorem mem_expectedTerminals_iff : t ∈ expectedTerminals g items ↔
    ∃ item ∈ items, nextSymbol g item = some (.terminal t) := by
  simp only [expectedTerminals, List.mem_eraseDups, List.mem_filterMap, nextTerminal?_eq_some_iff]

theorem lookup_filterMap {ts : List Nat} {f : Nat → Option Nat} (ht : t ∈ ts ∨ f t = none) :
    (ts.filterMap fun t => (f t).map fun n => (t, n)).lookup t = f t := by
  induction ts with
  | nil => simpa [eq_comm] using ht
  | cons t' ts ih =>
    have htail : t ≠ t' ∨ f t' = none → t ∈ ts ∨ f t = none := by
      rintro (hne | hnone)
      · exact ht.imp_left fun hmem => (List.mem_cons.mp hmem).resolve_left hne
      · rcases ht with hmem | hnone'
        · rcases List.mem_cons.mp hmem with rfl | hmem
          · exact Or.inr hnone
          · exact Or.inl hmem
        · exact Or.inr hnone'
    rw [List.filterMap_cons]
    cases hf : f t' with
    | none => exact ih (htail (Or.inr hf))
    | some n =>
      rw [Option.map_some, List.lookup_cons]
      by_cases heq : t = t'
      · subst heq
        simp [hf]
      · rw [beq_false_of_ne heq]
        exact ih (htail (Or.inl heq))

/-- Each expected terminal is tried once, and all items that expect it share what it takes. -/
theorem lookup_terminalEnds (ht : t ∈ expectedTerminals g items) :
    (terminalEnds g items s).lookup t = g.readLength? t s := by
  have heq : terminalEnds g items s = (expectedTerminals g items).filterMap fun t =>
      (g.readLength? t s).map fun n => (t, n) := by
    simp only [terminalEnds, Grammar.readLength?, Option.map_map]
    rfl
  rw [heq, lookup_filterMap (Or.inl ht)]

/-- The items that terminals lead to are those that the terminals move on. -/
theorem mem_scanned_iff : (m, item) ∈ scanned g k items (text.drop k) ↔
    ∃ before ∈ items, ∃ t, nextSymbol g before = some (.terminal t) ∧ g.Reads text t k m ∧
      item = advance before := by
  unfold scanned Grammar.Reads
  rw [List.mem_filterMap]
  refine exists_congr fun before => and_congr_right fun hbefore => ?_
  rw [Option.bind_eq_some_iff]
  refine exists_congr fun t => ?_
  rw [nextTerminal?_eq_some_iff]
  refine and_congr_right fun ht => ?_
  rw [lookup_terminalEnds (mem_expectedTerminals_iff.mpr ⟨before, hbefore, ht⟩),
    Option.map_eq_some_iff]
  simp only [Prod.mk.injEq, eq_comm (a := m), eq_comm (a := item), ← and_assoc, exists_and_right]

omit [Scanner ρ] in
/-- What an item leads to : what it expects is begun, or passed over if it vanishes; a finished
item moves on those that wait for it. -/
theorem mem_successors_iff {next : Item} : next ∈ successors g columns k item ↔
    (∃ r, nextSymbol g item = some (.rule r) ∧
        (next ∈ predicted g r k ∨ g.isNullable r = true ∧ next = advance item)) ∨
      (nextSymbol g item = none ∧ item.origin ≠ k ∧ ∃ r, ruleOf g item = some r ∧
        ∃ parent ∈ waitingFor columns item.origin r, next = advance parent) := by
  unfold successors
  split
  next hdone =>
    split_ifs with horigin
    · simp [hdone, horigin]
    · cases ruleOf g item <;> simp [hdone, horigin, eq_comm (a := next)]
  next r hr =>
    by_cases hnull : g.isNullable r = true <;> simp [hr, hnull]
  next t ht => simp [ht]

end Chart

/-! ## From column to column -/

/-- The items that a column at `m` is reached with from the columns before `k`. -/
def Ahead (g : Grammar ρ) (text : List Char) (k m : Nat) (item : Item) : Prop :=
  (m = 0 ∧ item ∈ predicted g g.root 0) ∨
    ∃ j < k, ∃ before, Charted g text j before ∧ ∃ t, nextSymbol g before = some (.terminal t) ∧
      g.Reads text t j m ∧ item = advance before

/-- What is known in front of the column at `k`. -/
structure Progress (g : Grammar ρ) (text : List Char) (k : Nat) (columns : Array Waiting)
    (pending : List (Nat × Item)) : Prop where
  size_eq : columns.size = k
  waiting : ∀ j < k, ∀ r < g.ruleNames.size, ∀ item, item ∈ waitingFor columns j r ↔
    Charted g text j item ∧ nextSymbol g item = some (.rule r)
  pending : ∀ m, k ≤ m → ∀ item, (m, item) ∈ pending ↔ Ahead g text k m item

theorem ahead_succ_iff : Ahead g text (k + 1) m item ↔ Ahead g text k m item ∨
    ∃ before, Charted g text k before ∧ ∃ t, nextSymbol g before = some (.terminal t) ∧
      g.Reads text t k m ∧ item = advance before := by
  unfold Ahead
  constructor
  · rintro (hroot | ⟨j, hj, hbefore⟩)
    · exact Or.inl (Or.inl hroot)
    · rcases Nat.lt_succ_iff_lt_or_eq.mp hj with hj | rfl
      · exact Or.inl (Or.inr ⟨j, hj, hbefore⟩)
      · exact Or.inr hbefore
  · rintro ((hroot | ⟨j, hj, hbefore⟩) | hbefore)
    · exact Or.inl hroot
    · exact Or.inr ⟨j, Nat.lt_succ_of_lt hj, hbefore⟩
    · exact Or.inr ⟨k, Nat.lt_succ_self k, hbefore⟩

theorem mem_pendingBehind_iff (hm : k < m) : (m, item) ∈ pendingBehind g pending k items s ↔
    (m, item) ∈ scanned g k items s ∨ (m, item) ∈ pending := by
  unfold pendingBehind
  rw [List.mem_append, List.mem_filter]
  simp only [hm, decide_true, and_true]
  split_ifs with hempty
  · rw [List.isEmpty_iff.mp hempty]
    rfl
  · rfl

namespace Progress

theorem charted_of_ahead {k m : Nat} (h : Ahead g text k m item) : Charted g text m item := by
  rcases h with ⟨rfl, hroot⟩ | ⟨j, -, before, hbefore, t, ht, hreads, rfl⟩
  · exact .root hroot
  · exact hbefore.scan ht hreads

/-- Finished items are only of rules the grammar has, and their waiting lists are final. -/
theorem mem_waitingFor_iff (hg : g.WellFormed) (h : Progress g text k columns pending)
    (hitem : Charted g text k item) (horigin : item.origin ≠ k) (hrule : ruleOf g item = some r)
    {parent : Item} : parent ∈ waitingFor columns item.origin r ↔
      Charted g text item.origin parent ∧ nextSymbol g parent = some (.rule r) := by
  obtain ⟨p, hp⟩ := hitem.hasMatched hg
  rw [ruleOf_eq hp.production] at hrule
  obtain rfl := Option.some.inj hrule
  refine h.waiting item.origin (Nat.lt_of_le_of_ne hp.origin_le horigin) p.lhs ?_ parent
  exact (hg.within p (Array.mem_of_getElem? hp.production)).lhs_lt

theorem charted_of_reachable (hg : g.WellFormed) (h : Progress g text k columns pending)
    (hitem : Reachable (successors g columns k) (kernel pending k) item) :
    Charted g text k item := by
  induction hitem with
  | start hmem =>
    exact charted_of_ahead ((h.pending k (Nat.le_refl k) _).mp (mem_kernel_iff.mp hmem))
  | step _ hb iha =>
    rcases mem_successors_iff.mp hb with ⟨r, hr, hbegun | ⟨hnull, rfl⟩⟩ |
      ⟨hdone, horigin, r, hrule, parent, hparent, rfl⟩
    · exact iha.predict hr hbegun
    · exact iha.pass hr hnull
    · obtain ⟨hcharted, hr⟩ := (h.mem_waitingFor_iff hg iha horigin hrule).mp hparent
      exact iha.complete hdone horigin hrule hcharted hr

theorem reachable_of_charted (hg : g.WellFormed) (h : Progress g text k columns pending)
    (hitem : Charted g text k item) :
    Reachable (successors g columns k) (kernel pending k) item := by
  have hstart : ∀ {item : Item}, Ahead g text k k item →
      Reachable (successors g columns k) (kernel pending k) item := fun hahead =>
    .start (mem_kernel_iff.mpr ((h.pending k (Nat.le_refl k) _).mpr hahead))
  -- only what happens at the position itself is a step inside the column
  generalize hm : k = m at hitem
  induction hitem with
  | root hroot =>
    subst hm
    exact hstart (Or.inl ⟨rfl, hroot⟩)
  | predict _ hr hbegun ih =>
    subst hm
    exact (ih rfl).step (mem_successors_iff.mpr (Or.inl ⟨_, hr, Or.inl hbegun⟩))
  | pass _ hr hnull ih =>
    subst hm
    exact (ih rfl).step (mem_successors_iff.mpr (Or.inl ⟨_, hr, Or.inr ⟨hnull, rfl⟩⟩))
  | complete hitem hdone horigin hrule hparent hr ih _ =>
    subst hm
    have hwaiting := (h.mem_waitingFor_iff hg hitem horigin hrule).mpr ⟨hparent, hr⟩
    exact (ih rfl).step
      (mem_successors_iff.mpr (Or.inr ⟨hdone, horigin, _, hrule, _, hwaiting, rfl⟩))
  | scan hbefore ht hreads _ =>
    subst hm
    exact hstart (Or.inr ⟨_, hreads.lt, _, hbefore, _, ht, hreads, rfl⟩)

/-- The column has the items of the chart. -/
theorem mem_itemsAt_iff (hg : g.WellFormed) (h : Progress g text k columns pending) :
    item ∈ itemsAt g columns pending k ↔ Charted g text k item := by
  have hreach : Reachable (successors g columns k) (kernel pending k) item ↔
      Charted g text k item := ⟨h.charted_of_reachable hg, h.reachable_of_charted hg⟩
  have hclosure : item ∈ closure g columns k (kernel pending k) ↔ Charted g text k item := by
    rw [← hreach]
    refine mem_reach_iff (U := allItems g k) (fun a ha => ?_) (Nat.le_of_eq length_allItems) item
    exact (h.charted_of_reachable hg ha).mem_allItems hg
  unfold itemsAt
  split_ifs with hempty
  · rw [← hreach, List.isEmpty_iff.mp hempty]
    exact iff_of_false List.not_mem_nil (not_reachable_nil item)
  · exact hclosure

/-- The next column is reached with the same knowledge. -/
theorem step (hg : g.WellFormed) (h : Progress g text k columns pending) :
    Progress g text (k + 1) (columns.push (waitingOf g (itemsAt g columns pending k)))
      (pendingBehind g pending k (itemsAt g columns pending k) (text.drop k)) := by
  refine ⟨by rw [Array.size_push, h.size_eq], fun j hj r hr item => ?_, fun m hm item => ?_⟩
  · rcases Nat.lt_succ_iff_lt_or_eq.mp hj with hj | rfl
    · rw [← h.waiting j hj r hr, waitingFor, waitingFor, Array.getElem?_push_lt (h.size_eq ▸ hj),
        Array.getElem?_eq_getElem (h.size_eq ▸ hj)]
    · have hpushed : waitingFor (columns.push (waitingOf g (itemsAt g columns pending j))) j r =
          (waitingOf g (itemsAt g columns pending j))[r]?.getD [] := by
        have hlast : (columns.push (waitingOf g (itemsAt g columns pending j)))[columns.size]? =
            some (waitingOf g (itemsAt g columns pending j)) := Array.getElem?_push_size
        rw [h.size_eq] at hlast
        rw [waitingFor, hlast, Option.bind_some]
      rw [hpushed, mem_waitingOf_iff hr, h.mem_itemsAt_iff hg]
  · rw [mem_pendingBehind_iff hm, h.pending m (Nat.le_of_succ_le hm), ahead_succ_iff, or_comm,
      mem_scanned_iff]
    simp only [h.mem_itemsAt_iff hg]

theorem start (g : Grammar ρ) (text : List Char) :
    Progress g text 0 #[] ((predicted g g.root 0).map fun item => (0, item)) := by
  refine ⟨rfl, fun j hj => absurd hj (Nat.not_lt_zero j), fun m _ item => ?_⟩
  unfold Ahead
  simp [and_comm, eq_comm]

end Progress

/-- A column is where it says, and has the items of the chart. -/
structure Column.Exact (g : Grammar ρ) (text : List Char) (c : Column) : Prop where
  position_le : c.position ≤ text.length
  rest_eq : c.rest = text.drop c.position
  mem_items_iff : ∀ item, item ∈ c.items ↔ Charted g text c.position item

namespace Progress

theorem exact_itemsAt (hg : g.WellFormed) (h : Progress g text k columns pending)
    (hs : text.drop k = s) (hk : k ≤ text.length) :
    Column.Exact g text ⟨k, s, itemsAt g columns pending k⟩ :=
  ⟨hk, hs.symm, fun _ => h.mem_itemsAt_iff hg⟩

/-- The columns from a position on. -/
theorem columnsFrom (hg : g.WellFormed) (h : Progress g text k columns pending)
    (hs : text.drop k = s) (hk : k ≤ text.length) :
    (columnsFrom g columns pending k s).map (·.position) = List.range' k (s.length + 1) ∧
      ∀ c ∈ Chart.columnsFrom g columns pending k s, c.Exact g text := by
  induction s generalizing k columns pending with
  | nil =>
    rw [columnsFrom_nil]
    exact ⟨rfl, List.forall_mem_singleton.mpr (h.exact_itemsAt hg hs hk)⟩
  | cons c s ih =>
    have hlt : k < text.length := by
      have hlen := congrArg List.length hs
      rw [List.length_drop, List.length_cons] at hlen
      omega
    have hnext : text.drop (k + 1) = s := by rw [← List.tail_drop, hs, List.tail_cons]
    obtain ⟨hpositions, hexact⟩ := ih (hs ▸ h.step hg) hnext hlt
    rw [columnsFrom_cons]
    refine ⟨?_, List.forall_mem_cons.mpr ⟨h.exact_itemsAt hg hs hk, hexact⟩⟩
    rw [List.map_cons, hpositions, List.length_cons, ← List.range'_succ]

end Progress

/-- There is a column for every position of the text, and it has the items of the chart. -/
theorem columns_exact (hg : g.WellFormed) (text : List Char) :
    (Chart.columns g text).map (·.position) = List.range (text.length + 1) ∧
      ∀ c ∈ Chart.columns g text, c.Exact g text := by
  rw [List.range_eq_range']
  exact (Progress.start g text).columnsFrom hg List.drop_zero (Nat.zero_le _)

end QueryGate
