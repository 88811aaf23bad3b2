import Mathlib.Algebra.Group.Int.Defs
import Mathlib.Order.Bounds.Basic
import QueryGate.Execution.Result
import QueryGate.Proofs.Json.Parts

/-!
# Bodies that are results

The body of a reply is a result exactly if it is an object with an array of objects and a count of
64 bits, and what else it holds does not matter. The result then has the rows of the body as they
are (`QueryResult.IsOf`); otherwise nothing of the body is taken, and of rows that are no objects
the first one is reported (`QueryResult.exists_ofBody_eq_ok_iff`).
-/

namespace QueryGate

namespace QueryResult

variable {items rest : List Json} {rows : List Row} {fields : List (String × Json)} {v : Json}
  {r : QueryResult} {status count k : Nat}

/-! ## Rows -/

theorem rowsOf_eq_ok_iff : rowsOf k items = .ok rows ↔ items = rows.map .object := by
  induction items generalizing k rows with
  | nil =>
    rw [rowsOf, Except.ok.injEq, eq_comm, eq_comm (a := []), List.map_eq_nil_iff]
  | cons v items ih =>
    rw [rowsOf]
    cases hv : v.fields? with
    | none =>
      refine iff_of_false (by simp) fun h => ?_
      obtain ⟨row, -, rfl⟩ := List.mem_map.mp (h ▸ List.mem_cons_self ..)
      simp [Json.fields?] at hv
    | some row =>
      obtain rfl := Json.fields?_eq_some_iff.mp hv
      cases rows with
      | nil =>
        refine iff_of_false (fun h => ?_) (by simp)
        cases hrows : rowsOf (k + 1) items <;> simp [hrows, Except.map] at h
      | cons row' rows =>
        have hrest : rowsOf (k + 1) items = .ok rows ↔ items = rows.map .object := ih
        cases hrows : rowsOf (k + 1) items with
        | error fault => simp [Except.map, ← hrest, hrows]
        | ok rows' => simp [Except.map, ← hrest, hrows]

/-- The first item that is no row is reported with its index. -/
theorem rowsOf_append_cons (rows : List Row) (hv : v.fields? = none) (rest : List Json) :
    rowsOf k (rows.map .object ++ v :: rest) = .error (.badRow (k + rows.length)) := by
  induction rows generalizing k with
  | nil => simp [rowsOf, hv]
  | cons row rows ih =>
    rw [List.map_cons, List.cons_append, rowsOf, Json.fields?_eq_some_iff.mpr rfl, ih,
      List.length_cons, Nat.add_assoc, Nat.add_comm 1]
    rfl

/-- Items are rows, or rows in front of an item that is none. -/
theorem exists_rows_append (items : List Json) : ∃ (rows : List Row) (rest : List Json),
    items = rows.map .object ++ rest ∧ ∀ v ∈ rest.head?, v.fields? = none := by
  induction items with
  | nil => exact ⟨[], [], rfl, by simp⟩
  | cons v items ih =>
    cases hv : v.fields? with
    | none => exact ⟨[], v :: items, rfl, by simpa using hv⟩
    | some row =>
      obtain rfl := Json.fields?_eq_some_iff.mp hv
      obtain ⟨rows, rest, rfl, hrest⟩ := ih
      exact ⟨row :: rows, rest, rfl, hrest⟩

theorem exists_rows_of_forall (h : ∀ v ∈ items, ∃ row, v = .object row) :
    ∃ rows : List Row, items = rows.map .object := by
  obtain ⟨rows, rest, rfl, hrest⟩ := exists_rows_append items
  cases rest with
  | nil => exact ⟨rows, List.append_nil _⟩
  | cons v rest =>
    obtain ⟨row, hrow⟩ := h v (by simp)
    exact absurd hrow (Json.fields?_eq_none_iff.mp (hrest v rfl) row)

/-- Of items that are not all rows, the first one is reported. -/
theorem exists_isLeast_of_rowsOf (h : ∃ v ∈ items, ∀ row, v ≠ .object row) :
    ∃ i, IsLeast {j | ∃ v, items[j]? = some v ∧ ∀ row, v ≠ .object row} i ∧
      rowsOf 0 items = .error (.badRow i) := by
  obtain ⟨w, hw, hbad⟩ := h
  obtain ⟨rows, rest, rfl, hrest⟩ := exists_rows_append items
  cases rest with
  | nil =>
    obtain ⟨row, -, rfl⟩ := List.mem_map.mp ((List.append_nil _) ▸ hw)
    exact absurd rfl (hbad row)
  | cons v rest =>
    have hv := hrest v rfl
    refine ⟨rows.length, ⟨⟨v, by simp, Json.fields?_eq_none_iff.mp hv⟩, ?_⟩, ?_⟩
    · rintro j ⟨u, hu, hbad⟩
      refine Nat.le_of_not_lt fun hlt => ?_
      rw [List.getElem?_append_left (by simpa using hlt), List.getElem?_map] at hu
      obtain ⟨row, -, rfl⟩ := Option.map_eq_some_iff.mp hu
      exact hbad row rfl
    · rw [rowsOf_append_cons rows hv rest, Nat.zero_add]

/-! ## Columns -/

/-- The names that descriptions of columns give, in order; a description without a name is passed
over. -/
inductive NamesIn : List Json → List String → Prop
  | nil : NamesIn [] []
  | named {fields : List (String × Json)} {name : String} {items : List Json} {names : List String}
      (hname : fields.lookup "name" = some (.string name)) (hrest : NamesIn items names) :
      NamesIn (.object fields :: items) (name :: names)
  | unnamed {v : Json} {items : List Json} {names : List String}
      (hname : ∀ fields name, v = .object fields → fields.lookup "name" ≠ some (.string name))
      (hrest : NamesIn items names) : NamesIn (v :: items) names

theorem namesIn_filterMap (items : List Json) :
    NamesIn items (items.filterMap fun c => (c.field? "name").bind Json.string?) := by
  induction items with
  | nil => exact .nil
  | cons v items ih =>
    rw [List.filterMap_cons]
    split
    · rename_i hname
      refine .unnamed ?_ ih
      rintro fields name rfl hlookup
      simp [hlookup, Json.string?] at hname
    · rename_i name hname
      obtain ⟨w, hw, hstring⟩ := Option.bind_eq_some_iff.mp hname
      obtain ⟨fields, rfl, hlookup⟩ := Json.field?_eq_some_iff.mp hw
      exact .named (Json.string?_eq_some_iff.mp hstring ▸ hlookup) ih

/-- No array lists the columns. -/
def Unlisted (fields : List (String × Json)) : Prop :=
  ∀ items, fields.lookup "meta" ≠ some (.array items)

theorem columnsOf_of_listed (h : fields.lookup "meta" = some (.array items)) (rows : List Row) :
    columnsOf (.object fields) rows =
      items.filterMap fun c => (c.field? "name").bind Json.string? := by
  simp [columnsOf, h, Json.items?]

theorem columnsOf_of_unlisted (h : Unlisted fields) (rows : List Row) :
    columnsOf (.object fields) rows = (rows.head?.getD []).map (·.1) := by
  have hnone : (fields.lookup "meta").bind Json.items? = none := by
    refine Option.eq_none_iff_forall_not_mem.mpr fun items hitems => ?_
    obtain ⟨w, hw, hitems⟩ := Option.bind_eq_some_iff.mp hitems
    exact h items (Json.items?_eq_some_iff.mp hitems ▸ hw)
  simp [columnsOf, hnone]

/-- Where columns are the keys of the first row, the first one has the first value. -/
theorem scalar?_of_keys (h : r.columns = (r.rows.head?.getD []).map (·.1)) :
    r.scalar? = (r.rows.head?.bind List.head?).map (·.2) := by
  rw [scalar?, h]
  rcases r.rows with _ | ⟨_ | ⟨⟨key, value⟩, row⟩, rows⟩ <;> simp

/-! ## Bodies -/

/-- The result has what the fields of a body hold. -/
structure IsOf (r : QueryResult) (status : Nat) (fields : List (String × Json)) : Prop where
  rows : fields.lookup "data" = some (.array (r.rows.map .object))
  rowCount : fields.lookup "rows" = some (.number (.int r.rowCount))
  rowCount_lt : r.rowCount < 2 ^ 64
  status : r.status = status
  names : ∀ items, fields.lookup "meta" = some (.array items) → NamesIn items r.columns
  keys : Unlisted fields → r.columns = (r.rows.head?.getD []).map (·.1)
  scalar : Unlisted fields → r.scalar? = (r.rows.head?.bind List.head?).map (·.2) ∧
    (r.scalar? = none ↔ r.rows = [] ∨ r.rows.head? = some [])

theorem ofBody_object (status : Nat) (hdata : fields.lookup "data" = some (.array items))
    (hrows : fields.lookup "rows" = some (.number (.int count))) (hcount : count < 2 ^ 64) :
    ofBody status (.object fields) = (rowsOf 0 items).map fun rows =>
      { rowCount := count
        columns := columnsOf (.object fields) rows
        rows := rows
        status := status
        statistics := (fields.lookup "statistics").bind Statistics.ofJson? } := by
  have hnat : (Json.number (.int count)).nat? = some count := Json.nat?_nat hcount
  simp only [ofBody, Json.field?_object, hdata, hrows, Json.items?, hnat]

/-- What a body has to be for its rows to be looked at. -/
theorem exists_of_ofBody_eq_ok {body : Json} (h : ofBody status body = .ok r) :
    ∃ fields items count, body = .object fields ∧ fields.lookup "data" = some (.array items) ∧
      fields.lookup "rows" = some (.number (.int (count : Nat))) ∧ count < 2 ^ 64 := by
  unfold ofBody at h
  split at h
  · cases h
  rename_i data hdata
  split at h
  · cases h
  rename_i items hitems
  split at h
  · cases h
  rename_i rowCount hrows
  split at h
  · cases h
  rename_i count hcount
  obtain ⟨fields, rfl, hlookup⟩ := Json.field?_eq_some_iff.mp hdata
  obtain ⟨rfl, hlt⟩ := Json.nat?_eq_some_iff.mp hcount
  exact ⟨fields, items, count, rfl, Json.items?_eq_some_iff.mp hitems ▸ hlookup, hrows, hlt⟩

theorem IsOf.of_ofBody (h : ofBody status (.object fields) = .ok r) : r.IsOf status fields := by
  obtain ⟨_, items, count, hfields, hdata, hrows, hcount⟩ := exists_of_ofBody_eq_ok h
  obtain rfl := Json.object.inj hfields
  rw [ofBody_object status hdata hrows hcount] at h
  cases hitems : rowsOf 0 items with
  | error fault => simp [hitems, Except.map] at h
  | ok rows =>
    obtain rfl := rowsOf_eq_ok_iff.mp hitems
    rw [hitems] at h
    obtain rfl := Except.ok.inj h
    refine ⟨hdata, hrows, hcount, rfl, fun items hmeta => ?_, fun hmeta =>
      columnsOf_of_unlisted hmeta rows, fun hmeta => ⟨?_, ?_⟩⟩
    · simpa [columnsOf_of_listed hmeta rows] using namesIn_filterMap items
    · exact scalar?_of_keys (columnsOf_of_unlisted hmeta rows)
    · rw [scalar?_of_keys (columnsOf_of_unlisted hmeta rows)]
      rcases rows with _ | ⟨_ | ⟨field, row⟩, rows⟩ <;> simp

/-- A body is accepted whole, if it is an object whose data are an array of objects and whose count
is an integer of 64 bits, or not at all; of data that are no objects the first index is reported. -/
theorem exists_ofBody_eq_ok_iff (status : Nat) (body : Json) :
    ((∃ r, ofBody status body = .ok r) ↔ ∃ fields items n, body = .object fields ∧
      fields.lookup "data" = some (.array items) ∧ (∀ v ∈ items, ∃ row, v = .object row) ∧
      fields.lookup "rows" = some (.number (.int n)) ∧ 0 ≤ n ∧ n < 2 ^ 64) ∧
    (∀ r, ofBody status body = .ok r → ∃ fields, body = .object fields ∧ r.IsOf status fields) ∧
    ∀ fields items n, body = .object fields → fields.lookup "data" = some (.array items) →
      fields.lookup "rows" = some (.number (.int n)) → 0 ≤ n → n < 2 ^ 64 →
      (∃ v ∈ items, ∀ row, v ≠ .object row) →
      ∃ i, IsLeast {j | ∃ v, items[j]? = some v ∧ ∀ row, v ≠ .object row} i ∧
        ofBody status body = .error (.badRow i) ∧
        (BodyFault.badRow i).message = "row " ++ toString i ++ " is not an object" := by
  refine ⟨⟨?_, ?_⟩, fun r h => ?_, ?_⟩
  · rintro ⟨r, h⟩
    obtain ⟨fields, _, _, rfl, -⟩ := exists_of_ofBody_eq_ok h
    have hr := IsOf.of_ofBody h
    refine ⟨fields, _, _, rfl, hr.rows, fun v hv => ?_, hr.rowCount, Int.natCast_nonneg _, ?_⟩
    · obtain ⟨row, -, rfl⟩ := List.mem_map.mp hv
      exact ⟨row, rfl⟩
    · exact_mod_cast hr.rowCount_lt
  · rintro ⟨fields, items, n, rfl, hdata, hitems, hrows, hn, hlt⟩
    obtain ⟨count, rfl⟩ := Int.eq_ofNat_of_zero_le hn
    obtain ⟨rows, rfl⟩ := exists_rows_of_forall hitems
    rw [ofBody_object status hdata hrows (by exact_mod_cast hlt), rowsOf_eq_ok_iff.mpr rfl]
    exact ⟨_, rfl⟩
  · obtain ⟨fields, _, _, rfl, -⟩ := exists_of_ofBody_eq_ok h
    exact ⟨fields, rfl, IsOf.of_ofBody h⟩
  · rintro fields items n rfl hdata hrows hn hlt ⟨w, hw, hbad⟩
    obtain ⟨count, rfl⟩ := Int.eq_ofNat_of_zero_le hn
    obtain ⟨i, hleast, hrowsOf⟩ := exists_isLeast_of_rowsOf ⟨w, hw, hbad⟩
    refine ⟨i, hleast, ?_, rfl⟩
    rw [ofBody_object status hdata hrows (by exact_mod_cast hlt), hrowsOf]
    rfl

end QueryResult

end QueryGate
