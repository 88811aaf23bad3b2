import QueryGate.Json.Record

/-!
# Results

What an engine answers to a query. `QueryResult.ofBody` takes the body of an answer whole or
refuses it with the first fault found; `QueryResult.toJson` is the form that results are passed
on in.
-/

namespace QueryGate

/-- A row : the values of its columns by name, in the order of the answer. -/
abbrev Row := List (String × Json)

/-- What the engine says about the cost of a query. -/
structure Statistics where
  /-- Seconds, as a word of `binary64`. -/
  elapsed : Option Nat
  rowsRead : Option Nat
  bytesRead : Option Nat
  deriving DecidableEq, Repr

/-- Why the body of an answer is no result. -/
inductive BodyFault where
  | noData
  | dataNoArray
  | noRowCount
  | badRowCount
  /-- A row that is no object, and its index. -/
  | badRow (index : Nat)
  /-- Any other reason, as the engine words it. -/
  | other (reason : String)
  deriving DecidableEq, Repr

/-- The wording of a fault. -/
def BodyFault.message : BodyFault → String
  | noData => "missing 'data' field"
  | dataNoArray => "'data' is not an array"
  | noRowCount => "missing 'rows' field"
  | badRowCount => "'rows' is not a non-negative integer"
  | badRow index => s!"row {index} is not an object"
  | other reason => reason

namespace Statistics

/-- The statistics in a record; fields of a wrong kind make it none. -/
def ofJson? (v : Json) : Option Statistics := do
  let r ← Record.ofJson? ["elapsed", "rows_read", "bytes_read"] v
  let elapsed ← r.defaulted? 0 Json.word?
  let rowsRead ← r.defaulted? 1 Json.nat?
  let bytesRead ← r.defaulted? 2 Json.nat?
  return ⟨elapsed, rowsRead, bytesRead⟩

/-- Statistics as an object with all three fields. -/
def toJson (s : Statistics) : Json :=
  .object [("elapsed", s.elapsed.elim .null fun bits => .number (.float bits)),
    ("rows_read", s.rowsRead.elim .null .nat), ("bytes_read", s.bytesRead.elim .null .nat)]

end Statistics

/-- The answer to a query. -/
structure QueryResult where
  /-- The number of rows the engine reports. -/
  rowCount : Nat
  /-- The names of the columns. -/
  columns : List String
  rows : List Row
  /-- The status of the reply. -/
  status : Nat
  statistics : Option Statistics
  deriving Repr

namespace QueryResult

/-- The rows of an array, counted from an index. -/
def rowsOf : Nat → List Json → Except BodyFault (List Row)
  | _, [] => .ok []
  | i, v :: rest =>
    match v.fields? with
    | none => .error (.badRow i)
    | some row => (rowsOf (i + 1) rest).map (row :: ·)

/-- The names of the columns : those that `meta` lists, else the keys of the first row. -/
def columnsOf (body : Json) (rows : List Row) : List String :=
  match (body.field? "meta").bind Json.items? with
  | some columns => columns.filterMap fun c => (c.field? "name").bind Json.string?
  | none => (rows.head?.getD []).map (·.1)

/-- The result in the body of a reply. -/
def ofBody (status : Nat) (body : Json) : Except BodyFault QueryResult :=
  match body.field? "data" with
  | none => .error .noData
  | some data =>
    match data.items? with
    | none => .error .dataNoArray
    | some items =>
      match body.field? "rows" with
      | none => .error .noRowCount
      | some count =>
        match count.nat? with
        | none => .error .badRowCount
        | some rowCount => (rowsOf 0 items).map fun rows =>
          { rowCount := rowCount
            columns := columnsOf body rows
            rows := rows
            status := status
            statistics := (body.field? "statistics").bind Statistics.ofJson? }

/-- Whether there are no rows. -/
def isEmpty (r : QueryResult) : Bool :=
  r.rows.isEmpty

/-- The value of the first column in the first row; the first value where no column is known. -/
def scalar? (r : QueryResult) : Option Json :=
  r.rows.head?.bind fun row =>
    match r.columns.head? with
    | some column => row.lookup column
    | none => row.head?.map (·.2)

/-- A result as an object, without statistics where there are none. -/
def toJson (r : QueryResult) : Json :=
  .object ([("row_count", .nat r.rowCount), ("columns", .array (r.columns.map .string)),
    ("rows", .array (r.rows.map .object)), ("status", .nat r.status)] ++
    match r.statistics with
    | some s => [("statistics", s.toJson)]
    | none => [])

end QueryResult

end QueryGate
