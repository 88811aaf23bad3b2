import QueryGate.Json.Value

/-!
# Records in JSON

A record is written as an object, where unknown keys are passed over and known ones may stand
once, or as an array of its fields in order. `Record.ofJson?` finds the fields of either form.
-/

namespace QueryGate

/-- The fields of a record as far as they are there, in the order of their names. -/
structure Record where
  fields : List (Option Json)
  /-- Whether they were written as an array. -/
  positional : Bool
  deriving Repr

namespace Record

/-- The values a list of fields has for a key. -/
def valuesOf (key : String) (fields : List (String × Json)) : List Json :=
  (fields.filter fun f => f.1 == key).map (·.2)

/-- The fields with the given names. -/
def ofJson? (names : List String) : Json → Option Record
  | .object fields =>
    if names.any fun n => 1 < (valuesOf n fields).length then none
    else some ⟨names.map fun n => (valuesOf n fields).head?, false⟩
  | .array items =>
    if names.length < items.length then none
    else some ⟨(List.range names.length).map fun i => items[i]?, true⟩
  | _ => none

/-- A field that has to be there. -/
def required? {α : Type} (r : Record) (i : Nat) (read : Json → Option α) : Option α :=
  (r.fields[i]?.join).bind read

/-- A field that may be null, or missing from an object. -/
def optional? {α : Type} (r : Record) (i : Nat) (read : Json → Option α) : Option (Option α) :=
  match r.fields[i]?.join with
  | none => if r.positional then none else some none
  | some .null => some none
  | some v => (read v).map some

/-- A field that may be null or missing in either form. -/
def defaulted? {α : Type} (r : Record) (i : Nat) (read : Json → Option α) : Option (Option α) :=
  match r.fields[i]?.join with
  | none => some none
  | some .null => some none
  | some v => (read v).map some

end Record

namespace Json

/-- An array whose items are all read. -/
def listOf? {α : Type} (read : Json → Option α) (v : Json) : Option (List α) :=
  v.items?.bind fun items => items.mapM read

/-- One of some names : a string, or an object with the name as its only key and null. -/
def nameOf? : Json → Option String
  | string s => some s
  | object [(s, null)] => some s
  | _ => none

end Json

end QueryGate
