import QueryGate.Json.Reader
import QueryGate.Json.Writer
import QueryGate.Json.Record
import QueryGate.Settings.Error
import QueryGate.Text.Basic

/-!
# Schemas

The table that questions are about : its columns with their types and, for some, the values they
can have. A schema is written as JSON (`Schema.toJson`) and read back from the text of a file
(`Schema.ofFile`); `Schema.describe` puts it into words for a prompt.
-/

namespace QueryGate

/-- The type of a column. -/
inductive ColumnType where
  | int16
  | int32
  | string
  deriving DecidableEq, Repr

namespace ColumnType

/-- The name of a type in queries. -/
def name : ColumnType → String
  | int16 => "Int16"
  | int32 => "Int32"
  | string => "String"

/-- The type with a name. -/
def ofName? (s : String) : Option ColumnType :=
  [int16, int32, string].find? fun t => t.name == s

@[simp] theorem ofName?_name (t : ColumnType) : ofName? t.name = some t := by
  cases t <;> decide

end ColumnType

/-- A column of a table. -/
structure TableColumn where
  name : String
  type : ColumnType
  /-- The values the column can have, where they are known. -/
  values : Option (List String)
  deriving DecidableEq, Repr

/-- A table and its columns. -/
structure Schema where
  table : String
  columns : List TableColumn
  deriving DecidableEq, Repr

namespace TableColumn

/-- A column as an object, without a list of values where none is known. -/
def toJson (c : TableColumn) : Json :=
  .object ([("name", .string c.name), ("type", .string c.type.name)] ++
    match c.values with
    | some values => [("values", .array (values.map .string))]
    | none => [])

/-- The column a record describes. -/
def ofJson? (v : Json) : Option TableColumn := do
  let r ← Record.ofJson? ["name", "type", "values"] v
  let name ← r.required? 0 Json.string?
  let type ← r.required? 1 fun t => t.nameOf?.bind ColumnType.ofName?
  let values ← r.defaulted? 2 (Json.listOf? Json.string?)
  return ⟨name, type, values⟩

/-- The line of a column in the description of its table. -/
def describe (c : TableColumn) : String :=
  let domain := match c.values with
    | some (v :: vs) => ": " ++ " or ".intercalate ((v :: vs).map fun v => "\"" ++ v ++ "\"")
    | _ => ""
  "- " ++ c.name ++ " (" ++ c.type.name ++ domain ++ ")\n"

end TableColumn

namespace Schema

/-- A schema as an object. -/
def toJson (s : Schema) : Json :=
  .object [("table", .string s.table), ("columns", .array (s.columns.map TableColumn.toJson))]

/-- The schema a record describes. -/
def ofJson? (v : Json) : Option Schema := do
  let r ← Record.ofJson? ["table", "columns"] v
  let table ← r.required? 0 Json.string?
  let columns ← r.required? 1 (Json.listOf? TableColumn.ofJson?)
  return ⟨table, columns⟩

/-- The setting that names the file of the schema. -/
def setting : String := "SCHEMA_PATH"

/-- The schema in a file. It needs at least one column. -/
def ofFile (path : String) (content : FileContent) : Except SettingsError Schema :=
  match content with
  | .error fault => .error (.file path (.unreadable fault))
  | .ok text =>
    match (Json.read? text.toList).bind ofJson? with
    | none => .error (.file path .badSchema)
    | some s =>
      if s.columns.isEmpty then .error (.invalid setting (.noColumns path)) else .ok s

/-- The names of the columns. -/
def columnNames (s : Schema) : List String :=
  s.columns.map (·.name)

/-- The first column with a name, up to the case of ASCII letters. -/
def column? (s : Schema) (name : String) : Option TableColumn :=
  s.columns.find? fun c => Text.sameLetters c.name.toList name.toList

/-- The table in words, a line for every column. -/
def describe (s : Schema) : String :=
  "Available columns in " ++ s.table ++ " table:\n" ++ String.join (s.columns.map (·.describe))

open ColumnType in
/-- The table of employees that questions are about unless a schema is given. -/
def employees : Schema where
  table := "IBM_HR_Employee_Attrition"
  columns := [
    ⟨"_age", int16, none⟩,
    ⟨"attrition", string, some ["Yes", "No"]⟩,
    ⟨"businesstravel", string, none⟩,
    ⟨"dailyrate", int32, none⟩,
    ⟨"department", string, none⟩,
    ⟨"distancefromhome", int16, none⟩,
    ⟨"education", int16, none⟩,
    ⟨"educationfield", string, none⟩,
    ⟨"employeecount", int16, none⟩,
    ⟨"employeenumber", int32, none⟩,
    ⟨"environmentsatisfaction", int16, none⟩,
    ⟨"gender", string, none⟩,
    ⟨"hourlyrate", int16, none⟩,
    ⟨"jobinvolvement", int16, none⟩,
    ⟨"joblevel", int16, none⟩,
    ⟨"jobrole", string, none⟩,
    ⟨"jobsatisfaction", int16, none⟩,
    ⟨"maritalstatus", string, none⟩,
    ⟨"monthlyincome", int32, none⟩,
    ⟨"monthlyrate", int32, none⟩,
    ⟨"numcompaniesworked", int16, none⟩,
    ⟨"over18", string, none⟩,
    ⟨"overtime", string, some ["Yes", "No"]⟩,
    ⟨"percentsalaryhike", int16, none⟩,
    ⟨"performancerating", int16, none⟩,
    ⟨"relationshipsatisfaction", int16, none⟩,
    ⟨"standardhours", int16, none⟩,
    ⟨"stockoptionlevel", int16, none⟩,
    ⟨"totalworkingyears", int16, none⟩,
    ⟨"trainingtimeslastyear", int16, none⟩,
    ⟨"worklifebalance", int16, none⟩,
    ⟨"yearsatcompany", int16, none⟩,
    ⟨"yearsincurrentrole", int16, none⟩,
    ⟨"yearssincelastpromotion", int16, none⟩,
    ⟨"yearswithcurrmanager", int16, none⟩]

end Schema

end QueryGate
