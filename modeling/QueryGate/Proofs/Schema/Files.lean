import QueryGate.Proofs.Json.Records
import QueryGate.Proofs.Json.Written
import QueryGate.Schema

/-!
# Schemas in files

A file that holds the text of a schema gives the same schema again, whatever strings there are in
it, except that a schema without columns is refused (`Schema.ofFile_text`).
-/

namespace QueryGate

open Json

theorem FileContent.ofBytes_toUTF8 (s : String) : FileContent.ofBytes s.toUTF8 = .ok s := by
  have hread : String.fromUTF8? s.toUTF8 = some s := dif_pos s.isValidUTF8
  rw [ofBytes, hread]

namespace TableColumn

/-- The values of a column, in the order of its keys. A list of values that is not known comes
last, so that it can be missing. -/
def cells (c : TableColumn) : List Json :=
  [.string c.name, .string c.type.name] ++
    (c.values.map fun values => .array (values.map .string)).toList

theorem toJson_eq_zip (c : TableColumn) :
    c.toJson = .object (["name", "type", "values"].zip c.cells) := by
  cases h : c.values <;> simp [toJson, cells, h]

/-- A missing list of values is kept apart from an empty one. -/
theorem ofJson?_toJson (c : TableColumn) : ofJson? c.toJson = some c := by
  obtain ⟨r, hr, hfields⟩ :=
    Record.exists_ofJson?_zip (by decide : ["name", "type", "values"].Nodup) c.cells
  have hname : r.required? 0 Json.string? = some c.name :=
    Record.required?_of_field (hfields 0 (by decide)) _
  have htype : (r.required? 1 fun t => t.nameOf?.bind ColumnType.ofName?) = some c.type :=
    (Record.required?_of_field (hfields 1 (by decide)) _).trans (ColumnType.ofName?_name c.type)
  have hlast : r.fields[2]?.join = c.values.map fun values => .array (values.map .string) := by
    rw [hfields 2 (by decide)]
    cases h : c.values <;> simp [cells, h]
  have hvalues : r.defaulted? 2 (Json.listOf? Json.string?) = some c.values :=
    Record.defaulted?_of_field hlast fun values _ => ⟨nofun, listOf?_array fun _ _ => rfl⟩
  rw [ofJson?, toJson_eq_zip, hr]
  simp only [Option.bind_eq_bind, Option.bind_some, hname, htype, hvalues, Option.pure_def]

theorem isPlain_toJson (c : TableColumn) (d : Nat) : IsPlain (d + 2) c.toJson := by
  have hcells : ∀ v ∈ c.cells, IsPlain (d + 1) v := by
    intro v hv
    simp only [cells, List.mem_append, List.mem_cons, List.not_mem_nil, or_false,
      Option.mem_toList, Option.map_eq_some_iff] at hv
    rcases hv with (rfl | rfl) | ⟨values, -, rfl⟩
    · exact .string _
    · exact .string _
    · exact .array (List.forall_mem_map.mpr fun s _ => .string s)
  rw [toJson_eq_zip]
  exact .object_zip hcells

end TableColumn

namespace Schema

theorem ofJson?_toJson (s : Schema) : ofJson? s.toJson = some s := by
  obtain ⟨r, hr, hfields⟩ :=
    Record.exists_ofJson?_zip (by decide : ["table", "columns"].Nodup)
      [.string s.table, .array (s.columns.map TableColumn.toJson)]
  have htable : r.required? 0 Json.string? = some s.table :=
    Record.required?_of_field (hfields 0 (by decide)) _
  have hcolumns : r.required? 1 (Json.listOf? TableColumn.ofJson?) = some s.columns :=
    (Record.required?_of_field (hfields 1 (by decide)) _).trans
      (listOf?_array fun c _ => c.ofJson?_toJson)
  have hobject : s.toJson = .object (["table", "columns"].zip
    [.string s.table, .array (s.columns.map TableColumn.toJson)]) := rfl
  rw [ofJson?, hobject, hr]
  simp only [Option.bind_eq_bind, Option.bind_some, htable, hcolumns, Option.pure_def]

theorem isPlain_toJson (s : Schema) (d : Nat) : IsPlain (d + 4) s.toJson := by
  refine .object fun f hf => ?_
  simp only [List.mem_cons, List.not_mem_nil, or_false] at hf
  rcases hf with rfl | rfl
  · exact .string _
  · exact .array (List.forall_mem_map.mpr fun c _ => c.isPlain_toJson d)

/-- A schema with columns is loaded from a file that holds its text, and one without columns is
refused. -/
theorem ofFile_text (path : String) (s : Schema) :
    ofFile path (.ofBytes s.toJson.text.toUTF8) =
        (if s.columns = [] then .error (.invalid setting (.noColumns path)) else .ok s) ∧
      (SettingsError.invalid setting (.noColumns path)).message =
        "Invalid value for SCHEMA_PATH: " ++ ("schema catalog " ++ path ++ " declares no columns") := by
  have hread : read? s.toJson.text.toList = some s.toJson := by
    rw [text, String.toList_ofList]
    exact read?_write (s.isPlain_toJson 123)
  refine ⟨?_, rfl⟩
  rw [FileContent.ofBytes_toUTF8, ofFile]
  simp only [hread, Option.bind_some, ofJson?_toJson, List.isEmpty_iff]

end Schema

end QueryGate
