import Mathlib.Data.List.Nodup
import QueryGate.Json.Record
import QueryGate.Proofs.Json.Parts

/-!
# Records that are written and read

An object that has values for the first of some names is a record with these values
(`Record.exists_ofJson?_zip`). Fields that may be null are read back, and so are arrays whose items
are.
-/

namespace QueryGate

namespace Record

variable {α : Type} {names : List String} {key : String} {r : Record} {i : Nat} {v : Json}
  {read : Json → Option α} {write : α → Json} {o : Option α}

theorem valuesOf_zip_of_not_mem (h : key ∉ names) (values : List Json) :
    valuesOf key (names.zip values) = [] := by
  rw [valuesOf, List.map_eq_nil_iff, List.filter_eq_nil_iff]
  rintro ⟨name, value⟩ hmem hname
  obtain rfl := beq_iff_eq.mp hname
  exact h (List.of_mem_zip hmem).1

/-- Among different names each one has the value at its place. -/
theorem valuesOf_zip (hnames : names.Nodup) (values : List Json) (h : names[i]? = some key) :
    valuesOf key (names.zip values) = values[i]?.toList := by
  induction names generalizing i values with
  | nil => simp at h
  | cons name names ih =>
    obtain ⟨hfirst, hnames⟩ := List.nodup_cons.mp hnames
    cases values with
    | nil => rfl
    | cons value values =>
      have hcons : valuesOf key ((name :: names).zip (value :: values)) =
          (if name == key then [value] else []) ++ valuesOf key (names.zip values) := by
        rw [List.zip_cons_cons, valuesOf, List.filter_cons]
        split <;> rfl
      rw [hcons]
      cases i with
      | zero =>
        obtain rfl : name = key := by simpa using h
        simp [valuesOf_zip_of_not_mem hfirst]
      | succ i =>
        have hkey : names[i]? = some key := by simpa using h
        have hne : name ≠ key := fun heq => hfirst (heq ▸ List.mem_of_getElem? hkey)
        simp [hne, ih hnames values hkey]

/-- An object with values for the first of the names is a record of these values. -/
theorem exists_ofJson?_zip (hnames : names.Nodup) (values : List Json) :
    ∃ r, Record.ofJson? names (.object (names.zip values)) = some r ∧
      ∀ i < names.length, r.fields[i]?.join = values[i]? := by
  have hsingle : ∀ n ∈ names, (valuesOf n (names.zip values)).length ≤ 1 := fun n hn => by
    obtain ⟨i, hi⟩ := List.mem_iff_getElem?.mp hn
    rw [valuesOf_zip hnames values hi]
    cases values[i]? <;> simp
  have hnone : names.any (fun n => 1 < (valuesOf n (names.zip values)).length) = false := by
    simpa using hsingle
  refine ⟨_, by rw [Record.ofJson?, hnone]; rfl, fun i hi => ?_⟩
  have hvalue := valuesOf_zip hnames values (List.getElem?_eq_getElem hi)
  rw [List.getElem?_map, List.getElem?_eq_getElem hi, Option.map_some, Option.join_some, hvalue]
  cases values[i]? <;> rfl

theorem required?_of_field (h : r.fields[i]?.join = some v) (read : Json → Option α) :
    r.required? i read = read v := by
  rw [required?, h, Option.bind_some]

/-- What is written as null where there is nothing is read back. -/
theorem optional?_of_field (h : r.fields[i]?.join = some (o.elim .null write))
    (hread : ∀ a ∈ o, write a ≠ .null ∧ read (write a) = some a) : r.optional? i read = some o := by
  cases o with
  | none => rw [optional?, h]; rfl
  | some a =>
    obtain ⟨hne, ha⟩ := hread a rfl
    rw [optional?, h]
    split
    · contradiction
    · exact absurd (Option.some.inj ‹_›) hne
    · obtain rfl := Option.some.inj ‹_›
      rw [Option.elim_some, ha, Option.map_some]

theorem optional?_stringOrNull {o : Option String}
    (h : r.fields[i]?.join = some (.stringOrNull o)) : r.optional? i Json.string? = some o :=
  optional?_of_field (h.trans (congrArg some (Json.stringOrNull_eq o))) fun _ _ => ⟨nofun, rfl⟩

/-- What is left out where there is nothing is read back. -/
theorem defaulted?_of_field (h : r.fields[i]?.join = o.map write)
    (hread : ∀ a ∈ o, write a ≠ .null ∧ read (write a) = some a) :
    r.defaulted? i read = some o := by
  cases o with
  | none => rw [defaulted?, h]; rfl
  | some a =>
    obtain ⟨hne, ha⟩ := hread a rfl
    rw [defaulted?, h, Option.map_some]
    split
    · contradiction
    · exact absurd (Option.some.inj ‹_›) hne
    · obtain rfl := Option.some.inj ‹_›
      rw [ha, Option.map_some]

end Record

namespace Json

variable {α : Type} {read : Json → Option α} {write : α → Json} {as : List α}

/-- An array is read back if its items are. -/
theorem listOf?_array (h : ∀ a ∈ as, read (write a) = some a) :
    listOf? read (array (as.map write)) = some as := by
  rw [listOf?, items?, Option.bind_some]
  induction as with
  | nil => rfl
  | cons a as ih =>
    rw [List.forall_mem_cons] at h
    rw [List.map_cons, List.mapM_cons, h.1, ih h.2]
    rfl

end Json

end QueryGate
