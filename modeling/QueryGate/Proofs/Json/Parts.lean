import Mathlib.Algebra.Group.Nat.Defs
import Mathlib.Data.List.Basic
import QueryGate.Json.Value

/-!
# Parts of values

What the readers for one kind of value find, and in which values.
-/

namespace QueryGate.Json

variable {v w : Json} {fields : List (String × Json)} {items : List Json} {key s : String} {n : Nat}

theorem fields?_eq_some_iff : v.fields? = some fields ↔ v = .object fields := by
  cases v <;> simp [fields?]

theorem fields?_eq_none_iff : v.fields? = none ↔ ∀ fields, v ≠ .object fields := by
  simp [Option.eq_none_iff_forall_ne_some, fields?_eq_some_iff]

theorem items?_eq_some_iff : v.items? = some items ↔ v = .array items := by
  cases v <;> simp [items?]

theorem string?_eq_some_iff : v.string? = some s ↔ v = .string s := by
  cases v <;> simp [string?]

theorem stringOrNull_eq (o : Option String) : stringOrNull o = o.elim null string := by
  cases o <;> rfl

theorem nat?_nat (hn : n < 2 ^ 64) : (nat n).nat? = some n :=
  if_pos hn

theorem nat?_eq_some_iff : v.nat? = some n ↔ v = .nat n ∧ n < 2 ^ 64 := by
  refine ⟨fun h => ?_, fun ⟨hv, hn⟩ => hv ▸ nat?_nat hn⟩
  match v, h with
  | .number (.int (.ofNat m)), h =>
    have hm : (if m < 2 ^ 64 then some m else none) = some n := h
    obtain ⟨hlt, rfl⟩ : m < 2 ^ 64 ∧ m = n := by simpa using hm
    exact ⟨rfl, hlt⟩

theorem field?_eq_some_iff :
    v.field? key = some w ↔ ∃ fields, v = .object fields ∧ fields.lookup key = some w := by
  simp [field?, Option.bind_eq_some_iff, fields?_eq_some_iff]

@[simp] theorem field?_object (fields : List (String × Json)) (key : String) :
    (object fields).field? key = fields.lookup key :=
  rfl

end QueryGate.Json
