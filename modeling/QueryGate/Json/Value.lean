import QueryGate.Decimal.Reader

/-!
# JSON values

Values of the data format JSON. An object keeps its fields in the order of the text; a number is
an integer of 64 bits or a finite word of `binary64`.
-/

namespace QueryGate

/-- A number : an integer between `-2 ^ 63` and `2 ^ 64 - 1`, or a finite `binary64` word. -/
inductive Number where
  /-- A number written without fraction and exponent. -/
  | int (value : Int)
  /-- Any other number. -/
  | float (bits : Nat)
  deriving DecidableEq, Repr

/-- A JSON value. -/
inductive Json where
  | null
  | bool (value : Bool)
  | number (value : Number)
  | string (value : String)
  | array (items : List Json)
  | object (fields : List (String × Json))
  deriving Repr

namespace Number

/-- The nearest `binary64` word. -/
def toBits : Number → Nat
  | int (.ofNat n) => Decimal.binary64.roundRatio n 1
  | int (.negSucc n) => Decimal.binary64.withSign true (Decimal.binary64.roundRatio (n + 1) 1)
  | float bits => bits

/-- The value of a number that is a natural one, as an integer of 64 bits. -/
def toNat? : Number → Option Nat
  | int (.ofNat n) => if n < Nat.pow 2 64 then some n else none
  | _ => none

end Number

namespace Json

/-- A number without fraction. -/
def nat (n : Nat) : Json := number (.int n)

/-- A string, or null where there is none. -/
def stringOrNull : Option String → Json
  | some s => string s
  | none => null

/-- The fields of an object. -/
def fields? : Json → Option (List (String × Json))
  | object fields => some fields
  | _ => none

/-- The items of an array. -/
def items? : Json → Option (List Json)
  | array items => some items
  | _ => none

/-- The text of a string. -/
def string? : Json → Option String
  | string s => some s
  | _ => none

/-- The value of a natural number. -/
def nat? : Json → Option Nat
  | number n => n.toNat?
  | _ => none

/-- The value of a number, as a word of `binary64`. -/
def word? : Json → Option Nat
  | number n => some n.toBits
  | _ => none

/-- The value of a field of an object. -/
def field? (key : String) (v : Json) : Option Json :=
  v.fields?.bind fun fields => fields.lookup key

/-- Sets a field : in place if the key is there, at the end if it is new. -/
def setField (key : String) (value : Json) : List (String × Json) → List (String × Json)
  | [] => [(key, value)]
  | (k, v) :: rest => if k == key then (k, value) :: rest else (k, v) :: setField key value rest

mutual

/-- The value a text stands for : of fields with one key the last one counts, at the place of
the first. -/
def settle : Json → Json
  | array items => array (settleItems items)
  | object fields => object ((settleFields fields).foldl (fun acc f => setField f.1 f.2 acc) [])
  | v => v

/-- `settle` on every item. -/
def settleItems : List Json → List Json
  | [] => []
  | v :: rest => settle v :: settleItems rest

/-- `settle` on the value of every field. -/
def settleFields : List (String × Json) → List (String × Json)
  | [] => []
  | (k, v) :: rest => (k, settle v) :: settleFields rest

end

end Json

end QueryGate
