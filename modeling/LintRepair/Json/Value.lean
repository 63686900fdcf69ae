/-
JSON values, and those of configuration files. The fields of an object keep the order in which they were first
written, and a field written again takes the later value.

* `Value`: a value, with whole numbers of any size apart from floating-point
  ones;
* `Fields.get?`, `Fields.put`, `Value.field?`: the fields of an object;
* `Value.kind`: the word for the kind of a value;
* `Value.isTrue`: whether it counts as true; `Value.present?`: a value that is there and not
  null.
-/
import LintRepair.Keyed

namespace LintRepair.Json

/-- What a point in time consists of. -/
inductive Moment
  | date
  | time
  | dateTime
  deriving DecidableEq, Repr

/-- A JSON value, or a point in time, which only configuration files hold. -/
inductive Value
  | null
  | bool (b : Bool)
  | int (n : Int)
  | float (x : Float)
  | string (s : String)
  | array (items : List Value)
  | object (fields : List (String × Value))
  | moment (form : Moment) (text : String)
  deriving Inhabited

/-- The fields of an object. -/
abbrev Fields := Keyed Value

/-- The value of a field. -/
def Fields.get? (fs : Fields) (key : String) : Option Value := fs.lookup key

/-- The fields with one of them written. -/
def Fields.put (key : String) (v : Value) (fs : Fields) : Fields := Keyed.put key v fs

theorem Fields.get?_put (key other : String) (v : Value) (fs : Fields) :
    Fields.get? (fs.put key v) other =
      if other = key then some v else Fields.get? fs other :=
  Keyed.lookup_put key other v fs

/-- The word for the kind of a value. -/
def Value.kind : Value → String
  | .null => "NoneType"
  | .bool _ => "bool"
  | .int _ => "int"
  | .float _ => "float"
  | .string _ => "str"
  | .array _ => "list"
  | .object _ => "dict"
  | .moment .date _ => "datetime.date"
  | .moment .time _ => "datetime.time"
  | .moment .dateTime _ => "datetime.datetime"

/-- The field of a value; none unless the value is an object that holds it. -/
def Value.field? (v : Value) (key : String) : Option Value :=
  match v with
  | .object fs => Fields.get? fs key
  | _ => none

/-- Whether a value counts as true: null, zero and what is empty do not. -/
def Value.isTrue : Value → Bool
  | .null => false
  | .bool b => b
  | .int n => n != 0
  | .float x => x != 0
  | .string s => !s.isEmpty
  | .array items => !items.isEmpty
  | .object fields => !fields.isEmpty
  | .moment _ _ => true

/-- A value that is present and not null. -/
def Value.present? : Option Value → Option Value
  | some .null => none
  | v => v

theorem Value.present?_ne_null (v? : Option Value) : present? v? ≠ some .null := by
  cases v? with
  | none => exact Option.some_ne_none _ |>.symm
  | some v => cases v <;> simp [present?]

theorem Value.present?_of_ne_null {v? : Option Value} (other : v? ≠ some .null) :
    present? v? = v? := by
  cases v? with
  | none => rfl
  | some v =>
    cases v with
    | null => exact absurd rfl other
    | _ => rfl

end LintRepair.Json
