/-
Numbers as they were written. Whoever reads such a number computes with its
value and writes it back as it was.

* `Whole`: a whole number, by digits or by a flag that counts as one or zero;
* `Quantity`: a number that may have a fraction.
-/
import LintRepair.Json.Display

namespace LintRepair.Json

/-- A whole number, or a flag that counts as one. -/
inductive Whole
  | number (n : Int)
  | flag (b : Bool)
  deriving DecidableEq, Repr

namespace Whole

/-- The number that is meant. -/
def value : Whole → Int
  | number n => n
  | flag b => if b then 1 else 0

/-- The number in a message. -/
def text : Whole → String
  | number n => intText n
  | flag b => flagText b

/-- The number that a JSON value is. -/
def ofJson? : Value → Option Whole
  | .int n => some (number n)
  | .bool b => some (flag b)
  | _ => none

/-- The number as JSON. -/
def toJson : Whole → Value
  | number n => .int n
  | flag b => .bool b

instance : OfNat Whole n := ⟨number n⟩

theorem ofJson?_toJson (w : Whole) : ofJson? w.toJson = some w := by
  cases w <;> rfl

end Whole

/-- A number that may have a fraction. -/
inductive Quantity
  | whole (w : Whole)
  | fraction (x : Float)

namespace Quantity

/-- The number as JSON. -/
def toJson : Quantity → Value
  | whole w => w.toJson
  | fraction x => .float x

/-- The number that a JSON value is. -/
def ofJson? : Value → Option Quantity
  | .float x => some (fraction x)
  | v => (Whole.ofJson? v).map whole

/-- Whether a number is at most a whole one. -/
def atMost (n : Int) : Quantity → Bool
  | whole w => w.value ≤ n
  | fraction x => x ≤ Float.ofInt n

/-- Whether a number is more than a whole one. -/
def exceeds (n : Int) : Quantity → Bool
  | whole w => n < w.value
  | fraction x => Float.ofInt n < x

/-- The number as a floating-point one; none if no finite one is near. -/
def toFloat? : Quantity → Option Float
  | whole w => Number.quotient? w.value 1
  | fraction x => some x

/-- The text of a number with one decimal place. -/
def tenths : Quantity → String
  | whole w => intText w.value ++ ".0"
  | fraction x => Number.floatText (Number.roundPlaces x 1)

/-- The number with a limited number of decimal places. -/
def rounded (places : Nat) : Quantity → Quantity
  | whole w => whole (.number w.value)
  | fraction x => fraction (Number.roundPlaces x places)

end Quantity

end LintRepair.Json
