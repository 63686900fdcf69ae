/-
Conditions on texts, numbers and files.

* `Condition.Operator`: what a word means in a condition;
* `Condition.holds`: whether a condition holds, or why it is none.

All files are of one age.

Few words are taken as an operator or an operand by how many there are; more
are read from the left.
-/
import LintRepair.Shell.Place
import LintRepair.Shell.Numeral

namespace LintRepair.Shell.Condition

/-- What two operands are asked. -/
inductive Comparison
  | textEqual | textUnequal | textBefore | textAfter
  | equal | unequal | atLeast | greater | atMost | less
  | newer | older | same
  deriving DecidableEq, Repr

/-- What a word means in a condition. -/
inductive Operator
  /-- A question about one operand, by its letter. -/
  | question (letter : Char)
  | comparison (c : Comparison)
  | both
  | either
  | not
  | opening
  | closing
  deriving DecidableEq, Repr

/-- The operator that a word is. -/
def operator? (w : Octets) : Option Operator :=
  match String.ofList w with
  | "=" => some (.comparison .textEqual)
  | "!=" => some (.comparison .textUnequal)
  | "<" => some (.comparison .textBefore)
  | ">" => some (.comparison .textAfter)
  | "-eq" => some (.comparison .equal)
  | "-ne" => some (.comparison .unequal)
  | "-ge" => some (.comparison .atLeast)
  | "-gt" => some (.comparison .greater)
  | "-le" => some (.comparison .atMost)
  | "-lt" => some (.comparison .less)
  | "-nt" => some (.comparison .newer)
  | "-ot" => some (.comparison .older)
  | "-ef" => some (.comparison .same)
  | "-a" => some .both
  | "-o" => some .either
  | "!" => some .not
  | "(" => some .opening
  | ")" => some .closing
  | _ =>
    match w with
    | ['-', c] => if "rwxefdcbpugkstznhLSOG".toList.contains c then some (.question c) else none
    | _ => none

/-- Whether an operator stands between two operands. -/
def Operator.isComparison : Operator → Bool
  | .comparison _ => true
  | _ => false

/-- Whether an operator stands before one operand. -/
def Operator.isQuestion : Operator → Bool
  | .question _ => true
  | _ => false

/-- The operator at the start of words, if it is one there. -/
def leading? : List Octets → Option Operator
  | [] => none
  | w :: rest =>
    let o? := operator? w
    let isOperand : Bool := match rest with
      | [] => true
      | [_] => false
      | next :: _ => (operator? next).any (·.isComparison)
    if o?.any (·.isQuestion) && isOperand then none
    else if o? = some .opening ∧ rest.isEmpty then none
    else o?

/-- The words of a condition that are left, behind the last one that was
taken. -/
structure State where
  last : Octets := []
  rest : List Octets

/-- A step through the words of a condition; a message refuses it. -/
abbrev Step := StateT State (Except Octets)

/-- Refuses a condition, for a word. -/
def refuse {α : Type} (word words : String) : Step α :=
  throw (if word.isEmpty then words.toList else word.toList ++ ": ".toList ++ words.toList)

/-- The whole number that a word is. -/
def number (w : Octets) : Step Int := do
  let n := Numeral.readDecimal w
  if n.found && n.fitsSigned && (n.rest.dropWhile Number.isPlainBlank).isEmpty then
    return n.signed
  else throw ("Illegal number: ".toList ++ w)

/-- The answer to a question about an operand. -/
def answer (p : Place) (letter : Char) (w : Octets) : Step Bool := do
  let isFile : Bool := (Place.streamNamed? w).isNone && p.holds w && !p.isDirectory w &&
    p.locate w != Location.nullDevice
  match letter with
  | 'z' => return w.isEmpty
  | 'n' => return !w.isEmpty
  | 'e' | 'r' | 'w' | 'O' | 'G' => return p.holds w
  | 'd' | 'x' => return p.isDirectory w
  | 'f' => return isFile
  | 's' => return p.isDirectory w || (isFile && ((p.read? w).getD []) != [])
  | 'c' => return p.locate w == Location.nullDevice
  | 'p' => return (Place.streamNamed? w).isSome && p.holds w
  | 't' => do
    let _ ← number w
    return false
  | _ => return false

/-- The answer to a comparison. -/
def compared (p : Place) (c : Comparison) (a b : Octets) : Step Bool := do
  let ofNumbers (holds : Int → Int → Bool) : Step Bool :=
    return holds (← number a) (← number b)
  match c with
  | .textEqual => return a == b
  | .textUnequal => return a != b
  | .textBefore => return String.ofList a < String.ofList b
  | .textAfter => return String.ofList b < String.ofList a
  | .equal => ofNumbers fun m n => m == n
  | .unequal => ofNumbers fun m n => m != n
  | .atLeast => ofNumbers fun m n => n ≤ m
  | .greater => ofNumbers fun m n => n < m
  | .atMost => ofNumbers fun m n => m ≤ n
  | .less => ofNumbers fun m n => m < n
  | .newer | .older => return false
  | .same => return p.holds a && p.holds b && p.locate a == p.locate b

/-- Takes the next word. -/
def take : Step (Option Octets) := do
  match (← get).rest with
  | [] => return none
  | w :: rest =>
    set ({ last := w, rest } : State)
    return some w

/-- The operator that comes next. -/
def next? : Step (Option Operator) := return leading? (← get).rest

mutual

/-- An operand, a question, a comparison or a condition in parentheses. -/
def primary (p : Place) : Nat → Step Bool
  | 0 => return false
  | n + 1 => do
    let o? ← next?
    match ← take with
    | none => return false
    | some w =>
      match o? with
      | some .opening =>
        if (← next?) = some .closing then
          let _ ← take
          return false
        let b ← disjunction p n
        if (← take).bind operator? ≠ some .closing then refuse "" "closing paren expected"
        return b
      | some (.question letter) =>
        match ← take with
        | some operand => answer p letter operand
        | none => refuse (String.ofList w) "argument expected"
      | _ =>
        match ← next? with
        | some (.comparison c) =>
          let sign? ← take
          match ← take with
          | some other => compared p c w other
          | none => refuse (String.ofList (sign?.getD [])) "argument expected"
        | _ => return !w.isEmpty

/-- A primary condition, perhaps with signs that negate it. -/
def negation (p : Place) : Nat → Step Bool
  | 0 => return false
  | n + 1 => do
    if (← next?) = some .not then
      let _ ← take
      return !(← negation p n)
    else primary p n

/-- A conjunction of conditions. -/
def conjunction (p : Place) : Nat → Step Bool
  | 0 => return false
  | n + 1 => do
    let a ← negation p n
    if (← next?) = some .both then
      let _ ← take
      let b ← conjunction p n
      return a && b
    else return a

/-- A disjunction of conditions. -/
def disjunction (p : Place) : Nat → Step Bool
  | 0 => return false
  | n + 1 => do
    let a ← conjunction p n
    if (← next?) = some .either then
      let _ ← take
      let b ← disjunction p n
      return a || b
    else return a

end

/-- A condition of three words of which the one in the middle compares the
others. -/
def comparison? (p : Place) : List Octets → Option (Except Octets Bool)
  | [a, o, b] =>
    match operator? o with
    | some (.comparison c) => some ((compared p c a b).run' { rest := [] })
    | _ => none
  | _ => none

/-- A condition read from the left. -/
def evaluate (p : Place) (ws : List Octets) : Except Octets Bool := do
  let (b, s) ← (disjunction p (4 * ws.length + 4)).run { rest := ws }
  if s.rest.isEmpty then return b
  else throw (s.last ++ (if s.last.isEmpty then [] else ": ".toList) ++
    "unexpected operator".toList)

/-- Whether the condition that words are holds, or does not hold. A second sign
that negates three or four words changes nothing. -/
def holdsFrom (negated : Bool) (p : Place) : List Octets → Except Octets Bool
  | [] => .ok false
  | w :: rest =>
    let isShort : Bool := rest.length == 2 || rest.length == 3
    if (comparison? p (w :: rest)).isNone && isShort && w == ['!'] then holdsFrom true p rest
    else
      let answer := match comparison? p (w :: rest) with
        | some answer => answer
        | none =>
          if isShort && w == ['('] && rest.getLast? == some [')'] then evaluate p rest.dropLast
          else evaluate p (w :: rest)
      answer.map (· != negated)

/-- Whether the condition that words are holds. -/
def holds (p : Place) (ws : List Octets) : Except Octets Bool := holdsFrom false p ws

end LintRepair.Shell.Condition
