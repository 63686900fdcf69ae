/-
The place that the grammar has reached in a text, and the steps from there.

* `Cursor`: the next token, where it starts and what is behind it;
* `Parse`: a step that reads tokens or fails;
* `take`, `mark`, `keyword`: reading one token;
* `semicolon`: the end of a statement, written or inserted.
-/
import LintRepair.Grammar.Token

namespace LintRepair.Grammar

/-- The next token of a text. -/
structure Cursor where
  /-- Whether the markup arrows open comments. -/
  arrows : Bool
  /-- The text from the token on. -/
  start : Text
  token : Token
  /-- The text behind the token. -/
  behind : Text
  /-- Whether a line ended before the token. -/
  newline : Bool

/-- The cursor at the first token of a text. -/
def Cursor.at (arrows newline : Bool) (t : Text) : Cursor :=
  match skipTrivia arrows newline t with
  | some (newline, t) =>
    let (token, behind) := Token.scan t
    ⟨arrows, t, token, behind, newline⟩
  | none => ⟨arrows, [], .bad, [], newline⟩

/-- A step that reads tokens, or fails. -/
abbrev Parse (α : Type) := StateT Cursor Option α

namespace Parse

/-- The next token. -/
def peek : Parse Token := return (← get).token

/-- Whether a line ended before the next token. -/
def newline : Parse Bool := return (← get).newline

/-- Goes on behind a part of the text. -/
def resume (rest : Text) : Parse Unit :=
  modify fun cur => Cursor.at cur.arrows false rest

/-- Goes on with the template text directly behind the next token, where white
space counts. -/
def enterTemplate : Parse Unit :=
  modify fun cur => { cur with start := cur.behind }

/-- Reads the next token, whatever it is. -/
def take : Parse Token := do
  let cur ← get
  resume cur.behind
  return cur.token

/-- The token behind the next one, and whether a line ended before it. -/
def second : Parse (Token × Bool) := do
  let cur ← get
  let next := Cursor.at cur.arrows false cur.behind
  return (next.token, next.newline)

/-- Fails unless a condition holds. -/
def require (b : Bool) : Parse Unit := if b then pure () else failure

/-- Reads a mark if it comes next. -/
def mark? (s : String) : Parse Bool := do
  if (← peek) == .mark s then
    discard take
    return true
  else return false

/-- Reads a mark. -/
def mark (s : String) : Parse Unit := do require (← mark? s)

/-- Whether a mark comes next. -/
def atMark (s : String) : Parse Bool := return (← peek) == .mark s

/-- Whether a word without escapes comes next. -/
def atWord (w : String) : Parse Bool := return (← peek) == .word w false

/-- Reads a word without escapes if it comes next. -/
def word? (w : String) : Parse Bool := do
  if ← atWord w then
    discard take
    return true
  else return false

/-- Reads a word without escapes. -/
def word (w : String) : Parse Unit := do require (← word? w)

/-- Reads any word and gives its name. -/
def anyWord : Parse String := do
  match ← take with
  | .word name _ => return name
  | _ => failure

/-- Reads a string literal. -/
def string : Parse Unit := do require ((← take) == .string)

/-- The end of a statement: a semicolon, or a place where one is inserted,
which is before a closing brace, at the end of the text, and after the end of
a line. -/
def semicolon : Parse Unit := do
  if ← mark? ";" then return
  let cur ← get
  require (cur.newline || cur.token == .stop || cur.token == .mark "\x7d")

end Parse

/-- What the functions around a place make of it. -/
structure Setting where
  /-- Whether the operator `in` may stand here outside brackets. -/
  inOperator : Bool := true
  /-- Whether the innermost function around the place is a generator. -/
  generator : Bool := false
  /-- Whether `await` is an operator here, rather than a name. -/
  awaits : Bool := true
  /-- Whether `await` is an operator in every function, rather than in the
  asynchronous ones alone. -/
  awaitsAnywhere : Bool := true
  deriving DecidableEq

/-- The setting with the operator `in` admitted. -/
def Setting.open (s : Setting) : Setting := { s with inOperator := true }

/-- The setting of the body and the parameters of a function. -/
def Setting.within (s : Setting) (async generator : Bool) : Setting :=
  { s with inOperator := true, generator, awaits := async || s.awaitsAnywhere }

namespace Parse

/-- Reads an identifier. -/
def identifier : Parse String := do
  let name ← anyWord
  require (isIdentifier name)
  return name

/-- Whether an identifier comes next. -/
def atIdentifier : Parse Bool := do
  match ← peek with
  | .word name _ => return isIdentifier name
  | _ => return false

end Parse

/-! ### What has been read -/

/-- The roles that an expression may play, depending on what follows it. -/
structure Shape where
  /-- Stands as an expression. -/
  isValue : Bool := true
  /-- A name or a member: may be changed by a compound assignment. -/
  isSimple : Bool := false
  /-- Holds an optional access, with which it may be counted up or down. -/
  isChain : Bool := false
  /-- May stand to the left of an assignment: simple, or a pattern. -/
  isTarget : Bool := false
  /-- May stand in an assignment pattern: a target, perhaps with a default. -/
  isElement : Bool := false
  /-- A name or a pattern of names. -/
  isBinding : Bool := false
  /-- May stand among parameters: a binding, perhaps with a default. -/
  isParameter : Bool := false
  /-- A plain name. -/
  isName : Bool := false
  /-- An arrow may follow: a name, or parameters in parentheses. -/
  isArrowHead : Bool := false
  /-- The word `async` stands before what an arrow may follow. -/
  isAsync : Bool := false
  /-- A unary operator was applied last. -/
  isUnary : Bool := false
  deriving DecidableEq

/-- Whether an expression may be counted up or down. -/
def Shape.isCounter (a : Shape) : Bool := a.isSimple || a.isChain

/-- A plain name. -/
def Shape.name : Shape :=
  { isSimple := true, isTarget := true, isElement := true, isBinding := true
    isParameter := true, isName := true, isArrowHead := true }

/-- A member of a value. -/
def Shape.member : Shape := { isSimple := true, isTarget := true, isElement := true }

/-- What the grammar may ask for at a place. -/
inductive Goal
  /-- An assignment expression. -/
  | assignment
  /-- Expressions between commas. -/
  | expression
  /-- Operators of at least a strength, with their operands. -/
  | operand (strength : Nat)
  /-- More operators of at least a strength behind a left operand. -/
  | operators (strength : Nat) (left : Shape)
  /-- A unary expression. -/
  | unary
  /-- A primary expression, or a construction by `new`. -/
  | primary
  /-- Accesses and calls behind an expression; `calls` where calls are
  admitted. -/
  | accesses (calls : Bool) (left : Shape)
  /-- Arguments up to the closing parenthesis, with the roles that those
  before it leave. -/
  | arguments (sofar : Shape)
  /-- The items in parentheses up to the closing one. -/
  | parenthesised (items : Nat) (sofar : Shape)
  /-- The items of an array literal up to its end. -/
  | arrayItems (sofar : Shape)
  /-- The properties of an object literal up to its end. -/
  | objectItems (sofar : Shape)
  /-- Template text behind a tick or an interpolation. -/
  | template
  /-- A name or pattern that is bound. -/
  | binding
  /-- The items of an array pattern up to its end. -/
  | bindingItems
  /-- The properties of an object pattern up to its end. -/
  | bindingProperties
  /-- Parameters up to the closing parenthesis. -/
  | parameters
  /-- A function from its parameters on. -/
  | functionRest
  /-- A class from its name on. -/
  | classRest
  /-- The members of a class up to its end. -/
  | members
  /-- A statement; `alone` as the body of a loop, `labelled` behind a label or
  a condition. -/
  | statement (alone labelled : Bool)
  /-- Statements up to a closing brace, a case, or the end of the text. -/
  | statements
  /-- The cases of a switch up to its end. -/
  | cases
  /-- Declarators between commas. -/
  | declarators

/-- How the grammar reads a goal in a setting. -/
abbrev Reader := Setting → Goal → Parse Shape

end LintRepair.Grammar
