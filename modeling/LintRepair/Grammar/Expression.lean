/-
The productions for expressions.

* `assignment`, `expression`: the two top levels;
* `operand`, `operators`: binary operators by strength;
* `unary`, `accesses`, `primary`: what the operators apply to;
* `arrayItems`, `objectItems`, `parenthesised`: the literals that may turn
  out to be patterns or parameters.

Each production takes the reader for its parts as an argument. A literal that
fits several roles is read once; its shape says which roles remain.
-/
import LintRepair.Grammar.Cursor

namespace LintRepair.Grammar.Expression

open Parse

/-- An expression that stands as a value. -/
def value (read : Reader) (s : Setting) (g : Goal) : Parse Unit := do
  require (← read s g).isValue

/-! ### Operators -/

/-- The strength of a binary operator; the operator `in` may be excluded. -/
def strength? (inOperator : Bool) : Token → Option Nat
  | .mark m =>
    if m == "??" || m == "||" then some 1
    else if m == "&&" then some 2
    else if m == "|" then some 3
    else if m == "^" then some 4
    else if m == "&" then some 5
    else if ["==", "!=", "===", "!=="].contains m then some 6
    else if ["<", ">", "<=", ">="].contains m then some 7
    else if ["<<", ">>", ">>>"].contains m then some 8
    else if m == "+" || m == "-" then some 9
    else if m == "*" || m == "/" || m == "%" then some 10
    else if m == "**" then some 11
    else none
  | .word "instanceof" false => some 7
  | .word "in" false => if inOperator then some 7 else none
  | _ => none

/-- Operators of at least a strength: one operand, and what follows it. A
private name is an operand of the operator `in` alone. -/
def operand (read : Reader) (s : Setting) (strength : Nat) : Parse Shape := do
  if (← peek) == .privateName then
    require (strength ≤ 7 && s.inOperator)
    discard take
    word "in"
    value read s (.operand 8)
    read s (.operators strength {})
  else
    let left ← read s .unary
    read s (.operators strength left)

/-- The operators behind a left operand. The power operator groups to the
right and takes no unary operator on its left. -/
def operators (read : Reader) (s : Setting) (strength : Nat) (left : Shape) :
    Parse Shape := do
  let op ← peek
  match strength? s.inOperator op with
  | none => return left
  | some k =>
    if k < strength then return left
    require left.isValue
    if k == 11 then require !left.isUnary
    discard take
    let right ← read s (.operand (if k == 11 then 11 else k + 1))
    require right.isValue
    read s (.operators strength {})

/-- The marks of the unary operators. -/
def unaryMarks : List String := ["+", "-", "~", "!"]

/-- Whether a word is a unary operator. -/
def isUnaryWord (s : Setting) (name : String) : Bool :=
  ["delete", "void", "typeof"].contains name || (name == "await" && s.awaits)

/-- A unary expression, or one with an update behind it on the same line. -/
def unary (read : Reader) (s : Setting) : Parse Shape := do
  let token ← peek
  let prefixed : Parse Shape := do
    discard take
    value read s .unary
    return { isUnary := true }
  match token with
  | .mark m =>
    if unaryMarks.contains m then return ← prefixed
    if m == "++" || m == "--" then
      discard take
      require (← read s .unary).isCounter
      return {}
  | .word name false =>
    if isUnaryWord s name then return ← prefixed
  | _ => pure ()
  postfixed
where
  /-- An expression, with an update behind it on the same line. -/
  postfixed : Parse Shape := do
    let head ← read s .primary
    let left ← read s (.accesses true head)
    if !(← newline) && ((← atMark "++") || (← atMark "--")) then
      require left.isCounter
      discard take
      return {}
    else return left

/-! ### Assignment -/

/-- The operators that change a target by its old value. -/
def compoundMarks : List String :=
  ["+=", "-=", "*=", "/=", "%=", "**=", "<<=", ">>=", ">>>=", "&=", "|=", "^=",
    "&&=", "||=", "??="]

/-- The body of an arrow function. -/
def arrowBody (read : Reader) (s : Setting) (async : Bool) : Parse Shape := do
  let inner := s.within async false
  mark "=>"
  if ← mark? "\x7b" then
    discard (read inner .statements)
    mark "\x7d"
  else
    value read { inner with inOperator := s.inOperator } .assignment
  return {}

/-- An expression of `yield`. -/
def yielded (read : Reader) (s : Setting) : Parse Shape := do
  discard take
  if ← newline then return {}
  if ← mark? "*" then
    value read s .assignment
    return {}
  let ends := match ← peek with
    | .stop => true
    | .mark m => [")", "]", "\x7d", ",", ";", ":"].contains m
    | .word "in" false => true
    | _ => false
  unless ends do value read s .assignment
  return {}

/-- An assignment expression: a conditional expression, an arrow function or
an assignment. -/
def assignment (read : Reader) (s : Setting) : Parse Shape := do
  if s.generator && (← atWord "yield") then return ← yielded read s
  let left ← read s (.operand 0)
  if left.isArrowHead && !(← newline) && (← atMark "=>") then
    return ← arrowBody read s left.isAsync
  if ← mark? "?" then
    require left.isValue
    value read s.open .assignment
    mark ":"
    value read s .assignment
    return {}
  match ← peek with
  | .mark "=" =>
    require left.isTarget
    discard take
    value read s .assignment
    return { isElement := true, isParameter := left.isBinding }
  | .mark m =>
    if compoundMarks.contains m then
      require left.isSimple
      discard take
      value read s .assignment
      return {}
    else return left
  | _ => return left

/-- Assignment expressions between commas. -/
def expression (read : Reader) (s : Setting) : Parse Shape := do
  let first ← read s .assignment
  if ← mark? "," then
    require first.isValue
    value read s .expression
    return {}
  else return first

/-! ### Accesses and calls -/

/-- The name behind a dot. -/
def memberName : Parse Unit := do
  match ← take with
  | .word _ _ | .privateName => pure ()
  | _ => failure

/-- A computed access behind its bracket. -/
def computed (read : Reader) (s : Setting) : Parse Unit := do
  value read s.open .expression
  mark "]"

/-- Accesses and calls behind an expression. -/
def accesses (read : Reader) (s : Setting) (calls : Bool) (left : Shape) :
    Parse Shape := do
  let member : Shape := { Shape.member with isChain := left.isChain }
  let result : Shape := { isChain := left.isChain }
  match ← peek with
  | .mark "." =>
    require left.isValue
    discard take
    memberName
    read s (.accesses calls member)
  | .mark "[" =>
    require left.isValue
    discard take
    computed read s
    read s (.accesses calls member)
  | .mark "?." =>
    require (left.isValue && calls)
    discard take
    match ← peek with
    | .mark "[" =>
      discard take
      computed read s
      read s (.accesses calls { Shape.member with isChain := true })
    | .mark "(" =>
      discard take
      value read s.open (.arguments { isParameter := true })
      read s (.accesses calls { isChain := true })
    | _ =>
      memberName
      read s (.accesses calls { Shape.member with isChain := true })
  | .mark "(" =>
    if !calls then return left
    require left.isValue
    discard take
    let args ← read s.open (.arguments { isParameter := true })
    if left.isAsync then
      read s (.accesses calls { args with isAsync := true })
    else
      require args.isValue
      read s (.accesses calls result)
  | .tick =>
    require left.isValue
    enterTemplate
    discard (read s.open .template)
    read s (.accesses calls result)
  | _ => return left

/-- Arguments up to the closing parenthesis: whether all of them are values,
and whether all of them could be parameters. -/
def arguments (read : Reader) (s : Setting) (sofar : Shape) : Parse Shape := do
  let complete : Shape :=
    { isValue := sofar.isValue, isArrowHead := sofar.isParameter }
  if ← mark? ")" then return complete
  let spread ← mark? "..."
  let arg ← read s .assignment
  let fits := if spread then arg.isBinding else arg.isParameter
  let next : Shape :=
    { isValue := sofar.isValue && arg.isValue, isParameter := sofar.isParameter && fits }
  if ← mark? "," then read s (.arguments next)
  else
    mark ")"
    return { isValue := next.isValue, isArrowHead := next.isParameter }

/-! ### Literals -/

/-- Template text behind a tick or an interpolation. -/
def template (read : Reader) (s : Setting) : Parse Shape := do
  let cur ← get
  match templateRest cur.start with
  | some (.closed, rest) =>
    resume rest
    return {}
  | some (.interpolation, rest) =>
    resume rest
    value read s.open .expression
    require (← atMark "\x7d")
    enterTemplate
    read s .template
  | none => failure

/-- The roles that a list of items keeps when one more is added. -/
def Shape.both (a b : Shape) : Shape :=
  { isValue := a.isValue && b.isValue
    isTarget := a.isTarget && b.isElement
    isBinding := a.isBinding && b.isParameter }

/-- The roles of a complete literal. -/
def Shape.complete (a : Shape) : Shape :=
  { a with isElement := a.isTarget, isParameter := a.isBinding }

/-- The items of an array literal up to its end. -/
def arrayItems (read : Reader) (s : Setting) (sofar : Shape) : Parse Shape := do
  if ← mark? "]" then return Shape.complete sofar
  if ← mark? "," then return ← read s (.arrayItems sofar)
  let next ← (if ← mark? "..." then do
      let item ← read s .assignment
      return Shape.both sofar
        { isValue := item.isValue, isElement := item.isTarget, isParameter := item.isBinding }
    else return Shape.both sofar (← read s .assignment) : Parse Shape)
  if ← mark? "]" then return Shape.complete next
  mark ","
  read s (.arrayItems next)

/-- How a property is named. -/
inductive Key
  | name (text : String) (escaped : Bool)
  | other
  deriving DecidableEq

/-- The name of a property. -/
def propertyKey (read : Reader) (s : Setting) (privates : Bool) : Parse Key := do
  match ← take with
  | .word name escaped => return .name name escaped
  | .string | .number => return .other
  | .privateName =>
    require privates
    return .other
  | .mark "[" =>
    value read s.open .assignment
    mark "]"
    return .other
  | _ => failure

/-- Whether the token behind the next one is none of some marks: the next word
then modifies the property behind it. -/
def modifies (marks : List String) : Parse Bool := do
  match (← second).1 with
  | .mark m => return !marks.contains m
  | .stop | .bad => return false
  | _ => return true

/-- A method from its parameters on. -/
def method (read : Reader) (s : Setting) (async generator : Bool) : Parse Unit := do
  discard (read (s.within async generator) .functionRest)

/-- One property of an object literal: its roles. -/
def property (read : Reader) (s : Setting) : Parse Shape := do
  let ends := ["(", ",", "\x7d", ":", "="]
  let only : Shape := { isValue := true }
  if ← mark? "..." then
    let item ← read s .assignment
    return { isValue := item.isValue, isElement := item.isSimple, isParameter := item.isName }
  if ← mark? "*" then
    discard (propertyKey read s false)
    method read s false true
    return only
  if (← atWord "async") && (← modifies ends) && !(← second).2 then
    discard take
    let generator ← mark? "*"
    discard (propertyKey read s false)
    method read s true generator
    return only
  if ((← atWord "get") || (← atWord "set")) && (← modifies ends) then
    discard take
    discard (propertyKey read s false)
    method read s false false
    return only
  let key ← propertyKey read s false
  if ← mark? ":" then
    let item ← read s .assignment
    return { isValue := item.isValue, isElement := item.isElement
             isParameter := item.isParameter }
  if ← atMark "(" then
    method read s false false
    return only
  match key with
  | .name name _ =>
    require (isIdentifier name)
    if ← mark? "=" then
      value read s .assignment
      return { isValue := false, isElement := true, isParameter := true }
    return { isElement := true, isParameter := true }
  | .other => failure

/-- The properties of an object literal up to its end. -/
def objectItems (read : Reader) (s : Setting) (sofar : Shape) : Parse Shape := do
  if ← mark? "\x7d" then return Shape.complete sofar
  let next := Shape.both sofar (← property read s)
  if ← mark? "\x7d" then return Shape.complete next
  mark ","
  read s (.objectItems next)

/-- The items in parentheses up to the closing one: an expression, or the
parameters of an arrow function. A name, a member or a pattern in parentheses
may still be assigned. -/
def parenthesised (read : Reader) (s : Setting) (items : Nat) (sofar : Shape) :
    Parse Shape := do
  if ← mark? ")" then return { isValue := false, isArrowHead := sofar.isParameter }
  if ← mark? "..." then
    discard (read s .binding)
    mark ")"
    return { isValue := false, isArrowHead := sofar.isParameter }
  let item ← read s .assignment
  let next : Shape :=
    { isValue := sofar.isValue && item.isValue
      isParameter := sofar.isParameter && item.isParameter }
  if ← mark? "," then return ← read s (.parenthesised (items + 1) next)
  mark ")"
  let simple := items == 0 && item.isSimple
  return { isValue := next.isValue, isArrowHead := next.isParameter
           isSimple := simple, isChain := items == 0 && item.isChain
           isTarget := items == 0 && item.isValue && item.isTarget
           isElement := simple }

/-! ### Primary expressions -/

/-- A function expression behind its keyword. -/
def functionExpression (read : Reader) (s : Setting) (async : Bool) : Parse Shape := do
  let generator ← mark? "*"
  if ← atIdentifier then discard take
  discard (read (s.within async generator) .functionRest)
  return {}

/-- A construction behind `new`: a constructor without calls, and arguments
if they follow. -/
def construction (read : Reader) (s : Setting) : Parse Shape := do
  if ← mark? "." then
    word "target"
    return {}
  if ← atWord "import" then require ((← second).1 == .mark ".")
  let head ← read s .primary
  require (← read s (.accesses false head)).isValue
  if ← mark? "(" then value read s.open (.arguments { isParameter := true })
  return {}

/-- A primary expression that starts with a word. -/
def worded (read : Reader) (s : Setting) (name : String) (escaped : Bool) :
    Parse Shape := do
  discard take
  if !escaped then
    if name == "function" then return ← functionExpression read s false
    if name == "class" then
      discard (read s .classRest)
      return {}
    if name == "new" then return ← construction read s
    if ["this", "null", "true", "false"].contains name then return {}
    if name == "super" then
      let next ← peek
      require (next == .mark "(" || next == .mark "." || next == .mark "[")
      return {}
    if name == "import" then
      if ← mark? "." then
        discard anyWord
        return {}
      mark "("
      value read s.open .assignment
      if ← mark? "," then
        unless ← atMark ")" do
          value read s.open .assignment
          discard (mark? ",")
      mark ")"
      return {}
    if name == "async" && !(← newline) then
      if ← word? "function" then return ← functionExpression read s true
      if ← atIdentifier then
        let (next, newline) ← second
        if next == .mark "=>" && !newline then
          discard take
          return { isValue := false, isArrowHead := true, isAsync := true }
      if ← atMark "(" then
        return { Shape.name with isAsync := true }
  require (isIdentifier name)
  return .name

/-- A primary expression. -/
def primary (read : Reader) (s : Setting) : Parse Shape := do
  match ← peek with
  | .word name escaped => worded read s name escaped
  | .number | .string =>
    discard take
    return {}
  | .tick =>
    enterTemplate
    read s .template
  | .mark "(" =>
    discard take
    read s.open (.parenthesised 0 { isParameter := true })
  | .mark "[" =>
    discard take
    read s.open (.arrayItems { isTarget := true, isBinding := true })
  | .mark "\x7b" =>
    discard take
    read s.open (.objectItems { isTarget := true, isBinding := true })
  | .mark "/" | .mark "/=" =>
    match regexRest (← get).start with
    | some rest =>
      resume rest
      return {}
    | none => failure
  | _ => failure

end LintRepair.Grammar.Expression
