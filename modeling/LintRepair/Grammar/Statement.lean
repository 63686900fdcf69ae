/-
The productions for statements and modules, and the grammar as a whole.

* `statement`, `statements`: one statement, and a list of them;
* `imports`, `exports`: the two statements of modules;
* `derive`: the reader that ties all productions together;
* `accepts`: whether a text is a program.

A program is read with and without the comments that markup arrows open, and
with and without `await` as a name in functions that are not asynchronous;
one reading has to succeed. Nothing is asked about names: a name may be declared twice, and
`return`, `super`, `import` and `export` may stand anywhere.
-/
import LintRepair.Grammar.Definition

namespace LintRepair.Grammar.Statement

open Parse Expression

/-! ### Declarations -/

/-- Declarators between commas. A pattern needs a value. -/
def declarators (read : Reader) (s : Setting) : Parse Shape := do
  let plain ← atIdentifier
  discard (read s .binding)
  if ← mark? "=" then value read s .assignment
  else require plain
  if ← mark? "," then read s .declarators else return {}

/-- Whether a declaration by `let` comes next. -/
def atLet : Parse Bool := do
  if ← atWord "let" then
    match (← second).1 with
    | .word name _ => return name != "in" && name != "instanceof"
    | .mark m => return m == "[" || m == "\x7b"
    | _ => return false
  else return false

/-- A function declaration behind its keyword. -/
def functionDeclaration (read : Reader) (s : Setting) (async named : Bool) : Parse Unit := do
  let generator ← mark? "*"
  if named || (← atIdentifier) then discard identifier
  discard (read (s.within async generator) .functionRest)

/-- Whether an asynchronous function comes next. -/
def atAsyncFunction : Parse Bool := do
  if ← atWord "async" then
    let (next, newline) ← second
    return next == .word "function" false && !newline
  else return false

/-! ### Loops -/

/-- What a loop goes through: the values of a list, as an asynchronous loop
has to, or the keys of an object. -/
def passage (read : Reader) (s : Setting) (async : Bool) : Parse Unit := do
  if ← word? "of" then value read s.open .assignment
  else
    require !async
    word "in"
    value read s.open .expression

/-- Whether it follows what a loop goes through. -/
def atPassage : Parse Bool := return (← atWord "of") || (← atWord "in")

/-- The rest of the head of a counting loop behind its first part. -/
def counting (read : Reader) (s : Setting) : Parse Unit := do
  mark ";"
  unless ← atMark ";" do value read s.open .expression
  mark ";"
  unless ← atMark ")" do value read s.open .expression

/-- The head of a loop that declares names, up to the closing parenthesis. A
single name by `var` may have a value and go through keys all the same. -/
def declaringHead (read : Reader) (s : Setting) (async : Bool) : Parse Unit := do
  let closed := { s with inOperator := false }
  let isVar ← atWord "var"
  discard take
  let plain ← atIdentifier
  discard (read closed .binding)
  if ← atPassage then return ← passage read s async
  if ← mark? "=" then
    value read closed .assignment
    if isVar && plain && !async && (← atWord "in") then return ← passage read s async
  else require plain
  require !async
  if ← mark? "," then discard (read closed .declarators)
  counting read s

/-- The head of a loop behind its opening parenthesis, up to the closing one.
An asynchronous one goes through a list. -/
def loopHead (read : Reader) (s : Setting) (async : Bool) : Parse Unit := do
  if (← atWord "var") || (← atWord "const") || (← atLet) then
    declaringHead read s async
  else if async then
    let head ← read s.open .primary
    require (← read s.open (.accesses true head)).isTarget
    passage read s async
  else if ← atMark ";" then counting read s
  else
    let startsAsync ← atWord "async"
    let startsLet ← atWord "let"
    let head ← read { s with inOperator := false } .expression
    if head.isTarget && (← atPassage) then
      if (startsLet || (startsAsync && head.isName)) && (← atWord "of") then failure
      passage read s async
    else
      require head.isValue
      counting read s

/-! ### Modules -/

/-- A name of a module: a word or a string. -/
def moduleName : Parse Unit := do
  match ← take with
  | .word _ _ | .string => pure ()
  | _ => failure

/-- Whether an identifier, a word or a string comes next, as the name of what
a module gives. -/
def specifiedName : Parse Bool := do
  let named ← atIdentifier
  moduleName
  return named

/-- Items in braces between commas: whether all of them have a property;
`fuel` bounds their number. -/
def specifiers (item : Parse Bool) : Nat → Parse Bool
  | 0 => failure
  | fuel + 1 => do
    if ← mark? "\x7d" then return true
    let one ← item
    if ← mark? "\x7d" then return one
    mark ","
    return (← specifiers item fuel) && one

/-- Items in braces: whether all of them have a property. -/
def specifierList (item : Parse Bool) : Parse Bool := do
  mark "\x7b"
  specifiers item ((← get).start.length + 1)

/-- What is taken from a module, perhaps under another name: whether the name
that it gets is an identifier. -/
def importSpecifier : Parse Bool := do
  let named ← specifiedName
  if ← word? "as" then
    discard identifier
    return true
  return named

/-- What a module gives, perhaps under another name: whether its own name is
an identifier. -/
def exportSpecifier : Parse Bool := do
  let named ← specifiedName
  if ← word? "as" then moduleName
  return named

/-- The module that names come from. -/
def source : Parse Unit := do
  word "from"
  string

/-- An import behind its keyword. -/
def imports : Parse Unit := do
  if (← peek) == .string then
    discard take
    semicolon
    return
  let named : Parse Unit := do
    if ← mark? "*" then
      word "as"
      discard identifier
    else require (← specifierList importSpecifier)
  if ← atIdentifier then
    discard take
    if ← mark? "," then named
  else named
  source
  semicolon

/-- An export behind its keyword. -/
def exports (read : Reader) (s : Setting) : Parse Unit := do
  if ← mark? "*" then
    if ← word? "as" then moduleName
    source
    semicolon
  else if ← atMark "\x7b" then
    let named ← specifierList exportSpecifier
    if ← atWord "from" then source else require named
    semicolon
  else if ← word? "default" then
    if ← word? "function" then functionDeclaration read s false false
    else if ← atAsyncFunction then
      discard take
      discard take
      functionDeclaration read s true false
    else if ← word? "class" then discard (read s .classRest)
    else
      value read s .assignment
      semicolon
  else
    let isLet ← atLet
    let isAsync ← atAsyncFunction
    match ← peek with
    | .word name false =>
      require (isLet || isAsync || ["var", "const", "function", "class"].contains name)
      discard (read s (.statement false false))
    | _ => failure

/-! ### Statements -/

/-- Statements in braces. -/
def block (read : Reader) (s : Setting) : Parse Unit := do
  mark "\x7b"
  discard (read s .statements)
  mark "\x7d"

/-- An expression in parentheses. -/
def condition (read : Reader) (s : Setting) : Parse Unit := do
  mark "("
  value read s .expression
  mark ")"

/-- The body of a loop or of `with`. -/
def body (read : Reader) (s : Setting) : Parse Unit :=
  discard (read s (.statement true false))

/-- A statement that starts with a keyword; false if the word is none. -/
def keyword (read : Reader) (s : Setting) (alone labelled : Bool) (name : String) :
    Parse Bool := do
  match name with
  | "var" =>
    discard take
    discard (read s .declarators)
    semicolon
  | "const" =>
    require !alone
    discard take
    discard (read s .declarators)
    semicolon
  | "function" =>
    require (!alone || labelled)
    discard take
    if alone then require !(← atMark "*")
    functionDeclaration read s false true
  | "class" =>
    require !alone
    discard take
    require (← atIdentifier)
    discard (read s .classRest)
  | "if" =>
    discard take
    condition read s
    discard (read s (.statement true true))
    if ← word? "else" then discard (read s (.statement true true))
  | "for" =>
    discard take
    let async ← (if s.awaits then word? "await" else return false : Parse Bool)
    mark "("
    loopHead read s async
    mark ")"
    body read s
  | "while" =>
    discard take
    condition read s
    body read s
  | "do" =>
    discard take
    body read s
    word "while"
    condition read s
    discard (mark? ";")
  | "continue" | "break" =>
    discard take
    unless (← newline) do
      if ← atIdentifier then discard take
    semicolon
  | "return" =>
    discard take
    let ends ← (do
      let token ← peek
      return token == .mark ";" || token == .mark "\x7d" || token == .stop : Parse Bool)
    unless (← newline) || ends do value read s .expression
    semicolon
  | "throw" =>
    discard take
    require !(← newline)
    value read s .expression
    semicolon
  | "with" =>
    discard take
    condition read s
    body read s
  | "switch" =>
    discard take
    condition read s
    mark "\x7b"
    discard (read s .cases)
  | "try" =>
    discard take
    block read s
    let caught ← word? "catch"
    if caught then
      if ← mark? "(" then
        discard (read s .binding)
        mark ")"
      block read s
    if ← word? "finally" then block read s
    else require caught
  | "debugger" =>
    discard take
    semicolon
  | "import" =>
    let (next, _) ← second
    if next == .mark "(" || next == .mark "." then return false
    discard take
    imports
  | "export" =>
    discard take
    exports read s
  | _ => return false
  return true

/-- Whether a word may be a label. -/
def isLabel (s : Setting) (name : String) (escaped : Bool) : Bool :=
  isIdentifier name && (escaped ||
    !((name == "yield" && s.generator) || (name == "await" && s.awaits)))

/-- A statement. Declarations that only a list of statements holds are refused
where a statement stands alone. -/
def statement (read : Reader) (s : Setting) (alone labelled : Bool) : Parse Shape := do
  let s := s.open
  match ← peek with
  | .mark "\x7b" =>
    block read s
    return {}
  | .mark ";" =>
    discard take
    return {}
  | .word name escaped =>
    if !escaped then
      if ← keyword read s alone labelled name then return {}
      if !alone && (← atLet) then
        discard take
        discard (read s .declarators)
        semicolon
        return {}
      if ← atAsyncFunction then
        require !alone
        discard take
        discard take
        functionDeclaration read s true true
        return {}
    if isLabel s name escaped && (← second).1 == .mark ":" then
      discard take
      discard take
      return ← read s (.statement true true)
    expressionStatement
  | _ => expressionStatement
where
  /-- An expression as a statement. -/
  expressionStatement : Parse Shape := do
    value read s.open .expression
    semicolon
    return {}

/-- Statements up to a closing brace, a case, or the end of the text. -/
def statements (read : Reader) (s : Setting) : Parse Shape := do
  match ← peek with
  | .stop | .mark "\x7d" | .word "case" false | .word "default" false => return {}
  | _ =>
    discard (read s (.statement false false))
    read s .statements

/-- The cases of a switch up to its end. -/
def cases (read : Reader) (s : Setting) : Parse Shape := do
  if ← mark? "\x7d" then return {}
  if ← word? "case" then value read s .expression
  else word "default"
  mark ":"
  discard (read s .statements)
  read s .cases

end LintRepair.Grammar.Statement

namespace LintRepair.Grammar

/-! ### The grammar as a whole -/

/-- The production for a goal. -/
def production (read : Reader) (s : Setting) : Goal → Parse Shape
  | .assignment => Expression.assignment read s
  | .expression => Expression.expression read s
  | .operand strength => Expression.operand read s strength
  | .operators strength left => Expression.operators read s strength left
  | .unary => Expression.unary read s
  | .primary => Expression.primary read s
  | .accesses calls left => Expression.accesses read s calls left
  | .arguments sofar => Expression.arguments read s sofar
  | .parenthesised items sofar => Expression.parenthesised read s items sofar
  | .arrayItems sofar => Expression.arrayItems read s sofar
  | .objectItems sofar => Expression.objectItems read s sofar
  | .template => Expression.template read s
  | .binding => Definition.binding read s
  | .bindingItems => Definition.bindingItems read s
  | .bindingProperties => Definition.bindingProperties read s
  | .parameters => Definition.parameters read s
  | .functionRest => Definition.functionRest read s
  | .classRest => Definition.classRest read s
  | .members => Definition.members read s
  | .statement alone labelled => Statement.statement read s alone labelled
  | .statements => Statement.statements read s
  | .cases => Statement.cases read s
  | .declarators => Statement.declarators read s

/-- The reader that follows the productions to a depth. -/
def derive : Nat → Reader
  | 0 => fun _ _ => failure
  | depth + 1 => fun s g => production (derive depth) s g

/-- Whether a text is a program, with or without comments by markup arrows,
and with `await` as an operator in every function or in the asynchronous ones.
Between two goals that read no token lie fewer than sixteen others, which
bounds the depth. -/
def acceptsWith (arrows awaitsAnywhere : Bool) (t : Text) : Bool :=
  let program : Parse Unit := do
    discard (derive (16 * t.length + 64) { awaitsAnywhere } .statements)
    Parse.require ((← Parse.peek) == .stop)
  (program.run (Cursor.at arrows true t)).isSome

/-- The text without the line that names its interpreter. -/
def withoutInterpreter : Text → Text
  | '#' :: '!' :: rest => rest.dropWhile (! isLineEnd ·)
  | t => t

/-- Whether a text is a program. -/
def accepts (t : Text) : Bool :=
  let t := withoutInterpreter t
  [true, false].any fun awaitsAnywhere =>
    [false, true].any fun arrows => acceptsWith arrows awaitsAnywhere t

end LintRepair.Grammar
