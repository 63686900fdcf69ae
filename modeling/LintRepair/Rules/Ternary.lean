/-
The rule `no-ternary`.

* `Conditional`, `splitConditional?`: the three parts of a conditional
  expression;
* `Role`, `role`: what the conditional on a line is used for;
* `noTernary`: writes it as an `if` with two branches.
-/
import LintRepair.Code.Declaration
import LintRepair.Rules.Operator
import LintRepair.Rules.Whitespace

namespace LintRepair.Rules.Ternary

open Text Lexical Code Repair Check
open Operator (identifierLength targetLength)
open Whitespace (indentUnit)

/-! ### Conditional expressions -/

/-- The parts of a conditional expression. -/
structure Conditional where
  test : Text
  consequent : Text
  alternate : Text
  deriving DecidableEq, Repr

/-- The offsets of the question mark of a conditional and of its colon, outside
brackets. A question mark that is part of another operator does not count;
`question` is the one found so far, and `nested` conditionals stand behind
it. -/
def marksFrom (prev : Option Char) (offset : Nat) (depth : Int) (question : Option Nat)
    (nested : Nat) : Text → Option (Nat × Nat)
  | [] => none
  | c :: rest =>
    if isOpener c then marksFrom (some c) (offset + 1) (depth + 1) question nested rest
    else if isCloser c then
      marksFrom (some c) (offset + 1) (depth - 1) question nested rest
    else if depth != 0 then marksFrom (some c) (offset + 1) depth question nested rest
    else if c == '?' then
      if startsIn (fun n => n == '?' || n == '.') rest || prev == some '?' then
        marksFrom (some c) (offset + 1) depth question nested rest
      else match question with
        | none => marksFrom (some c) (offset + 1) depth (some offset) nested rest
        | some _ => marksFrom (some c) (offset + 1) depth question (nested + 1) rest
    else if c == ':' then
      match question, nested with
      | none, _ => marksFrom (some c) (offset + 1) depth question nested rest
      | some q, 0 => some (q, offset)
      | some _, n + 1 => marksFrom (some c) (offset + 1) depth question n rest
    else marksFrom (some c) (offset + 1) depth question nested rest

/-- The parts of a conditional expression at its question mark and the colon
that belongs to it. -/
def splitConditional? (t : Text) : Option Conditional :=
  (marksFrom none 0 0 none 0 (mask t)).map fun (q, k) =>
    ⟨trim (t.take q), trim (slice t (q + 1) k), trim (t.drop (k + 1))⟩

/-- Whether a text holds as many closing as opening brackets of each pair. -/
def isBalanced (t : Text) : Bool :=
  [('(', ')'), ('[', ']'), ('{', '}')].all fun (o, c) => codeCount o t == codeCount c t

/-! ### What the conditional is used for -/

/-- What a conditional expression is used for. -/
inductive Role
  /-- It is the body of an arrow function behind a head. -/
  | arrowBody (head : Text)
  /-- It is the value of a declared name. -/
  | initializer (keyword name : Text)
  | returned
  /-- It is assigned to a target. -/
  | assigned (target : Text)
  | statement
  deriving DecidableEq, Repr

/-- The offset of the first arrow outside brackets. -/
def arrow? (depth : Int) : Text → Option Nat
  | [] => none
  | t@(c :: rest) =>
    if isOpener c then (arrow? (depth + 1) rest).map (· + 1)
    else if isCloser c then (arrow? (depth - 1) rest).map (· + 1)
    else if depth == 0 && startsWith t ['=', '>'] then some 0
    else (arrow? depth rest).map (· + 1)

/-- The keyword and the name of a declaration, and the length of what stands
before its value. -/
def declared? (t : Text) : Option (Text × Text × Nat) :=
  ["const".toList, "let".toList, "var".toList].findSome? fun w =>
    let rest := t.drop w.length
    if startsWith t w && startsIn isBlank rest then
      let rest := trimLeft rest
      let n := identifierLength rest
      match trimLeft (rest.drop n) with
      | '=' :: behind =>
        if n = 0 then none else some (w, rest.take n, t.length - (trimLeft behind).length)
      | _ => none
    else none

/-- The length of `return` and the blanks behind it. -/
def returned? (t : Text) : Option Nat :=
  let rest := t.drop 6
  if startsWith t "return".toList && startsIn isBlank rest then
    some (t.length - (trimLeft rest).length)
  else none

/-- The target of an assignment without blanks, and the length of what stands
before its value. -/
def assigned? (t : Text) : Option (Text × Nat) :=
  let n := targetLength t
  match trimLeft (t.drop n) with
  | '=' :: behind =>
    if n = 0 || startsIn (fun c => c == '=' || c == '>') behind then none
    else some (without isBlank (t.take n), t.length - (trimLeft behind).length)
  | _ => none

/-- What the conditional in a statement is used for, and the expression that
holds it. -/
def role? (statement : Text) : Option (Role × Text) :=
  let masked := mask statement
  match arrow? 0 masked with
  | some i => some (.arrowBody (statement.take (i + 2)), statement.drop (i + 2))
  | none =>
    match declared? masked with
    | some (keyword, name, n) => some (.initializer keyword name, statement.drop n)
    | none =>
      match returned? masked with
      | some n => some (.returned, statement.drop n)
      | none =>
        match assigned? masked with
        | some (target, n) => some (.assigned target, statement.drop n)
        | none =>
          if (topLevelAssignment? statement).isSome then none
          else some (.statement, statement)

/-- What a branch does with its value. -/
def Role.branch (r : Role) (value : Text) : Text :=
  match r with
  | .arrowBody _ | .returned => "return ".toList ++ value ++ [';']
  | .initializer _ name => name ++ [' ', '=', ' '] ++ value ++ [';']
  | .assigned target => target ++ [' ', '=', ' '] ++ value ++ [';']
  | .statement => value ++ [';']

/-- An `if` with two branches in place of a conditional expression. -/
def expand (r : Role) (expression indent unit : Text) : Except Setback Text :=
  match splitConditional? expression with
  | none => decline "no conditional expression in the statement"
  | some c =>
    let parts := [c.test, c.consequent, c.alternate]
    if parts.any (·.isEmpty) || !parts.all isBalanced then
      decline "conditional does not cover the whole statement"
    else
      let inner := ['\n'] ++ indent ++ unit
      .ok (indent ++ "if (".toList ++ c.test ++ [')', ' ', '{'] ++
        inner ++ r.branch c.consequent ++
        ['\n'] ++ indent ++ ['}'] ++ " else ".toList ++ ['{'] ++
        inner ++ r.branch c.alternate ++
        ['\n'] ++ indent ++ ['}'])

/-- The lines that take the place of a statement with a conditional. -/
def expandStatement (statement indent unit : Text) (terminated : Bool) :
    Except Setback Text :=
  match role? statement with
  | none => decline "conditional is part of an unsupported statement"
  | some (.arrowBody head, expression) => do
    let body ← expand (.arrowBody head) expression (indent ++ unit) unit
    return indent ++ head ++ [' ', '{', '\n'] ++ body ++ ['\n'] ++ indent ++ ['}'] ++
      (if terminated then [';'] else [])
  | some (.initializer keyword name, expression) => do
    let keyword := if keyword == "const".toList then "let".toList else keyword
    let block ← expand (.initializer keyword name) expression indent unit
    return indent ++ keyword ++ [' '] ++ name ++ [';', '\n'] ++ block
  | some (role, expression) => expand role expression indent unit

/-- The rule `no-ternary`. -/
def noTernary : Method where
  detect code d :=
    (maskedLineOf code d).any (· == '?') && (splitConditional? (lineOf code d)).isSome
  edit code d :=
    let line := lineOf code d
    let start := lineStartOf code d
    if (((kinds code).drop start).take line.length).contains .comment then
      decline "line contains a comment"
    else
      let statement := trim line
      let terminated := endsIn (· == ';') statement
      let statement := if terminated then trimRight statement.dropLast else statement
      match expandStatement statement (leadingBlanks line) (indentUnit code) terminated with
      | .error setback => .error setback
      | .ok new => setLine code d new
  keeps before after :=
    countKeyword after "if".toList == countKeyword before "if".toList + 1

end LintRepair.Rules.Ternary
