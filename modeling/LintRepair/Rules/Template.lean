/-
The rule `prefer-template`.

* `expressionEnd`: where the expression at an offset ends;
* `stringContent?`, `templateContent?`: the content of a literal operand;
* `preferTemplate`: writes a concatenation as one template.

Strings are taken over with ticks and interpolations escaped, templates as
they are, and every other operand becomes an interpolation. One of the first
two operands must be text, since otherwise the first sum may be one of
numbers.
-/
import LintRepair.Code.Statement
import LintRepair.Rules.Quote

namespace LintRepair.Rules.Template

open Text Lexical Code Repair
open Quote (delimiterCount unescape)

/-! ### The expression -/

/-- How many characters belong to the expression that a text starts with; it
ends at a separator, at the bracket that closes around it, and at a line end
where no sum goes on. `seen` holds what has been read of it, the last
character first. -/
def expressionLength (seen : Text) (depth : Nat) : Text → Nat
  | [] => 0
  | c :: rest =>
    if isOpener c then expressionLength (c :: seen) (depth + 1) rest + 1
    else if isCloser c then
      if depth = 0 then 0 else expressionLength (c :: seen) (depth - 1) rest + 1
    else if depth == 0 && (c == ';' || c == ',') then 0
    else if depth == 0 && c == '\n' && !startsIn (· == '+') (seen.dropWhile isBlank) &&
        !startsIn (· == '+') (trimLeft rest) then 0
    else expressionLength (c :: seen) depth rest + 1

/-- The offset just past the expression that starts at an offset. -/
def expressionEnd (masked : Text) (start : Nat) : Nat :=
  let text := masked.drop start
  start + (trimRight (text.take (expressionLength [] 0 text))).length

/-- Where the expression at the position starts and ends. -/
def expression? (code : Text) (d : Diagnostic) : Option (Nat × Nat) :=
  match absoluteOffset code d.line.value d.column.value with
  | .ok start => some (start, expressionEnd (mask code) start)
  | .error _ => none

/-! ### Operands -/

/-- The content of an operand that is one string literal. -/
def stringContent? (operand : Text) : Option Text :=
  match operand with
  | quote :: _ :: _ =>
    if (quote == '\x27' || quote == '\x22') && operand.getLast? == some quote &&
        (kinds operand).count .delimiter == 2 then
      some (operand.drop 1).dropLast
    else none
  | _ => none

/-- The content of an operand that is one template literal. -/
def templateContent? (operand : Text) : Option Text :=
  match operand with
  | '\x60' :: _ :: _ =>
    if operand.getLast? == some '\x60' && (kinds operand).getLast? == some .delimiter &&
        delimiterCount operand '\x60' == 2 then
      some (operand.drop 1).dropLast
    else none
  | _ => none

/-- Whether an operand is text. -/
def isTextual (operand : Text) : Bool :=
  (stringContent? operand).isSome || (templateContent? operand).isSome

/-- The operands of a sum. -/
def operandsOf (t : Text) : List Text := (splitTopLevel '+' t).map trim

/-- A content with ticks and the starts of interpolations escaped. -/
def escapeTemplate : Text → Text
  | '\x60' :: rest => '\\' :: '\x60' :: escapeTemplate rest
  | '$' :: '{' :: rest => '\\' :: '$' :: '{' :: escapeTemplate rest
  | c :: rest => c :: escapeTemplate rest
  | [] => []

/-- An operand as a piece of a template. -/
def piece (operand : Text) : Text :=
  match stringContent? operand with
  | some content => escapeTemplate (unescape (operand.headD '\x22') content)
  | none =>
    match templateContent? operand with
    | some content => content
    | none => ['$', '{'] ++ operand ++ ['}']

/-! ### Other operators -/

/-- A text with everything in brackets blanked out, the brackets too. -/
def topLevel (depth : Int) : Text → Text
  | [] => []
  | c :: rest =>
    if isOpener c then ' ' :: topLevel (depth + 1) rest
    else if isCloser c then ' ' :: topLevel (depth - 1) rest
    else (if depth == 0 then c else ' ') :: topLevel depth rest

/-- The marks of operators that bind no tighter than a sum. -/
def looserMarks : List Char := ['-', '=', '?', ':', '&', '|', '<', '>', ',', '!', '~']

/-- The words of operators that change how a sum groups. -/
def looserWords : List Text :=
  ["in", "instanceof", "typeof", "void", "delete", "await", "yield", "new"].map
    String.toList

/-- Whether an operator stands in a text that changes how a sum groups. -/
def holdsLooser (prev : Option Char) : Text → Bool
  | [] => false
  | t@(c :: rest) =>
    looserMarks.contains c || startsWith t ['+', '+'] ||
      (!prev.any isWord && looserWords.any fun w =>
        startsWith t w && !startsIn isWord (t.drop w.length)) ||
      holdsLooser (some c) rest

/-! ### The rule -/

/-- The rule `prefer-template`. -/
def preferTemplate : Method where
  detect code d :=
    match expression? code d with
    | none => false
    | some (start, stop) =>
      let operands := operandsOf (slice code start stop)
      1 < operands.length && (operands.take 2).any isTextual
  edit code d :=
    match expression? code d with
    | none => decline "leading operands may be numeric addition"
    | some (start, stop) =>
      let text := slice code start stop
      let operands := operandsOf text
      if (kinds text).contains .comment then decline "concatenation contains comments"
      else if holdsLooser none (topLevel 0 (mask text)) then
        decline "concatenation mixes in other operators"
      else if operands.any (·.isEmpty) then decline "unary plus inside concatenation"
      else if !(operands.take 2).any isTextual then
        decline "leading operands may be numeric addition"
      else
        .ok (splice code start stop
          ('\x60' :: (operands.map piece).flatten ++ ['\x60']))
  keeps before after :=
    codeCount '+' after < codeCount '+' before &&
      delimiterCount before '\x60' ≤ delimiterCount after '\x60'

end LintRepair.Rules.Template
