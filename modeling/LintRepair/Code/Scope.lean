/-
Blocks and scopes, found by the braces of masked text.

* `Span`: the part of a text from one offset up to another;
* `enclosingBlock`: the innermost block around an offset;
* `blockHead`: what introduces a block;
* `functionScope`: the innermost function body around an offset;
* `declarationScope`: the scope of a declaration that is bound to its block.
-/
import LintRepair.Code.Declaration

namespace LintRepair.Code

open Text

/-- The part of a text from `start` up to `stop`. -/
structure Span where
  start : Nat
  stop : Nat
  deriving DecidableEq, Repr

/-- How far before the end of a text, given in reverse, its last unclosed
brace stands; `depth` braces are closed behind. -/
def unclosedBrace? (depth : Nat) : Text → Option Nat
  | [] => none
  | c :: rest =>
    if c == '}' then (unclosedBrace? (depth + 1) rest).map (· + 1)
    else if c == '{' then
      if depth = 0 then some 0 else (unclosedBrace? (depth - 1) rest).map (· + 1)
    else (unclosedBrace? depth rest).map (· + 1)

/-- The innermost block around an offset, from behind its opening brace to its
closing one; the whole text at top level. -/
def enclosingBlock (masked : Text) (offset : Nat) : Span :=
  let before := masked.take offset
  match unclosedBrace? 0 before.reverse with
  | some back =>
    let brace := before.length - 1 - back
    ⟨brace + 1, (findMatching masked brace).getD masked.length⟩
  | none => ⟨0, masked.length⟩

/-- What introduces a block. -/
inductive BlockHead
  | top
  | function
  | loop
  | control
  | other
  deriving DecidableEq, Repr

/-- The word for what introduces a block. -/
def BlockHead.word : BlockHead → String
  | .top => "top"
  | .function => "function"
  | .loop => "loop"
  | .control => "control"
  | .other => "other"

/-- Words whose head is followed by the body of a loop. -/
def loopWords : List Text := ["for", "while"].map String.toList

/-- Words whose head is followed by a block that is no function body. -/
def controlWords : List Text :=
  ["if", "for", "while", "switch", "catch", "with"].map String.toList

/-- What introduces the block whose body starts at an offset. -/
def blockHead (masked : Text) (start : Nat) : BlockHead :=
  if start = 0 then .top
  else
    let before := trimRight (masked.take (start - 1))
    if endsWith before ['=', '>'] then .function
    else if endsWithWord ['d', 'o'] before then .loop
    else if endsWith before [')'] then
      match findMatchingBackward before (before.length - 1) with
      | none => .other
      | some paren =>
        let word := lastWord (before.take paren)
        if loopWords.contains word then .loop
        else if controlWords.contains word then .control
        else .function
    else .other

/-- The innermost function body among a block and those around it; `fuel`
bounds their number. -/
def functionAround (masked : Text) : Nat → Span → Span
  | 0, _ => ⟨0, masked.length⟩
  | fuel + 1, span =>
    if span.start = 0 then ⟨0, masked.length⟩
    else if blockHead masked span.start = .function then span
    else functionAround masked fuel (enclosingBlock masked (span.start - 1))

/-- The innermost function body around an offset; the whole text at top
level. -/
def functionScope (masked : Text) (offset : Nat) : Span :=
  functionAround masked (masked.length + 1) (enclosingBlock masked offset)

/-- A blank that may stand between a loop head and its body. -/
def isBodyBlank (c : Char) : Bool := c == ' ' || c == '\t' || c == '\n'

/-- The scope of a declaration that is bound to its block: the loop if it
stands in a loop head, else the block around it. -/
def declarationScope (masked : Text) (d : Declaration) : Span :=
  match d.forKind, d.forParen with
  | some _, some paren =>
    match findMatching masked paren with
    | none => enclosingBlock masked d.start
    | some close =>
      let body := close + 1 + ((masked.drop (close + 1)).takeWhile isBodyBlank).length
      if masked[body]? = some '{' then
        ⟨paren, (findMatching masked body).getD masked.length⟩
      else ⟨paren, statementEnd masked body⟩
  | _, _ => enclosingBlock masked d.start

end LintRepair.Code
