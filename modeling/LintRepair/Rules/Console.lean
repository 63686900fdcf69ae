/-
The rule `no-console`.

* `Mode`: whether a call is commented out or taken out;
* `callsBetween`: the calls of console methods in masked text;
* `noConsole`: the rule in a mode.

A call that fills its lines is handled as a statement: its lines become line
comments or go. A call that shares its line with other code becomes a block
comment or is cut out, and a semicolon that the code around it needs stays.
-/
import LintRepair.Code.Bracket
import LintRepair.Code.Word
import LintRepair.Rules.Editing

namespace LintRepair.Rules.Console

open Text Lexical Code Repair

/-- What becomes of a call. -/
inductive Mode
  | comment
  | remove
  deriving DecidableEq, Repr

/-- The word for a mode. -/
def Mode.word : Mode → String
  | .comment => "comment"
  | .remove => "remove"

/-- The mode that a word names. -/
def Mode.ofWord? (w : String) : Option Mode :=
  [Mode.comment, .remove].find? fun m => m.word == w

/-- The wording of a value that names no mode. -/
def Mode.fault (v : Json.Value) : String :=
  "no-console mode must be one of ('comment', 'remove'), got '" ++ Json.plain v ++ "'"

/-- The methods of the console. -/
def methods : List Text :=
  ["log", "error", "warn", "info", "debug", "trace", "dir", "time", "timeEnd"].map
    String.toList

/-- The length of the call of a console method that a text starts with, up to
and with its opening parenthesis. -/
def callLength? (t : Text) : Option Nat :=
  let name := "console".toList
  if !startsWith t name then none
  else
    let t1 := trimLeft (t.drop name.length)
    match t1 with
    | '.' :: rest =>
      let t2 := trimLeft rest
      methods.findSome? fun m =>
        if startsWith t2 m then
          match trimLeft (t2.drop m.length) with
          | '(' :: behind => some (t.length - behind.length)
          | _ => none
        else none
    | _ => none

/-- The calls in a text, each with its offset and the offset of its opening
parenthesis; the first `skipped` characters belong to the call before. -/
def callsFrom (prev : Option Char) (offset skipped : Nat) : Text → List (Nat × Nat)
  | [] => []
  | t@(c :: rest) =>
    match skipped with
    | n + 1 => callsFrom (some c) (offset + 1) n rest
    | 0 =>
      match if prev.any (fun p => isName p || p == '.') then none else callLength? t with
      | some n => (offset, offset + n - 1) :: callsFrom (some c) (offset + 1) (n - 1) rest
      | none => callsFrom (some c) (offset + 1) 0 rest

/-- The calls in masked text between two offsets. -/
def callsBetween (masked : Text) (lo hi : Nat) : List (Nat × Nat) :=
  callsFrom (if lo = 0 then none else masked[lo - 1]?) lo 0 (slice masked lo hi)

/-- How many calls stand in code. -/
def callCount (t : Text) : Nat := (callsFrom none 0 0 (mask t)).length

/-- The call on the line nearest to the column: where it starts and ends. -/
def call? (code : Text) (d : Diagnostic) : Option (Nat × Nat) := do
  let masked := mask code
  let lo := lineStartOf code d
  let hi := lo + (maskedLineOf code d).length
  let (start, paren) ← nearest? (fun c => gap (lo + columnOf d) c.1) (callsBetween masked lo hi)
  let close ← findMatching masked paren
  return (start, close + 1)

/-- Whether a text ends with a word and an opening parenthesis behind it would
be the head of a control statement. -/
def endsWithHeadWord (t : Text) : Bool :=
  let t := trimRight t
  ["if", "for", "while"].any fun w => endsWithWord w.toList t

/-- What stands before the partner of the closing parenthesis that starts a
text given in reverse. -/
def beforeOpening? (t : Text) : Option Text :=
  (balanceAt? ')' '(' 0 t).map fun n => (t.drop (n + 1)).reverse

/-- Whether the line at an offset is the body of a control statement without
braces. -/
def isControlBody (masked : Text) (lineStart : Nat) : Bool :=
  let before := trimRight (masked.take lineStart)
  if endsWithWord "else".toList before || endsWithWord "do".toList before then true
  else if !endsIn (· == ')') before then false
  else (beforeOpening? before.reverse).any endsWithHeadWord

/-- The text without the lines between two offsets. -/
def deleteLines (code : Text) (lo hi : Nat) : Text :=
  if hi < code.length then code.take lo ++ code.drop (hi + 1)
  else code.take (lo - 1)

/-- Lines as line comments; the first one keeps its indentation. -/
def commentLines : List Text → List Text
  | [] => []
  | first :: others =>
    (leadingBlanks first ++ ['/', '/', ' '] ++ trimLeft first) ::
      others.map (['/', '/', ' '] ++ ·)

/-- The text with a call commented out or taken out. -/
def withoutCall (mode : Mode) (code : Text) (start stop : Nat) : Except Setback Text :=
  let masked := mask code
  let blanks := ((masked.drop stop).takeWhile isSpaceOrTab).length
  let statementEnd :=
    if masked[stop + blanks]? = some ';' then stop + blanks + 1 else stop
  let lineStart := lineStartAt code start
  let lineEnd := lineEndAt code statementEnd
  let lead := trim (slice masked lineStart start)
  let controlBody := lead.isEmpty && isControlBody masked lineStart
  if lead.isEmpty && (slice masked statementEnd lineEnd).all isBlank && !controlBody then
    match mode with
    | .remove => .ok (deleteLines code lineStart lineEnd)
    | .comment =>
      .ok (splice code lineStart lineEnd
        (unlines (commentLines (lines (slice code lineStart lineEnd)))))
  else
    let atBoundary := endsIn (fun c => c == ';' || c == '{' || c == '}') lead ||
      !(!lead.isEmpty || controlBody)
    let cutEnd := if atBoundary then statementEnd else stop
    match mode with
    | .remove => .ok (splice code start cutEnd [])
    | .comment =>
      let text := slice code start cutEnd
      if contains text ['*', '/'] then decline "call contains a block comment terminator"
      else .ok (splice code start cutEnd
        (['/', '*', ' '] ++ text ++ [' ', '*', '/']))

/-- The rule `no-console` in a mode. -/
def noConsole (mode : Mode) : Method where
  detect code d := (call? code d).isSome
  edit code d :=
    match call? code d with
    | none => decline "no console call at the reported position"
    | some (start, stop) => withoutCall mode code start stop
  keeps before after := callCount before == callCount after + 1

end LintRepair.Rules.Console
