/-
Where statements, list items and assignments end in a text.

* `statementEnd`: the end of the statement that starts at an offset;
* `splitTopLevel`: the items between separators outside brackets;
* `topLevelAssignment?`: the assignment operator outside brackets.
-/
import LintRepair.Code.Bracket

namespace LintRepair.Code

open Text Lexical

/-! ### Statements -/

/-- A statement goes on behind a line that ends with one of these. -/
def continuesBehind (c : Char) : Bool :=
  [',', '(', '[', '{', '=', '+', '-', '*', '/', '%', '&', '|', '^', '!', '?', ':',
    '<', '>', '.'].contains c

/-- A statement goes on before a line that starts with one of these. -/
def continuesBefore (c : Char) : Bool :=
  ['.', ',', '?', ':', ')', ']', '}', '+', '-', '*', '/', '%', '&', '|', '^',
    '='].contains c

/-- How many characters of a text belong to the statement it starts with. The
statement ends behind a semicolon, before a bracket that closes an enclosing
construct, and at a line end where neither side says that it goes on. `seen`
holds what has been read of the statement, the last character first. -/
def statementLength (seen : Text) (depth : Nat) : Text → Nat
  | [] => 0
  | c :: rest =>
    if isOpener c then statementLength (c :: seen) (depth + 1) rest + 1
    else if isCloser c then
      if depth = 0 then 0 else statementLength (c :: seen) (depth - 1) rest + 1
    else if depth == 0 && c == ';' then 1
    else if depth == 0 && c == '\n' &&
        !(startsIn continuesBehind (seen.dropWhile isBlank) ||
          startsIn continuesBefore (trimLeft rest)) then 0
    else statementLength (c :: seen) depth rest + 1

/-- The offset just past the statement that starts at `start`. -/
def statementEnd (masked : Text) (start : Nat) : Nat :=
  min (start + statementLength [] 0 (masked.drop start)) masked.length

/-! ### Items of a list -/

/-- A character put before the first of some parts. -/
def consHead (c : Char) : List Text → List Text
  | [] => [[c]]
  | part :: parts => (c :: part) :: parts

/-- The parts of a text between separators at depth zero, where depth and
separators are read off the masked text. -/
def splitMasked (isSeparator : Char → Bool) : Int → Text → Text → List Text
  | depth, m :: ms, c :: cs =>
    if isOpener m then consHead c (splitMasked isSeparator (depth + 1) ms cs)
    else if isCloser m then consHead c (splitMasked isSeparator (depth - 1) ms cs)
    else if isSeparator m && depth == 0 then
      [] :: splitMasked isSeparator depth ms cs
    else consHead c (splitMasked isSeparator depth ms cs)
  | _, _, _ => [[]]

/-- The parts of a text between separators outside brackets, literals and
comments. -/
def splitTopLevelOn (isSeparator : Char → Bool) (t : Text) : List Text :=
  splitMasked isSeparator 0 (mask t) t

/-- The parts of a text between occurrences of a separator outside brackets,
literals and comments. -/
def splitTopLevel (separator : Char) (t : Text) : List Text :=
  splitTopLevelOn (· == separator) t

/-! ### Assignments -/

/-- Whether an equals sign between two characters assigns: it belongs neither
to a comparison nor to an arrow. -/
def assigns (prev next : Option Char) : Bool :=
  !(next == some '=' || next == some '>' || prev == some '=' || prev == some '!' ||
    prev == some '<' || prev == some '>')

/-- The offset of the first assignment at depth zero of a masked text. -/
def assignmentIn (prev : Option Char) (depth : Int) : Text → Option Nat
  | [] => none
  | c :: rest =>
    if isOpener c then (assignmentIn (some c) (depth + 1) rest).map (· + 1)
    else if isCloser c then (assignmentIn (some c) (depth - 1) rest).map (· + 1)
    else if c == '=' && depth == 0 && assigns prev rest.head? then some 0
    else (assignmentIn (some c) depth rest).map (· + 1)

/-- The offset of the first assignment outside brackets, literals and
comments. -/
def topLevelAssignment? (t : Text) : Option Nat := assignmentIn none 0 (mask t)

end LintRepair.Code
