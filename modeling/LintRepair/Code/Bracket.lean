/-
Brackets in masked text.

* `findMatching`, `findMatchingBackward`: the partner of a bracket;
* `unclosedBracket?`: the bracket that is open at the end of a text;
* `bracketCounts`: how often each bracket occurs in code.

Each search for a partner counts brackets of its own pair only.
-/
import LintRepair.Lexical.Scan

namespace LintRepair.Code

open Text

/-- A round, square or curly opening bracket. -/
def isOpener (c : Char) : Bool := c == '(' || c == '[' || c == '{'

/-- A round, square or curly closing bracket. -/
def isCloser (c : Char) : Bool := c == ')' || c == ']' || c == '}'

/-- The bracket that closes an opening one. -/
def closerOf? (c : Char) : Option Char :=
  if c == '(' then some ')'
  else if c == '[' then some ']'
  else if c == '{' then some '}'
  else none

/-- The bracket that opens a closing one. -/
def openerOf? (c : Char) : Option Char :=
  if c == ')' then some '('
  else if c == ']' then some '['
  else if c == '}' then some '{'
  else none

/-- The offset at which as many `down` as `up` have been read, `depth` of
`up` being open at the start. -/
def balanceAt? (up down : Char) : Nat → Text → Option Nat
  | _, [] => none
  | depth, c :: rest =>
    if c == up then (balanceAt? up down (depth + 1) rest).map (· + 1)
    else if c == down then
      if depth ≤ 1 then some 0
      else (balanceAt? up down (depth - 1) rest).map (· + 1)
    else (balanceAt? up down depth rest).map (· + 1)

/-- The bracket that closes the one at an offset. -/
def findMatching (masked : Text) (i : Nat) : Option Nat := do
  let opener ← masked[i]?
  let closer ← closerOf? opener
  return i + (← balanceAt? opener closer 0 (masked.drop i))

/-- The bracket that opens the one at an offset. -/
def findMatchingBackward (masked : Text) (j : Nat) : Option Nat := do
  let closer ← masked[j]?
  let opener ← openerOf? closer
  return j - (← balanceAt? closer opener 0 (masked.take (j + 1)).reverse)

/-- The unclosed bracket nearest to the end of a text given in reverse, with
what stands before it; `depth` brackets are closed behind. -/
def unclosedBracket? (depth : Nat) : Text → Option (Char × Text)
  | [] => none
  | c :: rest =>
    if isCloser c then unclosedBracket? (depth + 1) rest
    else if isOpener c then
      if depth = 0 then some (c, rest) else unclosedBracket? (depth - 1) rest
    else unclosedBracket? depth rest

/-- The six brackets. -/
def brackets : List Char := ['(', ')', '[', ']', '{', '}']

/-- How often each bracket occurs outside literals and comments. -/
def bracketCounts (t : Text) : List (Char × Nat) :=
  brackets.map fun c => (c, (Lexical.mask t).count c)

end LintRepair.Code
