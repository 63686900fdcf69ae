/-
Whether a text is a program: its brackets fit, and the grammar accepts it.

* `BracketFault`: a bracket that does not fit, with its offset;
* `bracketFaults`: all of them, unmatched closing brackets first;
* `Acceptor`: the verdict of a grammar on texts;
* `SyntaxFault`: why a text is no program;
* `syntaxFault?`, `isProgram`: the check.

Only brackets in code count. A closing bracket that does not fit the last open
one is reported; if an open one further out fits it, everything inside that
one is given up, so that one mistake is reported once.

The grammar is asked only about texts whose brackets fit. Nothing here depends
on which grammar it is.
-/
import LintRepair.Code.Bracket
import LintRepair.Json.Display

namespace LintRepair.Check

open Text Lexical Code

/-! ### Brackets -/

/-- A bracket that does not fit. -/
inductive BracketFault
  | unmatched (bracket : Char) (offset : Nat)
  | unclosed (bracket : Char) (offset : Nat)
  deriving DecidableEq, Repr

/-- The wording of a fault. -/
def BracketFault.message : BracketFault → String
  | .unmatched c offset =>
    "Unmatched bracket '" ++ String.singleton c ++ "' at position " ++ Json.intText offset
  | .unclosed c offset =>
    "Unclosed bracket '" ++ String.singleton c ++ "' at position " ++ Json.intText offset

/-- The offset of the bracket. -/
def BracketFault.offset : BracketFault → Nat
  | .unmatched _ offset | .unclosed _ offset => offset

/-- The brackets of a text that are code, with their offsets. -/
def codeBrackets (t : Text) : List (Char × Nat) :=
  ((t.zip (kinds t)).zipIdx.filter fun ((c, kind), _) =>
    kind == .code && (isOpener c || isCloser c)).map fun ((c, _), i) => (c, i)

/-- The faults among brackets, where `stack` holds the open ones, the last one
first. -/
def faultsFrom (stack : List (Char × Nat)) : List (Char × Nat) → List BracketFault
  | [] => stack.reverse.map fun (c, offset) => .unclosed c offset
  | (c, offset) :: rest =>
    match openerOf? c with
    | none => faultsFrom ((c, offset) :: stack) rest
    | some opener =>
      if stack.head?.any (·.1 == opener) then faultsFrom stack.tail rest
      else
        let kept := stack.dropWhile (·.1 != opener)
        let stack := if kept.isEmpty then stack else kept.tail
        .unmatched c offset :: faultsFrom stack rest

/-- The brackets of a text that do not fit. -/
def bracketFaults (t : Text) : List BracketFault := faultsFrom [] (codeBrackets t)

/-! ### Programs -/

/-- The verdict of a grammar on texts. -/
abbrev Acceptor := Text → Bool

/-- Why a text is no program. -/
inductive SyntaxFault
  | brackets (first : BracketFault) (others : List BracketFault)
  | grammar
  deriving DecidableEq, Repr

/-- The wording of a fault. -/
def SyntaxFault.message : SyntaxFault → String
  | .brackets first _ => "Syntax validation failed: " ++ first.message
  | .grammar => "Syntax error"

/-- What is said about a fault one by one. -/
def SyntaxFault.warnings : SyntaxFault → List String
  | .brackets first others => (first :: others).map BracketFault.message
  | .grammar => ["Code contains syntax errors that prevent execution"]

/-- Why a text is no program, if it is none. -/
def syntaxFault? (accepts : Acceptor) (t : Text) : Option SyntaxFault :=
  match bracketFaults t with
  | first :: others => some (.brackets first others)
  | [] => if accepts t then none else some .grammar

/-- Whether a text is a program. -/
def isProgram (accepts : Acceptor) (t : Text) : Bool := (syntaxFault? accepts t).isNone

end LintRepair.Check
