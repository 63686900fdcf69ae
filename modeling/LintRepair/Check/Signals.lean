/-
Coarse signals that two versions of a program differ in structure.

* `Signal`: a group of keywords that are counted together;
* `Change`: a signal whose count differs, or a jump in the number of lines;
* `changes`: all changes from one text to another;
* `compare`: the comparison of a program with a patched version.

A changed signal is a warning; that no signal changed proves nothing.
-/
import LintRepair.Check.Syntax
import LintRepair.Code.Word

namespace LintRepair.Check

open Text Lexical Code

/-- Groups of keywords that are counted together. -/
inductive Signal
  | declaration
  | definition
  | control
  | module
  deriving DecidableEq, Repr

/-- All signals, in the order in which they are reported. -/
def Signal.all : List Signal := [.declaration, .definition, .control, .module]

/-- The name of a signal. -/
def Signal.label : Signal → String
  | .declaration => "declaration"
  | .definition => "function/class"
  | .control => "control construct"
  | .module => "import/export"

/-- The keywords of a signal. -/
def Signal.keywords : Signal → List Text
  | .declaration => ["var", "let", "const"].map String.toList
  | .definition => ["function", "class"].map String.toList
  | .control => ["if", "else", "for", "while", "do", "switch", "try"].map String.toList
  | .module => ["import", "export"].map String.toList

/-- How often a word stands in code, not as the name of a member. -/
def countKeyword (t keyword : Text) : Nat :=
  (wordOffsetsFrom (fun c => isName c || c == '.') keyword none 0 0 (mask t)).length

/-- How often the keywords of a signal stand in code. -/
def Signal.count (s : Signal) (t : Text) : Nat :=
  s.keywords.foldl (fun n w => n + countKeyword t w) 0

/-- A difference between two versions of a text. -/
inductive Change
  | lines (before after : Nat)
  | count (signal : Signal) (before after : Nat)
  deriving DecidableEq, Repr

/-- The wording of a change. -/
def Change.message : Change → String
  | .lines before after =>
    "Significant line count change: " ++ Json.intText before ++ " -> " ++ Json.intText after
  | .count signal before after =>
    signal.label ++ " count changed: " ++ Json.intText before ++ " -> " ++ Json.intText after

/-- How many lines may come or go unreported. -/
def lineThreshold : Nat := 10

/-- The distance of two counts. -/
def distance (a b : Nat) : Nat := (a - b) + (b - a)

/-- The differences between two versions of a text. -/
def changes (before after : Text) : List Change :=
  let m := before.count '\n' + 1
  let n := after.count '\n' + 1
  (if lineThreshold < distance m n then [.lines m n] else []) ++
    Signal.all.filterMap fun s =>
      let m := s.count before
      let n := s.count after
      if m = n then none else some (.count s m n)

/-- The outcome of comparing a program with a patched version. -/
inductive Comparison
  | same
  | changed (changes : List Change)
  | broken (fault : SyntaxFault)
  deriving DecidableEq, Repr

/-- The comparison of a program with a patched version, which must be a
program itself. -/
def compare (accepts : Acceptor) (before after : Text) : Comparison :=
  match syntaxFault? accepts after with
  | some fault => .broken fault
  | none =>
    match changes before after with
    | [] => .same
    | found => .changed found

/-- The differences that a comparison found; none for a broken version. -/
def Comparison.changes : Comparison → List Change
  | .changed cs => cs
  | _ => []

/-- What is said about a comparison one by one. -/
def Comparison.warnings : Comparison → List String
  | .same => []
  | .changed cs => cs.map Change.message
  | .broken fault => fault.warnings

/-- The wording of a comparison that found something. -/
def Comparison.error? : Comparison → Option String
  | .same => none
  | .changed cs =>
    some ("Semantic validation failed: " ++ String.intercalate "; " (cs.map Change.message))
  | .broken _ => some "Fixed code has syntax errors"

end LintRepair.Check
