/-
Diagnostics: the rule violations that a linter reports.

* `Diagnostic`: one violation, with `Diagnostic.identity` to match it with a
  fix;
* `Diagnostic.faultMessage`: why its position lies outside a text.
-/
import LintRepair.Json.Whole
import LintRepair.Text.Lines

namespace LintRepair

/-- How bad a violation is. -/
inductive Severity
  | error
  | warning
  deriving DecidableEq, Repr

/-- The word for a severity. -/
def Severity.word : Severity → String
  | .error => "error"
  | .warning => "warning"

/-- What a diagnostic and the fix made for it have in common. -/
structure Identity where
  rule : Option String
  line : Int
  column : Int
  deriving DecidableEq, Repr

/-- One reported rule violation; lines and columns count from one. A parser
error has no rule. -/
structure Diagnostic where
  rule : Option String
  message : String
  line : Json.Whole
  column : Json.Whole
  endLine : Option Json.Value := none
  endColumn : Option Json.Value := none
  severity : Severity := .error

/-- The key by which a diagnostic is matched with a fix. -/
def Diagnostic.identity (d : Diagnostic) : Identity :=
  ⟨d.rule, d.line.value, d.column.value⟩

open Text in
/-- The wording of a fault of a position. -/
def positionMessage (line column : Json.Whole) : PositionFault → String
  | .line count =>
    "Line " ++ line.text ++ " is outside the source (1.." ++ Json.intText count ++ ")"
  | .column width =>
    "Column " ++ column.text ++ " is outside line " ++ line.text ++
      " (1.." ++ Json.intText (width + 1) ++ ")"

/-- The wording of a fault of a diagnostic's position. -/
def Diagnostic.faultMessage (d : Diagnostic) : Text.PositionFault → String :=
  positionMessage d.line d.column

end LintRepair
