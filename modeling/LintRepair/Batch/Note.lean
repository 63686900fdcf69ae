/-
What a run has to say besides its result, for whoever keeps a log.

* `Note`: one thing that is noted;
* `Note.level`, `Note.text`: how much it weighs, and its wording.
-/
import LintRepair.Check.Signals
import LintRepair.Repair.Outcome

namespace LintRepair.Batch

open Check Repair Json

/-- How much a note weighs. -/
inductive Level
  | warning
  | error
  deriving DecidableEq, Repr

/-- The word for a level. -/
def Level.word : Level → String
  | .warning => "WARNING"
  | .error => "ERROR"

/-- What is noted. -/
inductive Note
  /-- A rule is to be switched off that no fixer is registered for. -/
  | unknownRule (rule : String)
  /-- A fixer raised an error. -/
  | raised (d : Diagnostic) (e : Raised)
  /-- A linter gave no diagnostics. -/
  | lintFailed (reason : String)
  /-- A linter took too many seconds. -/
  | lintTimedOut (limit : Quantity)
  /-- No more waves are made. -/
  | wavesSpent (waves : Nat)
  /-- The structure of the text differs from that before the run. -/
  | changed (change : Change)
  /-- The run ended in an error that came from elsewhere than a fixer. -/
  | broken
  /-- An observer raised an error when it was told of a phase. -/
  | unheard (phase : String)

/-- How much a note weighs. -/
def Note.level : Note → Level
  | .raised _ _ | .broken | .unheard _ => .error
  | _ => .warning

/-- The wording of a note. -/
def Note.text : Note → String
  | .unknownRule rule => "Cannot disable unknown rule '" ++ rule ++ "'"
  | .raised d _ => "Unexpected error fixing " ++ ruleText d.rule ++ " at line " ++ d.line.text
  | .lintFailed reason => "Re-lint failed: " ++ reason
  | .lintTimedOut limit => "Re-lint timed out after " ++ limit.tenths ++ "s"
  | .wavesSpent waves => "Stopped re-linting after " ++ Json.intText waves ++ " waves"
  | .changed change => "Batch changed code structure: " ++ change.message
  | .broken => "Unexpected error during batch processing"
  | .unheard phase => "Progress callback failed during phase " ++ phase

end LintRepair.Batch
