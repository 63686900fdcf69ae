/-
What is told about a run.

* `Summary`: what became of one diagnostic, with `Cause` for a failure;
* `Recovery`: how a usable text was found after a failure;
* `RunFault`: why a run did not complete;
* `Result`: all of it together.
-/
import LintRepair.Config.Basic
import LintRepair.Repair.Fixer

namespace LintRepair.Batch

open Text Lexical Check Repair

/-! ### Recoveries -/

/-- How a usable text was found after a failure. -/
inductive Recovery
  /-- The text is usable as it is. -/
  | resumed (code : Text)
  /-- The snapshot behind the repair of a number. -/
  | snapshot (number : Nat) (code : Text)
  /-- The latest repair was taken back. -/
  | reverted (code : Text)
  /-- The text from before the run. -/
  | restarted (code : Text)
  /-- None was found. -/
  | lost (code : Text)
  deriving DecidableEq, Repr

namespace Recovery

/-- The text to go on with. -/
def code : Recovery → Text
  | resumed code | snapshot _ code | reverted code | restarted code | lost code => code

/-- Whether a usable text was found. -/
def isSuccess : Recovery → Bool
  | lost _ => false
  | _ => true

/-- The word for the way it was found. -/
def word : Recovery → String
  | resumed _ => "continue"
  | snapshot _ _ => "rollback"
  | reverted _ => "partial_rollback"
  | restarted _ => "full_rollback"
  | lost _ => "none"

/-- The name of the snapshot behind a repair. -/
def snapshotName (number : Nat) : String := "fix-" ++ Json.intText number

/-- The wording of a recovery. -/
def message : Recovery → String
  | resumed _ => "Current code is valid, continuing"
  | snapshot number _ => "Rolled back to snapshot " ++ snapshotName number
  | reverted _ => "Reverted the most recent fix"
  | restarted _ => "Restored the code from before the batch"
  | lost _ => "No valid code state could be recovered"

/-- How many of the repairs made so far survive. -/
def kept (applied : Nat) : Recovery → Nat
  | resumed _ | lost _ => applied
  | snapshot number _ => number
  | reverted _ => applied - 1
  | restarted _ => 0

end Recovery

/-! ### Summaries -/

/-- Why a diagnostic was not repaired. -/
inductive Cause
  /-- The run was cancelled before its turn. -/
  | cancelled
  /-- The run was halted before its turn. -/
  | skipped
  /-- Its position may not be edited. -/
  | hazardous (hazard : Hazard)
  /-- No fixer for its rule is switched on. -/
  | noFixer
  /-- The fixer does not take it on. -/
  | notHandled
  /-- The fixer of a rule took it on and made no change. -/
  | refused (rule : String) (refusal : Refusal)
  /-- What the fixer made is no program. -/
  | broken (fault : SyntaxFault)
  /-- The fixer raised an error. -/
  | raised (e : Raised)
  deriving DecidableEq, Repr

/-- What is said where a run was cancelled. -/
def cancelledText : String := "Batch processing was cancelled"

/-- What is said where a fixer raised an error. -/
def unexpectedText (text : String) : String := "Unexpected error: " ++ text

/-- The wording of a cause. -/
def Cause.message (d : Diagnostic) : Cause → String
  | .cancelled => cancelledText
  | .skipped => "Skipped: batch halted after syntax failure"
  | .hazardous hazard => "Unsafe context: " ++ hazard.reason d
  | .noFixer => "No fixer available for rule: " ++ ruleText d.rule
  | .notHandled => inabilityText (ruleText d.rule) none
  | .refused rule refusal => refusal.message rule d
  | .broken fault => "Validation failed: " ++ fault.message
  | .raised e => unexpectedText e.text

/-- What became of a diagnostic. -/
inductive Verdict
  | applied (message : String)
  | failed (cause : Cause)
  /-- It was repaired, and the repair was lost in a recovery. -/
  | undone (recovery : String) (message : String)
  deriving DecidableEq, Repr

/-- What is told about a diagnostic. -/
structure Summary where
  diagnostic : Diagnostic
  verdict : Verdict
  warnings : List Warning := []
  /-- The text around the position before and after a repair. -/
  texts? : Option (Text × Text) := none

namespace Summary

/-- The key by which a summary is matched with diagnostics. -/
def identity (s : Summary) : Identity := s.diagnostic.identity

/-- Whether the diagnostic was repaired. -/
def isSuccess (s : Summary) : Bool := s.verdict matches .applied _

/-- The wording of a summary. -/
def message (s : Summary) : String :=
  match s.verdict with
  | .applied message => message
  | .failed cause => cause.message s.diagnostic
  | .undone recovery message => "Rolled back (" ++ recovery ++ "): " ++ message

/-- The summary of a failure. -/
def failure (d : Diagnostic) (cause : Cause) (warnings : List Warning) : Summary :=
  { diagnostic := d, verdict := .failed cause, warnings }

/-- The summary of a repair that a recovery took back. -/
def undo (s : Summary) (r : Recovery) : Summary :=
  { s with verdict := .undone r.word s.message }

end Summary

/-! ### Results -/

/-- Why a run did not complete. -/
inductive RunFault
  /-- Another run was under way. -/
  | busy
  | cancelled
  /-- Something else than a fixer raised an error. -/
  | unexpected (text : String)
  /-- A fixer raised an error that speaks of a broken program. -/
  | aborted (text : String)
  /-- A repair broke the program. -/
  | halted (rule : Option String) (line : Json.Whole)
  /-- The final text is no program. -/
  | invalid (fault : SyntaxFault)
  deriving DecidableEq, Repr

/-- The wording of a fault. -/
def RunFault.message : RunFault → String
  | .busy => "Batch processing already in progress"
  | .cancelled => cancelledText
  | .unexpected text => unexpectedText text
  | .aborted text => "Batch aborted: " ++ unexpectedText text
  | .halted rule line =>
    "Batch halted: " ++ ruleText rule ++ " fix at line " ++ line.text ++
      " produced invalid code"
  | .invalid fault => "Final validation failed: " ++ fault.message

/-- What a run learned from linters. -/
structure LintInfo where
  /-- How often a linter answered. -/
  count : Nat
  /-- The diagnostics that are left, as far as is known. -/
  current : List Diagnostic

/-- The result of a run. -/
structure Result where
  code : Text
  /-- The repairs, in the order in which they were made. -/
  applied : List Summary
  /-- The failures, in the order in which they came. -/
  failed : List Summary
  /-- How many diagnostics there were. -/
  total : Nat
  fault? : Option RunFault
  recoveries : List Recovery := []
  lint? : Option LintInfo := none
  /-- How the structure of the text differs from that before the run. -/
  warnings : List Change := []

/-- Whether a run completed. -/
def Result.isSuccess (r : Result) : Bool := r.fault?.isNone

end LintRepair.Batch
