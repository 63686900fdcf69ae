/-
What comes of an attempt to repair a diagnostic.

* `Refusal`: why a fixer made no change, with its wording;
* `Warning`: a note that does not stand in the way of a fix;
* `FixResult`: the text after an attempt, and whether it was repaired;
* `Raised`: an error that a fixer did not handle.
-/
import LintRepair.Check.Signals
import LintRepair.Lexical.Context

namespace LintRepair.Repair

open Lexical Check

/-- Why a fixer made no change. -/
inductive Refusal
  /-- The position may not be edited. -/
  | hazardous (hazard : Hazard)
  /-- The violation is not there, or it is one of another rule. -/
  | absent
  /-- This violation cannot be repaired, for a reason if one is given. -/
  | declined (reason : Option String)
  /-- The edit failed. -/
  | mishap (detail : String)
  /-- The edited text is no program. -/
  | broken (fault : SyntaxFault)
  /-- The edited text is the same, or not what the rule promises. -/
  | invariant
  /-- A reason in the fixer's own words. -/
  | other (message : String)
  deriving DecidableEq, Repr

/-- The name of a rule in a message. -/
def ruleText : Option String → String
  | some rule => rule
  | none => "None"

/-- The wording of a fixer's inability, with a reason unless that is empty. -/
def inabilityText (rule : String) (reason : Option String) : String :=
  "Fixer cannot handle this instance of " ++ rule ++
    match reason with
    | none | some "" => ""
    | some reason => ": " ++ reason

/-- The wording of a refusal by the fixer of a rule. -/
def Refusal.message (rule : String) (d : Diagnostic) : Refusal → String
  | .hazardous hazard => "Cannot fix " ++ rule ++ ": " ++ hazard.reason d
  | .absent => inabilityText (ruleText d.rule) none
  | .declined reason => inabilityText rule reason
  | .mishap detail => rule ++ " fixer error in fix: " ++ detail
  | .broken fault => "Fix validation failed: " ++ fault.message
  | .invariant => "Fix validation failed: rule invariant not satisfied"
  | .other message => message

/-- A note that does not stand in the way of a fix. -/
inductive Warning
  | note (text : String)
  | change (change : Change)
  deriving DecidableEq, Repr

/-- The wording of a warning. -/
def Warning.text : Warning → String
  | .note text => text
  | .change c => c.message

/-- What a fixer adds to the refusal after an edit that failed. -/
def mishapWarnings : List Warning :=
  [.note "Fix operation failed due to unexpected error",
    .note "Original code was preserved"]

/-- The text after an attempt. Without a refusal the diagnostic was repaired. -/
structure FixResult where
  code : Text
  refusal? : Option Refusal := none
  /-- The fixer's own words about a repair. -/
  note? : Option String := none
  warnings : List Warning := []
  deriving DecidableEq, Repr

/-- Whether the diagnostic was repaired. -/
def FixResult.isSuccess (r : FixResult) : Bool := r.refusal?.isNone

/-- The wording of an attempt by the fixer of a rule. -/
def FixResult.message (r : FixResult) (rule : String) (d : Diagnostic) : String :=
  match r.refusal? with
  | some refusal => refusal.message rule d
  | none => r.note?.getD ("Applied " ++ rule ++ " fix")

/-- An error that a fixer did not handle. -/
inductive Raised
  /-- A text is asked for whose length cannot be counted. -/
  | uncountable
  /-- A text is asked for that is too long to be held. -/
  | outOfMemory
  /-- An error in the fixer's own words. -/
  | other (text : String)
  deriving DecidableEq, Repr

/-- The wording of an error. -/
def Raised.text : Raised → String
  | .uncountable => "cannot fit 'int' into an index-sized integer"
  | .outOfMemory => ""
  | .other text => text

end LintRepair.Repair
