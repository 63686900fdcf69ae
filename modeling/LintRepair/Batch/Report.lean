/-
The report on a run.

* `Category`, `categorize`: what kind of failure a message speaks of;
* `Facts`: what a report is made from;
* `Facts.report`: the report as JSON, with `Facts.advice` for what to do next;
* `ReportFault`: why there is no report.
-/
import LintRepair.Batch.Summary
import LintRepair.Diagnostic.Json

namespace LintRepair.Batch

open Text Json

/-! ### Kinds of failures -/

/-- The kinds of failures. -/
inductive Category
  | unsafeContext
  | validationError
  | noFixer
  | fixerLimitation
  | cancelled
  | skipped
  | other
  deriving DecidableEq, Repr

/-- The word for a kind of failures. -/
def Category.word : Category → String
  | .unsafeContext => "unsafe_context"
  | .validationError => "validation_error"
  | .noFixer => "no_fixer"
  | .fixerLimitation => "fixer_limitation"
  | .cancelled => "cancelled"
  | .skipped => "skipped"
  | .other => "other"

/-- The kind of failure that a message speaks of, whatever the size of its
letters. -/
def categorize (message : String) : Category :=
  let t := lower message.toList
  let speaksOf (part : String) : Bool := Text.contains t part.toList
  if speaksOf "cancelled" then .cancelled
  else if startsWith t "skipped".toList then .skipped
  else if speaksOf "unsafe context" || speaksOf "position is inside" then .unsafeContext
  else if speaksOf "validation failed" || speaksOf "syntax" then .validationError
  else if speaksOf "no fixer available" then .noFixer
  else if speaksOf "cannot handle" then .fixerLimitation
  else .other

/-! ### What a report is made from -/

/-- One repair or failure. -/
structure Item where
  rule : Option String
  line : Whole
  column : Whole
  message : String
  warnings : List String := []
  deriving DecidableEq, Repr

/-- What a report is made from. -/
structure Facts where
  code : Text
  applied : List Item
  failed : List Item
  total : Whole
  fixed : Whole
  isSuccess : Bool
  /-- How many milliseconds the run took, if that is told. -/
  time? : Option Quantity

/-- A summary as an item of a report. -/
def Summary.item (s : Summary) : Item :=
  ⟨s.diagnostic.rule, s.diagnostic.line, s.diagnostic.column, s.message,
    s.warnings.map Repair.Warning.text⟩

/-- What a report on a run is made from. -/
def Result.facts (r : Result) (time? : Option Quantity) : Facts where
  code := r.code
  applied := r.applied.map Summary.item
  failed := r.failed.map Summary.item
  total := .number r.total
  fixed := .number r.applied.length
  isSuccess := r.isSuccess
  time? := time?

/-! ### The report -/

/-- Why there is no report. -/
inductive ReportFault
  /-- No finite number is near the share of repaired diagnostics. -/
  | shareTooLarge
  deriving DecidableEq, Repr

/-- The wording of a fault. -/
def ReportFault.message : ReportFault → String
  | .shareTooLarge => "integer division result too large for a float"

/-- How often each name occurs, in the order of first occurrences. -/
def tallies (names : List String) : Keyed Nat :=
  names.foldl (fun counts name => Keyed.put name ((counts.lookup name).getD 0 + 1) counts) []

/-- Tallies as JSON. -/
def tallyJson (names : List String) : Value :=
  .object ((tallies names).map fun (name, n) => (name, .int n))

/-- The name under which the items of a rule are counted. -/
def Item.group (i : Item) : String :=
  match i.rule with
  | none | some "" => "(parser)"
  | some rule => rule

/-- The kind of failure that an item speaks of. -/
def Item.category (i : Item) : Category := categorize i.message

namespace Facts

/-- The number of failures of a kind. -/
def count (f : Facts) (c : Category) : Nat := f.failed.countP (·.category = c)

/-- The share of repaired diagnostics in per cent, with one decimal place. -/
def successRate (f : Facts) : Except ReportFault Float :=
  if f.total.value = 0 then .ok 0.0
  else match Number.quotient? f.fixed.value f.total.value with
    | some share => .ok (Number.roundPlaces (share * 100.0) 1)
    | none => .error .shareTooLarge

/-- The number of milliseconds from which a run counts as slow. -/
def slowRun : Int := 5000

/-- A piece of advice about a number of things; none if there are none. -/
def advise (n : Nat) (text : String) : List String :=
  if n = 0 then [] else [Json.intText n ++ text]

/-- What to do next. -/
def advice (f : Facts) : List String :=
  advise (f.count .unsafeContext)
      (" fixes failed due to unsafe context (strings/comments). " ++
        "Consider manual review.") ++
    advise (f.count .noFixer)
      " rules don't have fixers available. These require manual correction." ++
    advise (f.count .validationError)
      " fixes failed validation. Code may have complex syntax issues." ++
    advise (f.count .skipped)
      (" fixes were skipped after a fix broke the code. " ++
        "Re-run the batch once the remaining issues are reviewed.") ++
    (if f.applied.isEmpty then []
      else ["Successfully applied " ++ Json.intText f.applied.length ++
        " fixes. Consider running the linter again to check for new issues."]) ++
    (if f.time?.any (Quantity.exceeds slowRun) then
      ["Batch processing took longer than expected. " ++
        "Consider processing smaller batches for better performance."]
      else [])

/-- The report. -/
def report (f : Facts) : Except ReportFault Value := do
  let rate ← f.successRate
  let strings (xs : List String) : Value := .array (xs.map .string)
  let count (n : Nat) : Value := .int n
  return .object
    [("summary", .object ([
        ("total_errors", f.total.toJson),
        ("fixed_errors", f.fixed.toJson),
        ("failed_errors", count f.failed.length),
        ("success_rate", .float rate)] ++
        (f.time?.map fun t => ("processing_time", (t.rounded 3).toJson)).toList ++
        [("overall_success", .bool f.isSuccess)])),
      ("applied_fixes", .object [
        ("count", count f.applied.length),
        ("by_rule", tallyJson (f.applied.map Item.group)),
        ("timeline", .array (f.applied.map fun i => .object [
          ("rule_id", ruleJson i.rule),
          ("line", i.line.toJson),
          ("message", .string i.message),
          ("warnings", strings i.warnings)]))]),
      ("failed_fixes", .object [
        ("count", count f.failed.length),
        ("by_rule", tallyJson (f.failed.map Item.group)),
        ("by_reason", tallyJson (f.failed.map fun i => i.category.word)),
        ("details", .array (f.failed.map fun i => .object [
          ("rule_id", ruleJson i.rule),
          ("line", i.line.toJson),
          ("column", i.column.toJson),
          ("reason", .string i.message),
          ("category", .string i.category.word)]))]),
      ("code_metrics", .object [
        ("length", count f.code.length),
        ("lines", count (f.code.count '\n' + 1)),
        ("has_changes", .bool !f.applied.isEmpty)]),
      ("recommendations", strings f.advice)]

end Facts

end LintRepair.Batch
