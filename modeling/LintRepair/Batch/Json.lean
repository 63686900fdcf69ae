/-
Results of runs as JSON.
-/
import LintRepair.Batch.Summary
import LintRepair.Diagnostic.Json

namespace LintRepair.Batch

open Json

/-- A text as JSON. -/
def textJson (t : Text) : Value := .string (String.ofList t)

/-- A summary as JSON. -/
def Summary.toJson (s : Summary) : Value :=
  .object
    [("rule_id", ruleJson s.diagnostic.rule),
      ("line", s.diagnostic.line.toJson),
      ("column", s.diagnostic.column.toJson),
      ("success", .bool s.isSuccess),
      ("message", .string s.message),
      ("original_text", (s.texts?.map fun t => textJson t.1).getD .null),
      ("fixed_text", (s.texts?.map fun t => textJson t.2).getD .null),
      ("warnings", .array (s.warnings.map fun w => .string w.text))]

/-- A recovery as JSON. -/
def Recovery.toJson (r : Recovery) : Value :=
  .object
    [("strategy", .string r.word),
      ("success", .bool r.isSuccess),
      ("message", .string r.message)]

/-- What a run learned from linters, as JSON. -/
def LintInfo.toJson (i : LintInfo) : Value :=
  .object
    [("relint_count", .int i.count),
      ("final_error_count", .int i.current.length),
      ("current_errors", .array (i.current.map Diagnostic.toJson))]

/-- The fields of a result; how long the run took, if that is told. -/
def Result.toFields (r : Result) (time? : Option Quantity) : Fields :=
  [("final_code", textJson r.code),
    ("applied_fixes", .array (r.applied.map Summary.toJson)),
    ("failed_fixes", .array (r.failed.map Summary.toJson)),
    ("total_errors", .int r.total),
    ("fixed_errors", .int r.applied.length),
    ("success", .bool r.isSuccess),
    ("error", (r.fault?.map fun f => .string f.message).getD .null)] ++
  (time?.map fun t => ("processing_time", (t.rounded 3).toJson)).toList ++
  [("recoveries", .array (r.recoveries.map Recovery.toJson)),
    ("warnings", .array (r.warnings.map fun c => .string c.message))] ++
  (r.lint?.map fun i => ("relint_info", i.toJson)).toList

end LintRepair.Batch
