/-
Repairing a file.

* `repair`: a run on a file, by waves if there is a linter to ask;
* `Repaired.notices`, `reportNotices`: what is shown of it;
* `Repaired.outcome`: what is written, shown and returned, once it is known
  how long the run took.
-/
import LintRepair.Batch.Json
import LintRepair.Batch.Report
import LintRepair.Cli.Arguments
import LintRepair.Cli.World
import LintRepair.Config.Fixers
import LintRepair.Lint.Command

namespace LintRepair.Cli

open Json Utf8

/-- Whether the repaired text is written to a file. -/
def FixOptions.hasDestination (o : FixOptions) : Bool := o.output?.isSome || o.inPlace

/-- The settings that the options make. -/
def FixOptions.fields (o : FixOptions) : Fields :=
  (o.linter?.map fun line => ("relint_command", Value.string line)).toList

/-- A finished run on a file. -/
structure Repaired where
  options : FixOptions
  result : Batch.Result
  /-- The disk as the linters left it. -/
  disk : Disk
  notes : List Batch.Note
  destination? : Option Location

/-- Runs on a file. -/
def repair (w : World) (o : FixOptions) : Except Failure Repaired := do
  if o.output?.isSome ∧ o.inPlace then throw .twoDestinations
  let source := w.dir.under o.source
  let code ← w.read .source source
  let diagnostics ← w.diagnostics o.diagnostics
  let settings ← w.settings source.dropLast
    (o.fields ++ [("file_name", .string (source.getLast?.getD ""))]) o.disabled
  let place : Shell.Place := { dir := w.dir, disk := w.disk }
  let command? : Option Lint.Command := settings.relintCommand.map fun line =>
    { line := line.toList, fileName := settings.fileName }
  let manner : Batch.Manner := match command? with
    | some command => .inWaves (some (command.linter w.programs place settings.relintTimeout)) (some settings.fileName)
    | none => .onePass
  let processor := Batch.Processor.fresh (settings.registry w.accepts) settings
  let (_, result, ledger?) :=
    (Batch.process { accepts := w.accepts } { code, diagnostics, manner }).run processor
  let disk := match command?, ledger? with
    | some command, some ledger => (command.after w.programs place ledger.questions).disk
    | _, _ => w.disk
  let destination? := if o.inPlace then some source else o.output?.map w.dir.under
  let notes := (settings.unknownRules w.accepts).map .unknownRule ++
    (ledger?.map (·.notes)).getD []
  return { options := o, result, disk, notes, destination? }

namespace Repaired

/-- The name under which a rule is shown. -/
def ruleCell : Option String → String
  | none | some "" => "-"
  | some rule => rule

/-- Repairs or failures as a table; none without them. -/
def tableOf? (title last : String) (summaries : List Batch.Summary) : Option Notice :=
  if summaries.isEmpty then none
  else some (.table {
    title
    columns := ["Line", "Column", "Rule", last]
    rows := summaries.map fun s =>
      [s.diagnostic.line.text, s.diagnostic.column.text, ruleCell s.diagnostic.rule, s.message] })

/-- How a run went, in one line. -/
def verdict (r : Repaired) : String :=
  let counts := "Fixed " ++ Json.intText r.result.applied.length ++ " of " ++
    Json.intText r.result.total ++ " issues" ++
    ((r.destination?.map fun l => ", wrote " ++ l.path).getD "")
  match r.result.fault? with
  | none => "Success: " ++ counts
  | some fault =>
    let message := if fault.message = "" then "Batch failed" else fault.message
    "Error: " ++ message ++ " (" ++ counts ++ ")"

/-- What is shown of a run. -/
def notices (r : Repaired) : List Notice :=
  (tableOf? "Applied Fixes" "Message" r.result.applied).toList ++
    (tableOf? "Failed Fixes" "Reason" r.result.failed).toList ++
    r.result.warnings.map (fun c => .text ("Warning: " ++ c.message)) ++
    [.text r.verdict]

/-- Items of a list, one a line. -/
def bullets (items : List String) : Notice :=
  .text ("\n".intercalate (items.map ("  - " ++ ·)))

/-- What is shown of the report on a run. -/
def reportNotices (f : Batch.Facts) (elapsed : Quantity) :
    Except Batch.ReportFault (List Notice) := do
  let rate ← f.successRate
  let reasons := (Batch.tallies (f.failed.map fun i => i.category.word)).mergeSort
    fun a b => !(b.1 < a.1)
  let titled (title : String) (items : List String) : List Notice :=
    if items.isEmpty then [] else [.text title, bullets items]
  return .text ("Success rate: " ++ Number.floatText rate ++ "% (" ++ f.fixed.text ++
      "/" ++ f.total.text ++ "), " ++ elapsed.tenths ++ " ms") ::
    titled "Failures by reason:" (reasons.map fun (reason, n) => reason ++ ": " ++ Json.intText n) ++
    titled "Recommendations:" f.advice

/-- The status after a run. -/
def status (r : Repaired) : Nat := if r.result.isSuccess then 0 else 1

/-- A run as JSON. -/
def toJson (r : Repaired) (elapsed : Quantity) : Except Failure Value := do
  let report ← if r.options.report then do
      pure [("report", ← (r.result.facts (some elapsed)).report.mapError .unreported)]
    else pure []
  return .object (r.result.toFields (some elapsed) ++ report)

/-- What is shown of a run and, if it is wanted, of the report on it. -/
def allNotices (r : Repaired) (elapsed : Quantity) : Except Failure (List Notice) := do
  if r.options.quiet then return []
  let report ← if r.options.report then
      (reportNotices (r.result.facts (some elapsed)) elapsed).mapError .unreported
    else pure []
  return r.notices ++ report

/-- The outcome of a run that is shown by some notices. -/
def shown (r : Repaired) (notices : List Notice) (disk : Disk) : Outcome :=
  let (lines, fault?) := Screen.ofNotices notices
  let crash? := fault?.map Failure.badMarkup
  let status := (crash?.map Failure.status).getD r.status
  if r.destination?.isSome then
    { status, output := .screen lines, notes := r.notes, disk, crash? }
  else
    let code := r.result.code
    let output := .verbatim (if code.getLast? = some '\n' then code else code ++ ['\n'])
    { status, output, errors := lines, notes := r.notes, disk, crash? }

/-- What is shown and returned of a run once its text is written. -/
def present (r : Repaired) (elapsed : Quantity) (disk : Disk) : Outcome :=
  let outcome : Except Failure Outcome :=
    if r.options.json then do
      return { status := r.status, output := .json (← r.toJson elapsed), notes := r.notes, disk }
    else do return r.shown (← r.allNotices elapsed) disk
  match outcome with
  | .ok outcome => outcome
  | .error f => f.outcome (.screen []) disk r.notes

/-- What a run leaves once it is known how many milliseconds it took. -/
def outcome (r : Repaired) (elapsed : Quantity) : Outcome :=
  match r.destination? with
  | none => r.present elapsed r.disk
  | some l =>
    match r.disk.write l (encode r.result.code) with
    | .ok disk => r.present elapsed disk
    | .error fault => (Failure.notWritten l fault).outcome (.screen []) r.disk r.notes

end Repaired

end LintRepair.Cli
