/-
What could be repaired: the diagnostics of a file, and the rules that there
are fixers for.

* `Survey`: how many diagnostics there are of which rules;
* `check`: the survey of a file;
* `rules`: the rules with their fixers.
-/
import LintRepair.Batch.Report
import LintRepair.Cli.Arguments
import LintRepair.Cli.World
import LintRepair.Config.Fixers
import LintRepair.Repair.Registry

namespace LintRepair.Cli

open Json Repair

/-- What can be done about the diagnostics of a rule. -/
inductive Remedy
  | fixable
  | disabled
  | manual
  deriving DecidableEq, Repr

/-- The word for a remedy. -/
def Remedy.word : Remedy → String
  | .fixable => "fixable"
  | .disabled => "disabled"
  | .manual => "manual"

/-- What can be done about the diagnostics of a rule. -/
def remedy (r : Registry) (rule : String) : Remedy :=
  if r.isFixable (some rule) then .fixable
  else if r.isRegistered rule then .disabled
  else .manual

/-- The name under which the diagnostics of a rule are counted. -/
def groupName : Option String → String
  | none | some "" => "(parser)"
  | some rule => rule

/-- What a check finds. -/
structure Survey where
  total : Nat
  fixable : Nat
  /-- How many can be repaired where they are. -/
  applicable : Nat
  rules : List (String × Nat × Remedy)

/-- Whether a diagnostic can be repaired in a text. -/
def canFix (r : Registry) (code : Text) (d : Diagnostic) : Except Raised Bool :=
  match r.fixer? d.rule with
  | some f => f.canFix code d
  | none => .ok false

/-- What could be repaired in a text, unless a fixer raises an error. -/
def survey (r : Registry) (code : Text) (ds : List Diagnostic) : Except Raised Survey := do
  let applicable ← ds.filterM (canFix r code)
  let names := Batch.tallies (ds.map fun d => groupName d.rule)
  return {
    total := ds.length
    fixable := ds.countP fun d => r.isFixable d.rule
    applicable := applicable.length
    rules := (names.mergeSort fun a b => !(b.1 < a.1)).map
      fun (rule, n) => (rule, n, remedy r rule) }

/-- A survey as JSON. -/
def Survey.toJson (s : Survey) : Value :=
  .object
    [("total", .int s.total),
      ("fixable", .int s.fixable),
      ("applicable", .int s.applicable),
      ("rules", .array (s.rules.map fun (rule, n, remedy) => .object
        [("rule_id", .string rule), ("count", .int n), ("status", .string remedy.word)]))]

/-- What is shown of a survey. -/
def Survey.notices (s : Survey) : List Notice :=
  [.text (Json.intText s.fixable ++ " of " ++ Json.intText s.total ++ " issues are auto-fixable")] ++
    (if s.fixable = 0 then []
      else [.text (Json.intText s.applicable ++ " can be fixed at their reported positions")]) ++
    if s.rules.isEmpty then []
    else [.table {
      title := "Diagnostics by Rule"
      columns := ["Rule", "Count", "Status"]
      rows := s.rules.map fun (rule, n, remedy) => [rule, Json.intText n, remedy.word] }]

/-- Checks what could be repaired in a file. -/
def check (w : World) (o : CheckOptions) : Except Failure Outcome := do
  let source := w.dir.under o.source
  let code ← w.read .source source
  let ds ← w.diagnostics o.diagnostics
  let settings ← w.settings source.dropLast [] o.disabled
  let notes := (settings.unknownRules w.accepts).map .unknownRule
  return match survey (settings.registry w.accepts) code ds with
    | .error e => (Failure.raised e).outcome (.screen []) w.disk notes
    | .ok s =>
      if o.json then { status := 0, output := .json s.toJson, notes, disk := w.disk }
      else displayed s.notices w.disk notes

/-- Lists the rules. -/
def rules (w : World) (o : RulesOptions) : Except Failure Outcome := do
  let settings ← w.settings w.dir [] o.disabled
  let registry := settings.registry w.accepts
  let notes := (settings.unknownRules w.accepts).map .unknownRule
  let profiles := registry.rules.filterMap registry.profile?
  if o.json then
    let v : Value := .object
      [("rules", .array (profiles.map Profile.toJson)), ("stats", registry.counts.toJson)]
    return { status := 0, output := .json v, notes, disk := w.disk }
  return displayed [.table {
    title := "Fixable Rules"
    columns := ["Rule", "Complexity", "Enabled", "Description"]
    rows := profiles.map fun p =>
      [p.rule, p.complexity, if p.enabled then "yes" else "no", p.description] }] w.disk notes

end LintRepair.Cli
