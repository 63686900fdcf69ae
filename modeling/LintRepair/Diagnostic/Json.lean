/-
Diagnostics as JSON, in the shape in which linters report them.

* `Diagnostic.ofJson`, `Diagnostic.toJson`: one diagnostic;
* `diagnosticsOf`: the diagnostics of a report, which is a list of results, one
  result, or a plain list of messages;
* `readReport`: the diagnostics of a report that is still text;
* `FormatFault`: why a report cannot be read.
-/
import LintRepair.Diagnostic.Basic
import LintRepair.Json.Reader

namespace LintRepair

open Json

/-- Where the text of a report comes from. -/
inductive Source
  | linter
  | file
  deriving DecidableEq, Repr

/-- The words for a source. -/
def Source.text : Source → String
  | .linter => "Linter output"
  | .file => "Diagnostics file"

/-- Why a report cannot be read. -/
inductive FormatFault
  /-- A message is no object, but a value of another kind. -/
  | notObject (kind : String)
  /-- The line or the column of a message is no number. -/
  | badPosition (data : Value)
  /-- A result object holds no messages. -/
  | noMessages
  /-- A report is no list, but a value of another kind. -/
  | notList (kind : String)
  /-- The messages of a result are no list. -/
  | messagesNotList
  /-- The text is not JSON. -/
  | notJson (source : Source)
  /-- A whole number in the text has too many digits. -/
  | tooLong (digits : Nat)
  /-- Values in the text are nested too deeply. -/
  | tooDeep (form : Container)

/-- The wording of a fault of a report. -/
def FormatFault.message : FormatFault → String
  | .notObject kind => "Diagnostic must be an object, got " ++ kind
  | .badPosition data =>
    "Diagnostic requires integer 'line' and 'column': " ++ display data
  | .noMessages => "Result object has no 'messages' list"
  | .notList kind => "Expected a list of results or messages, got " ++ kind
  | .messagesNotList => "'messages' must be a list"
  | .notJson source => source.text ++ " is not valid JSON"
  | .tooLong digits => Number.tooLongText digits
  | .tooDeep form =>
    "maximum recursion depth exceeded while decoding a JSON " ++ form.word ++
      " from a unicode string"

/-- Whether a fault is one of the report, and not a limit of its reader. -/
def FormatFault.isOfReport : FormatFault → Bool
  | .tooLong _ | .tooDeep _ => false
  | _ => true

/-- The fault of a report whose text cannot be read. -/
def FormatFault.ofText (source : Source) : Json.Fault → FormatFault
  | .malformed => .notJson source
  | .tooLong digits => .tooLong digits
  | .tooDeep form => .tooDeep form

/-- The value of the first of two fields that is there. -/
def eitherField (v : Value) (first second : String) : Option Value :=
  v.field? first <|> v.field? second

/-- The severity that a value stands for, as a word or as the number that
linters use; a violation is an error unless it says otherwise. -/
def Severity.ofJson : Option Value → Severity
  | some (.int 1) | some (.bool true) | some (.string "warning") => .warning
  | _ => .error

/-- The diagnostic that an object describes. -/
def Diagnostic.ofJson (v : Value) : Except FormatFault Diagnostic :=
  match v with
  | .object _ =>
    match (v.field? "line").bind Whole.ofJson?,
      (v.field? "column").bind Whole.ofJson? with
    | some line, some column =>
      .ok {
        rule := match eitherField v "ruleId" "rule_id" with
          | some (.string rule) => some rule
          | _ => none
        message := ((v.field? "message").map plain).getD ""
        line
        column
        endLine := Value.present? (eitherField v "endLine" "end_line")
        endColumn := Value.present? (eitherField v "endColumn" "end_column")
        severity := .ofJson (v.field? "severity") }
    | _, _ => .error (.badPosition v)
  | _ => .error (.notObject v.kind)

/-- A rule as JSON. -/
def ruleJson : Option String → Value
  | some rule => .string rule
  | none => .null

/-- A field, if it has a value. -/
def optionalField (key : String) : Option Value → Fields
  | some v => [(key, v)]
  | none => []

/-- A diagnostic as an object. -/
def Diagnostic.toJson (d : Diagnostic) : Value :=
  .object ([("ruleId", ruleJson d.rule), ("message", .string d.message),
    ("line", d.line.toJson), ("column", d.column.toJson),
    ("severity", .string d.severity.word)] ++
    optionalField "endLine" d.endLine ++ optionalField "endColumn" d.endColumn)

/-- The diagnostics of one entry of a report: those of a result object, or the
one that the entry itself is. -/
def diagnosticsOfEntry (v : Value) : Except FormatFault (List Diagnostic) :=
  match v.field? "messages" with
  | some (.array messages) => messages.mapM Diagnostic.ofJson
  | some _ => .error .messagesNotList
  | none => do return [← Diagnostic.ofJson v]

/-- The diagnostics of a report, in their order. -/
def diagnosticsOf (v : Value) : Except FormatFault (List Diagnostic) :=
  match v with
  | .object _ =>
    if (v.field? "messages").isSome then diagnosticsOfEntry v else .error .noMessages
  | .array entries => do return (← entries.mapM diagnosticsOfEntry).flatten
  | _ => .error (.notList v.kind)

/-- The diagnostics of a report that is still text. -/
def readReport (source : Source) (t : Text) : Except FormatFault (List Diagnostic) :=
  match read t with
  | .ok v => diagnosticsOf v
  | .error fault => .error (.ofText source fault)

end LintRepair
