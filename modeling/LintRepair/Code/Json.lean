/-
Declarations and occurrences of names as JSON.
-/
import LintRepair.Code.Occurrence
import LintRepair.Json.Value

namespace LintRepair.Code

open Json

/-- A text as JSON. -/
def textJson (t : Text) : Value := .string (String.ofList t)

/-- Texts as JSON. -/
def textsJson (ts : List Text) : Value := .array (ts.map textJson)

/-- A declaration as JSON. -/
def Declaration.toJson (d : Declaration) : Value :=
  .object
    [("keyword", textJson d.keyword),
      ("start", .int d.start),
      ("end", .int d.stop),
      ("declarators", textsJson d.declarators),
      ("names", textsJson d.names),
      ("initialized", .bool d.initialized),
      ("for_kind", (d.forKind.map fun k => .string k.word).getD .null),
      ("for_paren", .int ((d.forParen.map Int.ofNat).getD (-1)))]

/-- The kind of a use, and how it changes the name if it does. -/
def Use.words : Use → Value × Value
  | .declaration => (.string "declaration", .null)
  | .reference => (.string "reference", .null)
  | .reassignment how => (.string "reassignment", .string how.word)

/-- An occurrence as JSON. -/
def Occurrence.toJson (o : Occurrence) : Value :=
  let (kind, how) := o.use.words
  .array [.int o.offset, kind, how]

/-- A span as JSON. -/
def Span.toJson (s : Span) : Value := .array [.int s.start, .int s.stop]

end LintRepair.Code
