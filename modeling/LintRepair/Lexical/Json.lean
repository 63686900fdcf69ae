/-
Contexts and verdicts on positions as JSON.
-/
import LintRepair.Json.Value
import LintRepair.Lexical.Context

namespace LintRepair.Lexical

open Json

/-- A context as JSON. -/
def Context.toJson (c : Context) : Value :=
  .object
    [("in_string", .bool c.inString),
      ("in_comment", .bool c.inComment),
      ("in_regex", .bool c.inRegex),
      ("in_template", .bool c.inTemplate),
      ("in_template_expression", .bool c.inTemplateExpression),
      ("string_char", (c.stringChar.map fun q => .string (String.singleton q)).getD .null),
      ("comment_type", (c.commentForm.map fun f => .string f.word).getD .null),
      ("is_code", .bool c.isCode)]

/-- The verdict on the position of a diagnostic as JSON. -/
def Zone.toJson (d : Diagnostic) (z : Zone) : Value :=
  .object
    [("is_safe", .bool z.isSafe),
      ("reason", .string (z.reason d)),
      ("context", (z.context?.map Context.toJson).getD .null)]

end LintRepair.Lexical
