/-
The rule `comma-dangle`.

* `commaDangle`: inserts or takes out the comma behind the last item of a
  list, as the message asks.
-/
import LintRepair.Code.Bracket
import LintRepair.Rules.Editing

namespace LintRepair.Rules.Comma

open Text Lexical Code Repair Check

/-- Whether a message asks for a comma. -/
def isWanted (message : String) : Bool :=
  ["Missing trailing comma", "Expected trailing comma"].any fun m =>
    contains message.toList m.toList

/-- Whether a message is about a comma too many. -/
def isForbidden (message : String) : Bool :=
  ["Unexpected trailing comma", "Trailing comma"].any fun m =>
    contains message.toList m.toList

/-- How far behind the start of a text its enclosing bracket closes; `depth`
brackets are open. -/
def enclosingCloser? (depth : Nat) : Text → Option Nat
  | [] => none
  | c :: rest =>
    if isOpener c then (enclosingCloser? (depth + 1) rest).map (· + 1)
    else if isCloser c then
      if depth = 0 then some 0 else (enclosingCloser? (depth - 1) rest).map (· + 1)
    else (enclosingCloser? depth rest).map (· + 1)

/-- Where a comma would be inserted: behind the last item before the bracket
that closes around the position. -/
def insertion? (code : Text) (d : Diagnostic) : Option Nat :=
  match absoluteOffset code d.line.value d.column.value with
  | .error _ => none
  | .ok start =>
    let masked := mask code
    match enclosingCloser? 0 (masked.drop start) with
    | none => none
    | some n =>
      let items := trimRight (masked.take (start + n))
      if items.isEmpty || endsIn (fun c => isOpener c || c == ',') items then none
      else some items.length

/-- How far from the column a comma is looked for. -/
def searchRadius : Nat := 10

/-- The comma nearest to the column that a closing bracket follows. -/
def dangling? (code : Text) (d : Diagnostic) : Option Nat :=
  let masked := mask code
  let row := maskedLineOf code d
  let base := lineStartOf code d
  ((around (columnOf d) searchRadius row.length).find? fun i =>
    row[i]? == some ',' && startsIn isCloser (trimLeft (masked.drop (base + i + 1)))).map
      (base + ·)

/-- The rule `comma-dangle`. -/
def commaDangle : Method where
  detect code d :=
    if isWanted d.message then (insertion? code d).isSome
    else isForbidden d.message && (dangling? code d).isSome
  edit code d :=
    if isWanted d.message then
      match insertion? code d with
      | none => decline "no list element before a closing bracket"
      | some i => .ok (splice code i i [','])
    else
      match dangling? code d with
      | none => decline "no trailing comma near the reported position"
      | some i => .ok (splice code i (i + 1) [])
  keeps before after :=
    bracketCounts before == bracketCounts after &&
      distance (codeCount ',' before) (codeCount ',' after) == 1

end LintRepair.Rules.Comma
