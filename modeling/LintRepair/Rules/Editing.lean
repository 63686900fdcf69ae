/-
What the rules share: edits of one line, and the search around a column.

* `setLine`: the text with the diagnostic's line replaced;
* `around`: the offsets near a column, the nearest first;
* `nearest?`: the first of some items with the least distance;
* `columnOf`, `lineOf`, `maskedLineOf`: what a diagnostic points at.
-/
import LintRepair.Repair.Fixer

namespace LintRepair.Rules

open Text Lexical Repair

/-- The offset on its line that a diagnostic points at. -/
def columnOf (d : Diagnostic) : Int := d.column.value - 1

/-- The line that a diagnostic points at. -/
def lineOf (code : Text) (d : Diagnostic) : Text := getLine code d.line.value

/-- The masked line that a diagnostic points at. -/
def maskedLineOf (code : Text) (d : Diagnostic) : Text := maskedLine code d.line.value

/-- The offset at which the line starts that a diagnostic points at. -/
def lineStartOf (code : Text) (d : Diagnostic) : Nat := lineStart code d.line.value

/-- The text with the diagnostic's line replaced. -/
def setLine (code : Text) (d : Diagnostic) (new : Text) : Except Setback Text :=
  match replaceLine code d.line.value new with
  | some after => .ok after
  | none => .error (.mishap ("Line " ++ d.line.text ++ " is outside the source"))

/-- The text without the diagnostic's line. -/
def removeLine (code : Text) (d : Diagnostic) : Except Setback Text :=
  match deleteLine code d.line.value with
  | some after => .ok after
  | none => .error (.mishap ("Line " ++ d.line.text ++ " is outside the source"))

/-- The offsets at most `radius` from a column that lie on a line of a given
length, the nearest first and of two the one behind. -/
def around (column : Int) (radius length : Nat) : List Nat :=
  let candidates : List Int := column ::
    (List.range radius).flatMap fun n => [column + (n + 1 : Nat), column - (n + 1 : Nat)]
  candidates.filterMap fun (i : Int) => if 0 ≤ i ∧ i < length then some i.toNat else none

/-- The first of some items with the least distance. -/
def nearest? {α : Type} (distance : α → Nat) : List α → Option α
  | [] => none
  | a :: rest => some (rest.foldl (fun best b =>
      if distance b < distance best then b else best) a)

/-- How far an offset lies from a column. -/
def gap (column : Int) (offset : Nat) : Nat := (column - offset).natAbs

/-- How often a character stands in code. -/
def codeCount (c : Char) (t : Text) : Nat := (mask t).count c

end LintRepair.Rules
