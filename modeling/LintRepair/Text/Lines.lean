/-
Lines and positions. Only the line feed ends a line; lines and columns
count from one, and a column may stand one past the end of its line.

* `lines`, `unlines`: a text as its lines, with `unlines_lines`;
* `absoluteOffset`, `lineColumn`: a position as an offset and back;
* `replaceLine`, `deleteLine`: editing one line;
* `splice`, `replaceRange`: editing between two offsets.
-/
import LintRepair.Text.Basic

namespace LintRepair.Text

/-! ### A text as its lines -/

/-- The lines of a text; a final line feed is followed by an empty line. -/
def lines : Text → List Text
  | [] => [[]]
  | c :: rest =>
    if c = '\n' then [] :: lines rest
    else match lines rest with
      | [] => [[c]]
      | first :: others => (c :: first) :: others

/-- Lines put together again with line feeds between them. -/
def unlines : List Text → Text
  | [] => []
  | [last] => last
  | first :: others => first ++ '\n' :: unlines others

theorem lines_ne_nil (t : Text) : lines t ≠ [] := by
  cases t with
  | nil => simp [lines]
  | cons c rest =>
    rw [lines]
    split
    · simp
    · split <;> simp

theorem unlines_lines (t : Text) : unlines (lines t) = t := by
  induction t with
  | nil => rfl
  | cons c rest ih =>
    rw [lines]
    split
    · next h =>
      cases hl : lines rest with
      | nil => exact absurd hl (lines_ne_nil rest)
      | cons first others => simp [unlines, h, ← hl, ih]
    · cases hl : lines rest with
      | nil => exact absurd hl (lines_ne_nil rest)
      | cons first others =>
        rw [hl] at ih
        cases others <;> simp_all [unlines]

/-- How many of `count` items a bound keeps: a negative bound leaves out that
many at the end. -/
def keptBy (count : Nat) (bound : Int) : Nat :=
  if bound < 0 then (count + bound).toNat else min count bound.toNat

/-- The number of characters in lines, their line feeds included. -/
def widthOf : List Text → Nat
  | [] => 0
  | l :: rest => l.length + 1 + widthOf rest

/-! ### Positions -/

/-- Why a position lies outside a text: there is no such line among `count`,
or no such column on a line of `width` characters. -/
inductive PositionFault
  | line (count : Nat)
  | column (width : Nat)
  deriving DecidableEq, Repr

/-- The line with a number, if the text has one. -/
def line? (t : Text) (line : Int) : Option Text :=
  if line < 1 then none else (lines t)[(line - 1).toNat]?

/-- The line with a number; empty outside the text. -/
def getLine (t : Text) (line : Int) : Text := (line? t line).getD []

/-- The offset at which a line starts. Past the end it is where one more line
would start; below one, lines are left out at the end. -/
def lineStart (t : Text) (line : Int) : Nat :=
  let ls := lines t
  widthOf (ls.take (keptBy ls.length (line - 1)))

/-- Whether a position lies in a text. -/
def isValidPosition (t : Text) (line column : Int) : Bool :=
  match line? t line with
  | none => false
  | some text => 1 ≤ column && column ≤ text.length + 1

/-- The offset of a position. -/
def absoluteOffset (t : Text) (line column : Int) :
    Except PositionFault Nat :=
  match line? t line with
  | none => .error (.line (lines t).length)
  | some text =>
    if column < 1 ∨ text.length + 1 < column then .error (.column text.length)
    else .ok (lineStart t line + (column - 1).toNat)

/-- The position of an offset; an offset outside the text is moved to its
nearest end. -/
def lineColumn (t : Text) (offset : Int) : Nat × Nat :=
  let before := t.take (min t.length offset.toNat)
  (before.count '\n' + 1, (before.reverse.takeWhile (· != '\n')).length + 1)

/-- The offset at which the line starts that holds an offset. -/
def lineStartAt (t : Text) (offset : Nat) : Nat :=
  offset - ((t.take offset).reverse.takeWhile (· != '\n')).length

/-- The offset at which the line ends that holds an offset. -/
def lineEndAt (t : Text) (offset : Nat) : Nat :=
  offset + ((t.drop offset).takeWhile (· != '\n')).length

/-! ### Edits -/

/-- The text with one line replaced; the new text may hold several lines. -/
def replaceLine (t : Text) (line : Int) (new : Text) : Option Text :=
  if (line? t line).isNone then none
  else some (unlines ((lines t).set (line - 1).toNat new))

/-- The text without one of its lines. -/
def deleteLine (t : Text) (line : Int) : Option Text :=
  if (line? t line).isNone then none
  else some (unlines ((lines t).eraseIdx (line - 1).toNat))

/-- The text with the part from `lo` up to `hi` exchanged for another. -/
def splice (t : Text) (lo hi : Nat) (new : Text) : Text :=
  t.take lo ++ new ++ t.drop hi

/-- The text with the part from `lo` up to `hi` exchanged for another; none
if those offsets do not delimit a part of the text. -/
def replaceRange (t : Text) (lo hi : Int) (new : Text) : Option Text :=
  if lo < 0 ∨ t.length < hi ∨ hi < lo then none
  else some (splice t lo.toNat hi.toNat new)

theorem absoluteOffset_isOk (t : Text) (line column : Int) :
    (∃ o, absoluteOffset t line column = .ok o) ↔
      isValidPosition t line column := by
  unfold absoluteOffset isValidPosition
  cases line? t line with
  | none => simp
  | some text =>
    simp only [Bool.and_eq_true, decide_eq_true_eq]
    split
    · simp only [reduceCtorEq, exists_false, false_iff]; omega
    · simp only [Except.ok.injEq, exists_eq', true_iff]; omega

end LintRepair.Text
