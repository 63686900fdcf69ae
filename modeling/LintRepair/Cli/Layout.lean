/-
Text in lines of a limited width.

* `expandTabs`: a line with spaces for its tabs;
* `broken`: a line cut between words, so that its parts fit where they can,
  with `flatten_broken`;
* `wrap`: a text as lines that fit;
* `columnWidths`: the widths of columns that share some room.

Widths count the cells of the screen.
-/
import LintRepair.Number.Shortest
import LintRepair.Text.Lines
import LintRepair.Text.Width

namespace LintRepair.Cli.Layout

open Text

/-! ### Lines -/

/-- What becomes of a word that is wider than a line. -/
inductive Overflow
  /-- It is continued on further lines. -/
  | fold
  /-- It is cut, with a sign for what is left out. -/
  | ellipsis
  deriving DecidableEq, Repr

/-- A line that starts at some cell, with spaces for tabs up to the next
multiple of eight. -/
def expandTabs (position : Nat) : Text → Text
  | [] => []
  | c :: rest =>
    if c = '\t' then
      let gap := 8 - position % 8
      List.replicate gap ' ' ++ expandTabs (position + gap) rest
    else c :: expandTabs (position + cellsIn c) rest

/-- The words of a line with the blanks after them; those that the line starts
with belong to its first word. -/
def words (t : Text) : List Text :=
  match _h : t.dropWhile isBlank with
  | [] => []
  | c :: rest =>
    let after := rest.dropWhile (! isBlank ·)
    (t.takeWhile isBlank ++ c :: rest.takeWhile (! isBlank ·) ++ after.takeWhile isBlank) ::
      words (after.dropWhile isBlank)
termination_by t.length
decreasing_by
  have whole := (List.dropWhile_sublist isBlank (l := t)).length_le
  have part := (List.dropWhile_sublist (! isBlank ·) (l := rest)).length_le
  have gap := (List.dropWhile_sublist isBlank (l := rest.dropWhile (! isBlank ·))).length_le
  rw [_h, List.length_cons] at whole
  omega

/-- A text cut wherever it fills a line, after a line that takes some cells. -/
def chop (width taken : Nat) : Text → List Text
  | [] => [[]]
  | c :: rest =>
    if width < taken + cellsIn c then
      match chop width (cellsIn c) rest with
      | line :: others => [] :: (c :: line) :: others
      | [] => [[], [c]]
    else
      match chop width (taken + cellsIn c) rest with
      | line :: others => (c :: line) :: others
      | [] => [[c]]

/-- The lines that some words take after those on a line that is begun. -/
def placed (width : Nat) (overflow : Overflow) (line : Text) (taken : Nat) :
    List Text → List Text
  | [] => [line]
  | word :: rest =>
    let size := cells (trimRight word)
    let done := if line.isEmpty then [] else [line]
    if taken + size ≤ width then
      placed width overflow (line ++ word) (taken + cells word) rest
    else if width < size ∧ overflow = .fold then
      let parts := chop width 0 word
      let last := parts.getLast?.getD []
      done ++ parts.dropLast ++ placed width overflow last (cells last) rest
    else done ++ placed width overflow word (cells word) rest

/-- A line cut between words. -/
def broken (width : Nat) (overflow : Overflow) (t : Text) : List Text :=
  match words t with
  | [] => [t]
  | ws => placed width overflow [] 0 ws

/-- A line without the blanks at its end that lie beyond a width. -/
def withoutExcess (width : Nat) (t : Text) : Text :=
  t.take (t.length - min (t.length - width) (t.reverse.takeWhile isBlank).length)

/-- A line that takes no more than a width. -/
def fitted (width : Nat) (overflow : Overflow) (t : Text) : Text :=
  let t := withoutExcess width t
  if cells t ≤ width then t
  else match overflow with
    | .fold => crop width t
    | .ellipsis => crop (width - 1) t ++ ['…']

/-- A text as lines that fit. -/
def wrap (width : Nat) (overflow : Overflow) (t : Text) : List Text :=
  (lines t).flatMap fun l => (broken width overflow (expandTabs 0 l)).map (fitted width overflow)

/-! ### Columns -/

/-- Whether a character ends a line where the width of a text is measured. -/
def endsLine (c : Char) : Bool :=
  [0xA, 0x1C, 0x1D, 0x1E, 0x85, 0x2028, 0x2029].contains c.toNat

/-- The width of a text: that of its widest line. -/
def widthOf (t : Text) : Nat := ((t.splitOnP endsLine).map cells).foldl max 0

/-- Widths, with the largest of them made smaller by shares of an excess that
are as equal as can be, none of them above a bound. -/
def lessened (excess largest bound shares : Nat) : List Nat → List Nat
  | [] => []
  | w :: rest =>
    if w = largest then
      let share := min bound (Number.roundDiv excess shares)
      (w - share) :: lessened (excess - share) largest bound (shares - 1) rest
    else w :: lessened excess largest bound shares rest

/-- The sum of some widths. -/
def total (widths : List Nat) : Nat := widths.foldl (· + ·) 0

/-- Widths that share some room: the largest are made smaller until they meet
the next, and so on. -/
def narrowed (room : Nat) : Nat → List Nat → List Nat
  | 0, widths => widths
  | fuel + 1, widths =>
    let excess := total widths - room
    if excess = 0 then widths
    else
      let largest := widths.foldl max 0
      let next := (widths.filter (· != largest)).foldl max 0
      narrowed room fuel
        (lessened excess largest (min excess (largest - next)) (widths.count largest) widths)

/-- The widths of columns with some contents, with a blank on either side,
that share some room. -/
def columnWidths (room : Nat) (columns : List (List Text)) : List Nat :=
  let natural := columns.map fun texts =>
    min room ((texts.map widthOf).foldl max 0 + 2)
  (narrowed room (total natural) natural).map (· - 2)

/-! ### Laws -/

theorem chop_ne_nil (width taken : Nat) (t : Text) : chop width taken t ≠ [] := by
  cases t with
  | nil => simp [chop]
  | cons c rest =>
    rw [chop]
    split <;> split <;> simp

/-- Nothing is lost where a text is cut. -/
theorem flatten_chop (width taken : Nat) (t : Text) : (chop width taken t).flatten = t := by
  induction t generalizing taken with
  | nil => simp [chop]
  | cons c rest ih =>
    rw [chop]
    split
    · have := ih (cellsIn c)
      split
      · next h => simpa [h] using this
      · next h => exact absurd h (chop_ne_nil width (cellsIn c) rest)
    · have := ih (taken + cellsIn c)
      split
      · next h => simpa [h] using this
      · next h => exact absurd h (chop_ne_nil width (taken + cellsIn c) rest)

theorem dropWhile_dropWhile (p : Char → Bool) (t : Text) :
    (t.dropWhile p).dropWhile p = t.dropWhile p := by
  induction t with
  | nil => rfl
  | cons c rest ih => by_cases h : p c <;> simp [h, ih]

theorem dropWhile_of_words_eq_nil {t : Text} (h : words t = []) : t.dropWhile isBlank = [] := by
  rw [words] at h
  split at h
  · assumption
  · simp at h

/-- The words of a line make up all of it, unless there is none. -/
theorem flatten_words (t : Text) (h : words t ≠ []) : (words t).flatten = t := by
  fun_induction words t with
  | case1 => exact absurd rfl h
  | case2 t c rest hrest after ih =>
    have htail : (words (after.dropWhile isBlank)).flatten = after.dropWhile isBlank := by
      by_cases hw : words (after.dropWhile isBlank) = []
      · have hblank := dropWhile_of_words_eq_nil hw
        rw [dropWhile_dropWhile] at hblank
        rw [hw, hblank]
        rfl
      · exact ih hw
    rw [List.flatten_cons, htail, List.append_assoc, List.takeWhile_append_dropWhile,
      List.append_assoc, List.cons_append, List.takeWhile_append_dropWhile, ← hrest,
      List.takeWhile_append_dropWhile]

/-- The lines hold the words in their order. -/
theorem flatten_placed (width : Nat) (overflow : Overflow) (line : Text) (taken : Nat)
    (ws : List Text) : (placed width overflow line taken ws).flatten = line ++ ws.flatten := by
  induction ws generalizing line taken with
  | nil => simp [placed]
  | cons word rest ih =>
    have hdone : (if line.isEmpty then [] else [line]).flatten = line := by
      cases line <;> simp
    rw [placed]
    split
    · rw [ih, List.flatten_cons, List.append_assoc]
    · split
      · have hparts := flatten_chop width 0 word
        obtain ⟨before, last, hsplit⟩ := List.eq_nil_or_concat (chop width 0 word)
          |>.resolve_left (chop_ne_nil width 0 word)
        rw [List.concat_eq_append] at hsplit
        rw [hsplit, List.flatten_append, List.flatten_singleton] at hparts
        simp only [hsplit, List.dropLast_concat, List.getLast?_concat, Option.getD_some,
          List.flatten_append, List.flatten_cons, hdone, ih]
        rw [← hparts]
        simp only [List.append_assoc]
      · rw [List.flatten_append, ih, hdone, List.flatten_cons]

/-- Nothing is lost where a line is cut. -/
theorem flatten_broken (width : Nat) (overflow : Overflow) (t : Text) :
    (broken width overflow t).flatten = t := by
  rw [broken]
  split
  · simp
  · next h => rw [flatten_placed, List.nil_append, flatten_words t h]

end LintRepair.Cli.Layout
