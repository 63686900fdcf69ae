/-
Positions and offsets.

* `count_ended`: a line has one line feed above it for each line there;
* `exists_around_of_le`: every offset of a text lies on one of its lines;
* `Around.lineColumn`, `Around.absoluteOffset`: the position of an offset on a line, and the
  offset of that position;
* `absoluteOffset_eq_of_take_eq`: it is the same in every text that agrees before that offset;
* `LineStarts`: where the line of an offset starts;
* `positions_offsets`: the positions of a text and its offsets go with each other one by one.
-/
import LintRepair.Proofs.Text.Around

namespace LintRepair.Text

variable {t u l : Text} {line column : Int} {offset i j : Nat} {above below ls : List Text}

/-! ### Lines and their line feeds -/

/-- Lines with a line feed behind each hold no other line feeds. -/
lemma count_ended (feeds : ∀ l ∈ ls, '\n' ∉ l) : (ended ls).count '\n' = ls.length := by
  induction ls with
  | nil => rfl
  | cons first others ih =>
      rw [List.forall_mem_cons] at feeds
      have parts : ended (first :: others) = (first ++ ['\n']) ++ ended others := rfl
      rw [parts, List.count_append, List.count_append, List.count_eq_zero.mpr feeds.1, ih feeds.2,
        List.count_singleton_self, List.length_cons]
      omega

/-- Every offset of lines put together is one of a line, or of its end. -/
lemma exists_of_le_length_unlines (some' : ls ≠ []) (within : offset ≤ (unlines ls).length) :
    ∃ above l below k, ls = above ++ l :: below ∧ k ≤ l.length ∧
      offset = (ended above).length + k := by
  induction ls generalizing offset with
  | nil => exact absurd rfl some'
  | cons first others ih =>
      by_cases here : offset ≤ first.length
      · exact ⟨[], first, others, offset, rfl, here, (Nat.zero_add offset).symm⟩
      have more : others ≠ [] := by
        rintro rfl
        exact here within
      -- The line feed behind the first line has been passed.
      rw [unlines_cons first more, List.length_append, List.length_cons] at within
      obtain ⟨above, l, below, k, rfl, inside, place⟩ :=
        @ih (offset - (first.length + 1)) more (by omega)
      refine ⟨first :: above, l, below, k, rfl, inside, ?_⟩
      have parts : ended (first :: above) = (first ++ ['\n']) ++ ended above := rfl
      rw [parts, List.length_append, List.length_append, List.length_singleton]
      omega

/-- A line is that with the number of the lines above it. -/
lemma around_of_lines_eq (shape : lines t = above ++ l :: below) :
    Around t (above.length + 1) above l below := by
  refine ⟨shape, by simp, ?_⟩
  rw [line?, if_neg (by omega), shape]
  simp

/-- **Every offset of a text lies on a line**, or at its end. -/
lemma exists_around_of_le (within : offset ≤ t.length) :
    ∃ above l below k, Around t (above.length + 1) above l below ∧ k ≤ l.length ∧
      offset = (ended above).length + k := by
  rw [← unlines_lines t] at within
  obtain ⟨above, l, below, k, shape, inside, place⟩ :=
    exists_of_le_length_unlines (lines_ne_nil t) within
  exact ⟨above, l, below, k, around_of_lines_eq shape, inside, place⟩

/-! ### From a position to an offset and back -/

namespace Around

variable {k : Nat}

lemma line_eq (h : Around t line above l below) : line = above.length + 1 := by
  have there : (Text.line? t line).isSome = true := by rw [h.line?]; rfl
  have low := (line?_isSome_iff.mp there).1
  have number := h.number
  omega

/-- What stands before an offset of a line. -/
lemma take (h : Around t line above l below) (inside : k ≤ l.length) :
    t.take ((ended above).length + k) = ended above ++ l.take k := by
  conv_lhs => rw [h.eq]
  rw [List.take_length_add_append, List.take_append_of_le_length inside]

lemma length_le (h : Around t line above l below) (inside : k ≤ l.length) :
    (ended above).length + k ≤ t.length := by
  rw [h.eq, List.length_append, List.length_append]
  omega

lemma newline_notMem_above (h : Around t line above l below) : ∀ l' ∈ above, '\n' ∉ l' := by
  intro l' among
  refine newline_notMem_of_mem_lines (t := t) l' ?_
  rw [h.lines_eq]
  exact List.mem_append_left _ among

/-- The position of an offset of a line: as many lines are above it as line feeds stand
before it, and back to the last of these it is the length of a part of the line. -/
lemma lineColumn (h : Around t line above l below) (inside : k ≤ l.length) :
    lineColumn t ((ended above).length + k : Nat) = (above.length + 1, k + 1) := by
  have plain : '\n' ∉ l.take k := fun among => h.newline_notMem (List.mem_of_mem_take among)
  have part : ∀ c ∈ (l.take k).reverse, (c != '\n') = true := by
    intro c among
    rw [bne_iff_ne]
    rintro rfl
    exact plain (List.mem_reverse.mp among)
  have stop : (ended above).reverse.takeWhile (· != '\n') = [] := by
    cases first : (ended above).reverse with
    | nil => rfl
    | cons c rest =>
        have last : (ended above).getLast? = some c := by rw [← List.head?_reverse, first]; rfl
        obtain rfl := eq_newline_of_ended c last
        rfl
  rw [Text.lineColumn, Int.toNat_natCast, Nat.min_eq_right (h.length_le inside), h.take inside,
    List.count_append, count_ended h.newline_notMem_above, List.count_eq_zero.mpr plain,
    List.reverse_append, List.takeWhile_append_of_pos part, stop, List.append_nil,
    List.length_reverse, List.length_take_of_le inside, Nat.add_zero]

/-- The columns of a line are those of its characters, and one more. -/
lemma isValidPosition_iff (h : Around t line above l below) :
    isValidPosition t line column = true ↔ 1 ≤ column ∧ column ≤ l.length + 1 := by
  rw [isValidPosition, h.line?]
  simp

/-- The offset of the position with a column that the line has. -/
lemma absoluteOffset (h : Around t line above l below) (low : 1 ≤ column)
    (high : column ≤ l.length + 1) :
    absoluteOffset t line column = .ok ((ended above).length + (column - 1).toNat) := by
  rw [Text.absoluteOffset, h.line?]
  dsimp only
  rw [if_neg (by omega), h.lineStart]

end Around

/-- A position lies in a text just on one of its lines. -/
lemma exists_around_of_isValidPosition (valid : isValidPosition t line column = true) :
    ∃ above l below, Around t line above l below ∧ 1 ≤ column ∧ column ≤ l.length + 1 := by
  cases there : line? t line with
  | none =>
      rw [isValidPosition, there] at valid
      cases valid
  | some l =>
      obtain ⟨above, below, h⟩ := exists_around there
      exact ⟨above, l, below, h, h.isValidPosition_iff.mp valid⟩

/-- There is no offset for a position just if it does not lie in the text. -/
lemma absoluteOffset_isError (t : Text) (line column : Int) :
    (∃ fault, absoluteOffset t line column = .error fault) ↔
      isValidPosition t line column = false := by
  rw [← Bool.not_eq_true, ← absoluteOffset_isOk]
  cases absoluteOffset t line column <;> simp

/-- The position of the offset of a position is that position. -/
lemma lineColumn_of_absoluteOffset (place : absoluteOffset t line column = .ok offset) :
    offset ≤ t.length ∧ ((lineColumn t offset).1 : Int) = line ∧
      ((lineColumn t offset).2 : Int) = column := by
  have valid := (absoluteOffset_isOk t line column).mp ⟨offset, place⟩
  obtain ⟨above, l, below, h, low, high⟩ := exists_around_of_isValidPosition valid
  have inside : (column - 1).toNat ≤ l.length := by omega
  rw [h.absoluteOffset low high] at place
  obtain rfl := Except.ok.inj place
  rw [h.lineColumn inside, h.line_eq]
  refine ⟨h.length_le inside, by simp, ?_⟩
  dsimp only
  omega

/-- The offset of the position of an offset is that offset. -/
lemma absoluteOffset_lineColumn (within : offset ≤ t.length) :
    absoluteOffset t (lineColumn t offset).1 (lineColumn t offset).2 = .ok offset := by
  obtain ⟨above, l, below, k, h, inside, rfl⟩ := exists_around_of_le within
  rw [h.lineColumn inside]
  dsimp only
  rw [Int.natCast_succ, h.absoluteOffset (by omega) (by omega)]
  simp

/-! ### Texts that agree before an offset -/

lemma take_eq_of_le {n m : Nat} (alike : t.take n = u.take n) (le : m ≤ n) :
    t.take m = u.take m := by
  have cut := congrArg (List.take m) alike
  rwa [List.take_take, List.take_take, Nat.min_eq_left le] at cut

lemma getElem?_eq_of_take_eq {n : Nat} (alike : t.take n = u.take n) (before : j < n) :
    t[j]? = u[j]? := by
  rw [← List.getElem?_take_of_lt before, alike, List.getElem?_take_of_lt before]

/-- Lines and columns are counted in what stands before an offset. -/
lemma lineColumn_eq_of_take_eq (alike : t.take i = u.take i) :
    lineColumn t i = lineColumn u i := by
  have cut : ∀ v : Text, v.take (min v.length i) = v.take i := by
    intro v
    rw [Nat.min_comm, ← List.take_take, List.take_length]
  rw [lineColumn, lineColumn, Int.toNat_natCast, cut, cut, alike]

/-- A position keeps its offset where the text before it is kept. -/
lemma absoluteOffset_eq_of_take_eq {line column : Int} (alike : t.take i = u.take i)
    (place : absoluteOffset t line column = .ok i) : absoluteOffset u line column = .ok i := by
  obtain ⟨within, line_eq, column_eq⟩ := lineColumn_of_absoluteOffset place
  have within' : i ≤ u.length := by
    have lengths := congrArg List.length alike
    rw [List.length_take_of_le within, List.length_take] at lengths
    omega
  have place' := absoluteOffset_lineColumn within'
  rwa [← lineColumn_eq_of_take_eq alike, line_eq, column_eq] at place'

/-- An edit behind a part of a text keeps that part. -/
lemma take_eq_of_replaceRange {lo hi : Int} {new : Text} (behind : (i : Int) ≤ lo)
    (edit : replaceRange t lo hi new = some u) : t.take i = u.take i := by
  rw [replaceRange] at edit
  split_ifs at edit with outside
  obtain rfl := Option.some.inj edit
  have low : i ≤ (t.take lo.toNat).length := by
    rw [List.length_take]
    omega
  rw [splice, List.append_assoc, List.take_append_of_le_length low, List.take_take,
    Nat.min_eq_left (by omega)]

/-! ### The start of a line -/

/-- The line of an offset starts at another one: no line feed stands between them, and before
it the text starts or a line feed ends the line above. -/
structure LineStarts (t : Text) (start offset : Nat) : Prop where
  le : start ≤ offset
  inside : '\n' ∉ slice t start offset
  before : start = 0 ∨ 0 < start ∧ t[start - 1]? = some '\n'

/-- The line that a position names is the one on which its offset lies. -/
lemma Around.lineStarts {k : Nat} (h : Around t line above l below) (inside : k ≤ l.length) :
    LineStarts t (Text.lineStart t line) ((ended above).length + k) := by
  rw [h.lineStart]
  refine ⟨Nat.le_add_right _ _, ?_, ?_⟩
  · have part : slice t (ended above).length ((ended above).length + k) = l.take k := by
      rw [slice, Nat.add_sub_cancel_left]
      conv_lhs => rw [h.eq]
      rw [List.drop_left, List.take_append_of_le_length inside]
    rw [part]
    exact fun among => h.newline_notMem (List.mem_of_mem_take among)
  · rcases Nat.eq_zero_or_pos (ended above).length with first | later
    · exact .inl first
    · refine .inr ⟨later, ?_⟩
      have some' : ended above ≠ [] := List.length_pos_iff.mp later
      have last := List.getLast?_eq_some_getLast some'
      rw [eq_newline_of_ended _ last] at last
      rw [h.eq, List.getElem?_append_left (by omega), ← List.getLast?_eq_getElem?, last]

/-- **Positions and offsets.** A position has an offset just if it lies in the text, and it is
the position of that offset; every offset up to the end of the text has a position in the text,
of which it is the offset, on the line that starts where that line does. -/
theorem positions_offsets (t : Text) :
    (∀ line column, (∃ fault, absoluteOffset t line column = .error fault) ↔
      isValidPosition t line column = false) ∧
    (∀ line column, isValidPosition t line column = true →
      ∃ offset, absoluteOffset t line column = .ok offset ∧ offset ≤ t.length ∧
        ((lineColumn t offset).1 : Int) = line ∧ ((lineColumn t offset).2 : Int) = column) ∧
    ∀ offset ≤ t.length,
      isValidPosition t (lineColumn t offset).1 (lineColumn t offset).2 = true ∧
        absoluteOffset t (lineColumn t offset).1 (lineColumn t offset).2 = .ok offset ∧
        LineStarts t (lineStart t (lineColumn t offset).1) offset ∧
        offset + 1 = lineStart t (lineColumn t offset).1 + (lineColumn t offset).2 := by
  refine ⟨absoluteOffset_isError t, fun line column valid => ?_, fun offset within => ?_⟩
  · obtain ⟨offset, place⟩ := (absoluteOffset_isOk t line column).mpr valid
    exact ⟨offset, place, lineColumn_of_absoluteOffset place⟩
  · have place := absoluteOffset_lineColumn within
    refine ⟨(absoluteOffset_isOk t _ _).mp ⟨offset, place⟩, place, ?_⟩
    obtain ⟨above, l, below, k, h, inside, rfl⟩ := exists_around_of_le within
    rw [h.lineColumn inside]
    dsimp only
    rw [Int.natCast_succ]
    refine ⟨h.lineStarts inside, ?_⟩
    rw [h.lineStart]
    omega

/-- An empty line between two others, and the end of a text. -/
theorem positions_offsets_emptyLine :
    (isValidPosition "ab\n\ncd".toList 2 1 = true ∧
      ∃ offset, absoluteOffset "ab\n\ncd".toList 2 1 = .ok offset ∧
        offset ≤ "ab\n\ncd".toList.length ∧
        ((lineColumn "ab\n\ncd".toList offset).1 : Int) = 2 ∧
        ((lineColumn "ab\n\ncd".toList offset).2 : Int) = 1) ∧
    6 ≤ "ab\n\ncd".toList.length ∧
      absoluteOffset "ab\n\ncd".toList (lineColumn "ab\n\ncd".toList (6 : Nat)).1
        (lineColumn "ab\n\ncd".toList (6 : Nat)).2 = .ok 6 := by
  have valid : isValidPosition "ab\n\ncd".toList 2 1 = true := by decide
  have within : 6 ≤ "ab\n\ncd".toList.length := by decide
  obtain ⟨-, offsets, positions⟩ := positions_offsets "ab\n\ncd".toList
  exact ⟨⟨valid, offsets 2 1 valid⟩, within, (positions 6 within).2.1⟩

end LintRepair.Text
