/-
What edits leave of the lines above them.

* `lines_unlines`, `lines_append_newline`: the lines of a text put together;
* `SameAbove`: two texts agree on their first lines;
* `sameAbove_of_prefix`, `sameAbove_take`: a text that goes on as another does
  up to a line agrees with it above that line;
* `sameAbove_replaceLine`, `sameAbove_splice`: so an edit of a line, or behind
  its start, keeps the lines above it.
-/
import Mathlib.Data.List.Infix
import LintRepair.Text.Lines

namespace LintRepair.Text

variable {t u : Text} {ls ms : List Text} {n : Nat} {line : Int}

/-! ### Lines put together -/

lemma lines_append_newline (t u : Text) : lines (t ++ '\n' :: u) = lines t ++ lines u := by
  induction t with
  | nil => simp [lines]
  | cons c rest ih =>
      rw [List.cons_append, lines, lines, ih]
      by_cases newline : c = '\n'
      · rw [if_pos newline, if_pos newline]
        rfl
      rw [if_neg newline, if_neg newline]
      cases hl : lines rest with
      | nil => exact absurd hl (lines_ne_nil rest)
      | cons first others => rfl

/-- No line holds a line feed. -/
lemma newline_notMem_of_mem_lines : ∀ l ∈ lines t, '\n' ∉ l := by
  induction t with
  | nil => simp [lines]
  | cons c rest ih =>
      intro l hl
      rw [lines] at hl
      by_cases newline : c = '\n'
      · rw [if_pos newline, List.mem_cons] at hl
        rcases hl with rfl | hl
        · exact List.not_mem_nil
        · exact ih l hl
      rw [if_neg newline] at hl
      cases hr : lines rest with
      | nil => exact absurd hr (lines_ne_nil rest)
      | cons first others =>
          rw [hr] at hl ih
          rcases List.mem_cons.mp hl with rfl | hl
          · rw [List.mem_cons, not_or]
            exact ⟨fun h => newline h.symm, ih first (by simp)⟩
          · exact ih l (List.mem_cons_of_mem first hl)

/-- A text without a line feed is one line. -/
lemma lines_of_notMem (h : '\n' ∉ t) : lines t = [t] := by
  induction t with
  | nil => rfl
  | cons c rest ih =>
      rw [List.mem_cons, not_or] at h
      rw [lines, if_neg (Ne.symm h.1), ih h.2]

lemma unlines_cons (l : Text) (some' : ls ≠ []) :
    unlines (l :: ls) = l ++ '\n' :: unlines ls := by
  cases ls with
  | nil => exact absurd rfl some'
  | cons first others => rfl

/-- Lines without line feeds are the lines of the text that they make up. -/
lemma lines_unlines (some' : ls ≠ []) (h : ∀ l ∈ ls, '\n' ∉ l) : lines (unlines ls) = ls := by
  induction ls with
  | nil => exact absurd rfl some'
  | cons first others ih =>
      have head := lines_of_notMem (h first (by simp))
      by_cases only : others = []
      · rw [only]
        exact head
      have tail := ih only fun l hl => h l (List.mem_cons_of_mem first hl)
      rw [unlines_cons first only, lines_append_newline, head, tail]
      rfl

/-- Lines put together in two parts. -/
lemma unlines_append (some' : ls ≠ []) (some'' : ms ≠ []) :
    unlines (ls ++ ms) = unlines ls ++ '\n' :: unlines ms := by
  induction ls with
  | nil => exact absurd rfl some'
  | cons first others ih =>
      by_cases only : others = []
      · rw [only]
        exact unlines_cons first some''
      rw [List.cons_append, unlines_cons first (by simp [some'']), ih only,
        unlines_cons first only, List.append_assoc]
      rfl

lemma length_unlines (some' : ls ≠ []) : (unlines ls).length + 1 = widthOf ls := by
  induction ls with
  | nil => exact absurd rfl some'
  | cons first others ih =>
      by_cases only : others = []
      · simp [only, unlines, widthOf]
      rw [unlines_cons first only, widthOf, List.length_append, List.length_cons, ← ih only]
      omega

/-- A text cut behind some of its lines. -/
lemma eq_unlines_take_drop (first : 0 < n) (last : n < (lines t).length) :
    t = unlines ((lines t).take n) ++ '\n' :: unlines ((lines t).drop n) := by
  have above : (lines t).take n ≠ [] := by
    intro h
    rw [List.take_eq_nil_iff] at h
    rcases h with h | h
    · omega
    · exact lines_ne_nil t h
  have below : (lines t).drop n ≠ [] := by
    rw [Ne, List.drop_eq_nil_iff]
    omega
  rw [← unlines_append above below, List.take_append_drop, unlines_lines]

/-! ### Starts of lines -/

lemma line?_isSome_iff :
    (line? t line).isSome = true ↔ 1 ≤ line ∧ (line - 1).toNat < (lines t).length := by
  rw [line?]
  by_cases low : line < 1
  · rw [if_pos low]
    constructor
    · intro h
      cases h
    · rintro ⟨h, -⟩
      omega
  · rw [if_neg low, isSome_getElem?]
    constructor
    · intro h
      exact ⟨by omega, h⟩
    · rintro ⟨-, h⟩
      exact h

/-- Where a line starts that there is. -/
lemma lineStart_eq (there : (line? t line).isSome = true) :
    lineStart t line = widthOf ((lines t).take (line - 1).toNat) := by
  obtain ⟨low, high⟩ := line?_isSome_iff.mp there
  have kept : keptBy (lines t).length (line - 1) = (line - 1).toNat := by
    rw [keptBy, if_neg (by omega)]
    omega
  rw [lineStart, kept]

/-- The first line starts with the text. -/
lemma lineStart_of_first (there : (line? t line).isSome = true) (first : (line - 1).toNat = 0) :
    lineStart t line = 0 := by
  rw [lineStart_eq there, first]
  rfl

/-- Any other line starts behind the line feed of the ones above it. -/
lemma lineStart_of_later (there : (line? t line).isSome = true) (later : 0 < (line - 1).toNat) :
    ∃ above below, t = above ++ '\n' :: below ∧ lineStart t line = above.length + 1 ∧
      lines above = (lines t).take (line - 1).toNat := by
  obtain ⟨-, high⟩ := line?_isSome_iff.mp there
  have some' : (lines t).take (line - 1).toNat ≠ [] := by
    intro h
    rcases List.take_eq_nil_iff.mp h with h | h
    · omega
    · exact lines_ne_nil t h
  refine ⟨unlines ((lines t).take (line - 1).toNat), unlines ((lines t).drop (line - 1).toNat),
    eq_unlines_take_drop later high, ?_, ?_⟩
  · rw [lineStart_eq there, length_unlines some']
  · exact lines_unlines some' fun l hl => newline_notMem_of_mem_lines l (List.mem_of_mem_take hl)

/-! ### Texts that agree above a line -/

/-- Two texts agree on their first lines. -/
def SameAbove (n : Nat) (t u : Text) : Prop := (lines t).take n = (lines u).take n

namespace SameAbove

lemma refl (n : Nat) (t : Text) : SameAbove n t t := rfl

lemma trans {v : Text} (h : SameAbove n t u) (h' : SameAbove n u v) : SameAbove n t v :=
  Eq.trans h h'

/-- Texts that agree up to a line agree up to every earlier one. -/
lemma mono {m : Nat} (h : SameAbove n t u) (le : m ≤ n) : SameAbove m t u := by
  have cut := congrArg (List.take m) h
  rwa [List.take_take, List.take_take, Nat.min_eq_left le] at cut

/-- Texts that agree up to a line have the same lines there. -/
lemma line?_eq (h : SameAbove n t u) (above : line ≤ n) : line? t line = line? u line := by
  rw [line?, line?]
  by_cases low : line < 1
  · rw [if_pos low, if_pos low]
  have inside : (line - 1).toNat < n := by omega
  rw [if_neg low, if_neg low, ← List.getElem?_take_of_lt inside, h,
    List.getElem?_take_of_lt inside]

end SameAbove

/-- A text that starts as another does up to a line agrees with it above that
line. -/
lemma sameAbove_of_prefix (there : (line? t line).isSome = true)
    (kept : t.take (lineStart t line) <+: u) : SameAbove (line - 1).toNat u t := by
  rcases Nat.eq_zero_or_pos (line - 1).toNat with first | later
  · rw [first]
    rfl
  obtain ⟨above, below, whole, start, same⟩ := lineStart_of_later there later
  obtain ⟨rest, rfl⟩ := kept
  have head : t.take (lineStart t line) = above ++ ['\n'] := by
    rw [start, whole, List.take_append, List.take_of_length_le (by omega)]
    simp
  rw [SameAbove, head, List.append_assoc, List.singleton_append, lines_append_newline, same]
  obtain ⟨-, high⟩ := line?_isSome_iff.mp there
  exact List.take_left' (List.length_take_of_le (Nat.le_of_lt high))

/-! ### Edits -/

/-- A text cut off no earlier than before the line feed that a line starts
behind. -/
lemma sameAbove_take {i : Nat} (there : (line? t line).isSome = true)
    (low : lineStart t line ≤ i + 1) : SameAbove (line - 1).toNat (t.take i) t := by
  by_cases behind : lineStart t line ≤ i
  · exact sameAbove_of_prefix there (List.take_prefix_take_left behind)
  rcases Nat.eq_zero_or_pos (line - 1).toNat with first | later
  · rw [first]
    rfl
  -- the line feed itself is cut off
  obtain ⟨above, below, whole, start, same⟩ := lineStart_of_later there later
  have cut : t.take i = above := by
    rw [whole, List.take_left' (by omega)]
  rw [SameAbove, cut, same, List.take_take, Nat.min_self]

/-- A part in the middle of a text exchanged for another. -/
lemma splice_middle (front part back new : Text) :
    splice (front ++ (part ++ back)) front.length (front.length + part.length) new =
      front ++ (new ++ back) := by
  rw [splice, ← List.drop_drop, List.take_left, List.drop_left, List.drop_left, List.append_assoc]

/-- An edit behind an offset keeps the text before it. -/
lemma take_prefix_splice {i lo hi : Nat} {new : Text} (low : i ≤ lo) (kept : t.take i <+: u) :
    t.take i <+: splice u lo hi new := by
  have head : t.take i <+: u.take i := by
    have cut := kept.take i
    rwa [List.take_take, Nat.min_self] at cut
  have more : u.take i <+: u.take lo := List.take_prefix_take_left low
  rw [splice, List.append_assoc]
  exact (head.trans more).trans (List.prefix_append _ _)

/-- An edit behind the start of a line. -/
lemma sameAbove_splice {lo hi : Nat} {new : Text} (there : (line? t line).isSome = true)
    (low : lineStart t line ≤ lo) : SameAbove (line - 1).toNat (splice t lo hi new) t :=
  sameAbove_of_prefix there (take_prefix_splice low (List.take_prefix _ _))

/-- A line replaced. -/
lemma sameAbove_replaceLine {new : Text} (edit : replaceLine t line new = some u) :
    SameAbove (line - 1).toNat u t := by
  by_cases gone : (line? t line).isNone = true
  · rw [replaceLine, if_pos gone] at edit
    cases edit
  have there : (line? t line).isSome = true := Option.isSome_iff_ne_none.mpr (by simpa using gone)
  rw [replaceLine, if_neg gone] at edit
  cases edit
  rcases Nat.eq_zero_or_pos (line - 1).toNat with first | later
  · rw [first]
    rfl
  obtain ⟨-, high⟩ := line?_isSome_iff.mp there
  obtain ⟨above, -, -, -, same⟩ := lineStart_of_later there later
  have some' : (lines t).take (line - 1).toNat ≠ [] := same ▸ lines_ne_nil above
  have whole : lines (unlines ((lines t).take (line - 1).toNat)) =
      (lines t).take (line - 1).toNat :=
    lines_unlines some' fun l hl => newline_notMem_of_mem_lines l (List.mem_of_mem_take hl)
  rw [SameAbove, List.set_eq_take_append_cons_drop, if_pos high, unlines_append some' (by simp),
    lines_append_newline, whole]
  exact List.take_left' (List.length_take_of_le (Nat.le_of_lt high))

/-- What stops a search bounds its length. -/
lemma length_takeWhile_le_of_stop {p : Char → Bool} {c : Char} (stop : p c = false)
    (t u : Text) : ((t ++ c :: u).takeWhile p).length ≤ t.length := by
  induction t with
  | nil => simp [stop]
  | cons a rest ih =>
      rw [List.cons_append, List.takeWhile_cons]
      by_cases go : p a = true
      · rw [if_pos go, List.length_cons, List.length_cons]
        omega
      · rw [if_neg go]
        exact Nat.zero_le _

/-- The line that an offset lies on starts no earlier than one before it. -/
lemma lineStart_le_lineStartAt {offset : Nat} (there : (line? t line).isSome = true)
    (low : lineStart t line ≤ offset) : lineStart t line ≤ lineStartAt t offset := by
  rcases Nat.eq_zero_or_pos (line - 1).toNat with first | later
  · rw [lineStart_of_first there first]
    exact Nat.zero_le _
  obtain ⟨above, below, whole, start, -⟩ := lineStart_of_later there later
  -- looking back from the offset, the line feed before the line comes in the way
  have back : (t.take offset).reverse =
      (below.take (offset - (above.length + 1))).reverse ++ '\n' :: above.reverse := by
    rw [whole, List.take_append, List.take_of_length_le (by omega)]
    obtain ⟨n, hn⟩ : ∃ n, offset - above.length = n + 1 := ⟨offset - above.length - 1, by omega⟩
    have hn' : offset - (above.length + 1) = n := by omega
    rw [hn, hn', List.take_succ_cons]
    simp
  have stop : ((t.take offset).reverse.takeWhile (· != '\n')).length ≤
      offset - (above.length + 1) := by
    rw [back]
    refine Nat.le_trans (length_takeWhile_le_of_stop rfl _ _) ?_
    rw [List.length_reverse]
    exact List.length_take_le _ _
  rw [lineStartAt, start]
  omega

end LintRepair.Text
