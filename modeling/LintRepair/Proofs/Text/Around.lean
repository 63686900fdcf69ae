/-
A line of a text, with what stands above and below it.

* `ended`, `begun`: lines with a line feed behind or before each;
* `unlines_around`: lines put together around one of them;
* `Around`: a line of a text with those above and those below it;
* `map_length_lines`: texts with line feeds at the same offsets have lines of the same lengths;
* `Around.maskedLine`: the masked line is the part of the masked text where the line stands;
  `line?_mask`: it is a line of that text; `Around.exists_mask`: it stands between line feeds;
* `lineStartAt_cases`, `lineEndAt_cases`: so does the line of an offset.
-/
import LintRepair.Proofs.Lexical.Literal
import LintRepair.Proofs.Text.Above
import LintRepair.Proofs.Text.Cut

namespace LintRepair.Text

open Lexical

variable {t l : Text} {line : Int}

/-! ### Around a line -/

/-- Lines with a line feed behind each. -/
def ended (ls : List Text) : Text := ls.flatMap (· ++ ['\n'])

/-- Lines with a line feed before each. -/
def begun (ls : List Text) : Text := ls.flatMap ('\n' :: ·)

lemma unlines_begun (l : Text) (below : List Text) : unlines (l :: below) = l ++ begun below := by
  induction below generalizing l with
  | nil => simp [unlines, begun]
  | cons first others ih =>
      rw [unlines_cons l (List.cons_ne_nil first others), ih first]
      simp [begun]

/-- Lines put together around one of them. -/
lemma unlines_around (above : List Text) (l : Text) (below : List Text) :
    unlines (above ++ l :: below) = ended above ++ (l ++ begun below) := by
  induction above with
  | nil => exact unlines_begun l below
  | cons first others ih =>
      rw [List.cons_append, unlines_cons first (by simp), ih]
      simp [ended]

lemma length_ended (ls : List Text) : (ended ls).length = widthOf ls := by
  induction ls with
  | nil => rfl
  | cons first others ih =>
      have parts : ended (first :: others) = (first ++ ['\n']) ++ ended others := rfl
      rw [parts, List.length_append, List.length_append, ih, List.length_singleton, widthOf]

/-- Either way there is one line feed for each line. -/
lemma length_begun (ls : List Text) : (begun ls).length = (ended ls).length := by
  induction ls with
  | nil => rfl
  | cons first others ih =>
      simp only [begun, ended, List.flatMap_cons, List.length_append, List.length_cons,
        List.length_nil] at ih ⊢
      omega

/-- What stands above a line ends with a line feed. -/
lemma eq_newline_of_ended {ls : List Text} : ∀ c ∈ (ended ls).getLast?, c = '\n' := by
  rcases List.eq_nil_or_concat ls with rfl | ⟨others, last, rfl⟩
  · exact fun c hc => absurd hc (by simp [ended])
  · intro c hc
    simpa [ended, eq_comm] using hc

/-- What stands below a line starts with a line feed. -/
lemma eq_newline_of_begun {ls : List Text} : ∀ c ∈ (begun ls).head?, c = '\n' := by
  cases ls with
  | nil => exact fun c hc => absurd hc (by simp [begun])
  | cons first others =>
      intro c hc
      simpa [begun, eq_comm] using hc

/-- A text is put together from a line, the lines above it and those below it. -/
structure Around (t : Text) (line : Int) (above : List Text) (l : Text) (below : List Text) :
    Prop where
  lines_eq : lines t = above ++ l :: below
  number : (line - 1).toNat = above.length
  line? : line? t line = some l

/-- Every line of a text stands between those above and those below it. -/
lemma exists_around (there : line? t line = some l) : ∃ above below, Around t line above l below := by
  have isSome : (line? t line).isSome = true := by rw [there]; rfl
  obtain ⟨low, high⟩ := line?_isSome_iff.mp isSome
  have place : (lines t)[(line - 1).toNat] = l := by
    rw [line?, if_neg (by omega), List.getElem?_eq_getElem high, Option.some_inj] at there
    exact there
  refine ⟨(lines t).take (line - 1).toNat, (lines t).drop ((line - 1).toNat + 1), ?_, ?_, there⟩
  · rw [← place, List.cons_getElem_drop_succ, List.take_append_drop]
  · rw [List.length_take_of_le (Nat.le_of_lt high)]

namespace Around

variable {above below : List Text}

lemma eq (h : Around t line above l below) : t = ended above ++ (l ++ begun below) := by
  rw [← unlines_around, ← h.lines_eq, unlines_lines]

lemma lineStart (h : Around t line above l below) : lineStart t line = (ended above).length := by
  rw [lineStart_eq (by rw [h.line?]; rfl), h.lines_eq, h.number, List.take_left' rfl, length_ended]

lemma getLine (h : Around t line above l below) : getLine t line = l := by
  rw [Text.getLine, h.line?, Option.getD_some]

lemma newline_notMem (h : Around t line above l below) : '\n' ∉ l := by
  refine newline_notMem_of_mem_lines (t := t) l ?_
  rw [h.lines_eq]
  exact List.mem_append_right above List.mem_cons_self

/-- A line replaced stands between the same lines. -/
lemma replaceLine (h : Around t line above l below) (new : Text) :
    replaceLine t line new = some (ended above ++ (new ++ begun below)) := by
  rw [Text.replaceLine, if_neg (by simp [h.line?]), h.lines_eq, h.number, ← unlines_around]
  simp

/-- So it does in the text that comes of it, where it may be several lines. -/
lemma lines_replaced (h : Around t line above l below) (new : Text) :
    lines (ended above ++ (new ++ begun below)) = above ++ (lines new ++ below) := by
  have feeds : ∀ l' ∈ above ++ l :: below, '\n' ∉ l' := by
    rw [← h.lines_eq]
    exact newline_notMem_of_mem_lines
  have lower : lines (new ++ begun below) = lines new ++ below := by
    cases below with
    | nil => simp [begun]
    | cons first others =>
        have feeds' : ∀ l' ∈ first :: others, '\n' ∉ l' := fun l' among =>
          feeds l' (List.mem_append_right _ (List.mem_cons_of_mem _ among))
        have parts : begun (first :: others) = '\n' :: unlines (first :: others) := by
          rw [unlines_begun]
          rfl
        rw [parts, lines_append_newline, lines_unlines (List.cons_ne_nil _ _) feeds']
  have upper : ∀ l' ∈ above, '\n' ∉ l' := fun l' among => feeds l' (List.mem_append_left _ among)
  clear h feeds
  induction above with
  | nil => exact lower
  | cons first others ih =>
      have parts : ended (first :: others) ++ (new ++ begun below) =
          first ++ '\n' :: (ended others ++ (new ++ begun below)) := by
        simp [ended]
      rw [parts, lines_append_newline, lines_of_notMem (upper first List.mem_cons_self),
        ih fun l' among => upper l' (List.mem_cons_of_mem _ among)]
      rfl

/-- If it is one line, it has the number of the old one. -/
lemma replaced (h : Around t line above l below) {new : Text} (feed : '\n' ∉ new) :
    Around (ended above ++ (new ++ begun below)) line above new below := by
  have lines' : lines (ended above ++ (new ++ begun below)) = above ++ new :: below := by
    rw [h.lines_replaced, lines_of_notMem feed]
    rfl
  refine ⟨lines', h.number, ?_⟩
  have low := (line?_isSome_iff.mp (h.line? ▸ rfl : (Text.line? t line).isSome = true)).1
  rw [Text.line?, if_neg (by omega), lines', h.number, List.getElem?_append_right (Nat.le_refl _),
    Nat.sub_self]
  rfl

/-- From where the line starts it is the text up to the next line feed. -/
lemma takeWhile_drop (h : Around t line above l below) :
    (t.drop (Text.lineStart t line)).takeWhile (· != '\n') = l := by
  have all : ∀ c ∈ l, (c != '\n') = true := by
    intro c hc
    rw [bne_iff_ne]
    rintro rfl
    exact h.newline_notMem hc
  have stop : (begun below).takeWhile (· != '\n') = [] := by cases below <;> rfl
  have rest : t.drop (Text.lineStart t line) = l ++ begun below := by
    rw [h.lineStart]
    conv_lhs => rw [h.eq]
    exact List.drop_left
  rw [rest, List.takeWhile_append_of_pos all, stop, List.append_nil]

end Around

/-! ### In the masked text -/

/-- Line feeds stay in the masked text, and none is added. -/
lemma getElem?_mask_eq_newline_iff {i : Nat} :
    (mask t)[i]? = some '\n' ↔ t[i]? = some '\n' := by
  rw [getElem?_mask]
  constructor
  · intro stands
    obtain ⟨c, here, masked⟩ := Option.map_eq_some_iff.mp stands
    rw [Kind.masked] at masked
    split_ifs at masked
    · rw [here, masked]
    · exact absurd masked (by decide)
  · intro stands
    rw [stands, Option.map_some, Kind.masked_lineFeed]

/-- The first line feed stands at the same offset in two texts if all of them do. -/
lemma length_takeWhile_eq {t u : Text} (lengths : t.length = u.length)
    (feeds : ∀ i : Nat, t[i]? = some '\n' ↔ u[i]? = some '\n') :
    (t.takeWhile (· != '\n')).length = (u.takeWhile (· != '\n')).length := by
  induction t generalizing u with
  | nil =>
      rw [List.length_nil, eq_comm, List.length_eq_zero_iff] at lengths
      rw [lengths]
  | cons c t ih =>
      cases u with
      | nil => cases lengths
      | cons d u =>
          have first : c = '\n' ↔ d = '\n' := by simpa using feeds 0
          have later := ih (Nat.succ.inj lengths) fun i => feeds (i + 1)
          rw [List.takeWhile_cons, List.takeWhile_cons]
          by_cases stop : c = '\n'
          · simp [stop, first.mp stop]
          · have go : d ≠ '\n' := fun h => stop (first.mpr h)
            simp [stop, go, later]

/-- Line feeds at the same offsets part two texts into lines of the same lengths. -/
lemma map_length_lines {t u : Text} (lengths : t.length = u.length)
    (feeds : ∀ i : Nat, t[i]? = some '\n' ↔ u[i]? = some '\n') :
    (lines t).map List.length = (lines u).map List.length := by
  induction t generalizing u with
  | nil =>
      rw [List.length_nil, eq_comm, List.length_eq_zero_iff] at lengths
      rw [lengths]
  | cons c t ih =>
      cases u with
      | nil => cases lengths
      | cons d u =>
          have first : c = '\n' ↔ d = '\n' := by simpa using feeds 0
          have later := ih (Nat.succ.inj lengths) fun i => feeds (i + 1)
          rw [lines, lines]
          by_cases stop : c = '\n'
          · rw [if_pos stop, if_pos (first.mp stop), List.map_cons, List.map_cons, later]
          rw [if_neg stop, if_neg (mt first.mpr stop)]
          cases left : lines t with
          | nil => exact absurd left (lines_ne_nil t)
          | cons l ls =>
              cases right : lines u with
              | nil => exact absurd right (lines_ne_nil u)
              | cons m ms =>
                  rw [left, right, List.map_cons, List.map_cons, List.cons.injEq] at later
                  simp only [List.map_cons, List.length_cons, later.1, later.2]

/-- So both have as many lines. -/
lemma length_lines_of_feeds {t u : Text} (lengths : t.length = u.length)
    (feeds : ∀ i : Nat, t[i]? = some '\n' ↔ u[i]? = some '\n') :
    (lines t).length = (lines u).length := by
  rw [← List.length_map, map_length_lines lengths feeds, List.length_map]

/-- Lines of the same lengths are of the same width. -/
lemma widthOf_congr {ls ms : List Text} (same : ls.map List.length = ms.map List.length) :
    widthOf ls = widthOf ms := by
  induction ls generalizing ms with
  | nil =>
      rw [List.map_eq_nil_iff.mp same.symm]
  | cons l ls ih =>
      obtain ⟨m, ms, rfl, first, later⟩ := List.map_eq_cons_iff.mp same.symm
      rw [widthOf, widthOf, ih later.symm, first]

/-- So the lines of both texts start at the same offsets. -/
lemma lineStart_eq_of_feeds {t u : Text} (lengths : t.length = u.length)
    (feeds : ∀ i : Nat, t[i]? = some '\n' ↔ u[i]? = some '\n') (line : Int) :
    lineStart t line = lineStart u line := by
  rw [lineStart, lineStart, length_lines_of_feeds lengths feeds]
  refine widthOf_congr ?_
  rw [List.map_take, List.map_take, map_length_lines lengths feeds]

/-- The masked line is the part of the masked text where the line stands. -/
lemma Around.maskedLine {above below : List Text} (h : Around t line above l below) :
    maskedLine t line = ((mask t).drop (Text.lineStart t line)).take l.length := by
  have lengths : ((mask t).drop (Text.lineStart t line)).length =
      (t.drop (Text.lineStart t line)).length := by
    rw [List.length_drop, List.length_drop, length_mask]
  have same := length_takeWhile_eq lengths fun i => by
    rw [List.getElem?_drop, List.getElem?_drop]
    exact getElem?_mask_eq_newline_iff
  rw [h.takeWhile_drop] at same
  rw [Lexical.maskedLine, ← same]
  exact List.prefix_iff_eq_take.mp (List.takeWhile_prefix _)

/-- It is as long as the line. -/
lemma Around.length_maskedLine {above below : List Text} (h : Around t line above l below) :
    (Lexical.maskedLine t line).length = l.length := by
  have whole := congrArg List.length h.eq
  simp only [List.length_append] at whole
  rw [h.maskedLine, List.length_take, List.length_drop, length_mask, h.lineStart]
  omega

/-- It is a line of the masked text. -/
lemma line?_mask (there : (line? t line).isSome = true) :
    line? (mask t) line = some (Lexical.maskedLine t line) := by
  have feeds (i : Nat) : (mask t)[i]? = some '\n' ↔ t[i]? = some '\n' :=
    getElem?_mask_eq_newline_iff
  have there' : (line? (mask t) line).isSome = true := by
    rwa [line?_isSome_iff, length_lines_of_feeds (length_mask t) feeds, ← line?_isSome_iff]
  obtain ⟨l', masked⟩ := Option.isSome_iff_exists.mp there'
  obtain ⟨above', below', h'⟩ := exists_around masked
  rw [masked, Lexical.maskedLine, ← lineStart_eq_of_feeds (length_mask t) feeds, h'.takeWhile_drop]

/-- The masked line stands between line feeds. -/
lemma Around.exists_mask {above below : List Text} (h : Around t line above l below) :
    ∃ front back, mask t = front ++ (Lexical.maskedLine t line ++ back) ∧
      front.length = Text.lineStart t line ∧ (∀ c ∈ front.getLast?, c = '\n') ∧
      ∀ c ∈ back.head?, c = '\n' := by
  have within : (ended above).length ≤ (mask t).length := by
    rw [length_mask, h.eq]
    simp
  refine ⟨(mask t).take (ended above).length,
    ((mask t).drop (ended above).length).dropWhile (· != '\n'), ?_, ?_, ?_, ?_⟩
  · rw [Lexical.maskedLine, h.lineStart, List.takeWhile_append_dropWhile, List.take_append_drop]
  · rw [List.length_take, Nat.min_eq_left within, h.lineStart]
  · intro c last
    rw [getLast?_take_of_le within] at last
    split_ifs at last with first
    · cases last
    · have feed : (ended above).getLast? = some '\n' := by
        have some' : ended above ≠ [] := mt (congrArg List.length) first
        rw [List.getLast?_eq_some_getLast some']
        exact congrArg some (eq_newline_of_ended _ (List.getLast?_eq_some_getLast some'))
      have here : (mask t)[(ended above).length - 1]? = some '\n' := by
        rw [getElem?_mask_eq_newline_iff, ← feed, List.getLast?_eq_getElem?]
        conv_lhs => rw [h.eq]
        rw [List.getElem?_append_left (by omega)]
      exact Option.some.inj (Option.mem_def.mp last ▸ here)
  · intro c first
    have stop := List.head?_dropWhile_not (· != '\n') ((mask t).drop (ended above).length)
    rw [Option.mem_def.mp first] at stop
    simpa using stop

/-- A character of a masked line that is not blank is one of the line, and is code or a
delimiter. -/
lemma Around.kept {above below : List Text} (h : Around t line above l below) {i : Nat} {c : Char}
    (stands : (Lexical.maskedLine t line)[i]? = some c) (solid : isBlank c = false) :
    l[i]? = some c ∧ t[Text.lineStart t line + i]? = some c ∧
      ∃ kind, (kinds t)[Text.lineStart t line + i]? = some kind ∧ kind.isKept = true := by
  rw [h.maskedLine, List.getElem?_take] at stands
  split at stands
  · next within =>
    rw [List.getElem?_drop] at stands
    obtain ⟨here, kept⟩ := kept_of_mask stands solid
    refine ⟨?_, here, _, ?_, kept⟩
    · rw [← here, h.lineStart]
      conv_rhs => rw [h.eq]
      rw [List.getElem?_append_right (by omega), Nat.add_sub_cancel_left,
        List.getElem?_append_left within]
    · rw [getElem?_kinds, here]
      rfl
  · cases stands

/-! ### The line of an offset -/

variable {offset : Nat}

/-- A line starts with the text, or behind a line feed. -/
lemma lineStartAt_cases (within : offset ≤ t.length) : lineStartAt t offset = 0 ∨
    0 < lineStartAt t offset ∧ t[lineStartAt t offset - 1]? = some '\n' := by
  have parts := @List.takeWhile_append_dropWhile _ (· != '\n') (t.take offset).reverse
  have stop := List.head?_dropWhile_not (· != '\n') (t.take offset).reverse
  rw [lineStartAt]
  cases behind : (t.take offset).reverse.dropWhile (· != '\n') with
  | nil =>
      rw [behind, List.append_nil] at parts
      rw [parts, List.length_reverse, List.length_take_of_le within]
      exact .inl (Nat.sub_self _)
  | cons c rest =>
      rw [behind] at parts stop
      obtain rfl : c = '\n' := by simpa using stop
      generalize (t.take offset).reverse.takeWhile (· != '\n') = line at parts ⊢
      have before : t.take offset = rest.reverse ++ '\n' :: line.reverse := by
        rw [← List.reverse_reverse (t.take offset), ← parts]
        simp
      have length := congrArg List.length before
      simp only [List.length_take_of_le within, List.length_append, List.length_cons,
        List.length_reverse] at length
      refine .inr ⟨by omega, ?_⟩
      have here := congrArg (·[rest.length]?) before
      simp only [List.getElem?_take, ← @List.length_reverse _ rest, List.getElem?_append_right,
        Nat.le_refl, Nat.sub_self, List.getElem?_cons_zero] at here
      rw [List.length_reverse, if_pos (by omega)] at here
      rw [show offset - line.length - 1 = rest.length by omega]
      exact here

/-- It ends before a line feed, or with the text. -/
lemma lineEndAt_cases (within : offset ≤ t.length) : offset ≤ lineEndAt t offset ∧
    (lineEndAt t offset = t.length ∨ t[lineEndAt t offset]? = some '\n') := by
  refine ⟨Nat.le_add_right _ _, ?_⟩
  have parts := @List.takeWhile_append_dropWhile _ (· != '\n') (t.drop offset)
  have stop := List.head?_dropWhile_not (· != '\n') (t.drop offset)
  rw [lineEndAt]
  generalize (t.drop offset).takeWhile (· != '\n') = line at parts ⊢
  rw [← List.getElem?_drop, ← parts, List.getElem?_append_right (Nat.le_refl _), Nat.sub_self]
  cases behind : (t.drop offset).dropWhile (· != '\n') with
  | nil =>
      have length := congrArg List.length parts
      rw [behind, List.append_nil, List.length_drop] at length
      exact .inl (by omega)
  | cons c rest =>
      rw [behind] at stop
      obtain rfl : c = '\n' := by simpa using stop
      exact .inr rfl

end LintRepair.Text
