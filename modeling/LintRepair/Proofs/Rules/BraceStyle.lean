/-
What the edits of `brace-style` leave of literals.

* `endsInLiteral_iff_between`: a line with a brace ends in a literal just if the part
  behind the brace is followed by blanks inside of one;
* `literals_iff_of_splitBehindOpening`, `literals_iff_of_pullUp`: the edits that cut the
  blanks at the end of a line change what stands inside of literals just if those do;
* `literals_eq_of_splitBeforeClosing`, `literals_eq_of_joinNext`: the other two do not.

What an edit makes of the text is said apart from how the scanner reads it, in `PutBelow`,
`PulledUp` and `JoinedNext`.
-/
import LintRepair.Proofs.Lexical.Brace
import LintRepair.Proofs.Rules.Blanks
import LintRepair.Proofs.Rules.Search

namespace LintRepair.Rules

open Text Lexical Check Repair

variable {code after : Text} {d : Diagnostic}

/-! ### Braces -/

section Between

variable {above below : List Text} {opening part u v : Text}

/-- A line with blanks around a part of it, behind something in code that is not a word,
ends in a literal just if it ends in blanks and the scanner is in one before those. -/
lemma endsInLiteral_iff_between
    (h : Around code d.line.value above (opening ++ (u ++ (part ++ v))) below)
    (inCode : (stateAt code (ended above ++ opening).length).InCode)
    (apart : (stateAt code (ended above ++ opening).length).inWord = false)
    (blank : ∀ c ∈ u, isBlank c = true) (blank' : ∀ c ∈ v, isBlank c = true)
    (solid : ∀ c ∈ part.getLast?, isBlank c = false) :
    EndsInLiteral code d ↔ ¬ (v = [] ∨ ((stateAt code (ended above ++ opening).length).after
      (part ++ (v ++ begun below)) part.length).mode.isLiteral = false) := by
  have whole : code = (ended above ++ opening) ++ (u ++ (part ++ (v ++ begun below))) := by
    conv_lhs => rw [h.eq]
    simp only [List.append_assoc]
  have behind : stateAt code (ended above ++ (opening ++ (u ++ part))).length =
      (stateAt code (ended above ++ opening).length).after (part ++ (v ++ begun below))
        part.length := by
    have idle : (stateAt code (ended above ++ opening).length).after
        (u ++ (part ++ (v ++ begun below))) u.length =
        stateAt code (ended above ++ opening).length := inCode.after_blanks_of_inWord apart blank
    have lengths : (ended above ++ (opening ++ (u ++ part))).length =
        (ended above ++ opening).length + (u.length + part.length) := by
      simp only [List.length_append, Nat.add_assoc]
    rw [lengths]
    conv_lhs => rw [whole]
    rw [stateAt_append_add, ← whole, State.after_append_add, idle]
  by_cases none : v = []
  · refine iff_of_false ?_ (not_not_intro (.inl none))
    rintro ⟨ends, literal⟩
    rw [show lineOf code d = _ from h.getLine, none, List.append_nil] at ends
    by_cases only : part = []
    · -- only blanks follow, so the scanner is in code at the end
      rw [lineStopOf, lineStartOf, h.lineStart, show lineOf code d = _ from h.getLine, none, only,
        List.append_nil, ← List.length_append] at literal
      rw [none, only, List.append_nil] at behind
      rw [List.append_nil, behind] at literal
      rw [List.length_nil, State.after_zero, inCode.mode] at literal
      cases literal
    · obtain ⟨c, last⟩ : ∃ c, part.getLast? = some c :=
        ⟨_, List.getLast?_eq_some_getLast only⟩
      rw [endsIn, List.getLast?_append_of_ne_nil _ (by simp [only]),
        List.getLast?_append_of_ne_nil _ only, last, Option.any_some, solid c last] at ends
      cases ends
  · have parts : opening ++ (u ++ (part ++ v)) = (opening ++ (u ++ part)) ++ v := by
      simp only [List.append_assoc]
    rw [parts] at h
    rw [endsInLiteral_iff h none blank', behind, or_iff_right none, Bool.not_eq_false]

end Between

/-- Behind an opening brace of the line, the scanner is in code and in no word. -/
lemma exists_opening {above below : List Text} {l : Text} {i : Nat}
    (h : Around code d.line.value above l below) (stands : (maskedLineOf code d)[i]? = some '{') :
    ∃ opening rest, l = (opening ++ ['{']) ++ rest ∧ l.take (i + 1) = opening ++ ['{'] ∧
      l.drop (i + 1) = rest ∧
      (stateAt code (ended above ++ (opening ++ ['{'])).length).InCode ∧
      (stateAt code (ended above ++ (opening ++ ['{'])).length).inWord = false := by
  obtain ⟨onLine, inText, kind, read, kept⟩ := h.kept stands (by decide)
  obtain ⟨within, here⟩ := List.getElem?_eq_some_iff.mp onLine
  have head : l.take (i + 1) = l.take i ++ ['{'] := by
    rw [← here, List.take_append_getElem]
  have place : (ended above ++ (l.take i ++ ['{'])).length = lineStart code d.line.value + i + 1 := by
    rw [List.length_append, ← head, List.length_take_of_le within, h.lineStart, Nat.add_assoc]
  refine ⟨l.take i, l.drop (i + 1), ?_, head, rfl, ?_⟩
  · rw [← head, List.take_append_drop]
  · rw [place]
    exact inCode_of_opening inText read kept

/-- **A statement behind an opening brace.** It is put on the next line without harm just
if the line does not end in blanks inside of a literal. -/
lemma literals_iff_of_splitBehindOpening {l : Text} (there : line? code d.line.value = some l)
    (edit : Brace.splitBehindOpening code d = .ok after) :
    literals after = literals code ↔ ¬ EndsInLiteral code d := by
  obtain ⟨above, below, around⟩ := exists_around there
  rw [Brace.splitBehindOpening] at edit
  split at edit
  · cases edit
  next i found =>
  have stands : (maskedLineOf code d)[i]? = some '{' := by
    have among := mem_of_nearest? found
    rw [List.mem_filter, Bool.and_eq_true, beq_iff_eq] at among
    exact among.2.1
  obtain ⟨opening, rest, split, head, tail, inCode, apart⟩ := exists_opening around stands
  obtain ⟨u, v, parts, blank, blank', solid⟩ := exists_trim rest
  have edited : after = (ended above ++ (opening ++ ['{'])) ++
      (('\n' :: (leadingBlanks l ++ Whitespace.indentUnit code)) ++ (trim rest ++ begun below)) := by
    rw [setLine_eq around edit, show lineOf code d = l from around.getLine, head, tail,
      trimRight_append_singleton _ (by decide)]
    simp only [List.append_assoc, List.cons_append, List.nil_append]
  have blanks : ∀ c ∈ '\n' :: (leadingBlanks l ++ Whitespace.indentUnit code), isBlank c = true := by
    intro c hc
    rcases List.mem_cons.mp hc with rfl | hc
    · rfl
    rcases List.mem_append.mp hc with hc | hc
    · exact isBlank_of_mem_leadingBlanks c hc
    · exact isBlank_of_isSpaceOrTab (isSpaceOrTab_of_mem_indentUnit c hc)
  generalize '\n' :: (leadingBlanks l ++ Whitespace.indentUnit code) = w at blanks edited
  generalize trim rest = part at parts solid edited
  subst parts split
  have feed : '\n' ∉ v := fun feed => around.newline_notMem (by simp [feed])
  have whole : code = (ended above ++ (opening ++ ['{'])) ++
      (u ++ (part ++ (v ++ begun below))) := by
    conv_lhs => rw [around.eq]
    simp only [List.append_assoc]
  rw [endsInLiteral_iff_between around inCode apart blank blank' solid, not_not, edited]
  conv_lhs => rw [whole]
  rw [literals_append_inj _ fun c hc st => State.step_solid (by simp at hc; rw [← hc]; decide) _ _,
    ← whole, State.content_between (consistent_stateAt _ _) (tidy_stateAt _ _) inCode apart blank
      blanks blank' feed eq_newline_of_begun]

/-- The lines around a closing brace that is put on the next line, with its line cut in what
stands before it, the blanks there and what stands behind it, and the text after the edit. -/
structure PutBelow (code after : Text) (d : Diagnostic) (i : Nat) (above below : List Text)
    (front v rest w : Text) : Prop where
  around : Around code d.line.value above (front ++ (v ++ '}' :: rest)) below
  stands : (maskedLineOf code d)[i]? = some '}'
  place : lineStartOf code d + i = (ended above ++ front).length + v.length
  blank : ∀ c ∈ v, isBlank c = true
  blanks : ∀ c ∈ w, isBlank c = true
  edited : after = (ended above ++ front) ++ (('\n' :: w) ++ ('}' :: rest ++ begun below))

lemma exists_putBelow {l : Text} (there : line? code d.line.value = some l)
    (edit : Brace.splitBeforeClosing code d = .ok after) :
    ∃ i, Brace.closingBehindBody? (maskedLineOf code d) (columnOf d) = some i ∧
      ∃ above below front v rest w, PutBelow code after d i above below front v rest w := by
  obtain ⟨above, below, around⟩ := exists_around there
  rw [Brace.splitBeforeClosing] at edit
  split at edit
  · cases edit
  next i found =>
  split at edit
  · cases edit
  next opener _ =>
  have stands : (maskedLineOf code d)[i]? = some '}' := by
    have among := mem_of_nearest? found
    have kept := (List.mem_filter.mp among).2
    simp only [Bool.and_eq_true, beq_iff_eq] at kept
    exact kept.1.1
  obtain ⟨within, here⟩ := List.getElem?_eq_some_iff.mp (around.kept stands (by decide)).1
  obtain ⟨v, split, blank⟩ := trimRight_append_blanks (l.take i)
  have behind : l.drop i = '}' :: l.drop (i + 1) := by
    rw [List.drop_eq_getElem_cons within, here]
  have line : l = trimRight (l.take i) ++ (v ++ '}' :: l.drop (i + 1)) := by
    rw [← behind, ← List.append_assoc, ← split, List.take_append_drop]
  have place : lineStartOf code d + i = (ended above ++ trimRight (l.take i)).length + v.length := by
    have lengths := congrArg List.length split
    rw [List.length_take_of_le (Nat.le_of_lt within), List.length_append] at lengths
    rw [lineStartOf, around.lineStart, List.length_append]
    omega
  have edited := setLine_eq around edit
  rw [show lineOf code d = l from around.getLine, behind] at edited
  exact ⟨i, found, above, below, _, v, _, leadingBlanks (slice code (lineStartAt code opener) opener),
    line ▸ around, stands, place, blank, isBlank_of_mem_leadingBlanks, edited.trans (by simp)⟩

/-- **A closing brace behind a statement.** It is put on the next line without harm, where
no word goes on behind it. -/
lemma literals_eq_of_splitBeforeClosing {l : Text} (there : line? code d.line.value = some l)
    (edit : Brace.splitBeforeClosing code d = .ok after)
    (apart : ∀ i, Brace.closingBehindBody? (maskedLineOf code d) (columnOf d) = some i →
      (stateAt code (lineStartOf code d + i)).goesOn (code.drop (lineStartOf code d + i)) = false) :
    literals after = literals code := by
  obtain ⟨i, found, above, below, front, v, rest, w, put⟩ := exists_putBelow there edit
  have apart := apart i found
  obtain ⟨-, inText, kind, read, kept⟩ := put.around.kept put.stands (by decide)
  have inCode : (stateAt code (lineStartOf code d + i)).InCode :=
    (inCode_of_closing inText read kept).1
  have feed : '\n' ∉ v := fun feed => put.around.newline_notMem (by simp [feed])
  have blanks : ∀ c ∈ '\n' :: w, isBlank c = true := List.forall_mem_cons.mpr ⟨rfl, put.blanks⟩
  have whole : code = (ended above ++ front) ++ (v ++ ('}' :: rest ++ begun below)) := by
    conv_lhs => rw [put.around.eq]
    simp only [List.append_assoc, List.cons_append]
  have tail : code.drop (lineStartOf code d + i) = '}' :: rest ++ begun below := by
    rw [put.place]
    conv_lhs => rw [whole]
    rw [← List.length_append, ← List.append_assoc, List.drop_left]
  have neutral : Neutral (v ++ ('}' :: rest ++ begun below)).head? := by
    cases v with
    | nil => exact ⟨by simp, by simp, by simp⟩
    | cons c v => exact neutral_of_isBlank (put.blank c List.mem_cons_self)
  rw [tail] at apart
  rw [put.place] at apart inCode
  rw [put.edited]
  rw [whole] at apart inCode ⊢
  exact literals_inCode put.blank feed blanks (List.cons_ne_nil _ _) neutral inCode apart

/-- What the lines are with a brace pulled up to the line above. -/
lemma exists_pulled (above below : List Text) (prev l opened rest : Text) {k : Nat}
    (last : k = above.length + 1) : ∃ blanks : Text, (∀ c ∈ blanks, isBlank c = true) ∧
      unlines (if rest.isEmpty then ((above ++ prev :: l :: below).set (k - 1) opened).eraseIdx k
        else ((above ++ prev :: l :: below).set (k - 1) opened).set k (leadingBlanks l ++ rest)) =
      ended above ++ (opened ++ (blanks ++ (rest ++ begun below))) := by
  subst last
  have pulled : (above ++ prev :: l :: below).set (above.length + 1 - 1) opened =
      above ++ opened :: l :: below := by simp
  rw [pulled]
  by_cases none : rest = []
  · refine ⟨[], by simp, ?_⟩
    have erased : (above ++ opened :: l :: below).eraseIdx (above.length + 1) =
        above ++ opened :: below := by
      rw [List.eraseIdx_append_of_length_le (by omega)]
      simp
    rw [none, List.isEmpty_nil, if_pos rfl, erased, unlines_around]
    rfl
  · refine ⟨'\n' :: leadingBlanks l, ?_, ?_⟩
    · intro c hc
      rcases List.mem_cons.mp hc with rfl | hc
      · rfl
      · exact isBlank_of_mem_leadingBlanks c hc
    · have replaced : (above ++ opened :: l :: below).set (above.length + 1) (leadingBlanks l ++ rest) =
          above ++ opened :: (leadingBlanks l ++ rest) :: below := by
        rw [List.set_append_right _ _ (by omega)]
        simp
      rw [if_neg (by simpa using none), replaced, unlines_around]
      simp [begun]

/-- The lines around an opening brace that is pulled up, with the line above cut in what
is kept and the blanks at its end, and the text after the edit. -/
structure PulledUp (code after : Text) (line : Int) (above below : List Text)
    (opened w indent u part v : Text) : Prop where
  around : Around code line (above ++ [opened ++ w]) ((indent ++ ['{']) ++ (u ++ (part ++ v))) below
  blankAbove : ∀ c ∈ w, isBlank c = true
  blankIndent : ∀ c ∈ indent, isBlank c = true
  blankBehind : ∀ c ∈ u, isBlank c = true
  blankEnd : ∀ c ∈ v, isBlank c = true
  solid : ∀ c ∈ part.getLast?, isBlank c = false
  edited : ∃ blanks : Text, (∀ c ∈ blanks, isBlank c = true) ∧
    after = (ended above ++ opened) ++ ([' '] ++ ('{' :: (blanks ++ (part ++ begun below))))

lemma exists_pulledUp {l : Text} (there : line? code d.line.value = some l)
    (below' : 1 < d.line.value) (edit : Brace.pullUp code d = .ok after)
    (opens : startsIn (· == '{') (trimLeft (lineOf code d)) = true) :
    ∃ above below opened w indent u part v,
      PulledUp code after d.line.value above below opened w indent u part v := by
  obtain ⟨above, below, around⟩ := exists_around there
  have line : lineOf code d = l := around.getLine
  have number := around.number
  rcases List.eq_nil_or_concat above with rfl | ⟨above, prev, rfl⟩
  · rw [List.length_nil] at number
    omega
  rw [List.concat_eq_append] at around number
  rw [List.length_append, List.length_singleton] at number
  have prevLine : getLine code (d.line.value - 1) = prev := by
    have place : (d.line.value - 1 - 1).toNat = above.length := by omega
    rw [getLine, line?, if_neg (by omega), around.lines_eq, place]
    simp
  rw [line] at opens
  obtain ⟨tail, head⟩ : ∃ tail, trimLeft l = '{' :: tail := by
    rw [startsIn, Option.any_eq_true] at opens
    obtain ⟨c, first, brace⟩ := opens
    obtain ⟨tail, head⟩ := List.head?_eq_some_iff.mp first
    rw [beq_iff_eq] at brace
    exact ⟨tail, brace ▸ head⟩
  rw [Brace.pullUp] at edit
  split at edit
  · cases edit
  split at edit
  · cases edit
  split at edit
  · cases edit
  simp only [prevLine, line, head, List.drop_one, List.tail_cons, Except.ok.injEq] at edit
  obtain ⟨blanks, blank, pulled⟩ :=
    exists_pulled above below prev l (trimRight prev ++ [' ', '{']) (trim tail) number
  rw [around.lines_eq, List.append_assoc, List.singleton_append, pulled] at edit
  obtain ⟨w, prevSplit, blankAbove⟩ := trimRight_append_blanks prev
  obtain ⟨u, v, tailSplit, blankBehind, blankEnd, solid⟩ := exists_trim tail
  have split : l = (leadingBlanks l ++ ['{']) ++ (u ++ (trim tail ++ v)) := by
    rw [← tailSplit, List.append_assoc, List.singleton_append, ← head, leadingBlanks, trimLeft,
      List.takeWhile_append_dropWhile]
  refine ⟨above, below, trimRight prev, w, leadingBlanks l, u, trim tail, v, ?_, blankAbove,
    isBlank_of_mem_leadingBlanks, blankBehind, blankEnd, solid, blanks, blank, ?_⟩
  · rwa [← prevSplit, ← split]
  · rw [← edit]
    simp

/-- Before the blanks at the end of a line that ends in code, the scanner is in code. -/
lemma inCode_of_ended {before w rest : Text} (parts : code = before ++ (w ++ '\n' :: rest))
    (blank : ∀ c ∈ w, isBlank c = true) (feed : '\n' ∉ w)
    (mode : (stateAt code (before.length + w.length)).mode = .code) :
    (stateAt code before.length).InCode := by
  rw [mode_behind_blanks parts blank feed] at mode
  have neutral : Neutral (w ++ '\n' :: rest).head? := by
    cases w with
    | nil => exact neutral_of_isBlank rfl
    | cons c w => exact neutral_of_isBlank (blank c List.mem_cons_self)
  have ready : (stateAt code before.length).Ready := by
    conv => rw [parts]
    exact ready_stateAt _ neutral
  exact ⟨mode, ready.alone (by rw [mode]; rfl)⟩

/-- Behind blanks in code and an opening brace, whatever the blanks are. -/
lemma stateAt_behind_opening {before blanks rest : Text}
    (parts : code = before ++ (blanks ++ '{' :: rest)) (start : (stateAt code before.length).InCode)
    (blank : ∀ c ∈ blanks, isBlank c = true) (some' : blanks ≠ []) :
    stateAt code (before.length + (blanks.length + 1)) =
      (stateAt code before.length).forget.plain '{' := by
  conv_lhs => rw [parts]
  rw [stateAt_append_add, ← parts, State.after_append_add, start.after_blanks blank some',
    State.after, start.forget.step_openingBrace, State.after_zero]

/-- Blanks in code and an opening brace are read alike, whatever the blanks are. -/
lemma content_opening {st : State} {blanks rest : Text} (start : st.InCode)
    (blank : ∀ c ∈ blanks, isBlank c = true) (some' : blanks ≠ []) :
    st.content (blanks ++ '{' :: rest) = (st.forget.plain '{').content rest := by
  rw [start.content_blanks blank some', State.content_cons, start.forget.step_openingBrace]
  rfl

namespace PulledUp

variable {above below : List Text} {opened w indent u part v : Text}

lemma whole (h : PulledUp code after d.line.value above below opened w indent u part v) :
    code = (ended above ++ opened) ++ ((w ++ '\n' :: indent) ++
      ('{' :: (u ++ (part ++ (v ++ begun below))))) := by
  conv_lhs => rw [h.around.eq]
  simp [ended]

/-- What stands between the line above and the brace is blank. -/
lemma gap (h : PulledUp code after d.line.value above below opened w indent u part v) :
    ∀ c ∈ w ++ '\n' :: indent, isBlank c = true := by
  intro c hc
  rcases List.mem_append.mp hc with hc | hc
  · exact h.blankAbove c hc
  rcases List.mem_cons.mp hc with rfl | hc
  · rfl
  · exact h.blankIndent c hc

/-- Where the line above ends in code, it does so before the blanks at its end. -/
lemma inCode (h : PulledUp code after d.line.value above below opened w indent u part v)
    (mode : (stateAt code (lineStartOf code d - 1)).mode = .code) :
    (stateAt code (ended above ++ opened).length).InCode := by
  have parts : code = (ended above ++ opened) ++ (w ++ '\n' ::
      (indent ++ '{' :: (u ++ (part ++ (v ++ begun below))))) := by
    conv_lhs => rw [h.whole]
    simp
  have place : lineStartOf code d - 1 = (ended above ++ opened).length + w.length := by
    rw [lineStartOf, h.around.lineStart]
    simp [ended]
    omega
  have feed : '\n' ∉ w := by
    intro feed
    have among : opened ++ w ∈ lines code := by simp [h.around.lines_eq]
    exact newline_notMem_of_mem_lines _ among (List.mem_append_right opened feed)
  rw [place] at mode
  exact inCode_of_ended parts h.blankAbove feed mode

/-- Behind the brace the scanner has read the line above and the brace. -/
lemma stateAt_eq (h : PulledUp code after d.line.value above below opened w indent u part v)
    (start : (stateAt code (ended above ++ opened).length).InCode) :
    stateAt code (ended (above ++ [opened ++ w]) ++ (indent ++ ['{'])).length =
      (stateAt code (ended above ++ opened).length).forget.plain '{' := by
  have lengths : (ended (above ++ [opened ++ w]) ++ (indent ++ ['{'])).length =
      (ended above ++ opened).length + ((w ++ '\n' :: indent).length + 1) := by
    simp [ended]
    omega
  rw [lengths]
  exact stateAt_behind_opening h.whole start h.gap (by simp)

end PulledUp

/-- **An opening brace on a line of its own.** It is put on the line above without harm
just if its own line does not end in blanks inside of a literal. -/
lemma literals_iff_of_pullUp {l : Text} (there : line? code d.line.value = some l)
    (below' : 1 < d.line.value) (edit : Brace.pullUp code d = .ok after)
    (opens : startsIn (· == '{') (trimLeft (lineOf code d)) = true)
    (mode : (stateAt code (lineStartOf code d - 1)).mode = .code) :
    literals after = literals code ↔ ¬ EndsInLiteral code d := by
  obtain ⟨above, below, opened, w, indent, u, part, v, pulled⟩ :=
    exists_pulledUp there below' edit opens
  obtain ⟨blanks, blank, edited⟩ := pulled.edited
  have some' : w ++ '\n' :: indent ≠ [] := by simp
  have one : ∀ c ∈ [' '], isBlank c = true := by simp; rfl
  have start := pulled.inCode mode
  have behind := pulled.stateAt_eq start
  have inCode : (stateAt code (ended (above ++ [opened ++ w]) ++ (indent ++ ['{'])).length).InCode := by
    rw [behind]
    exact start.forget.plain '{'
  have apart : (stateAt code
      (ended (above ++ [opened ++ w]) ++ (indent ++ ['{'])).length).inWord = false := by
    rw [behind]
    exact State.inWord_plain (by decide)
  have feed : '\n' ∉ v := fun feed => pulled.around.newline_notMem (by simp [feed])
  rw [endsInLiteral_iff_between pulled.around inCode apart pulled.blankBehind pulled.blankEnd
    pulled.solid, not_not, edited]
  conv_lhs => rw [pulled.whole]
  rw [literals_append_inj _ fun c _ st => State.step_neutral (neutral_of_blanks some' pulled.gap)
      (neutral_of_blanks (List.cons_ne_nil _ _) one), ← pulled.whole,
    content_opening start pulled.gap some', content_opening start one (List.cons_ne_nil _ _),
    ← behind, State.content_between (consistent_stateAt _ _) (tidy_stateAt _ _) inCode apart
      pulled.blankBehind blank pulled.blankEnd feed eq_newline_of_begun]

/-- The next line with code lies below blank lines only, and starts with a word that goes
on a statement. -/
lemma nextCodeLine_spec {count : Nat} {line next : Int}
    (found : Brace.nextCodeLine code count line = some next) :
    line ≤ next ∧ next < line + count ∧
      (∀ m, line ≤ m → m < next → (getLine code m).all isBlank = true) ∧
      ∃ word ∈ Brace.joiningWords, Code.startsWithWord word (trim (maskedLine code next)) = true := by
  induction count generalizing line with
  | zero => cases found
  | succ count ih =>
      rw [Brace.nextCodeLine] at found
      split at found
      · split at found
        · next blank =>
          obtain ⟨low, high, above, joins⟩ := ih found
          refine ⟨by omega, by omega, fun m low' high' => ?_, joins⟩
          by_cases first : m = line
          · rw [first]
            exact blank
          · exact above m (by omega) high'
        · cases found
      · split at found
        · next joins =>
          cases found
          exact ⟨Int.le_refl _, by omega, fun m _ _ => by omega, List.any_eq_true.mp joins⟩
        · cases found

/-- A line below another, with the lines between them. -/
lemma exists_below {above below : List Text} {l : Text} {line next : Int}
    (h : Around code line above l below) (low : line < next)
    (high : next ≤ (lines code).length) :
    ∃ between l' below', below = between ++ l' :: below' ∧
      Around code next (above ++ l :: between) l' below' ∧ (lines code).drop next.toNat = below' ∧
      ∀ t ∈ between, ∃ m, line < m ∧ m < next ∧ getLine code m = t := by
  have first := (line?_isSome_iff.mp (by rw [h.line?]; rfl : (line? code line).isSome = true)).1
  have number := h.number
  have count : (lines code).length = above.length + (below.length + 1) := by
    rw [h.lines_eq, List.length_append, List.length_cons]
  obtain ⟨n, hn⟩ : ∃ n, next.toNat = above.length + 1 + n + 1 := ⟨next.toNat - above.length - 2, by omega⟩
  have within : n < below.length := by omega
  have parts : below = below.take n ++ below[n] :: below.drop (n + 1) := by
    rw [List.cons_getElem_drop_succ, List.take_append_drop]
  have all : lines code = (above ++ l :: below.take n) ++ below[n] :: below.drop (n + 1) := by
    rw [List.append_assoc, List.cons_append, ← parts, h.lines_eq]
  have place : (next - 1).toNat = (above ++ l :: below.take n).length := by
    rw [List.length_append, List.length_cons, List.length_take_of_le (Nat.le_of_lt within)]
    omega
  refine ⟨below.take n, below[n], below.drop (n + 1), parts, ⟨all, place, ?_⟩, ?_, ?_⟩
  · rw [line?, if_neg (by omega), place, all, List.getElem?_append_right (Nat.le_refl _),
      Nat.sub_self]
    rfl
  · have behind : next.toNat = (above ++ l :: below.take n).length + 1 := by omega
    rw [all, behind, List.drop_length_add_append]
    rfl
  · intro t ht
    obtain ⟨i, here⟩ := List.getElem?_of_mem ht
    obtain ⟨early, -⟩ := List.getElem?_eq_some_iff.mp here
    rw [List.length_take_of_le (Nat.le_of_lt within)] at early
    refine ⟨line + 1 + i, by omega, by omega, ?_⟩
    have index : (line + 1 + i - 1).toNat = above.length + (i + 1) := by omega
    rw [List.getElem?_take_of_lt early] at here
    rw [getLine, line?, if_neg (by omega), index, h.lines_eq,
      List.getElem?_append_right (by omega), Nat.add_sub_cancel_left, List.getElem?_cons_succ, here,
      Option.getD_some]

/-- What a masked line starts with, if it is a word that goes on a statement. -/
lemma exists_joining {masked word : Text} (among : word ∈ Brace.joiningWords)
    (starts : Code.startsWithWord word (trim masked) = true) :
    ∃ c ∈ ['e', 'c', 'f'], ∃ rest, masked = leadingBlanks masked ++ c :: rest := by
  rw [Code.startsWithWord, Bool.and_eq_true] at starts
  obtain ⟨tail, whole⟩ := List.isPrefixOf_iff_prefix.mp starts.1
  obtain ⟨blanks, split, -⟩ := trimRight_append_blanks (trimLeft masked)
  have head : masked = leadingBlanks masked ++ (word ++ (tail ++ blanks)) := by
    conv_lhs => rw [← List.takeWhile_append_dropWhile (p := isBlank) (l := masked)]
    rw [← List.append_assoc word, whole, trim, ← split]
    rfl
  have first : ∀ w ∈ Brace.joiningWords, ∃ c ∈ ['e', 'c', 'f'], ∃ rest, w = c :: rest := by
    simp [Brace.joiningWords]
  obtain ⟨c, letter, rest, rfl⟩ := first word among
  exact ⟨c, letter, _, head⟩

/-- Between two offsets of which the second is where a masked line has its first character
that is not blank, a masked text is blank if the text is up to that line. -/
lemma isBlank_of_mask_before {above below : List Text} {before blanks rest l : Text} {line : Int}
    (h : Around code line above l below) (parts : code = before ++ (blanks ++ rest))
    (blank : ∀ c ∈ blanks, isBlank c = true)
    (reach : lineStart code line ≤ before.length + blanks.length) {j : Nat} (low : before.length ≤ j)
    (high : j < lineStart code line + (leadingBlanks (maskedLine code line)).length) :
    ∀ c ∈ (mask code)[j]?, isBlank c = true := by
  intro c hc
  by_cases earlier : j < lineStart code line
  · obtain ⟨i, rfl⟩ : ∃ i, j = before.length + i := ⟨j - before.length, by omega⟩
    have inBlanks : code[before.length + i]? = blanks[i]? := by
      conv_lhs => rw [parts]
      rw [List.getElem?_append_right (by omega), Nat.add_sub_cancel_left,
        List.getElem?_append_left (by omega)]
    obtain ⟨b, here⟩ : ∃ b, blanks[i]? = some b := ⟨_, List.getElem?_eq_getElem (by omega)⟩
    exact isBlank_mask (inBlanks.trans here) (blank b (List.mem_of_getElem? here)) hc
  · obtain ⟨i, rfl⟩ : ∃ i, j = lineStart code line + i := ⟨j - lineStart code line, by omega⟩
    have within : i < (leadingBlanks (maskedLine code line)).length := by omega
    have prefix' : leadingBlanks (maskedLine code line) <+: maskedLine code line :=
      List.takeWhile_prefix _
    have long : i < l.length := by
      have length : (maskedLine code line).length ≤ l.length := by
        rw [h.maskedLine, List.length_take]
        exact Nat.min_le_left _ _
      have := prefix'.length_le
      omega
    have onLine : (maskedLine code line)[i]? = some c := by
      rw [h.maskedLine, List.getElem?_take_of_lt long, List.getElem?_drop]
      exact hc
    obtain ⟨tail, whole⟩ := prefix'
    rw [← whole, List.getElem?_append_left within] at onLine
    exact isBlank_of_mem_leadingBlanks c (List.mem_of_getElem? onLine)

/-- The lines around a block that goes on below: the line of the closing brace, cut in what
stands up to the brace and the blanks at its end, blank lines, and the line on which it goes
on; and the text after the edit. -/
structure JoinedNext (code after : Text) (d : Diagnostic) (next : Int)
    (above between below : List Text) (front w l' : Text) : Prop where
  here : Around code d.line.value above ((front ++ ['}']) ++ w) (between ++ l' :: below)
  there : Around code next (above ++ ((front ++ ['}']) ++ w) :: between) l' below
  blank : ∀ c ∈ w ++ (begun between ++ '\n' :: leadingBlanks l'), isBlank c = true
  closes : (maskedLineOf code d)[front.length]? = some '}'
  joins : ∃ word ∈ Brace.joiningWords,
    Code.startsWithWord word (trim (maskedLine code next)) = true
  edited : after = (ended above ++ (front ++ ['}'])) ++ ([' '] ++ (trimLeft l' ++ begun below))

lemma exists_joinedNext {l : Text} (there : line? code d.line.value = some l)
    (closes : endsIn (· == '}') (trimRight (maskedLineOf code d)) = true)
    (edit : Brace.joinNext code d = .ok after) : ∃ next above between below front w l',
      JoinedNext code after d next above between below front w l' := by
  obtain ⟨above, below, around⟩ := exists_around there
  have line : lineOf code d = l := around.getLine
  rw [Brace.joinNext] at edit
  split at edit
  · cases edit
  next next found =>
  dsimp only at edit
  split at edit
  · cases edit
  next kept =>
  rw [line, bne_iff_ne, not_not] at kept
  obtain ⟨low, high, blankAbove, joins⟩ := nextCodeLine_spec found
  have isSome : (line? code d.line.value).isSome = true := by rw [there]; rfl
  obtain ⟨first, last⟩ := line?_isSome_iff.mp isSome
  have later : d.line.value < next := by omega
  have within : next ≤ (lines code).length := by omega
  obtain ⟨between, l', below', rfl, around', rest, blankBetween⟩ :=
    exists_below around later within
  -- the brace is the last character of its line that is not blank
  obtain ⟨front, ends⟩ : ∃ front, trimRight l = front ++ ['}'] := by
    rw [← kept, endsIn, Option.any_eq_true] at closes
    obtain ⟨c, last, brace⟩ := closes
    rw [beq_iff_eq] at brace
    rw [brace] at last
    exact List.getLast?_eq_some_iff.mp last
  have stands : (maskedLineOf code d)[front.length]? = some '}' := by
    obtain ⟨tail, whole, -⟩ := trimRight_append_blanks (maskedLineOf code d)
    rw [whole, ← kept, ends]
    simp
  obtain ⟨w, split, blank⟩ := trimRight_append_blanks l
  rw [ends] at split
  refine ⟨next, above, between, below', front, w, l', ?_, ?_, ?_, stands, joins, ?_⟩
  · rwa [← split]
  · rwa [← split]
  · intro c hc
    rcases List.mem_append.mp hc with hc | hc
    · exact blank c hc
    rcases List.mem_append.mp hc with hc | hc
    · obtain ⟨t, ht, hc⟩ := List.mem_flatMap.mp hc
      rcases List.mem_cons.mp hc with rfl | hc
      · rfl
      obtain ⟨m, after', before', rfl⟩ := blankBetween t ht
      exact List.all_eq_true.mp (blankAbove m (by omega) before') c hc
    rcases List.mem_cons.mp hc with rfl | hc
    · rfl
    · exact isBlank_of_mem_leadingBlanks c hc
  · rw [line, around'.getLine, rest, around.number, around.lines_eq, List.take_left' rfl,
      unlines_around, ends, Except.ok.injEq] at edit
    rw [← edit]
    simp

namespace JoinedNext

variable {above between below : List Text} {front w l' : Text} {next : Int}

lemma whole (h : JoinedNext code after d next above between below front w l') :
    code = (ended above ++ (front ++ ['}'])) ++
      ((w ++ (begun between ++ '\n' :: leadingBlanks l')) ++ (trimLeft l' ++ begun below)) := by
  have head : l' = leadingBlanks l' ++ trimLeft l' := List.takeWhile_append_dropWhile.symm
  conv_lhs => rw [h.here.eq, head]
  simp [begun]

/-- The line on which the block goes on starts behind the blanks between the two. -/
lemma lineStart_eq (h : JoinedNext code after d next above between below front w l') :
    lineStart code next =
      (ended above ++ (front ++ ['}'])).length + (w.length + ((begun between).length + 1)) := by
  have parts : ended (above ++ ((front ++ ['}']) ++ w) :: between) =
      ended above ++ ((((front ++ ['}']) ++ w) ++ ['\n']) ++ ended between) := by
    simp [ended]
  rw [h.there.lineStart, parts]
  simp only [List.length_append, List.length_singleton, length_begun]
  omega

/-- Behind the closing brace the scanner is in code and in no word. It is in no template, for
there no word comes before a tick or a dollar sign. -/
lemma inCode (h : JoinedNext code after d next above between below front w l') :
    (stateAt code (ended above ++ (front ++ ['}'])).length).InCode ∧
      (stateAt code (ended above ++ (front ++ ['}'])).length).inWord = false := by
  obtain ⟨-, inText, kind, read, kept⟩ := h.here.kept h.closes (by decide)
  have place : (ended above ++ (front ++ ['}'])).length =
      lineStart code d.line.value + front.length + 1 := by
    rw [h.here.lineStart, List.length_append, List.length_append, List.length_singleton,
      Nat.add_assoc]
  rcases place ▸ (inCode_of_closing inText read kept).2 with template | inCode
  swap
  · exact inCode
  exfalso
  obtain ⟨word, among, joins⟩ := h.joins
  obtain ⟨c, letter, tail, masked⟩ := exists_joining among joins
  have solid : isBlank c = false ∧ ¬ (c = '\x60' ∨ c = '$') := by
    simp only [List.mem_cons, List.not_mem_nil, or_false] at letter
    rcases letter with rfl | rfl | rfl <;> decide
  have stands : (leadingBlanks (maskedLine code next) ++ c :: tail)[
      (leadingBlanks (maskedLine code next)).length]? = some c := by simp
  rw [← masked] at stands
  obtain ⟨-, inText, kind, read, kept⟩ := h.there.kept stands solid.1
  have start := h.lineStart_eq
  have reach : lineStart code next ≤ (ended above ++ (front ++ ['}'])).length +
      (w ++ (begun between ++ '\n' :: leadingBlanks l')).length := by
    rw [start]
    simp only [List.length_append, List.length_cons]
    omega
  obtain ⟨n, hn⟩ : ∃ n, lineStart code next = (ended above ++ (front ++ ['}'])).length + n :=
    ⟨_, start⟩
  rw [hn, Nat.add_assoc] at inText read
  refine solid.2 (tick_or_of_template template (fun j low high => ?_) inText read kept)
  exact isBlank_of_mask_before h.there h.whole h.blank reach low (by omega)

end JoinedNext

/-- **A block that goes on below.** It is put behind the closing brace without harm. -/
lemma literals_eq_of_joinNext {l : Text} (there : line? code d.line.value = some l)
    (closes : endsIn (· == '}') (trimRight (maskedLineOf code d)) = true)
    (edit : Brace.joinNext code d = .ok after) : literals after = literals code := by
  obtain ⟨next, above, between, below, front, w, l', joined⟩ := exists_joinedNext there closes edit
  obtain ⟨inCode, apart⟩ := joined.inCode
  have solid : ∀ c ∈ (ended above ++ (front ++ ['}'])).getLast?, ∀ st : State,
      st.step c ((w ++ (begun between ++ '\n' :: leadingBlanks l')) ++
          (trimLeft l' ++ begun below)).head? =
        st.step c ([' '] ++ (trimLeft l' ++ begun below)).head? :=
    fun c hc st => State.step_solid (by simp at hc; rw [← hc]; decide) _ _
  rw [joined.edited]
  conv_rhs => rw [joined.whole]
  rw [literals_append_inj _ solid, ← joined.whole,
    inCode.content_blanks_of_inWord apart joined.blank,
    inCode.content_blanks_of_inWord apart (by simp; rfl)]

end LintRepair.Rules
