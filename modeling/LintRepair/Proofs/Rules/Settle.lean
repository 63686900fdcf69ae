/-
The repair of an indentation, asked for again.

* `UnitOf`: the blanks that texts are indented by, from the widths of their indentations;
  `indentUnit_cases`: what `indentUnit` answers;
* `UnitOf.kept`: an indentation more does not change them, if one as wide as they are is
  there;
* `expectedDepth_replaced`: blanks at the start of a line do not tell on its depth;
* `Indents`: what the repair does to a text, and what is expected of the line behind it;
* `settled_of_fix`: the repair is not asked for again just if the blanks that it puts there
  are all that the line starts with, and are still as many as they should be.
-/
import LintRepair.Grammar.Statement
import LintRepair.Proofs.Lexical.Edit
import LintRepair.Proofs.Rules.Above
import LintRepair.Proofs.Rules.Blanks

namespace LintRepair.Rules

open Text Lexical Code Check Repair Whitespace

variable {code : Text} {d : Diagnostic} {above below : List Text} {l new blanks rest : Text}

/-! ### The unit of a text -/

/-- The blanks that texts are indented by whose indentations, all without a tab, have these
widths. -/
inductive UnitOf (width : Nat → Prop) : Text → Prop
  | least (n : Nat) (listed : n ∈ [2, 4, 8]) (there : width n) (least : ∀ w, width w → n ≤ w) :
      UnitOf width (List.replicate n ' ')
  | default (none' : ∀ n ∈ [2, 4, 8], width n → ∃ w, width w ∧ w < n) : UnitOf width defaultUnit

/-- A line that is not blank starts with a tab. -/
def Tabbed (l : Text) : Prop := l.all isBlank = false ∧ (leadingBlanks l).head? = some '\t'

/-- A line that is not blank starts with this many blanks. -/
def Indented (l : Text) (n : Nat) : Prop :=
  0 < n ∧ l.all isBlank = false ∧ (leadingBlanks l).length = n

lemma UnitOf.congr {width width' : Nat → Prop} {unit : Text} (h : UnitOf width unit)
    (same : ∀ n, width n ↔ width' n) : UnitOf width' unit := by
  rwa [← (funext fun n => propext (same n) : width = width')]

lemma unitOf_least? (ns : List Nat) : UnitOf (· ∈ ns) (indentUnit.go ns []) := by
  have min : least? ns = ns.min? := by cases ns <;> rfl
  rw [indentUnit.go, min]
  cases found : ns.min? with
  | none =>
      rw [List.min?_eq_none_iff] at found
      exact .default fun n _ there => absurd there (by simp [found])
  | some n =>
      obtain ⟨there, least⟩ := List.min?_eq_some_iff.mp found
      by_cases listed : n = 2 ∨ n = 4 ∨ n = 8
      · simp only [listed, if_true]
        exact .least n (by simpa using listed) there least
      · simp only [listed, if_false]
        refine .default fun m listed' there' => ⟨n, there, ?_⟩
        refine Nat.lt_of_le_of_ne (least m there') ?_
        rintro rfl
        exact listed (by simpa using listed')

lemma indentUnit_go_cases (ls : List Text) (solid : ∀ l ∈ ls, l.all isBlank = false)
    (ns : List Nat) :
    ((∃ l ∈ ls, Tabbed l) ∧ indentUnit.go ns ls = ['\t']) ∨
      ((∀ l ∈ ls, ¬ Tabbed l) ∧
        UnitOf (fun n => n ∈ ns ∨ ∃ l ∈ ls, Indented l n) (indentUnit.go ns ls)) := by
  induction ls generalizing ns with
  | nil => exact .inr ⟨by simp, (unitOf_least? ns).congr (by simp)⟩
  | cons l ls ih =>
      have later := ih fun l among => solid l (List.mem_cons_of_mem _ among)
      have solid := solid l List.mem_cons_self
      rw [indentUnit.go]
      split
      · next none' =>
        -- A line that is not indented is passed over.
        have plain : ¬ Tabbed l ∧ ∀ n, ¬ Indented l n := by
          refine ⟨by simp [Tabbed, none'], fun n indented => ?_⟩
          have wide := indented.2.2 ▸ indented.1
          simp [none'] at wide
        refine (later ns).imp (fun tabbed => ?_) fun untabbed => ?_
        · simpa [plain.1] using tabbed
        · simpa [plain.1, plain.2] using untabbed
      · next first others some' =>
        split_ifs with tab
        · exact .inl ⟨⟨l, List.mem_cons_self, solid, by rw [some', tab]; rfl⟩, rfl⟩
        · have plain : ¬ Tabbed l := by simp [Tabbed, some', tab]
          have wide : ∀ n, Indented l n ↔ n = (leadingBlanks l).length := by
            intro n
            simp only [Indented, solid, true_and, some', List.length_cons]
            omega
          rw [← some']
          refine (later ((leadingBlanks l).length :: ns)).imp (fun tabbed => ?_) fun untabbed => ?_
          · simpa [plain] using tabbed
          · refine ⟨by simpa [plain] using untabbed.1, untabbed.2.congr fun n => ?_⟩
            simp only [List.mem_cons, exists_eq_or_imp, wide]
            rw [or_assoc, or_left_comm]

/-- **The unit of a text.** -/
lemma indentUnit_cases (code : Text) :
    ((∃ l ∈ lines code, Tabbed l) ∧ indentUnit code = ['\t']) ∨
      ((∀ l ∈ lines code, ¬ Tabbed l) ∧
        UnitOf (fun n => ∃ l ∈ lines code, Indented l n) (indentUnit code)) := by
  have solid : ∀ l ∈ (lines code).filter fun l => !l.all isBlank, l.all isBlank = false := by
    intro l among
    simpa using (List.mem_filter.mp among).2
  have tabbed : ∀ l, Tabbed l → (!l.all isBlank) = true := fun l h => by rw [h.1]; rfl
  have indented : ∀ l n, Indented l n → (!l.all isBlank) = true := fun l n h => by rw [h.2.1]; rfl
  refine (indentUnit_go_cases _ solid []).imp (fun ⟨⟨l, among, tab⟩, unit⟩ => ?_)
    fun ⟨untabbed, unit⟩ => ⟨fun l among tab => ?_, unit.congr fun n => ?_⟩
  · exact ⟨⟨l, (List.mem_filter.mp among).1, tab⟩, unit⟩
  · exact untabbed l (List.mem_filter.mpr ⟨among, tabbed l tab⟩) tab
  · simp only [List.not_mem_nil, false_or, List.mem_filter]
    exact ⟨fun ⟨l, among, h⟩ => ⟨l, among.1, h⟩,
      fun ⟨l, among, h⟩ => ⟨l, ⟨among, indented l n h⟩, h⟩⟩

namespace UnitOf

variable {width width' : Nat → Prop} {unit unit' : Text}

lemma eq_replicate (h : UnitOf width unit) : unit = List.replicate unit.length ' ' := by
  cases h with
  | least n => rw [List.length_replicate]
  | default => rfl

lemma length_pos (h : UnitOf width unit) : 0 < unit.length := by
  cases h with
  | least n listed =>
      simp only [List.mem_cons, List.not_mem_nil, or_false] at listed
      rw [List.length_replicate]
      omega
  | default => decide

/-- The unit is the same if there is an indentation of its width, and no other is new but
wider ones. -/
lemma kept (h : UnitOf width unit) (h' : UnitOf width' unit') (there : width' unit.length)
    (wider : ∀ w, width' w → width w ∨ unit.length ≤ w) : unit' = unit := by
  cases h with
  | least n listed _ least =>
      rw [List.length_replicate] at there wider
      have least' : ∀ w, width' w → n ≤ w := fun w new => (wider w new).elim (least w) id
      cases h' with
      | least m _ there' least'' => rw [Nat.le_antisymm (least'' n there) (least' m there')]
      | default none' =>
          obtain ⟨w, new, narrow⟩ := none' n listed there
          exact absurd (least' w new) (by omega)
  | default =>
      cases h' with
      | least m listed _ least =>
          have narrow : m ≤ 2 := least 2 there
          simp only [List.mem_cons, List.not_mem_nil, or_false] at listed
          rw [show m = 2 by omega]
          rfl
      | default => rfl

end UnitOf

lemma indentUnit_ne_nil (code : Text) : indentUnit code ≠ [] := by
  rcases indentUnit_cases code with ⟨-, unit⟩ | ⟨-, unit⟩
  · rw [unit]
    exact List.cons_ne_nil _ _
  · exact List.ne_nil_of_length_pos unit.length_pos

/-! ### The line replaced -/

lemma leadingBlanks_append (blank : ∀ c ∈ blanks, isBlank c = true) :
    leadingBlanks (blanks ++ rest) = blanks ++ leadingBlanks rest :=
  List.takeWhile_append_of_pos blank

lemma leadingBlanks_eq_nil_iff : leadingBlanks rest = [] ↔ startsIn isBlank rest = false := by
  cases rest with
  | nil => exact iff_of_true rfl rfl
  | cons c rest => simp [leadingBlanks, startsIn]

/-- Behind the spaces and tabs that a line starts with, only other blanks may follow. -/
lemma other_of_leadingBlanks :
    ∀ c ∈ (leadingBlanks (l.dropWhile isSpaceOrTab)).head?, isSpaceOrTab c = false := by
  intro c first
  rw [leadingBlanks, List.head?_takeWhile, Option.mem_def, Option.filter_eq_some_iff] at first
  have other := List.head?_dropWhile_not isSpaceOrTab l
  rw [first.1] at other
  exact other

/-- **Blanks at the start of a line** do not tell on the number of levels that it is
indented by. -/
lemma expectedDepth_replaced {line : Int} (h : Around code line above (blanks ++ rest) below)
    (blank : ∀ c ∈ blanks, isSpaceOrTab c = true) (blank' : ∀ c ∈ new, isSpaceOrTab c = true) :
    expectedDepth (ended above ++ ((new ++ rest) ++ begun below)) line =
      expectedDepth code line := by
  have feed : '\n' ∉ new ++ rest := by
    rw [List.mem_append, not_or]
    exact ⟨newline_notMem_of_isSpaceOrTab blank',
      fun inside => h.newline_notMem (List.mem_append_right _ inside)⟩
  have h' := h.replaced feed
  have alike : ∀ c ∈ (ended above).getLast?, ∀ st : State,
      st.step c (blanks ++ rest ++ begun below).head? =
        st.step c (new ++ rest ++ begun below).head? := by
    intro c last st
    rw [eq_newline_of_ended c last]
    exact State.step_solid (by decide) _ _
  obtain ⟨front, st, length, masked, masked', place, -⟩ := exists_mask_append _ alike
  have consistent : st.Consistent := place ▸ consistent_stateAt _ _
  have tidy : st.Tidy := place ▸ tidy_stateAt _ _
  have alone : st.joined = none := place ▸ joined_lineStart eq_newline_of_ended
  rw [← h.eq] at masked
  have start := h.lineStart
  have start' := h'.lineStart
  rw [← length] at start start'
  have depths : (mask (ended above ++ (new ++ rest ++ begun below))).take front.length =
      (mask code).take front.length := by
    rw [masked, masked', List.take_left, List.take_left]
  have line' : ∀ blanks : Text, (∀ c ∈ blanks, isSpaceOrTab c = true) →
      startsIn isCloser
          (trimLeft ((st.masks (blanks ++ rest ++ begun below)).take (blanks ++ rest).length)) =
        startsIn isCloser (trimLeft ((st.masks (rest ++ begun below)).take rest.length)) := by
    intro blanks blank
    rw [List.append_assoc, List.length_append]
    exact State.startsIn_masks_blanks isCloser consistent tidy alone
      (fun c hc => isBlank_of_isSpaceOrTab (blank c hc)) (newline_notMem_of_isSpaceOrTab blank)
  rw [expectedDepth, expectedDepth, h.maskedLine, h'.maskedLine, start, start', depths, masked,
    masked', List.drop_left, List.drop_left, line' blanks blank, line' new blank']

/-! ### The indentation of the line -/

lemma length_blanks (i : Indent) : i.blanks.length = i.count * i.unit.length := by
  simp [Indent.blanks]

lemma isOf_iff {t : Text} {i : Indent} : i.isOf t = true ↔ t = i.blanks := by
  simp only [Indent.isOf, Bool.and_eq_true, decide_eq_true_eq, beq_iff_eq, and_iff_right_iff_imp]
  rintro rfl
  exact (length_blanks i).symm

/-- Indentations by as many levels are the same blanks just if they are by none, or by the
same unit. -/
lemma blanks_eq_iff {i i' : Indent} (count : i'.count = i.count) :
    i.blanks = i'.blanks ↔ i.count = 0 ∨ i'.unit = i.unit := by
  constructor
  · intro same
    by_cases none' : i.count = 0
    · exact .inl none'
    · have long := congrArg List.length same
      rw [length_blanks, length_blanks, count] at long
      have long' := Nat.eq_of_mul_eq_mul_left (Nat.pos_of_ne_zero none') long
      obtain ⟨n, count'⟩ := Nat.exists_eq_succ_of_ne_zero none'
      rw [Indent.blanks, Indent.blanks, count, count', List.replicate_succ, List.replicate_succ,
        List.flatten_cons, List.flatten_cons] at same
      exact .inr (List.append_inj_left same long').symm
  · rintro (none' | same)
    · rw [Indent.blanks, Indent.blanks, count, none']
      rfl
    · rw [Indent.blanks, Indent.blanks, count, same]

/-- What the repair of an indentation does: the spaces and tabs that the line starts with
give way to others. -/
structure Indents (code : Text) (d : Diagnostic) (above below : List Text) (l : Text) (i : Indent)
    (after : Text) : Prop where
  around : Around code d.line.value above l below
  solid : l.all isBlank = false
  expected : expectedIndent? code d = some i
  replaced : after = ended above ++ (i.blanks ++ l.dropWhile isSpaceOrTab ++ begun below)

lemma exists_of_indent {after : Text} (takesOn : indent.canFix "indent" code d = true)
    (edit : indent.edit code d = .ok after) :
    ∃ above below l i, Indents code d above below l i after := by
  obtain ⟨l, there⟩ := Option.isSome_iff_exists.mp (line?_isSome_of_canFix takesOn)
  obtain ⟨above, below, around⟩ := exists_around there
  have line : lineOf code d = l := around.getLine
  rw [Method.canFix, Bool.and_eq_true] at takesOn
  have detected := takesOn.2
  simp only [indent, Bool.and_eq_true, Bool.not_eq_true', line] at detected
  simp only [indent] at edit
  split at edit
  · cases edit
  next i expected =>
  exact ⟨above, below, l, i, around, detected.1, expected, line ▸ setLine_eq around edit⟩

namespace Indents

variable {i : Indent} {after : Text}

lemma around_after (h : Indents code d above below l i after) :
    Around after d.line.value above (i.blanks ++ l.dropWhile isSpaceOrTab) below := by
  rw [h.replaced]
  refine h.around.replaced ?_
  rw [List.mem_append, not_or]
  refine ⟨newline_notMem_of_isSpaceOrTab (isSpaceOrTab_of_expectedIndent h.expected), fun inside => ?_⟩
  exact h.around.newline_notMem ((List.dropWhile_sublist _).mem inside)

/-- The repaired line is not blank either. -/
lemma solid_after (h : Indents code d above below l i after) :
    (i.blanks ++ l.dropWhile isSpaceOrTab).all isBlank = false := by
  have solid := h.solid
  have blank : (l.takeWhile isSpaceOrTab).all isBlank = true :=
    List.all_eq_true.mpr fun c hc => isBlank_of_isSpaceOrTab (List.mem_takeWhile_imp hc)
  rw [← List.takeWhile_append_dropWhile (p := isSpaceOrTab) (l := l), List.all_append, blank,
    Bool.true_and] at solid
  rw [List.all_append, solid, Bool.and_false]

lemma leadingBlanks_after (h : Indents code d above below l i after) :
    leadingBlanks (i.blanks ++ l.dropWhile isSpaceOrTab) =
      i.blanks ++ leadingBlanks (l.dropWhile isSpaceOrTab) :=
  leadingBlanks_append fun c hc =>
    isBlank_of_isSpaceOrTab (isSpaceOrTab_of_expectedIndent h.expected c hc)

lemma expectedDepth_after (h : Indents code d above below l i after) :
    expectedDepth after d.line.value = expectedDepth code d.line.value := by
  have around := h.around
  rw [← List.takeWhile_append_dropWhile (p := isSpaceOrTab) (l := l)] at around
  rw [h.replaced]
  exact expectedDepth_replaced around (fun c hc => List.mem_takeWhile_imp hc)
    (isSpaceOrTab_of_expectedIndent h.expected)

/-- Asked again, the line should be indented by as many levels: by the unit that the message
names, else by the unit of the repaired text. -/
lemma expectedIndent_after (h : Indents code d above below l i after) :
    ∃ i', expectedIndent? after d = some i' ∧ i'.count = i.count ∧
      ((messageIndent? d.message.toList).isSome = true → i'.unit = i.unit) ∧
      (messageIndent? d.message.toList = none → i.count = expectedDepth code d.line.value ∧
        i.unit = indentUnit code ∧ i'.unit = indentUnit after) := by
  have expected := h.expected
  cases named : messageIndent? d.message.toList with
  | some named' =>
      have same : expectedIndent? after d = expectedIndent? code d := by
        rw [expectedIndent?, expectedIndent?, named]
      exact ⟨i, same.trans expected, rfl, fun _ => rfl, fun none' => by cases none'⟩
  | none =>
      rw [expectedIndent?, named] at expected
      cases expected
      refine ⟨⟨indentUnit after, expectedDepth code d.line.value⟩, ?_, rfl,
        fun some' => absurd some' (by decide), fun _ => ⟨rfl, rfl, rfl⟩⟩
      rw [expectedIndent?, named, h.expectedDepth_after]

/-- The blanks that the line starts with are the expected ones again just if no other blanks
follow them, and they are by no level or by the same unit. -/
lemma isOf_after (h : Indents code d above below l i after) {i' : Indent}
    (expected : expectedIndent? after d = some i') (count : i'.count = i.count) :
    i'.isOf (leadingBlanks (lineOf after d)) = true ↔
      startsIn isBlank (l.dropWhile isSpaceOrTab) = false ∧ (i.count = 0 ∨ i'.unit = i.unit) := by
  have line : lineOf after d = i.blanks ++ l.dropWhile isSpaceOrTab := h.around_after.getLine
  rw [isOf_iff, line, h.leadingBlanks_after, ← blanks_eq_iff count, ← leadingBlanks_eq_nil_iff]
  constructor
  · intro same
    have none' : leadingBlanks (l.dropWhile isSpaceOrTab) = [] := by
      -- What is expected has no other blanks than spaces and tabs.
      by_contra some'
      obtain ⟨c, others, split⟩ := List.exists_cons_of_ne_nil some'
      have among : c ∈ i'.blanks := by
        rw [← same, split]
        exact List.mem_append_right _ List.mem_cons_self
      have other := other_of_leadingBlanks (l := l) c (by rw [split]; rfl)
      rw [isSpaceOrTab_of_expectedIndent expected c among] at other
      cases other
    rw [none', List.append_nil] at same
    exact ⟨none', same⟩
  · rintro ⟨none', same⟩
    rw [none', List.append_nil, same]

end Indents

/-! ### The unit kept -/

/-- The repair of an indentation leaves nothing to be repaired there: spaces and tabs are all
that the line starts with, and the message names the unit, or it is a tab, or the line has at
most one level, or another line is indented by one unit. -/
structure Steady (code : Text) (d : Diagnostic) : Prop where
  stripped : startsIn isBlank ((lineOf code d).dropWhile isSpaceOrTab) = false
  unit : (messageIndent? d.message.toList).isSome = true ∨ indentUnit code = ['\t'] ∨
    expectedDepth code d.line.value ≤ 1 ∨
      ∃ k l, k ≠ (d.line.value - 1).toNat ∧ (lines code)[k]? = some l ∧
        Indented l (indentUnit code).length

namespace Indents

variable {i : Indent} {after : Text}

/-- The other lines of the text are the same. -/
lemma lines_after (h : Indents code d above below l i after) :
    lines after = above ++ (i.blanks ++ l.dropWhile isSpaceOrTab) :: below :=
  h.around_after.lines_eq

lemma mem_lines_after (h : Indents code d above below l i after) {l' : Text}
    (among : l' ∈ lines after) : l' ∈ lines code ∨ l' = i.blanks ++ l.dropWhile isSpaceOrTab := by
  rw [h.lines_after, List.mem_append, List.mem_cons] at among
  rw [h.around.lines_eq, List.mem_append, List.mem_cons]
  tauto

/-- A line other than the repaired one is still there. -/
lemma mem_lines_of_other (h : Indents code d above below l i after) {k : Nat} {l' : Text}
    (other : k ≠ (d.line.value - 1).toNat) (stands : (lines code)[k]? = some l') :
    l' ∈ lines after := by
  rw [h.around.number] at other
  rw [h.around.lines_eq] at stands
  refine List.mem_of_getElem? (i := k) ?_
  rw [h.lines_after]
  grind

/-- **The unit is kept.** -/
lemma indentUnit_after (h : Indents code d above below l i after) (steady : Steady code d)
    (unit : i.unit = indentUnit code) (count : i.count = expectedDepth code d.line.value)
    (unnamed : messageIndent? d.message.toList = none) (some' : i.count ≠ 0) :
    indentUnit after = indentUnit code := by
  set line := i.blanks ++ l.dropWhile isSpaceOrTab with line_eq
  have lineOf : lineOf code d = l := h.around.getLine
  have lead : leadingBlanks line = i.blanks := by
    rw [h.leadingBlanks_after, leadingBlanks_eq_nil_iff.mpr (lineOf ▸ steady.stripped),
      List.append_nil]
  have wide : (leadingBlanks line).length = i.count * (indentUnit code).length := by
    rw [lead, length_blanks, unit]
  have first : (leadingBlanks line).head? = (indentUnit code).head? := by
    obtain ⟨n, count'⟩ := Nat.exists_eq_succ_of_ne_zero some'
    rw [lead, Indent.blanks, count', List.replicate_succ, List.flatten_cons, unit,
      List.head?_append_of_ne_nil _ (indentUnit_ne_nil code)]
  have there : line ∈ lines after := by
    rw [h.lines_after]
    exact List.mem_append_right _ List.mem_cons_self
  by_cases tab : indentUnit code = ['\t']
  · rcases indentUnit_cases after with ⟨-, tab'⟩ | ⟨untabbed, -⟩
    · rw [tab', tab]
    · exact absurd ⟨h.solid_after, by rw [first, tab]; rfl⟩ (untabbed line there)
  · rcases indentUnit_cases code with ⟨-, tab'⟩ | ⟨untabbed, unitOf⟩
    · exact absurd tab' tab
    rcases indentUnit_cases after with ⟨⟨l', among, tabbed⟩, -⟩ | ⟨-, unitOf'⟩
    · rcases h.mem_lines_after among with old | rfl
      · exact absurd tabbed (untabbed l' old)
      · -- A unit without a tab is made of spaces.
        rw [Tabbed, first, unitOf.eq_replicate, List.head?_replicate] at tabbed
        split_ifs at tabbed <;> exact absurd tabbed.2 (by decide)
    · refine unitOf.kept unitOf' ?_ ?_
      · rcases steady.unit with named | tab' | low | ⟨k, l', other, stands, indented⟩
        · rw [unnamed] at named
          cases named
        · exact absurd tab' tab
        · have once : i.count = 1 := by omega
          rw [once, Nat.one_mul] at wide
          exact ⟨line, there, List.length_pos_of_ne_nil (indentUnit_ne_nil code), h.solid_after, wide⟩
        · exact ⟨l', h.mem_lines_of_other other stands, indented⟩
      · rintro w ⟨l', among, indented⟩
        rcases h.mem_lines_after among with old | rfl
        · exact .inl ⟨l', old, indented⟩
        · right
          rw [← indented.2.2, wide]
          exact Nat.le_mul_of_pos_left _ (Nat.pos_of_ne_zero some')

end Indents

/-! ### Asked again -/

/-- The search for an indentation that ended in no error ends in none again. -/
lemma Indents.raised?_after {i i' : Indent} {after : Text} (h : Indents code d above below l i after)
    (takesOn : indent.canFix "indent" code d = true) (free : indent.raised? "indent" code d = none)
    (expected : expectedIndent? after d = some i') (count : i'.count = i.count) :
    indent.raised? "indent" after d = none := by
  have line : lineOf code d = l := h.around.getLine
  have concerned : Method.concerns "indent" code d = true := by
    rw [Method.canFix, Bool.and_eq_true] at takesOn
    exact takesOn.1
  have read : i.obstacle? = none := by
    simp only [Method.raised?, concerned, indent, line, h.solid, h.expected, if_true, Option.bind_some,
      Bool.false_eq_true, if_false] at free
    exact free
  have read' : i'.obstacle? = none := by
    rw [← read, Indent.obstacle?, Indent.obstacle?, count]
  simp [Method.raised?, indent, expected, read']

/-- What is detected is that the line starts with other blanks than expected. -/
lemma Indents.canFix_after {i i' : Indent} {after : Text} (h : Indents code d above below l i after)
    (expected : expectedIndent? after d = some i') :
    indent.canFix "indent" after d =
      (Method.concerns "indent" after d && !i'.isOf (leadingBlanks (lineOf after d))) := by
  have line : lineOf after d = i.blanks ++ l.dropWhile isSpaceOrTab := h.around_after.getLine
  simp only [Method.canFix, indent, expected, Option.any_some]
  rw [line, h.solid_after, Bool.not_false, Bool.true_and]

/-- **Asked again.** After a repair by the built-in fixer of `indent`, the same diagnostic is
taken on again unless its position may not be edited any more, or unless nothing but the
blanks put there starts the line and the unit of the text, where it counts, is the same as
before; and it is so where the indentation is steady. -/
theorem settled_of_fix {accepts : Acceptor} {o : Options} {f : Fixer} {r : FixResult}
    (builtin : builtin? accepts o "indent" = some f) (fix : f.fix code d = .ok r)
    (success : r.isSuccess = true) :
    ∃ again, f.canFix r.code d = .ok again ∧
      (again = false ↔ Method.concerns "indent" r.code d = false ∨
        startsIn isBlank ((lineOf code d).dropWhile isSpaceOrTab) = false ∧
          ((messageIndent? d.message.toList).isSome = true ∨
            expectedDepth code d.line.value = 0 ∨ indentUnit r.code = indentUnit code)) ∧
      (Steady code d → again = false) := by
  cases builtin
  obtain ⟨takesOn, edit, -⟩ := edit_of_fixer fix success
  obtain ⟨above, below, l, i, indents⟩ := exists_of_indent takesOn edit
  obtain ⟨i', expected', count, named, unnamed⟩ := indents.expectedIndent_after
  have line : lineOf code d = l := indents.around.getLine
  have settled := indents.isOf_after expected' count
  rw [← line] at settled
  have free : indent.raised? "indent" code d = none := by
    by_contra raised
    obtain ⟨e, obstacle⟩ := Option.ne_none_iff_exists'.mp raised
    change indent.guarded "indent" code d _ = _ at fix
    rw [guarded_of_some obstacle] at fix
    cases fix
  -- The unit counts where the message names none and there are levels.
  have unit : (i.count = 0 ∨ i'.unit = i.unit) ↔ (messageIndent? d.message.toList).isSome = true ∨
      expectedDepth code d.line.value = 0 ∨ indentUnit r.code = indentUnit code := by
    cases message : messageIndent? d.message.toList with
    | some indent => simp [named (by rw [message]; rfl)]
    | none =>
        obtain ⟨depth, before, behind⟩ := unnamed message
        rw [depth, before, behind]
        simp
  have exactly := Bool.and_eq_false_iff (x := Method.concerns "indent" r.code d)
    (y := !i'.isOf (leadingBlanks (lineOf r.code d)))
  rw [← indents.canFix_after expected', Bool.not_eq_false', settled, unit] at exactly
  refine ⟨_, guarded_of_none (indents.raised?_after takesOn free expected' count), exactly,
    fun steady => exactly.mpr (.inr ⟨steady.stripped, unit.mp ?_⟩)⟩
  cases message : messageIndent? d.message.toList with
  | some indent => exact .inr (named (by rw [message]; rfl))
  | none =>
      obtain ⟨depth, before, behind⟩ := unnamed message
      rw [or_iff_not_imp_left, before, behind]
      exact indents.indentUnit_after steady before depth message

/-- A line of a block that is not indented. -/
def flush : Diagnostic :=
  { rule := some "indent", message := "Wrong indentation.", line := 2, column := 1 }

theorem settled_of_fix_flush :
    let code := "if (a) \x7b\nb();\n\x7d".toList
    ∃ f r, builtin? Grammar.accepts {} "indent" = some f ∧ f.fix code flush = .ok r ∧
      r.isSuccess = true ∧ r.code = "if (a) \x7b\n  b();\n\x7d".toList ∧
      f.canFix r.code flush = .ok false := by
  intro code
  let f := complex Grammar.accepts "IndentFixer" "indent" "Correct line indentation" indent
  have builtin : builtin? Grammar.accepts {} "indent" = some f := rfl
  have fix : f.fix code flush = .ok { code := "if (a) \x7b\n  b();\n\x7d".toList } := by
    decide +kernel
  have steady : Steady code flush := ⟨by decide, .inr (.inr (.inl (by decide +kernel)))⟩
  obtain ⟨again, answer, -, settled⟩ := settled_of_fix builtin fix rfl
  exact ⟨f, _, builtin, fix, rfl, rfl, settled steady ▸ answer⟩

/-- Two levels at once, in a text that is indented by nothing else. -/
theorem settled_of_fix_not : ¬ ∀ (code : Text) (d : Diagnostic) (f : Fixer) (r : FixResult),
    builtin? Grammar.accepts {} "indent" = some f → f.fix code d = .ok r → r.isSuccess = true →
      f.canFix r.code d = .ok false := by
  intro always
  have settled := always "f(() => \x7b\n  a();\n\x7d);".toList flush _
    { code := "f(() => \x7b\n    a();\n\x7d);".toList } rfl (by decide +kernel) rfl
  revert settled
  decide +kernel

end LintRepair.Rules
