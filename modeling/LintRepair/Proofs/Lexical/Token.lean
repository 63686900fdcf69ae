/-
The last token before an offset.

* `Idle`, `Behind`: blanks and comments, and an offset with nothing else before it up to
  a token;
* `WordAt`, `heard`: a word of the text, and what the scanner takes for its spelling;
* `Mute`: what leaves the last word in the scanner's mind;
* `expectsHead_iff`: for which words the scanner takes a parenthesis for that of a head.
-/
import LintRepair.Proofs.Lexical.Literal

namespace LintRepair.Lexical

open Text

/-! ### Blanks and comments -/

namespace State

variable {st : State} {c : Char} {next : Option Char}

/-- The scanner is in code or in a comment. -/
structure Between (st : State) : Prop where
  mode : st.mode = .code ∨ st.mode = .lineComment ∨ st.mode = .blockComment
  joined : st.joined = none ∨ st.joined = some .comment

lemma InCode.between (h : st.InCode) : st.Between := ⟨.inl h.mode, .inl h.alone⟩

/-- Blanks and comments do not change whether a slash opens a regular expression. -/
lemma Between.step (h : st.Between)
    (idle : (st.step c next).1 = .comment ∨ (st.step c next).1 = .code ∧ isBlank c = true) :
    (st.step c next).2.Between ∧ (st.step c next).2.regexAllowed = st.regexAllowed := by
  rcases h.joined with alone | belongs
  · rcases h.mode with inside | inside | inside
    · have inCode : st.InCode := ⟨inside, alone⟩
      by_cases blank : isBlank c = true
      · rw [inCode.step_blank blank]
        exact ⟨inCode.forget.between, rfl⟩
      have comment : (st.step c next).1 = .comment := by simpa [blank] using idle
      rw [inCode.step_eq, stepCode_eq] at comment ⊢
      split_ifs at comment ⊢
      · exact ⟨⟨.inr (.inl rfl), .inr rfl⟩, rfl⟩
      · exact ⟨⟨.inr (.inr rfl), .inr rfl⟩, rfl⟩
    · simp only [State.step, alone, inside]
      split_ifs
      · exact ⟨⟨.inl rfl, .inl rfl⟩, rfl⟩
      · exact ⟨h, rfl⟩
    · simp only [State.step, alone, inside]
      split_ifs
      · exact ⟨⟨.inl rfl, .inr rfl⟩, rfl⟩
      · exact ⟨h, rfl⟩
  · rw [State.step, belongs]
    exact ⟨⟨h.mode, .inl rfl⟩, rfl⟩

/-- A slash that is no part of a comment is read as it is allowed to be. -/
lemma Between.step_slash (h : st.Between) (other : (st.step '/' next).1 ≠ .comment) :
    (st.regexAllowed = true → (st.step '/' next).1 = .regex) ∧
      (st.regexAllowed = false →
        (st.step '/' next).1 = .code ∧ (st.step '/' next).2.InCode) := by
  rcases h.joined with alone | belongs
  · rcases h.mode with inside | inside | inside
    · have inCode : st.InCode := ⟨inside, alone⟩
      rw [inCode.step_eq, stepCode_eq] at other ⊢
      have line : ¬ ('/' = '/' ∧ next = some '/') := fun opens => other (by rw [if_pos opens])
      have block : ¬ ('/' = '/' ∧ next = some '*') := fun opens =>
        other (by rw [if_neg line, if_pos opens])
      rw [if_neg line, if_neg block]
      constructor
      · intro allowed
        rw [if_pos ⟨rfl, allowed⟩]
      · intro divides
        simp only [divides, Bool.false_eq_true, and_false, if_false]
        exact ⟨rfl, inside, alone⟩
    · simp [State.step, alone, inside] at other
    · simp [State.step, alone, inside] at other
  · simp [State.step, belongs] at other

end State

section Text

variable {t : Text} {b i m o p q : Nat}

/-- A blank of code, or a character of a comment. -/
def Idle (t : Text) (m : Nat) : Prop :=
  (kinds t)[m]? = some .comment ∨ (kinds t)[m]? = some .code ∧ t[m]?.any isBlank = true
  deriving Decidable

/-- Between a character and an offset behind it there are only blanks and comments. -/
def Behind (t : Text) (p i : Nat) : Prop := p < i ∧ ∀ m < i, p < m → Idle t m

instance (t : Text) (p i : Nat) : Decidable (Behind t p i) :=
  decidable_of_iff (p < i ∧ ∀ m ∈ List.range i, p < m → Idle t m)
    (by simp only [List.mem_range, Behind])

lemma Idle.lt (h : Idle t m) : m < t.length := by
  have stands : ∃ kind, (kinds t)[m]? = some kind := h.elim (⟨_, ·⟩) (⟨_, ·.1⟩)
  obtain ⟨kind, stands⟩ := stands
  simpa using (List.getElem?_eq_some_iff.mp stands).1

/-- A token is the last one before every offset up to the next one. -/
lemma Behind.state (h : Behind t p i) (start : (stateAt t (p + 1)).InCode) :
    (stateAt t i).Between ∧
      (stateAt t i).regexAllowed = (stateAt t (p + 1)).regexAllowed := by
  induction i with
  | zero => exact absurd h.1 (Nat.not_lt_zero p)
  | succ i ih =>
      obtain ⟨before, idle⟩ := h
      rcases Nat.eq_or_lt_of_le (Nat.le_of_lt_succ before) with rfl | earlier
      · exact ⟨start.between, rfl⟩
      obtain ⟨between, same⟩ := ih ⟨earlier, fun m low high => idle m (by omega) high⟩
      have last := idle i (Nat.lt_succ_self i) earlier
      have within := last.lt
      have stands : t[i]? = some t[i] := List.getElem?_eq_getElem within
      rw [Idle, getElem?_kinds, stands, Option.map_some, Option.some_inj, Option.some_inj,
        Option.any_some] at last
      rw [stateAt_succ stands]
      exact ⟨(between.step last).1, (between.step last).2.trans same⟩

/-! ### Words -/

/-- A word of code, as long as it can be towards its start. -/
structure WordAt (t : Text) (b p : Nat) : Prop where
  le : b ≤ p
  names : ∀ m, b ≤ m → m ≤ p → NameAt t m
  starts : ∀ m, m + 1 = b → ¬ NameAt t m

/-- What the scanner takes for the spelling of a word: where it takes the word for the
rest of one that it is in, the start of that as well. -/
def heard (t : Text) (b p : Nat) : Text :=
  (stateAt t b).spelled ++ slice t b (p + 1)

/-- Every character of a word stands in one. -/
lemma NameAt.exists_wordAt (h : NameAt t p) : ∃ b, WordAt t b p := by
  induction p with
  | zero =>
      refine ⟨0, Nat.le_refl 0, fun m _ high => ?_, fun m first => by omega⟩
      obtain rfl : m = 0 := by omega
      exact h
  | succ p ih =>
      by_cases before : NameAt t p
      · obtain ⟨b, le, names, starts⟩ := ih before
        refine ⟨b, by omega, fun m low high => ?_, starts⟩
        rcases Nat.eq_or_lt_of_le high with rfl | earlier
        · exact h
        · exact names m low (by omega)
      · refine ⟨p + 1, Nat.le_refl _, fun m low high => ?_, fun m first => ?_⟩
        · obtain rfl : m = p + 1 := by omega
          exact h
        · obtain rfl : m = p := by omega
          exact before

/-- One character more of a slice. -/
lemma slice_succ {c : Char} (le : b ≤ p) (stands : t[p]? = some c) :
    slice t b (p + 1) = slice t b p ++ [c] := by
  rw [slice, slice, Nat.sub_add_comm le, List.take_add_one, List.getElem?_drop,
    Nat.add_sub_cancel' le, stands]
  rfl

/-- Inside a word the scanner is in what it heard of it. -/
lemma spelled_stateAt (le : b ≤ p) (names : ∀ m, b ≤ m → m < p → NameAt t m) :
    (stateAt t p).spelled = (stateAt t b).spelled ++ slice t b p := by
  obtain ⟨n, rfl⟩ := Nat.exists_eq_add_of_le le
  clear le
  induction n with
  | zero => simp [slice]
  | succ n ih =>
      obtain ⟨inCode, name⟩ := names (b + n) (by omega) (by omega)
      obtain ⟨c, stands, name⟩ := (Option.any_eq_true _ _).mp name
      rw [← Nat.add_assoc, slice_succ (by omega) stands, ← List.append_assoc,
        ← ih fun m low high => names m low (by omega), stateAt_succ stands, inCode.step_name name]
      rfl

/-- Behind a word the scanner has it in mind as it heard it. -/
lemma WordAt.state (w : WordAt t b p) :
    (stateAt t (p + 1)).InCode ∧ (stateAt t (p + 1)).afterWord = true ∧
      (stateAt t (p + 1)).word = heard t b p ∧
      (stateAt t (p + 1)).regexAllowed = operandKeywords.contains (heard t b p) := by
  obtain ⟨inCode, name⟩ := w.names p w.le (Nat.le_refl p)
  obtain ⟨c, stands, name⟩ := (Option.any_eq_true _ _).mp name
  have before := spelled_stateAt w.le fun m low high => w.names m low (by omega)
  rw [heard, slice_succ w.le stands, ← List.append_assoc, ← before, stateAt_succ stands,
    inCode.step_name name]
  exact ⟨⟨inCode.mode, inCode.alone⟩, rfl, rfl, rfl⟩

/-! ### What leaves a word in mind -/

/-- A character behind which the scanner has the last word in mind yet: a blank, one of
a comment or of template text, or a bracket of an interpolation. -/
def Mute (t : Text) (m : Nat) : Prop :=
  Idle t m ∨ (stateAt t m).mode = .template ∨ (stateAt t m).joined = some .code ∨
    (kinds t)[m]? = some .code ∧ (stateAt t (m + 1)).mode = .template
  deriving Decidable

end Text

namespace State

/-- What such a character is for a single step. -/
def Mutes (st : State) (c : Char) (next : Option Char) : Prop :=
  ((st.step c next).1 = .comment ∨ (st.step c next).1 = .code ∧ isBlank c = true) ∨
    st.mode = .template ∨ st.joined = some .code ∨
    (st.step c next).1 = .code ∧ (st.step c next).2.mode = .template

variable {st : State} {c : Char} {next : Option Char}

/-- It leaves the word in mind. -/
lemma Mutes.step (h : st.Mutes c next) :
    (st.step c next).2.word = st.word ∧ (st.step c next).2.afterWord = st.afterWord := by
  cases joined : st.joined with
  | some kind =>
      rw [State.step, joined]
      exact ⟨rfl, rfl⟩
  | none =>
    cases inside : st.mode with
    | code =>
        have inCode : st.InCode := ⟨inside, joined⟩
        by_cases blank : isBlank c = true
        · rw [inCode.step_blank blank]
          exact ⟨rfl, rfl⟩
        have found := inCode.step_eq.trans (st.stepCode_eq c next)
        have mode : (st.plain c).mode = .code := by rw [plain, mode_codeChar, inside]
        rw [Mutes] at h
        split_ifs at found <;> rw [found] at h ⊢ <;> simp_all
    | lineComment | blockComment =>
        simp only [State.step, joined, inside]
        split_ifs <;> exact ⟨rfl, rfl⟩
    | string quote =>
        simp only [State.step, joined, inside, stepString]
        split_ifs <;> exact ⟨rfl, rfl⟩
    | regex inClass =>
        simp only [State.step, joined, inside, stepRegex]
        split_ifs <;> exact ⟨rfl, rfl⟩
    | template =>
        simp only [State.step, joined, inside, stepTemplate]
        split_ifs <;> exact ⟨rfl, rfl⟩

/-- Everything else that is no character of a word puts it out of mind. -/
lemma afterWord_of_loud (tidy : st.Tidy) (consistent : st.Consistent)
    (loud : ¬ st.Mutes c next) (other : ¬ (st.InCode ∧ isName c = true)) :
    (st.step c next).2.afterWord = false := by
  obtain ⟨noIdle, noTemplate, noBrace, noClosing⟩ : _ ∧ _ ∧ _ ∧ _ := by
    simpa only [Mutes, not_or] using loud
  cases joined : st.joined with
  | some kind =>
      have goes := consistent.joined kind joined
      rw [State.step, joined] at noIdle ⊢
      cases kind with
      | delimiter => exact goes.elim
      | code => exact absurd joined noBrace
      | comment => simp at noIdle
      | template => exact absurd goes noTemplate
      | string =>
          obtain ⟨quote, inside⟩ := goes
          exact tidy.string quote inside
      | regex =>
          obtain ⟨inClass, inside⟩ := goes
          exact (tidy.regex inClass inside).1
  | none =>
    cases inside : st.mode with
    | code =>
        have inCode : st.InCode := ⟨inside, joined⟩
        have noName : isName c = false := by simpa [inCode] using other
        have noWord : (isAlnum c || c == '_' || c == '$') = false := noName
        have solid : isBlank c = false := by
          by_contra blank
          rw [inCode.step_blank (by simpa using blank)] at noIdle
          simp_all
        have found := inCode.step_eq.trans (st.stepCode_eq c next)
        split_ifs at found
        · simp [found] at noIdle
        · simp [found] at noIdle
        · rw [found]
        · rw [found]
        · rw [found]
        · simp [found] at noClosing
        · rw [found]
          simp only [plain, codeChar, noWord, solid, Bool.false_eq_true, if_false]
          split_ifs <;> rfl
    | lineComment | blockComment =>
        simp only [State.step, joined, inside] at noIdle
        split_ifs at noIdle with feed <;> simp_all [isBlank]
    | string quote =>
        simp only [State.step, joined, inside, stepString]
        split_ifs <;> exact tidy.string quote inside
    | regex inClass =>
        simp only [State.step, joined, inside, stepRegex]
        split_ifs <;> exact (tidy.regex inClass inside).1
    | template => exact absurd inside noTemplate

end State

section Text

variable {t : Text} {b m o q : Nat}

lemma mute_iff {c : Char} (stands : t[m]? = some c) :
    Mute t m ↔ (stateAt t m).Mutes c t[m + 1]? := by
  rw [Mute, Idle, getElem?_kinds, stands, Option.map_some, Option.some_inj, Option.some_inj,
    Option.any_some, stateAt_succ stands, State.Mutes]

/-- A word that nothing has put out of mind. -/
structure InMind (t : Text) (b q o : Nat) : Prop where
  word : WordAt t b q
  before : q < o
  mute : ∀ m < o, q < m → Mute t m

/-- The scanner has it in mind. -/
lemma InMind.state (h : InMind t b q o) (within : o ≤ t.length) :
    (stateAt t o).afterWord = true ∧ (stateAt t o).word = heard t b q := by
  obtain ⟨w, before, mute⟩ := h
  induction o with
  | zero => exact absurd before (Nat.not_lt_zero q)
  | succ o ih =>
      rcases Nat.eq_or_lt_of_le (Nat.le_of_lt_succ before) with rfl | earlier
      · obtain ⟨-, afterWord, word, -⟩ := w.state
        exact ⟨afterWord, word⟩
      obtain ⟨afterWord, word⟩ :=
        ih (Nat.le_of_succ_le within) earlier fun m low high => mute m (by omega) high
      have stands : t[o]? = some t[o] := List.getElem?_eq_getElem within
      obtain ⟨sameWord, sameAfter⟩ :=
        ((mute_iff stands).mp (mute o (Nat.lt_succ_self o) earlier)).step
      rw [stateAt_succ stands]
      exact ⟨sameAfter.trans afterWord, sameWord.trans word⟩

/-- What it has in mind is such a word. -/
lemma exists_inMind (within : o ≤ t.length) (afterWord : (stateAt t o).afterWord = true) :
    ∃ b q, InMind t b q o := by
  induction o with
  | zero =>
      rw [stateAt_zero] at afterWord
      cases afterWord
  | succ o ih =>
      have stands : t[o]? = some t[o] := List.getElem?_eq_getElem within
      by_cases name : NameAt t o
      · obtain ⟨b, w⟩ := name.exists_wordAt
        exact ⟨b, o, w, Nat.lt_succ_self o, fun m low high => by omega⟩
      rw [stateAt_succ stands] at afterWord
      by_cases mute : (stateAt t o).Mutes t[o] t[o + 1]?
      · rw [mute.step.2] at afterWord
        obtain ⟨b, q, w, before, quiet⟩ := ih (Nat.le_of_succ_le within) afterWord
        refine ⟨b, q, w, by omega, fun m low high => ?_⟩
        rcases Nat.eq_or_lt_of_le (Nat.le_of_lt_succ low) with rfl | earlier
        · exact (mute_iff stands).mpr mute
        · exact quiet m earlier high
      · have other : ¬ ((stateAt t o).InCode ∧ isName t[o] = true) := fun h =>
          name ⟨h.1, by rw [stands]; exact h.2⟩
        rw [State.afterWord_of_loud (tidy_stateAt t o) (consistent_stateAt t o) mute other] at afterWord
        cases afterWord

/-- **Heads.** The scanner takes a parenthesis for that of the head of a control
statement where it has the name of one in mind. -/
theorem expectsHead_iff (within : o ≤ t.length) : (stateAt t o).expectsHead = true ↔
    ∃ b q, InMind t b q o ∧ heard t b q ∈ controlHeads := by
  rw [State.expectsHead, Bool.and_eq_true, List.contains_iff_mem]
  constructor
  · rintro ⟨afterWord, head⟩
    obtain ⟨b, q, mind⟩ := exists_inMind within afterWord
    exact ⟨b, q, mind, (mind.state within).2 ▸ head⟩
  · rintro ⟨b, q, mind, head⟩
    obtain ⟨afterWord, word⟩ := mind.state within
    exact ⟨afterWord, word ▸ head⟩

end Text

end LintRepair.Lexical
