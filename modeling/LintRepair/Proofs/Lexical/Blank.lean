/-
Blanks, as the scanner reads them.

* `Neutral`: what may follow a character without a say in how it is read;
* `State.Ready`: the next character stands alone, or belongs to the one before it in a
  literal, as it does in front of what is neutral;
* `State.mode_after_blanks`: blanks in a line lead from no mode to another;
* `State.InCode.after_blanks`: in code they only end the word;
* `State.goesOn`: what is read behind them tells whether they were there.
-/
import LintRepair.Proofs.Lexical.Comment
import LintRepair.Proofs.Lexical.Literal

namespace LintRepair.Lexical

open Text

/-- Whether a character of this kind is inside of a literal. -/
def Kind.isContent : Kind → Bool
  | .string | .regex | .template => true
  | _ => false

/-- Whether the scanner is inside of a literal. -/
def Mode.isLiteral : Mode → Bool
  | .string _ | .regex _ | .template => true
  | _ => false

/-- Whether the scanner is inside of a comment. -/
def Mode.isComment : Mode → Bool
  | .lineComment | .blockComment => true
  | _ => false

/-! ### What follows a character -/

/-- What may follow a character without a say in how it is read. -/
structure Neutral (next : Option Char) : Prop where
  slash : next ≠ some '/'
  star : next ≠ some '*'
  brace : next ≠ some '{'

instance (next : Option Char) : Decidable (Neutral next) :=
  decidable_of_iff (next ≠ some '/' ∧ next ≠ some '*' ∧ next ≠ some '{')
    ⟨fun h => ⟨h.1, h.2.1, h.2.2⟩, fun h => ⟨h.slash, h.star, h.brace⟩⟩

lemma neutral_none : Neutral none := by decide

lemma neutral_of_isBlank {c : Char} (blank : isBlank c = true) : Neutral (some c) := by
  refine ⟨?_, ?_, ?_⟩ <;> rintro ⟨rfl⟩ <;> exact absurd blank (by decide)

/-- The end of a line is neutral, and so are blanks. -/
lemma neutral_of_ends {rest : Text} (ends : ∀ c ∈ rest.head?, c = '\n') : Neutral rest.head? := by
  cases head : rest.head? with
  | none => exact neutral_none
  | some c =>
      rw [ends c head]
      decide

lemma neutral_of_blanks {blanks rest : Text} (some' : blanks ≠ []) (blank : ∀ c ∈ blanks, isBlank c = true) :
    Neutral (blanks ++ rest).head? := by
  obtain ⟨c, tail, rfl⟩ := List.exists_cons_of_ne_nil some'
  exact neutral_of_isBlank (blank c List.mem_cons_self)

/-- In front of neutral texts, characters are read alike. -/
lemma State.step_neutral {st : State} {c : Char} {next next' : Option Char} (n : Neutral next)
    (n' : Neutral next') : st.step c next = st.step c next' := by
  obtain ⟨slash, star, brace⟩ := n
  obtain ⟨slash', star', brace'⟩ := n'
  cases alone : st.joined with
  | some kind => simp only [step, alone]
  | none =>
    cases inside : st.mode with
    | code =>
        have start : st.InCode := ⟨inside, alone⟩
        rw [start.step_eq, start.step_eq, stepCode_eq, stepCode_eq]
        simp only [slash, star, slash', star', and_false, if_false]
    | lineComment | string quote | regex inClass => simp only [step, alone, inside]
    | blockComment => simp [step, alone, inside, slash, slash']
    | template => simp [step, alone, inside, stepTemplate, brace, brace']

/-- A character that never depends on the one behind it. -/
lemma State.step_solid {st : State} {c : Char} (solid : c ∉ ['/', '*', '$'])
    (next next' : Option Char) : st.step c next = st.step c next' := by
  simp only [List.mem_cons, List.not_mem_nil, or_false, not_or] at solid
  obtain ⟨slash, star, dollar⟩ := solid
  cases alone : st.joined with
  | some kind => simp only [step, alone]
  | none =>
    cases inside : st.mode with
    | code =>
        have start : st.InCode := ⟨inside, alone⟩
        rw [start.step_eq, start.step_eq, stepCode_eq, stepCode_eq]
        simp only [slash, false_and, if_false]
    | lineComment | string quote | regex inClass => simp only [step, alone, inside]
    | blockComment => simp [step, alone, inside, star]
    | template => simp [step, alone, inside, stepTemplate, dollar]

/-- Characters are read alike in front of two texts if the last of them is. -/
lemma Reads.alike {rest rest' : Text} {st st' : State} {ms : Marks} (read : Reads rest st ms st')
    (alike : ∀ c ∈ (ms.map Prod.fst).getLast?, ∀ st : State,
      st.step c rest.head? = st.step c rest'.head?) : Reads rest' st ms st' := by
  induction read with
  | nil st => exact .nil st
  | @cons st st' st'' c kind ms now later ih =>
      cases later with
      | nil => exact .cons ((alike c rfl st).symm.trans now) (.nil _)
      | cons next later => exact .cons now (ih alike)

namespace State

variable {st : State} {c : Char} {next : Option Char} {t rest : Text}

/-! ### Reading on -/

lemma after_zero (st : State) (t : Text) : st.after t 0 = st := by
  cases t <;> rfl

/-- From a state on, the state behind two parts of a text is found one part after the
other. -/
lemma after_append_add (st : State) (before : Text) (n : Nat) :
    st.after (before ++ rest) (before.length + n) =
      (st.after (before ++ rest) before.length).after rest n := by
  obtain ⟨ms, st', read, rfl⟩ := exists_reads rest before st
  induction read with
  | nil st => rw [List.map_nil, List.nil_append, List.length_nil, Nat.zero_add, after_zero]
  | cons now later ih =>
      rw [List.map_cons, List.cons_append, List.length_cons, Nat.succ_add, after, after, now]
      exact ih

lemma Consistent.after (h : st.Consistent) (t : Text) (n : Nat) : (st.after t n).Consistent :=
  after_induction st h (fun _ c next h => h.step c next) t n

lemma Tidy.after (h : st.Tidy) (t : Text) (n : Nat) : (st.after t n).Tidy :=
  after_induction st h (fun _ c next h => h.step c next) t n

/-- The next character stands alone, or belongs to the one before it in a literal. -/
def Ready (st : State) : Prop := st.joined = none ∨ st.mode.isLiteral = true

/-- Only inside of a literal a character belongs to the one before it whatever that
one is. -/
lemma ready_step (n : Neutral next) : (st.step c next).2.Ready := by
  obtain ⟨slash, star, brace⟩ := n
  rw [Ready, or_iff_not_imp_right]
  intro other
  cases alone : st.joined with
  | some kind => simp only [step, alone]
  | none =>
    cases inside : st.mode with
    | code =>
        rw [InCode.step_eq ⟨inside, alone⟩, stepCode_eq]
        simp only [slash, star, and_false, if_false]
        split_ifs <;> simp [plain, alone]
    | lineComment | blockComment =>
        simp only [step, alone, inside]
        split_ifs <;> simp_all
    | string quote =>
        simp only [step, alone, inside, stepString] at other ⊢
        split_ifs at other ⊢
        · exact absurd rfl other
        all_goals first | rfl | exact alone
    | regex inClass =>
        simp only [step, alone, inside, stepRegex] at other ⊢
        split_ifs at other ⊢
        · exact absurd rfl other
        all_goals first | rfl | exact alone
    | template =>
        simp only [step, alone, inside, stepTemplate] at other ⊢
        split_ifs at other ⊢ with _ _ opens
        · exact absurd rfl other
        · rfl
        · exact absurd (by simpa using (Bool.and_eq_true_iff.mp opens).2) brace
        · exact alone

/-- Behind a line feed the next character stands alone. -/
lemma joined_lineFeed : (st.step '\n' next).2.joined = none := by
  cases alone : st.joined with
  | some kind => simp only [step, alone]
  | none =>
    cases inside : st.mode with
    | code =>
        rw [InCode.step_eq ⟨inside, alone⟩, stepCode_eq]
        split_ifs <;> simp_all [plain]
    | lineComment | blockComment | string quote | regex inClass | template =>
        simp only [step, alone, inside, stepString, stepRegex, stepTemplate]
        split_ifs <;> simp_all

/-- In front of neutral texts the scanner is ready. -/
lemma ready_after (ready : st.Ready) (before : Text) (n : Neutral rest.head?) :
    (st.after (before ++ rest) before.length).Ready := by
  rcases List.eq_nil_or_concat before with rfl | ⟨before, c, rfl⟩
  · have none : st.after ([] ++ rest) ([] : Text).length = st := by cases rest <;> rfl
    rw [none]
    exact ready
  · have last : (before ++ [c] ++ rest)[before.length]? = some c := by simp
    have next : (before ++ [c] ++ rest)[before.length + 1]? = rest.head? := by
      simp [List.getElem?_append_right, List.head?_eq_getElem?]
    rw [List.concat_eq_append, List.length_append, List.length_singleton, after_succ st last, next]
    exact ready_step n

/-- Outside of literals the next character stands alone. -/
lemma Ready.alone (ready : st.Ready) (outside : st.mode.isLiteral = false) : st.joined = none := by
  rcases ready with alone | inside
  · exact alone
  · rw [outside] at inside
    cases inside

/-- What is neither in a literal nor in a comment is in code. -/
lemma isComment_or_code (outside : st.mode.isLiteral = false) :
    st.mode.isComment = true ∨ st.mode = .code := by
  cases mode : st.mode with
  | code => exact .inr rfl
  | lineComment | blockComment => exact .inl rfl
  | string quote | regex inClass | template =>
      rw [mode] at outside
      cases outside

/-! ### Blanks -/

/-- What is joined to a character of a literal is content. -/
lemma isContent_of_joined (consistent : st.Consistent) (inside : st.mode.isLiteral = true)
    {kind : Kind} (joined : st.joined = some kind) : kind.isContent = true := by
  have goes := consistent.joined kind joined
  cases kind with
  | string | regex | template => rfl
  | code =>
      rw [show st.mode = .code from goes] at inside
      cases inside
  | delimiter => exact goes.elim
  | comment => rcases goes with mode | mode | mode <;> rw [mode] at inside <;> cases inside

/-- A blank in a literal is content, and the scanner stays there. -/
lemma step_blank_of_isLiteral (consistent : st.Consistent) (tidy : st.Tidy)
    (inside : st.mode.isLiteral = true) (blank : isBlank c = true) (feed : c ≠ '\n') :
    (st.step c next).1.isContent = true ∧ (st.step c next).2 = { st with joined := none } := by
  have other : ∀ b, isBlank b = false → c ≠ b := fun b => ne_of_isBlank blank
  cases joined : st.joined with
  | some kind =>
      simp only [step, joined, and_true]
      exact isContent_of_joined consistent inside joined
  | none =>
    have same : { st with joined := none } = st := by rw [← joined]
    rw [same]
    cases mode : st.mode with
    | code | lineComment | blockComment =>
        rw [mode] at inside
        cases inside
    | string quote =>
        have solid : isBlank quote = false := by
          rcases tidy.quote quote mode with rfl | rfl <;> decide
        simp [step, joined, mode, stepString, other '\\' (by decide), other quote solid, feed,
          Kind.isContent]
    | regex inClass =>
        have stays : { st with mode := .regex inClass, joined := none } = st := by
          rw [← mode]
          exact same
        have within : (c != ']') = true := bne_iff_ne.mpr (other ']' (by decide))
        cases inClass with
        | false =>
            simp [step, joined, mode, stepRegex, other '\\' (by decide), feed,
              other '[' (by decide), other '/' (by decide), Kind.isContent]
        | true =>
            simp [step, joined, mode, stepRegex, other '\\' (by decide), feed, within,
              Kind.isContent, stays]
    | template =>
        simp [step, joined, mode, stepTemplate, other '\\' (by decide), other '\x60' (by decide),
          other '$' (by decide), Kind.isContent]

/-- Only a line feed among the blanks leads from one mode to another. -/
lemma mode_step_blank (consistent : st.Consistent) (tidy : st.Tidy) (blank : isBlank c = true)
    (feed : c ≠ '\n') : (st.step c next).2.mode = st.mode := by
  cases literal : st.mode.isLiteral with
  | true => rw [(step_blank_of_isLiteral consistent tidy literal blank feed).2]
  | false =>
      cases joined : st.joined with
      | some kind => simp only [step, joined]
      | none =>
        have star : c ≠ '*' := by
          rintro rfl
          exact absurd blank (by decide)
        cases mode : st.mode with
        | code =>
            rw [InCode.step_blank ⟨mode, joined⟩ blank]
            exact mode
        | lineComment => simp [step, joined, mode, feed]
        | blockComment => simp [step, joined, mode, star]
        | string quote | regex inClass | template =>
            rw [mode] at literal
            cases literal

lemma mode_after_blanks (consistent : st.Consistent) (tidy : st.Tidy)
    (blank : ∀ c ∈ t, isBlank c = true) (feed : '\n' ∉ t) :
    (st.after (t ++ rest) t.length).mode = st.mode := by
  induction t generalizing st with
  | nil => rw [List.length_nil, after_zero]
  | cons c t ih =>
      rw [List.mem_cons, not_or] at feed
      rw [List.cons_append, List.length_cons, after,
        ih (consistent.step c _) (tidy.step c _) (fun c hc => blank c (List.mem_cons_of_mem _ hc))
          feed.2,
        mode_step_blank consistent tidy (blank c List.mem_cons_self) (Ne.symm feed.1)]

/-- Blanks in code only end the word. -/
lemma InCode.after_blanks (h : st.InCode) (blank : ∀ c ∈ t, isBlank c = true) (some' : t ≠ []) :
    st.after (t ++ rest) t.length = st.forget := by
  induction t generalizing st with
  | nil => exact absurd rfl some'
  | cons c t ih =>
      rw [List.cons_append, List.length_cons, after, h.step_blank (blank c List.mem_cons_self)]
      by_cases last : t = []
      · rw [last, List.length_nil, after_zero]
      · exact ih h.forget (fun c hc => blank c (List.mem_cons_of_mem _ hc)) last

/-- Behind anything but a word, the scanner does not notice them. -/
lemma InCode.after_blanks_of_inWord (h : st.InCode) (apart : st.inWord = false)
    (blank : ∀ c ∈ t, isBlank c = true) : st.after (t ++ rest) t.length = st := by
  have same : st.forget = st := by rw [State.forget, ← apart]
  by_cases none : t = []
  · rw [none, List.length_nil, after_zero]
  · rw [h.after_blanks blank none, same]

/-- Whether the next character of a word, read from a state on, goes on the word that the
scanner is in. -/
def goesOn (st : State) : Text → Bool
  | [] => false
  | c :: rest =>
    if st.InCode ∧ isName c = true then st.inWord else (st.step c rest.head?).2.goesOn rest

end State

/-! ### At an offset of a text -/

section Text

variable {t before blanks rest : Text}

lemma stateAt_append_add (before rest : Text) (n : Nat) :
    stateAt (before ++ rest) (before.length + n) =
      (stateAt (before ++ rest) before.length).after rest n :=
  State.after_append_add {} before n

lemma ready_stateAt (before : Text) (n : Neutral rest.head?) :
    (stateAt (before ++ rest) before.length).Ready :=
  State.ready_after (.inl rfl) before n

/-- Behind blanks in a line the scanner is in the mode that it was in before them. -/
lemma mode_behind_blanks (parts : t = before ++ (blanks ++ rest))
    (blank : ∀ c ∈ blanks, isBlank c = true) (feed : '\n' ∉ blanks) :
    (stateAt t (before.length + blanks.length)).mode = (stateAt t before.length).mode := by
  rw [parts, stateAt_append_add,
    State.mode_after_blanks (consistent_stateAt _ _) (tidy_stateAt _ _) blank feed]

end Text

end LintRepair.Lexical
