/-
What stands inside of literals.

* `literals`: the characters of a text that are of a string, a template or a regular
  expression;
* `State.content_append_inj`: two texts that start alike have the same content just if
  what follows has, read from where the scanner is then;
* `State.InCode.content_blanks`, `State.content_blanks_of_isComment`,
  `State.content_blanks_of_isLiteral`: blanks are content just inside of literals;
* `literals_trailing`, `literals_leading`: so the blanks at the end or at the start of a
  line can be changed without harm just if the scanner is not in a literal;
* `State.content_between`, `literals_inCode`: so can those in code.
-/
import LintRepair.Proofs.Lexical.Blank

namespace LintRepair.Lexical

open Text

/-- The characters inside of literals, of a text that is read from a state on. -/
def State.content (st : State) (t : Text) : Text :=
  ((t.zip (st.kinds t)).filter fun read => read.2.isContent).map Prod.fst

/-- The characters of a text that are of a string, a template or a regular expression. -/
def literals (t : Text) : Text := State.content {} t

namespace State

variable {st : State} {c : Char} {t rest rest' : Text}

lemma content_nil (st : State) : st.content [] = [] := rfl

lemma content_cons (st : State) (c : Char) (rest : Text) : st.content (c :: rest) =
    (if (st.step c rest.head?).1.isContent then [c] else []) ++
      (st.step c rest.head?).2.content rest := by
  rw [content, kinds, List.zip_cons_cons, List.filter_cons]
  split_ifs <;> rfl

/-- What is read as content, with the content of what follows it. -/
lemma content_of_reads {st' : State} {ms : Marks} (read : Reads rest st ms st') :
    st.content (ms.map Prod.fst ++ rest) =
      (ms.filter fun read => read.2.isContent).map Prod.fst ++ st'.content rest := by
  rw [content, read.zip_kinds, List.filter_append, List.map_append, content]

/-- **Texts that start alike.** Where the last character that they have in common is
read alike, what follows has a say only through its own content. -/
lemma content_append_inj (st : State) (before : Text)
    (alike : ∀ c ∈ before.getLast?, ∀ st : State, st.step c rest.head? = st.step c rest'.head?) :
    st.content (before ++ rest') = st.content (before ++ rest) ↔
      (st.after (before ++ rest) before.length).content rest' =
        (st.after (before ++ rest) before.length).content rest := by
  obtain ⟨ms, st', read, rfl⟩ := exists_reads rest before st
  have reached : st.after (ms.map Prod.fst ++ rest) (ms.map Prod.fst).length = st' := by
    rw [List.length_map]
    exact read.after_append
  rw [reached, content_of_reads read, content_of_reads (read.alike alike),
    List.append_cancel_left_eq]

/-! ### Blanks -/

/-- Blanks in code are no content, and they end the word. -/
lemma InCode.content_blanks (h : st.InCode) (blank : ∀ c ∈ t, isBlank c = true) (some' : t ≠ []) :
    st.content (t ++ rest) = st.forget.content rest := by
  induction t generalizing st with
  | nil => exact absurd rfl some'
  | cons c t ih =>
      have idle : st.content (c :: t ++ rest) = st.forget.content (t ++ rest) := by
        rw [List.cons_append, content_cons, h.step_blank (blank c List.mem_cons_self)]
        rfl
      rw [idle]
      by_cases last : t = []
      · rw [last, List.nil_append]
      · exact ih h.forget (fun c hc => blank c (List.mem_cons_of_mem _ hc)) last

/-- Behind anything but a word, blanks in code change nothing. -/
lemma InCode.content_blanks_of_inWord (h : st.InCode) (apart : st.inWord = false)
    (blank : ∀ c ∈ t, isBlank c = true) : st.content (t ++ rest) = st.content rest := by
  have same : st.forget = st := by rw [State.forget, ← apart]
  by_cases none : t = []
  · rw [none, List.nil_append]
  · rw [h.content_blanks blank none, same]

/-- If it does not, it makes no difference whether the scanner is in a word. -/
lemma content_forget (apart : st.goesOn t = false) : st.forget.content t = st.content t := by
  induction t generalizing st with
  | nil => rfl
  | cons c t ih =>
      rw [goesOn] at apart
      split at apart
      · have same : st.forget = st := by rw [State.forget, ← apart]
        rw [same]
      · next other =>
        have solid : st.InCode → isName c = false := by
          intro inCode
          rw [Bool.eq_false_iff]
          exact fun name => other ⟨inCode, name⟩
        rw [content_cons, content_cons, step_forget solid, ih apart]

/-- Blanks in a comment are no content. -/
lemma content_blanks_of_isComment (inside : st.mode.isComment = true) (alone : st.joined = none)
    (blank : ∀ c ∈ t, isBlank c = true) (feed : '\n' ∉ t) :
    st.content (t ++ rest) = st.content rest := by
  induction t with
  | nil => rfl
  | cons c t ih =>
      rw [List.mem_cons, not_or] at feed
      have later := ih (fun c hc => blank c (List.mem_cons_of_mem _ hc)) feed.2
      have star : c ≠ '*' := by
        rintro rfl
        exact absurd (blank _ List.mem_cons_self) (by decide)
      have idle : ∀ next, st.step c next = (.comment, st) := by
        intro next
        cases mode : st.mode with
        | lineComment => simp [step, alone, mode, Ne.symm feed.1]
        | blockComment => simp [step, alone, mode, star]
        | _ =>
            rw [mode] at inside
            cases inside
      rw [List.cons_append, content_cons, idle, later]
      rfl

/-- Blanks in a literal are content, and the scanner stays there. -/
lemma content_blanks_of_isLiteral (consistent : st.Consistent) (tidy : st.Tidy)
    (inside : st.mode.isLiteral = true) (blank : ∀ c ∈ t, isBlank c = true) (feed : '\n' ∉ t)
    (some' : t ≠ []) :
    st.content (t ++ rest) = t ++ ({ st with joined := none } : State).content rest := by
  induction t generalizing st with
  | nil => exact absurd rfl some'
  | cons c t ih =>
      rw [List.mem_cons, not_or] at feed
      have first : ∀ next, (st.step c next).1.isContent = true ∧
          (st.step c next).2 = { st with joined := none } := fun _ =>
        step_blank_of_isLiteral consistent tidy inside (blank c List.mem_cons_self) (Ne.symm feed.1)
      have idle : st.content (c :: t ++ rest) =
          c :: ({ st with joined := none } : State).content (t ++ rest) := by
        rw [List.cons_append, content_cons, (first _).1, (first _).2]
        rfl
      rw [idle, List.cons_append]
      by_cases last : t = []
      · rw [last, List.nil_append, List.nil_append]
      · have consistent' : ({ st with joined := none } : State).Consistent :=
          (first none).2 ▸ consistent.step c none
        have tidy' : ({ st with joined := none } : State).Tidy := (first none).2 ▸ tidy.step c none
        rw [ih consistent' tidy' inside (fun c hc => blank c (List.mem_cons_of_mem _ hc)) feed.2 last]

/-- The character that is joined to one of a literal is content. -/
lemma content_joined (consistent : st.Consistent) (inside : st.mode.isLiteral = true) {kind : Kind}
    (joined : st.joined = some kind) (c : Char) :
    st.content (c :: rest) = c :: ({ st with joined := none } : State).content rest := by
  rw [content_cons]
  simp only [step, joined, isContent_of_joined consistent inside joined, if_true,
    List.singleton_append]

/-- **Blanks at the end of a line** can be left out without harm just if they are not
in a literal. -/
lemma content_trailing (consistent : st.Consistent) (tidy : st.Tidy) (ready : st.Ready)
    (blank : ∀ c ∈ t, isBlank c = true) (feed : '\n' ∉ t) (some' : t ≠ [])
    (ends : ∀ c ∈ rest.head?, c = '\n') :
    st.content rest = st.content (t ++ rest) ↔ st.mode.isLiteral = false := by
  cases literal : st.mode.isLiteral with
  | false =>
      refine iff_of_true ?_ rfl
      have alone := ready.alone literal
      rcases isComment_or_code literal with inside | code
      · exact (content_blanks_of_isComment inside alone blank feed).symm
      · have inCode : st.InCode := ⟨code, alone⟩
        rw [inCode.content_blanks blank some']
        cases rest with
        | nil => rfl
        | cons c rest =>
            -- the line feed itself is a blank
            have last : isBlank c = true := by
              rw [ends c rfl]
              rfl
            rw [content_cons, content_cons, inCode.step_blank last, inCode.forget.step_blank last]
            rfl
  | true =>
      refine iff_of_false ?_ Bool.noConfusion
      rw [content_blanks_of_isLiteral consistent tidy literal blank feed some']
      intro same
      cases joined : st.joined with
      | none =>
          have stays : { st with joined := none } = st := by rw [← joined]
          rw [stays] at same
          have lengths := congrArg List.length same
          rw [List.length_append] at lengths
          have := List.length_pos_iff.mpr some'
          omega
      | some kind =>
          cases rest with
          | nil =>
              have none := List.append_eq_nil_iff.mp same.symm
              exact some' none.1
          | cons c rest =>
              -- the line feed would be what the backslash before the blanks escapes
              rw [content_joined consistent literal joined] at same
              cases t with
              | nil => exact some' rfl
              | cons b t =>
                  rw [List.cons_append, List.cons.injEq] at same
                  exact feed (same.1 ▸ ends c rfl ▸ List.mem_cons_self)

/-- **Blanks at the start of a line** can be exchanged for others without harm just if
they are not in a literal. In code, the word that the scanner is in must not go on
behind them. -/
lemma content_leading {u : Text} (consistent : st.Consistent) (tidy : st.Tidy)
    (alone : st.joined = none) (blank : ∀ c ∈ t, isBlank c = true) (feed : '\n' ∉ t)
    (blank' : ∀ c ∈ u, isBlank c = true) (feed' : '\n' ∉ u) (differs : u ≠ t)
    (apart : st.mode = .code → st.forget.content rest = st.content rest) :
    st.content (u ++ rest) = st.content (t ++ rest) ↔ st.mode.isLiteral = false := by
  cases literal : st.mode.isLiteral with
  | false =>
      refine iff_of_true ?_ rfl
      rcases isComment_or_code literal with inside | code
      · rw [content_blanks_of_isComment inside alone blank feed,
          content_blanks_of_isComment inside alone blank' feed']
      · have plain : ∀ v : Text, (∀ c ∈ v, isBlank c = true) →
            st.content (v ++ rest) = st.content rest := by
          intro v blank
          by_cases none : v = []
          · rw [none, List.nil_append]
          · rw [InCode.content_blanks ⟨code, alone⟩ blank none, apart code]
        rw [plain u blank', plain t blank]
  | true =>
      refine iff_of_false ?_ Bool.noConfusion
      have stays : { st with joined := none } = st := by rw [← alone]
      have plain : ∀ v : Text, (∀ c ∈ v, isBlank c = true) → '\n' ∉ v →
          st.content (v ++ rest) = v ++ st.content rest := by
        intro v blank feed
        by_cases none : v = []
        · rw [none, List.nil_append, List.nil_append]
        · rw [content_blanks_of_isLiteral consistent tidy literal blank feed none, stays]
      rw [plain u blank' feed', plain t blank feed, List.append_cancel_right_eq]
      exact differs

/-- **Blanks around a part of a line** behind something in code that is not a word. The
ones before it can be exchanged for others without harm, those behind it left out just
if they are not in a literal. -/
lemma content_between {part u v : Text} (consistent : st.Consistent) (tidy : st.Tidy)
    (inCode : st.InCode) (apart : st.inWord = false) (blank : ∀ c ∈ t, isBlank c = true)
    (blank' : ∀ c ∈ u, isBlank c = true) (blanks : ∀ c ∈ v, isBlank c = true) (feed : '\n' ∉ v)
    (ends : ∀ c ∈ rest.head?, c = '\n') :
    st.content (u ++ (part ++ rest)) = st.content (t ++ (part ++ (v ++ rest))) ↔
      (v = [] ∨ (st.after (part ++ (v ++ rest)) part.length).mode.isLiteral = false) := by
  rw [inCode.content_blanks_of_inWord apart blank, inCode.content_blanks_of_inWord apart blank']
  by_cases none : v = []
  · rw [none]
    exact iff_of_true rfl (.inl rfl)
  have neutral' : Neutral (v ++ rest).head? := neutral_of_blanks none blanks
  rw [content_append_inj st part fun c _ st => step_neutral neutral' (neutral_of_ends ends),
    content_trailing (consistent.after _ _) (tidy.after _ _)
      (ready_after (.inl inCode.alone) part neutral') blanks feed none ends, or_iff_right none]

end State

/-! ### The literals of a text -/

section Text

variable {before blanks rest rest' : Text}

/-- Two texts that start alike have the same literals just if what follows has the same
content. -/
lemma literals_append_inj (before : Text)
    (alike : ∀ c ∈ before.getLast?, ∀ st : State, st.step c rest.head? = st.step c rest'.head?) :
    literals (before ++ rest') = literals (before ++ rest) ↔
      (stateAt (before ++ rest) before.length).content rest' =
        (stateAt (before ++ rest) before.length).content rest :=
  State.content_append_inj {} before alike

/-- Blanks at the end of a line are left out without harm just if they are not in a
literal. -/
lemma literals_trailing (blank : ∀ c ∈ blanks, isBlank c = true) (feed : '\n' ∉ blanks)
    (some' : blanks ≠ []) (ends : ∀ c ∈ rest.head?, c = '\n') :
    literals (before ++ rest) = literals (before ++ (blanks ++ rest)) ↔
      (stateAt (before ++ (blanks ++ rest)) before.length).mode.isLiteral = false := by
  have neutral : Neutral (blanks ++ rest).head? := neutral_of_blanks some' blank
  rw [literals_append_inj before fun c _ st => State.step_neutral neutral (neutral_of_ends ends),
    State.content_trailing (consistent_stateAt _ _) (tidy_stateAt _ _)
      (ready_stateAt before neutral) blank feed some' ends]

/-- At the start of a line no character belongs to the one before it. -/
lemma joined_lineStart (starts : ∀ c ∈ before.getLast?, c = '\n') :
    (stateAt (before ++ rest) before.length).joined = none := by
  rcases List.eq_nil_or_concat before with rfl | ⟨above, c, rfl⟩
  · rw [List.length_nil, stateAt_zero]
  · rw [List.concat_eq_append] at starts ⊢
    obtain rfl : c = '\n' := starts c List.getLast?_concat
    have here : (above ++ ['\n'] ++ rest)[above.length]? = some '\n' := by simp
    rw [List.length_append, List.length_singleton, stateAt_succ here]
    exact State.joined_lineFeed

/-- Blanks at the start of a line are exchanged without harm just if they are not in a
literal, where no word goes on behind them. -/
lemma literals_leading {blanks' : Text} (blank : ∀ c ∈ blanks, isBlank c = true)
    (feed : '\n' ∉ blanks) (blank' : ∀ c ∈ blanks', isBlank c = true) (feed' : '\n' ∉ blanks')
    (differs : blanks' ≠ blanks) (starts : ∀ c ∈ before.getLast?, c = '\n')
    (apart : (stateAt (before ++ (blanks ++ rest)) before.length).goesOn rest = false) :
    literals (before ++ (blanks' ++ rest)) = literals (before ++ (blanks ++ rest)) ↔
      (stateAt (before ++ (blanks ++ rest)) before.length).mode.isLiteral = false := by
  rw [literals_append_inj before fun c hc st => State.step_solid (by rw [starts c hc]; decide) _ _,
    State.content_leading (consistent_stateAt _ _) (tidy_stateAt _ _) (joined_lineStart starts)
      blank feed blank' feed' differs fun _ => State.content_forget apart]

/-- Blanks in code are exchanged for others without harm, where no word goes on behind
them. -/
lemma literals_inCode {blanks' : Text} (blank : ∀ c ∈ blanks, isBlank c = true)
    (feed : '\n' ∉ blanks) (blank' : ∀ c ∈ blanks', isBlank c = true) (some' : blanks' ≠ [])
    (neutral : Neutral (blanks ++ rest).head?)
    (inCode : (stateAt (before ++ (blanks ++ rest)) (before.length + blanks.length)).InCode)
    (apart : (stateAt (before ++ (blanks ++ rest)) (before.length + blanks.length)).goesOn rest =
      false) :
    literals (before ++ (blanks' ++ rest)) = literals (before ++ (blanks ++ rest)) := by
  have mode : (stateAt (before ++ (blanks ++ rest)) before.length).mode = .code := by
    rw [← mode_behind_blanks rfl blank feed]
    exact inCode.mode
  have start : (stateAt (before ++ (blanks ++ rest)) before.length).InCode :=
    ⟨mode, (ready_stateAt before neutral).alone (by rw [mode]; rfl)⟩
  have neutral' : Neutral (blanks' ++ rest).head? := neutral_of_blanks some' blank'
  rw [literals_append_inj before fun c _ st => State.step_neutral neutral neutral',
    start.content_blanks blank' some']
  by_cases none : blanks = []
  · rw [none, List.length_nil, Nat.add_zero] at apart
    rw [none]
    exact State.content_forget apart
  · rw [start.content_blanks blank none]

end Text

end LintRepair.Lexical
