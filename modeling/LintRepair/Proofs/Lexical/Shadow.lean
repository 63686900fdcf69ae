/-
The scanner in a masked text, beside the scanner in the text.

* `State.Shadows`: a state in the masked text goes with one in the text;
* `State.Shadows.echoes`: a character, and the one at its place in the masked text, lead
  from such states to such states, with one lemma for each mode;
* `State.regexAllowed_of_silent`: most characters do not tell whether a slash opens a
  regular expression.
-/
import LintRepair.Proofs.Lexical.Literal

namespace LintRepair.Lexical

open Text

/-! ### The scanner in the masked text -/

/-- Where the scanner is in the masked text while it is in a mode in the text. -/
def Mode.shadow : Mode → Mode
  | .lineComment | .blockComment | .regex _ => .code
  | mode => mode

/-- How the scanner's state in the masked text goes with that in the text. Comments and
regular expressions are blanks there, so that a word may have ended earlier, and only
the start of an interpolation is left of the characters that belong to the one before
them. -/
structure State.Shadows (st' st : State) : Prop where
  mode : st'.mode = st.mode.shadow
  joined : st'.joined = st.joined.filter (· == .code)
  opened : st'.interpolations = st.interpolations
  word : st'.word = st.word
  inWord : st'.inWord = true → st.inWord = true
  head : st'.expectsHead = st.expectsHead
  parens : st'.parens = st.parens

/-- A character tells whether a slash behind it opens a regular expression: it ends a
literal, or it is one of code and not blank. -/
def State.Tells (st : State) (c : Char) (next : Option Char) : Prop :=
  (st.step c next).2.mode = .code ∧
    ((st.step c next).1 = .delimiter ∨ (st.step c next).1 = .code ∧ isBlank c = false)
  deriving Decidable

namespace State

variable {st st' : State} {c : Char} {next next' : Option Char}

/-- A character and the one at its place in the masked text: they lead from states that
go together to such states, the one in the masked text stays as it is when it is masked
again, and only a character that tells about regular expressions does so in the masked
text. -/
structure Echoes (st st' : State) (c : Char) (next next' : Option Char) : Prop where
  state : (st'.step ((st.step c next).1.masked c) next').2.Shadows (st.step c next).2
  masked : (st'.step ((st.step c next).1.masked c) next').1.masked ((st.step c next).1.masked c) =
    (st.step c next).1.masked c
  allowed : (st'.step ((st.step c next).1.masked c) next').2.regexAllowed =
    if st.Tells c next then (st.step c next).2.regexAllowed else st'.regexAllowed

/-- Where the scanner reads a blank as code in the masked text. -/
lemma Echoes.of_blank (inCode : st'.InCode)
    (blank : isBlank ((st.step c next).1.masked c) = true) (silent : ¬ st.Tells c next)
    (state : st'.forget.Shadows (st.step c next).2) : Echoes st st' c next next' where
  state := by rwa [inCode.step_blank blank]
  masked := by rw [inCode.step_blank blank, Kind.masked_of_isKept rfl]
  allowed := by rw [inCode.step_blank blank, if_neg silent, forget]

/-- Nothing is told by a character that is filled in. -/
lemma not_tells_of_filled (filled : (st.step c next).1.isKept = false) : ¬ st.Tells c next := by
  rintro ⟨-, delimiter | ⟨code, -⟩⟩
  · rw [delimiter] at filled
    cases filled
  · rw [code] at filled
    cases filled

/-- Nor by a blank. -/
lemma not_tells_of_blank (code : (st.step c next).1 = .code) (blank : isBlank c = true) :
    ¬ st.Tells c next := by
  rintro ⟨-, delimiter | ⟨-, solid⟩⟩
  · rw [code] at delimiter
    cases delimiter
  · rw [blank] at solid
    cases solid

/-- Where it reads a character of a comment or of a regular expression as a blank. -/
lemma Echoes.of_dropped (inCode : st'.InCode) (filled : (st.step c next).1.isKept = false)
    (state : st'.forget.Shadows (st.step c next).2) : Echoes st st' c next next' :=
  .of_blank inCode (Kind.isBlank_masked filled) (not_tells_of_filled filled) state

/-- Where it reads a character of a string or of a template as one. -/
lemma Echoes.of_filled (filled : (st.step c next).1.isKept = false)
    (same : (st'.step ((st.step c next).1.masked c) next').2 = st')
    (state : st'.Shadows (st.step c next).2) : Echoes st st' c next next' where
  state := by rwa [same]
  masked := Kind.masked_masked filled _
  allowed := by rw [same, if_neg (not_tells_of_filled filled)]

/-- Where it reads a character as in the text. -/
lemma Echoes.of_kept {after : State} (kept : (st.step c next).1.isKept = true)
    (same : st'.step c next' = ((st.step c next).1, after))
    (state : after.Shadows (st.step c next).2)
    (allowed : after.regexAllowed =
      if st.Tells c next then (st.step c next).2.regexAllowed else st'.regexAllowed) :
    Echoes st st' c next next' where
  state := by rwa [Kind.masked_of_isKept kept, same]
  masked := by rw [Kind.masked_of_isKept kept, same, Kind.masked_of_isKept kept]
  allowed := by rwa [Kind.masked_of_isKept kept, same]

namespace Shadows

/-- Only the brace behind a dollar sign belongs to the character before it. -/
lemma joined_eq_none (h : st'.Shadows st) (alone : st.joined ≠ some .code) :
    st'.joined = none := by
  rw [h.joined]
  cases joined : st.joined with
  | none => rfl
  | some kind => simpa [joined] using alone

lemma inCode (h : st'.Shadows st) (mode : st.mode.shadow = .code)
    (alone : st.joined ≠ some .code) : st'.InCode where
  mode := by rw [h.mode, mode]
  alone := h.joined_eq_none alone

/-- What is no code in the text is left out of the masked text: there it is a blank. -/
lemma forget (h : st'.Shadows st) (inCode : st'.InCode) {mode : Mode} {joined : Option Kind}
    {regexAllowed inWord : Bool} (inside : mode.shadow = .code) (belongs : joined ≠ some .code) :
    st'.forget.Shadows { st with mode, joined, regexAllowed, inWord } where
  mode := by rw [inside]; exact inCode.mode
  joined := by
    have none : joined.filter (· == .code) = none := by
      cases joined with
      | none => rfl
      | some kind => simpa using belongs
    rw [none]
    exact inCode.alone
  opened := h.opened
  word := h.word
  inWord := by simp [State.forget]
  head := h.head
  parens := h.parens

/-- So it is where nothing of the text changes. -/
lemma idle (h : st'.Shadows st) (inCode : st'.InCode) (inside : st.mode.shadow = .code)
    (belongs : st.joined ≠ some .code) : st'.forget.Shadows st :=
  h.forget inCode inside belongs

/-- A character of code that is not blank is read alike, if it goes on the same
word. -/
lemma codeChar (h : st'.Shadows st) (solid : isBlank c = false)
    (whole : isName c = true → st.inWord = true → st'.inWord = true) :
    (st'.codeChar c).Shadows (st.codeChar c) ∧
      (st'.codeChar c).regexAllowed = (st.codeChar c).regexAllowed := by
  by_cases name : (isAlnum c || c == '_' || c == '$') = true
  · have inWord : st'.inWord = st.inWord := Bool.eq_iff_iff.mpr ⟨h.inWord, whole name⟩
    simp only [State.codeChar, name, if_true, inWord, h.word]
    exact ⟨⟨h.mode, h.joined, h.opened, rfl, fun _ => rfl, rfl, h.parens⟩, trivial⟩
  have head : (st'.afterWord && controlHeads.contains st'.word) =
      (st.afterWord && controlHeads.contains st.word) := h.head
  simp only [State.codeChar, name, solid, head, h.parens, Bool.false_eq_true, if_false]
  split_ifs <;> exact ⟨⟨h.mode, h.joined, h.opened, h.word, by simp, rfl, rfl⟩, rfl⟩

/-- So is one that braces are counted at. -/
lemma plain (h : st'.Shadows st) (solid : isBlank c = false)
    (whole : isName c = true → st.inWord = true → st'.inWord = true) :
    (st'.plain c).Shadows (st.plain c) ∧
      (st'.plain c).regexAllowed = (st.plain c).regexAllowed := by
  have counted : ({ st' with
      interpolations := st'.interpolations.modifyHead (· + braceCount c) } : State).Shadows
      { st with interpolations := st.interpolations.modifyHead (· + braceCount c) } :=
    ⟨h.mode, h.joined, by rw [h.opened], h.word, h.inWord, h.head, h.parens⟩
  exact counted.codeChar solid whole

/-- A character of code that is a blank in the text. -/
lemma echoes_blank (h : st'.Shadows st) (inCode : st.InCode) (blank : isBlank c = true) :
    Echoes st st' c next next' := by
  have inCode' : st'.InCode := h.inCode (by rw [inCode.mode]; rfl) (by simp [inCode.alone])
  have step : st.step c next = (.code, st.forget) := inCode.step_blank blank
  refine .of_blank inCode' ?_ (not_tells_of_blank (by rw [step]) blank) ?_
  · rwa [step, Kind.masked_of_isKept rfl]
  · rw [step]
    exact ⟨h.mode, h.joined, h.opened, h.word, by simp [State.forget], h.head, h.parens⟩

/-- A slash: it is read as code in the masked text as well if it is in the text and no
slash opens a regular expression in the masked text. -/
lemma echoes_slash (h : st'.Shadows st) (inCode : st.InCode)
    (ahead : next' = next ∨ next' = some ' ')
    (divides : (st.step '/' next).1 = .code → st'.regexAllowed = false)
    (headless : (st.step '/' next).1 = .regex → st.expectsHead = false) :
    Echoes st st' '/' next next' := by
  have inCode' : st'.InCode := h.inCode (by rw [inCode.mode]; rfl) (by simp [inCode.alone])
  have found := inCode.step_eq.trans (st.stepCode_eq '/' next)
  by_cases line : next = some '/'
  · rw [if_pos ⟨rfl, line⟩] at found
    refine .of_dropped inCode' (by rw [found]; rfl) ?_
    rw [found]
    exact h.forget inCode' rfl (by simp)
  rw [if_neg (by simp [line])] at found
  by_cases block : next = some '*'
  · rw [if_pos ⟨rfl, block⟩] at found
    refine .of_dropped inCode' (by rw [found]; rfl) ?_
    rw [found]
    exact h.forget inCode' rfl (by simp)
  rw [if_neg (by simp [block])] at found
  by_cases regex : st.regexAllowed = true
  · rw [if_pos ⟨rfl, regex⟩] at found
    have fresh : st'.Shadows { st with afterWord := false } :=
      { h with head := by rw [h.head, headless (by rw [found])]; rfl }
    refine .of_dropped inCode' (by rw [found]; rfl) ?_
    rw [found]
    exact fresh.forget inCode' rfl (by simp [inCode.alone])
  have plain : st.step '/' next = (.code, st.plain '/') := by
    simpa [regex] using found
  have plain' : st'.step '/' next' = (.code, st'.plain '/') := by
    have line' : next' ≠ some '/' := by
      rcases ahead with rfl | rfl
      · exact line
      · decide
    have block' : next' ≠ some '*' := by
      rcases ahead with rfl | rfl
      · exact block
      · decide
    rw [inCode'.step_eq, stepCode_eq]
    simp [line', block', divides (by rw [plain])]
  have told : st.Tells '/' next := by
    refine ⟨?_, .inr ⟨by rw [plain], by decide⟩⟩
    rw [plain]
    simp [State.plain, inCode.mode]
  obtain ⟨state, allowed⟩ := h.plain (c := '/') (by decide) (fun name => absurd name (by decide))
  refine .of_kept (by rw [plain]; rfl) (plain'.trans (by rw [plain])) (by rwa [plain]) ?_
  rw [if_pos told, plain]
  exact allowed

/-- Another character of code, if it goes on the same word. -/
lemma echoes_code (h : st'.Shadows st) (inCode : st.InCode) (solid : isBlank c = false)
    (other : c ≠ '/') (whole : isName c = true → st.inWord = true → st'.inWord = true) :
    Echoes st st' c next next' := by
  have inCode' : st'.InCode := h.inCode (by rw [inCode.mode]; rfl) (by simp [inCode.alone])
  have found := inCode.step_eq.trans (st.stepCode_eq c next)
  have found' := inCode'.step_eq.trans (st'.stepCode_eq c next')
  simp only [other, false_and, if_false] at found found'
  rw [h.opened] at found'
  by_cases quoted : c = '\x27' ∨ c = '\x22'
  · rw [if_pos quoted] at found found'
    refine .of_kept (by rw [found]; rfl) (by rw [found, found']) ?_ ?_
    · rw [found]
      exact ⟨rfl, h.joined, rfl, h.word, by simp, rfl, h.parens⟩
    · rw [if_neg]
      simp [Tells, found]
  rw [if_neg quoted] at found found'
  by_cases tick : c = '\x60'
  · rw [if_pos tick] at found found'
    refine .of_kept (by rw [found]; rfl) (by rw [found, found']) ?_ ?_
    · rw [found]
      exact ⟨rfl, h.joined, rfl, h.word, by simp, rfl, h.parens⟩
    · rw [if_neg]
      simp [Tells, found]
  rw [if_neg tick] at found found'
  by_cases closing : c = '}' ∧ st.interpolations.head? = some 0
  · rw [if_pos closing] at found found'
    refine .of_kept (by rw [found]; rfl) (by rw [found, found']) ?_ ?_
    · rw [found]
      exact ⟨rfl, h.joined, rfl, h.word, h.inWord, h.head, h.parens⟩
    · rw [if_neg]
      simp [Tells, found]
  rw [if_neg closing] at found found'
  obtain ⟨state, allowed⟩ := h.plain solid whole
  have told : st.Tells c next := by
    refine ⟨?_, .inr ⟨by rw [found], solid⟩⟩
    rw [found]
    simp [State.plain, inCode.mode]
  refine .of_kept (by rw [found]; rfl) (by rw [found, found']) (by rwa [found]) ?_
  rw [if_pos told, found]
  exact allowed

/-- A character of a comment up to the end of its line. -/
lemma echoes_lineComment (h : st'.Shadows st) (alone : st.joined = none)
    (inside : st.mode = .lineComment) : Echoes st st' c next next' := by
  have inCode' : st'.InCode := h.inCode (by rw [inside]; rfl) (by simp [alone])
  by_cases feed : c = '\n'
  · subst feed
    have found : st.step '\n' next = (.code, { st with mode := .code }) := by
      simp [State.step, alone, inside]
    refine .of_blank inCode' (by rw [found]; rfl) (not_tells_of_blank (by rw [found]) rfl) ?_
    rw [found]
    exact h.forget inCode' rfl (by simp [alone])
  · have found : st.step c next = (.comment, st) := by
      simp [State.step, alone, inside, feed]
    refine .of_dropped inCode' (by rw [found]; rfl) ?_
    rw [found]
    exact h.idle inCode' (by rw [inside]; rfl) (by simp [alone])

/-- A character of a block comment. -/
lemma echoes_blockComment (h : st'.Shadows st) (alone : st.joined = none)
    (inside : st.mode = .blockComment) : Echoes st st' c next next' := by
  have inCode' : st'.InCode := h.inCode (by rw [inside]; rfl) (by simp [alone])
  by_cases last : c = '*' ∧ next = some '/'
  · have found : st.step c next =
        (.comment, { st with mode := .code, joined := some .comment }) := by
      simp [State.step, alone, inside, last]
    refine .of_dropped inCode' (by rw [found]; rfl) ?_
    rw [found]
    exact h.forget inCode' rfl (by simp)
  · have found : st.step c next = (.comment, st) := by
      simp only [State.step, alone, inside, beq_iff_eq, Bool.and_eq_true, last, if_false]
    refine .of_dropped inCode' (by rw [found]; rfl) ?_
    rw [found]
    exact h.idle inCode' (by rw [inside]; rfl) (by simp [alone])

/-- A character of a regular expression. Behind its end a slash divides in the text, and
may open a regular expression in the masked text. -/
lemma echoes_regex {inClass : Bool} (h : st'.Shadows st) (alone : st.joined = none)
    (inside : st.mode = .regex inClass) : Echoes st st' c next next' := by
  have inCode' : st'.InCode := h.inCode (by rw [inside]; rfl) (by simp [alone])
  have found : st.step c next = st.stepRegex inClass c := by
    rw [State.step, alone, inside]
  by_cases feed : c = '\n'
  · subst feed
    rw [show st.stepRegex inClass '\n' = (.code, { st with mode := .code }) from rfl] at found
    refine .of_blank inCode' (by rw [found]; rfl) (not_tells_of_blank (by rw [found]) rfl) ?_
    rw [found]
    exact h.forget inCode' rfl (by simp [alone])
  have dropped : (st.stepRegex inClass c).1.isKept = false ∧
      st'.forget.Shadows (st.stepRegex inClass c).2 := by
    rw [stepRegex]
    simp only [beq_iff_eq, feed, if_false]
    split_ifs
    · exact ⟨rfl, h.forget inCode' (by rw [inside]; rfl) (by simp)⟩
    · exact ⟨rfl, h.forget inCode' rfl (by simp [alone])⟩
    · exact ⟨rfl, h.forget inCode' rfl (by simp [alone])⟩
    · exact ⟨rfl, h.forget inCode' rfl (by simp [alone])⟩
    · exact ⟨rfl, h.idle inCode' (by rw [inside]; rfl) (by simp [alone])⟩
  refine .of_dropped inCode' (by rw [found]; exact dropped.1) ?_
  rw [found]
  exact dropped.2

/-- In a string, characters that are filled in are characters of it. -/
lemma step_space {quote : Char} (h : st'.Shadows st) (tidy : st.Tidy)
    (alone : st.joined ≠ some .code) (inside : st.mode = .string quote) :
    (st'.step ' ' next').2 = st' := by
  have mode' : st'.mode = .string quote := by rw [h.mode, inside]; rfl
  have alone' : st'.joined = none := h.joined_eq_none alone
  rw [State.step, alone', mode']
  rcases tidy.quote quote inside with rfl | rfl <;> rfl

/-- A character of a string, which has no line feed in it. -/
lemma echoes_string {quote : Char} (h : st'.Shadows st) (tidy : st.Tidy)
    (alone : st.joined = none) (inside : st.mode = .string quote) :
    Echoes st st' c next next' := by
  have mode' : st'.mode = .string quote := by rw [h.mode, inside]; rfl
  have alone' : st'.joined = none := h.joined_eq_none (by simp [alone])
  have found : st.step c next = st.stepString quote c := by rw [State.step, alone, inside]
  have found' : st'.step c next' = st'.stepString quote c := by rw [State.step, alone', mode']
  have blank : (st'.step ' ' next').2 = st' := h.step_space tidy (by simp [alone]) inside
  rw [stepString] at found found'
  by_cases escape : c = '\\'
  · rw [if_pos (by simp [escape])] at found
    refine .of_filled (by rw [found]; rfl) ?_ ?_
    · rw [found, Kind.masked_of_ne rfl (by simp [escape])]
      exact blank
    · rw [found]
      exact ⟨h.mode, alone', h.opened, h.word, h.inWord, h.head, h.parens⟩
  rw [if_neg (by simpa using escape)] at found found'
  by_cases closing : c = quote
  · rw [if_pos (by simpa using closing)] at found found'
    refine .of_kept (by rw [found]; rfl) (by rw [found, found']) ?_ ?_
    · rw [found]
      exact ⟨rfl, h.joined, h.opened, h.word, h.inWord, h.head, h.parens⟩
    · rw [if_pos ⟨by rw [found], .inl (by rw [found])⟩, found]
  rw [if_neg (by simpa using closing)] at found found'
  by_cases feed : c = '\n'
  · rw [if_pos (by simpa using feed)] at found found'
    refine .of_kept (by rw [found]; rfl) (by rw [found, found']) ?_ ?_
    · rw [found]
      exact ⟨rfl, h.joined, h.opened, h.word, h.inWord, h.head, h.parens⟩
    · rw [if_neg (not_tells_of_blank (by rw [found]) (by rw [feed]; rfl))]
  · rw [if_neg (by simpa using feed)] at found
    refine .of_filled (by rw [found]; rfl) ?_ ?_
    · rw [found, Kind.masked_of_ne rfl feed]
      exact blank
    · rw [found]
      exact h

/-- In template text they are characters of it. -/
lemma step_filled (h : st'.Shadows st) (alone : st.joined ≠ some .code)
    (inside : st.mode = .template) :
    (st'.step (Kind.template.masked c) next').2 = st' := by
  have mode' : st'.mode = .template := by rw [h.mode, inside]; rfl
  have alone' : st'.joined = none := h.joined_eq_none alone
  rw [State.step, alone', mode']
  by_cases feed : c = '\n'
  · rw [feed]
    rfl
  · rw [Kind.masked_of_ne rfl feed]
    rfl

/-- A character of template text. -/
lemma echoes_template (h : st'.Shadows st) (alone : st.joined = none)
    (inside : st.mode = .template)
    (brace : (st.step c next).2.joined = some .code → next' = next) :
    Echoes st st' c next next' := by
  have mode' : st'.mode = .template := by rw [h.mode, inside]; rfl
  have alone' : st'.joined = none := h.joined_eq_none (by simp [alone])
  have found : st.step c next = st.stepTemplate c next := by rw [State.step, alone, inside]
  have found' : st'.step c next' = st'.stepTemplate c next' := by rw [State.step, alone', mode']
  rw [stepTemplate] at found found'
  by_cases escape : c = '\\'
  · rw [if_pos (by simp [escape])] at found
    refine .of_filled (by rw [found]; rfl) ?_ ?_
    · rw [found]
      exact h.step_filled (by simp [alone]) inside
    · rw [found]
      exact ⟨h.mode, alone', h.opened, h.word, h.inWord, h.head, h.parens⟩
  rw [if_neg (by simpa using escape)] at found found'
  by_cases tick : c = '\x60'
  · rw [if_pos (by simpa using tick)] at found found'
    refine .of_kept (by rw [found]; rfl) (by rw [found, found']) ?_ ?_
    · rw [found]
      exact ⟨rfl, h.joined, h.opened, h.word, h.inWord, h.head, h.parens⟩
    · rw [if_pos ⟨by rw [found], .inl (by rw [found])⟩, found]
  rw [if_neg (by simpa using tick)] at found found'
  by_cases opening : c = '$' ∧ next = some '{'
  · rw [if_pos (by simpa using opening)] at found
    obtain rfl : next' = next := brace (by rw [found])
    rw [if_pos (by simpa using opening)] at found'
    refine .of_kept (by rw [found]; rfl) (by rw [found, found']) ?_ ?_
    · rw [found]
      exact ⟨rfl, rfl, by rw [h.opened], h.word, by simp, h.head, h.parens⟩
    · rw [if_pos ⟨by rw [found], .inr ⟨by rw [found], by rw [opening.1]; rfl⟩⟩, found]
  · rw [if_neg (by simpa using opening)] at found
    refine .of_filled (by rw [found]; rfl) ?_ ?_
    · rw [found]
      exact h.step_filled (by simp [alone]) inside
    · rw [found]
      exact h

/-- A character that belongs to the one before it. -/
lemma echoes_joined {kind : Kind} (h : st'.Shadows st) (tidy : st.Tidy)
    (consistent : st.Consistent) (joined : st.joined = some kind)
    (allowed : st.regexAllowed = true → st'.regexAllowed = true)
    (unbroken : kind = .string → c ≠ '\n') : Echoes st st' c next next' := by
  have found : st.step c next = (kind, { st with joined := none }) := by rw [State.step, joined]
  have fits := consistent.joined kind joined
  cases kind with
  | delimiter => exact fits.elim
  | code =>
      have joined' : st'.joined = some .code := by rw [h.joined, joined]; rfl
      have found' : st'.step c next' = (.code, { st' with joined := none }) := by
        rw [State.step, joined']
      have both : st'.regexAllowed = st.regexAllowed := by
        have open' := tidy.interpolation joined
        rw [open', allowed open']
      refine .of_kept (by rw [found]; rfl) (by rw [found, found']) ?_ ?_
      · rw [found]
        exact ⟨h.mode, rfl, h.opened, h.word, h.inWord, h.head, h.parens⟩
      · rw [found]
        simp [both]
  | string =>
      obtain ⟨quote, inside⟩ := fits
      refine .of_filled (by rw [found]; rfl) ?_ ?_
      · rw [found, Kind.masked_of_ne rfl (unbroken rfl)]
        exact h.step_space tidy (by simp [joined]) inside
      · rw [found]
        exact ⟨h.mode, h.joined_eq_none (by simp [joined]), h.opened, h.word, h.inWord, h.head, h.parens⟩
  | template =>
      refine .of_filled (by rw [found]; rfl) ?_ ?_
      · rw [found]
        exact h.step_filled (by simp [joined]) fits
      · rw [found]
        exact ⟨h.mode, h.joined_eq_none (by simp [joined]), h.opened, h.word, h.inWord, h.head, h.parens⟩
  | comment =>
      have inside : st.mode.shadow = .code := by
        rcases fits with line | block | code
        · rw [line]; rfl
        · rw [block]; rfl
        · rw [code]; rfl
      have inCode' : st'.InCode := h.inCode inside (by simp [joined])
      refine .of_dropped inCode' (by rw [found]; rfl) ?_
      rw [found]
      exact h.forget inCode' inside (by simp)
  | regex =>
      obtain ⟨inClass, inside⟩ := fits
      have inside : st.mode.shadow = .code := by rw [inside]; rfl
      have inCode' : st'.InCode := h.inCode inside (by simp [joined])
      refine .of_dropped inCode' (by rw [found]; rfl) ?_
      rw [found]
      exact h.forget inCode' inside (by simp)

/-- **One character.** From states that go together, a character and the one at its
place in the masked text lead to such states, unless a string goes on behind a line
feed, a slash divides in the text alone, a word goes on in the text alone, or a regular
expression starts where a parenthesis would open a head. -/
lemma echoes (h : st'.Shadows st) (tidy : st.Tidy) (consistent : st.Consistent)
    (ahead : next' = next ∨ next' = some ' ')
    (brace : (st.step c next).2.joined = some .code → next' = next)
    (allowed : st.regexAllowed = true → st'.regexAllowed = true)
    (unbroken : c = '\n' → (st.step c next).1 ≠ .string)
    (divides : c = '/' → (st.step c next).1 = .code → st'.regexAllowed = false)
    (whole : st.InCode → isName c = true → st.inWord = true → st'.inWord = true)
    (headless : st.mode = .code → (st.step c next).1 = .regex → st.expectsHead = false) :
    Echoes st st' c next next' := by
  cases joined : st.joined with
  | some kind =>
      refine h.echoes_joined tidy consistent joined allowed ?_
      rintro rfl feed
      exact unbroken feed (by rw [State.step, joined])
  | none =>
    cases inside : st.mode with
    | code =>
        have inCode : st.InCode := ⟨inside, joined⟩
        by_cases blank : isBlank c = true
        · exact h.echoes_blank inCode blank
        by_cases slash : c = '/'
        · subst slash
          exact h.echoes_slash inCode ahead (divides rfl) (headless inside)
        · exact h.echoes_code inCode (by simpa using blank) slash (whole inCode)
    | lineComment => exact h.echoes_lineComment joined inside
    | blockComment => exact h.echoes_blockComment joined inside
    | string quote => exact h.echoes_string tidy joined inside
    | regex inClass => exact h.echoes_regex joined inside
    | template => exact h.echoes_template joined inside brace

end Shadows

/-- What tells nothing and ends no regular expression leaves it as it is whether a
slash opens one. -/
lemma regexAllowed_of_silent (silent : ¬ st.Tells c next)
    (goesOn : ¬ ((st.step c next).1 = .regex ∧ (st.step c next).2.mode = .code)) :
    (st.step c next).2.regexAllowed = st.regexAllowed := by
  cases joined : st.joined with
  | some kind => simp only [State.step, joined]
  | none =>
    cases inside : st.mode with
    | code =>
        have inCode : st.InCode := ⟨inside, joined⟩
        by_cases blank : isBlank c = true
        · rw [inCode.step_blank blank, forget]
        have found := inCode.step_eq.trans (st.stepCode_eq c next)
        split_ifs at found
        on_goal 7 =>
          refine absurd ⟨?_, .inr ⟨by rw [found], by simpa using blank⟩⟩ silent
          rw [found]
          simp [State.plain, inside]
        all_goals rw [found]
    | lineComment | blockComment =>
        simp only [State.step, joined, inside]
        split_ifs <;> rfl
    | string quote =>
        have found : st.step c next = st.stepString quote c := by rw [State.step, joined, inside]
        rw [stepString] at found
        split_ifs at found
        on_goal 2 => exact absurd ⟨by rw [found], .inl (by rw [found])⟩ silent
        all_goals rw [found]
    | regex inClass =>
        have found : st.step c next = st.stepRegex inClass c := by rw [State.step, joined, inside]
        rw [stepRegex] at found
        split_ifs at found
        on_goal 5 => exact absurd ⟨by rw [found], by rw [found]⟩ goesOn
        all_goals rw [found]
    | template =>
        have found : st.step c next = st.stepTemplate c next := by rw [State.step, joined, inside]
        rw [stepTemplate] at found
        split_ifs at found with _ _ opening
        on_goal 2 => exact absurd ⟨by rw [found], .inl (by rw [found])⟩ silent
        on_goal 2 =>
          have dollar : c = '$' := by simpa using (Bool.and_eq_true_iff.mp opening).1
          exact absurd ⟨by rw [found], .inr ⟨by rw [found], by rw [dollar]; rfl⟩⟩ silent
        all_goals rw [found]

end State

end LintRepair.Lexical
