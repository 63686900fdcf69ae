/-
Texts built as trees of lexemes, and how the scanner reads them.

* `Lexeme`, `Hole`: code, brace groups, strings, comments and templates, in whose
  interpolations lexemes stand again;
* `Lexeme.marks`: the characters of a lexeme, each with the kind it is built with;
* `Spot`, `Reads`, `Leads`: where the scanner is, and what it makes of characters
  whatever follows them;
* `Lexeme.leads`: every lexeme is read as it is built, and leads back to the spot
  where it starts;
* `kinds_render`: so is every text built from lexemes.
-/
import Mathlib.Data.List.Chain
import Mathlib.Data.List.Infix
import LintRepair.Proofs.Lexical.Offset

namespace LintRepair.Lexical

open Text

/-! ### Lexemes -/

/-- A character of code that opens and closes nothing. -/
abbrev PlainChar := { c : Char // c ∉ ['/', '\x27', '\x22', '\x60', '{', '}'] }

/-- The two quotes of strings. -/
inductive Quote
  | single
  | double
  deriving DecidableEq, Repr

/-- The character of a quote. -/
def Quote.char : Quote → Char
  | .single => '\x27'
  | .double => '\x22'

/-- A character of a literal that stands for itself, or a backslash with the
character it escapes. -/
inductive Glyph (allowed : Char → Prop)
  | plain (c : Char) (h : allowed c)
  | escaped (c : Char)

/-- The character that stands for itself. -/
def Glyph.plain? {allowed : Char → Prop} : Glyph allowed → Option Char
  | .plain c _ => some c
  | .escaped _ => none

/-- A string. Neither its quote nor a line feed stands for itself in it. -/
structure StringLiteral where
  quote : Quote
  content : List (Glyph fun c => c ≠ quote.char ∧ c ≠ '\\' ∧ c ≠ '\n')

/-- A stretch of template text. No dollar sign is followed by a brace in it. -/
structure TemplateText where
  glyphs : List (Glyph fun c => c ≠ '\x60' ∧ c ≠ '\\')
  closed : glyphs.IsChain fun g next => ¬ (g.plain? = some '$' ∧ next.plain? = some '{')

/-- What a comment up to the end of its line says. -/
abbrev LineBody := { body : Text // '\n' ∉ body }

/-- What a comment between a slash with a star and a star with a slash says. -/
abbrev BlockBody := { body : Text // ¬ ['*', '/'] <:+: body }

mutual

/-- A part of a text that the scanner reads as a whole. A template is its first
stretch of text with the interpolations behind it. -/
inductive Lexeme
  | char (c : PlainChar)
  | braces (content : List Lexeme)
  | string (literal : StringLiteral)
  | lineComment (body : LineBody)
  | blockComment (body : BlockBody)
  | template (text : TemplateText) (holes : List Hole)

/-- An interpolation of a template, with the stretch of text behind it. -/
inductive Hole
  | mk (content : List Lexeme) (text : TemplateText)

end

/-- Characters, each with its kind. -/
abbrev Marks := List (Char × Kind)

/-- The characters of a text, all of one kind. -/
def marked (kind : Kind) (t : Text) : Marks := t.map (·, kind)

lemma map_fst_marked (kind : Kind) (t : Text) : (marked kind t).map Prod.fst = t := by
  rw [marked, List.map_map, Function.comp_def, List.map_id']

lemma marked_append (kind : Kind) (t t' : Text) :
    marked kind (t ++ t') = marked kind t ++ marked kind t' := List.map_append

/-- The characters of a glyph. -/
def Glyph.chars {allowed : Char → Prop} : Glyph allowed → Text
  | .plain c _ => [c]
  | .escaped c => ['\\', c]

/-- The characters of a string. -/
def StringLiteral.marks (s : StringLiteral) : Marks :=
  (s.quote.char, .delimiter) ::
    (marked .string (s.content.flatMap Glyph.chars) ++ [(s.quote.char, .delimiter)])

/-- The characters of a stretch of template text. -/
def TemplateText.marks (text : TemplateText) : Marks :=
  marked .template (text.glyphs.flatMap Glyph.chars)

mutual

/-- The characters of a lexeme. The line feed behind a comment is code. -/
def Lexeme.marks : Lexeme → Marks
  | .char c => [(c.1, .code)]
  | .braces content => ('{', .code) :: (marksOf content ++ [('}', .code)])
  | .string literal => literal.marks
  | .lineComment body => marked .comment ('/' :: '/' :: body.1) ++ [('\n', .code)]
  | .blockComment body => marked .comment ('/' :: '*' :: (body.1 ++ ['*', '/']))
  | .template text holes => ('\x60', .delimiter) :: (text.marks ++ marksBehind holes)

/-- The characters of lexemes one after another. -/
def marksOf : List Lexeme → Marks
  | [] => []
  | lexeme :: rest => lexeme.marks ++ marksOf rest

/-- The characters of a template from an interpolation on. -/
def marksBehind : List Hole → Marks
  | [] => [('\x60', .delimiter)]
  | ⟨content, text⟩ :: rest =>
    ('$', .code) :: ('{', .code) ::
      (marksOf content ++ ('}', .code) :: (text.marks ++ marksBehind rest))

end

/-- The text that lexemes stand for. -/
def render (lexemes : List Lexeme) : Text := (marksOf lexemes).map Prod.fst

/-- The kinds of its characters. -/
def builtKinds (lexemes : List Lexeme) : List Kind := (marksOf lexemes).map Prod.snd

/-! ### What the scanner makes of characters -/

/-- Where the scanner is between two lexemes, or between two characters of one. -/
structure Spot where
  mode : Mode
  depth : Int
  opened : List Int

/-- The scanner is at a spot, and the next character stands alone. -/
structure State.At (st : State) (s : Spot) : Prop where
  alone : st.joined = none
  mode : st.mode = s.mode
  depth : st.templateDepth = s.depth
  opened : st.interpolations = s.opened

/-- In front of a text, characters are read one by one from a state on with the
kinds they have, and lead to a state. -/
inductive Reads (rest : Text) : State → Marks → State → Prop
  | nil (st : State) : Reads rest st [] st
  | cons {st st' st'' : State} {c : Char} {kind : Kind} {ms : Marks}
      (now : st.step c (ms.map Prod.fst ++ rest).head? = (kind, st'))
      (later : Reads rest st' ms st'') : Reads rest st ((c, kind) :: ms) st''

namespace Reads

variable {st st' st'' : State} {ms ms' : Marks} {rest : Text}

/-- What is read in two parts is read. -/
lemma append (first : Reads (ms'.map Prod.fst ++ rest) st ms st')
    (second : Reads rest st' ms' st'') : Reads rest st (ms ++ ms') st'' := by
  induction first with
  | nil st => exact second
  | cons now later ih =>
      rw [← List.append_assoc, ← List.map_append] at now
      exact .cons now (ih second)

/-- Two characters are read of which the second belongs to the first. -/
lemma pair {c c' : Char} {kind kind' : Kind}
    (now : st.step c (some c') = (kind, { st' with joined := some kind' }))
    (alone : st'.joined = none) : Reads rest st [(c, kind), (c', kind')] st' := by
  refine .cons now (.cons ?_ (.nil st'))
  rw [State.step, ← alone]

/-- What is read has the kinds that the scanner finds, and so has what follows it. -/
lemma kinds_append (h : Reads rest st ms st') :
    st.kinds (ms.map Prod.fst ++ rest) = ms.map Prod.snd ++ st'.kinds rest := by
  induction h with
  | nil st => rfl
  | cons now later ih =>
      rw [List.map_cons, List.map_cons, List.cons_append, List.cons_append, State.kinds, now, ih]

/-- With its kinds it stands in front of what follows. -/
lemma zip_kinds (h : Reads rest st ms st') :
    (ms.map Prod.fst ++ rest).zip (st.kinds (ms.map Prod.fst ++ rest)) =
      ms ++ rest.zip (st'.kinds rest) := by
  have apart : (ms.map Prod.fst).zip (ms.map Prod.snd) = ms := by
    rw [← List.unzip_fst, ← List.unzip_snd, List.zip_unzip]
  rw [h.kinds_append, List.zip_append (by simp), apart]

/-- It leads to the state that the scanner is in behind it. -/
lemma after_append (h : Reads rest st ms st') :
    st.after (ms.map Prod.fst ++ rest) ms.length = st' := by
  induction h with
  | nil st => cases rest <;> rfl
  | cons now later ih =>
      rw [List.map_cons, List.cons_append, List.length_cons, State.after, now, ih]

/-- What is read at the end of a text has the kinds that the scanner finds. -/
lemma kinds (h : Reads [] st ms st') : st.kinds (ms.map Prod.fst) = ms.map Prod.snd := by
  simpa [State.kinds] using h.kinds_append

/-- It leads to the state that the scanner ends in. -/
lemma after (h : Reads [] st ms st') : st.after (ms.map Prod.fst) ms.length = st' := by
  simpa using h.after_append

end Reads

/-- From a spot on, characters are read with the kinds they have whatever follows
them, and lead to a spot. -/
def Spot.Leads (s : Spot) (ms : Marks) (s' : Spot) : Prop :=
  ∀ (rest : Text) (st : State), st.At s → ∃ st', Reads rest st ms st' ∧ st'.At s'

namespace Spot.Leads

variable {s s' s'' : Spot} {ms ms' : Marks}

lemma nil (s : Spot) : s.Leads [] s := fun _ st start => ⟨st, .nil st, start⟩

lemma append (h : s.Leads ms s') (h' : s'.Leads ms' s'') : s.Leads (ms ++ ms') s'' := by
  intro rest st start
  obtain ⟨st', first, middle⟩ := h (ms'.map Prod.fst ++ rest) st start
  obtain ⟨st'', second, finish⟩ := h' rest st' middle
  exact ⟨st'', first.append second, finish⟩

/-- A character that is read alike whatever follows it. -/
lemma one {c : Char} {kind : Kind}
    (h : ∀ st : State, st.At s → ∀ next, ∃ st', st.step c next = (kind, st') ∧ st'.At s') :
    s.Leads [(c, kind)] s' := by
  intro rest st start
  obtain ⟨st', now, finish⟩ := h st start rest.head?
  exact ⟨st', .cons now (.nil st'), finish⟩

/-- A character with the one that belongs to it. -/
lemma pair {c c' : Char} {kind kind' : Kind}
    (h : ∀ st : State, st.At s → ∃ st' : State,
      st.step c (some c') = (kind, { st' with joined := some kind' }) ∧ st'.At s') :
    s.Leads [(c, kind), (c', kind')] s' := by
  intro rest st start
  obtain ⟨st', now, finish⟩ := h st start
  exact ⟨st', .pair now finish.alone, finish⟩

end Spot.Leads

/-! ### Code -/

/-- Plain code leaves the spot. -/
lemma State.At.codeChar {st : State} {s : Spot} (h : st.At s) (c : Char) :
    (st.codeChar c).At s where
  alone := by simpa using h.alone
  mode := by simpa using h.mode
  depth := by simpa using h.depth
  opened := by simpa using h.opened

section Code

variable (depth : Int) (opened : List Int)

section Step

variable {depth : Int} {opened : List Int} {st : State} {quote c : Char} {next : Option Char}

/-- In code a character is read as one of code. -/
lemma State.At.step_code (h : st.At ⟨.code, depth, opened⟩) :
    st.step c next = st.stepCode c next := by
  rw [State.step, h.alone, h.mode]

/-- In a string it is read as one of the string. -/
lemma State.At.step_string (h : st.At ⟨.string quote, depth, opened⟩) :
    st.step c next = st.stepString quote c := by
  rw [State.step, h.alone, h.mode]

/-- In a template it is read as one of its text. -/
lemma State.At.step_template (h : st.At ⟨.template, depth, opened⟩) :
    st.step c next = st.stepTemplate c next := by
  rw [State.step, h.alone, h.mode]

end Step

/-- A character that opens and closes nothing leaves the spot. -/
lemma leads_plainChar (c : PlainChar) :
    (Spot.mk .code depth opened).Leads [(c.1, .code)] ⟨.code, depth, opened⟩ := by
  refine .one fun st start next => ⟨st.codeChar c.1, ?_, start.codeChar c.1⟩
  have other := c.2
  simp only [List.mem_cons, List.not_mem_nil, or_false, not_or] at other
  obtain ⟨slash, single, double, tick, opening, closing⟩ := other
  rw [start.step_code]
  simp only [State.stepCode, slash, single, double, tick, opening, closing, beq_iff_eq,
    Bool.and_eq_true, Bool.or_eq_true, false_and, or_self, if_false]
  cases st.interpolations <;> rfl

/-- Inside an interpolation an opening brace is counted. -/
lemma leads_opening :
    (Spot.mk .code depth opened).Leads [('{', .code)]
      ⟨.code, depth, opened.modifyHead (· + 1)⟩ := by
  refine .one fun st start next => ?_
  cases opened with
  | nil =>
      refine ⟨st.codeChar '{', ?_, start.codeChar '{'⟩
      simp [start.step_code, State.stepCode, start.opened]
  | cons count outer =>
      have counted : State.At { st with interpolations := (count + 1) :: outer }
          ⟨.code, depth, (count + 1) :: outer⟩ :=
        ⟨start.alone, start.mode, start.depth, rfl⟩
      refine ⟨_, ?_, counted.codeChar '{'⟩
      simp [start.step_code, State.stepCode, start.opened]

variable {opened} in
/-- A closing brace that belongs to an opening one does not end the
interpolation. -/
lemma leads_closing (counts : ∀ count ∈ opened.head?, 0 ≤ count) :
    (Spot.mk .code depth (opened.modifyHead (· + 1))).Leads [('}', .code)]
      ⟨.code, depth, opened⟩ := by
  refine .one fun st start next => ?_
  cases opened with
  | nil =>
      refine ⟨st.codeChar '}', ?_, start.codeChar '}'⟩
      simp [start.step_code, State.stepCode, start.opened]
  | cons count outer =>
      have count_nonneg : 0 ≤ count := counts count rfl
      have inner : count + 1 ≠ 0 := by omega
      have counted : State.At { st with interpolations := count :: outer }
          ⟨.code, depth, count :: outer⟩ :=
        ⟨start.alone, start.mode, start.depth, rfl⟩
      refine ⟨_, ?_, counted.codeChar '}'⟩
      simp [start.step_code, State.stepCode, start.opened, inner]

/-! ### Strings and comments -/

variable {depth opened} in
/-- The content of a string leaves the scanner as it is. -/
lemma reads_content {quote : Quote} {st : State}
    (inside : st.At ⟨.string quote.char, depth, opened⟩) (rest : Text)
    (content : List (Glyph fun c => c ≠ quote.char ∧ c ≠ '\\' ∧ c ≠ '\n')) :
    Reads rest st (marked .string (content.flatMap Glyph.chars)) st := by
  induction content with
  | nil => exact .nil st
  | cons glyph content ih =>
      rw [List.flatMap_cons, marked_append]
      refine .append ?_ ih
      cases glyph with
      | plain c h =>
          obtain ⟨noQuote, noEscape, noBreak⟩ := h
          refine .cons ?_ (.nil st)
          simp [inside.step_string, State.stepString, noQuote, noEscape, noBreak]
      | escaped c =>
          refine .pair ?_ inside.alone
          rw [inside.step_string]
          rfl

/-- A string leads back to the code before it. -/
lemma leads_string (s : StringLiteral) :
    (Spot.mk .code depth opened).Leads s.marks ⟨.code, depth, opened⟩ := by
  have start : (Spot.mk .code depth opened).Leads [(s.quote.char, .delimiter)]
      ⟨.string s.quote.char, depth, opened⟩ := by
    refine .one fun st start next =>
      ⟨{ st with mode := .string s.quote.char, inWord := false, afterWord := false }, ?_,
        start.alone, rfl, start.depth, start.opened⟩
    rw [start.step_code]
    cases s.quote <;> rfl
  have content : (Spot.mk (.string s.quote.char) depth opened).Leads
      (marked .string (s.content.flatMap Glyph.chars)) ⟨.string s.quote.char, depth, opened⟩ :=
    fun rest st start => ⟨st, reads_content start rest s.content, start⟩
  have finish : (Spot.mk (.string s.quote.char) depth opened).Leads
      [(s.quote.char, .delimiter)] ⟨.code, depth, opened⟩ := by
    refine .one fun st start next =>
      ⟨{ st with mode := .code, regexAllowed := false }, ?_,
        start.alone, rfl, start.depth, start.opened⟩
    rw [start.step_string]
    cases s.quote <;> rfl
  exact start.append (content.append finish)

omit depth opened in
/-- What a comment up to the end of its line says leaves the scanner as it is. -/
lemma reads_line {st : State} (alone : st.joined = none) (inside : st.mode = .lineComment)
    (rest : Text) {body : Text} (within : '\n' ∉ body) :
    Reads rest st (marked .comment body) st := by
  induction body with
  | nil => exact .nil st
  | cons c body ih =>
      rw [List.mem_cons, not_or] at within
      refine .cons ?_ (ih within.2)
      simp [State.step, alone, inside, Ne.symm within.1]

/-- A comment up to the end of its line leads back to the code before it. -/
lemma leads_lineComment (body : LineBody) :
    (Spot.mk .code depth opened).Leads (marked .comment ('/' :: '/' :: body.1) ++ [('\n', .code)])
      ⟨.code, depth, opened⟩ := by
  have start : (Spot.mk .code depth opened).Leads [('/', .comment), ('/', .comment)]
      ⟨.lineComment, depth, opened⟩ := by
    refine .pair fun st start =>
      ⟨{ st with mode := .lineComment }, ?_, start.alone, rfl, start.depth, start.opened⟩
    rw [start.step_code]
    rfl
  have content : (Spot.mk .lineComment depth opened).Leads (marked .comment body.1)
      ⟨.lineComment, depth, opened⟩ := fun rest st start =>
    ⟨st, reads_line start.alone start.mode rest body.2, start⟩
  have finish : (Spot.mk .lineComment depth opened).Leads [('\n', .code)]
      ⟨.code, depth, opened⟩ := by
    refine .one fun st start next =>
      ⟨{ st with mode := .code }, ?_, start.alone, rfl, start.depth, start.opened⟩
    rw [State.step, start.alone, start.mode]
    rfl
  exact (start.append content).append finish

omit depth opened in
/-- What a block comment says leaves the scanner as it is, if no slash follows that
would end the comment with its last star. -/
lemma reads_block {st : State} (alone : st.joined = none) (inside : st.mode = .blockComment)
    {rest : Text} (follows : rest.head? ≠ some '/') {body : Text}
    (within : ¬ ['*', '/'] <:+: body) : Reads rest st (marked .comment body) st := by
  induction body with
  | nil => exact .nil st
  | cons c body ih =>
      have later : ¬ ['*', '/'] <:+: body := fun h =>
        within (h.trans (List.suffix_cons c body).isInfix)
      have other : ¬ (c = '*' ∧ (body ++ rest).head? = some '/') := by
        rintro ⟨rfl, slash⟩
        cases body with
        | nil => exact follows slash
        | cons b body =>
            obtain rfl : b = '/' := by simpa using slash
            exact within (List.prefix_append ['*', '/'] body).isInfix
      have step : st.step c (body ++ rest).head? = (.comment, st) := by
        rw [State.step, alone, inside]
        simp only [beq_iff_eq, Bool.and_eq_true, other, if_false]
      refine .cons ?_ (ih later)
      rw [← marked, map_fst_marked]
      exact step

/-- A block comment leads back to the code before it. -/
lemma leads_blockComment (body : BlockBody) :
    (Spot.mk .code depth opened).Leads
      (marked .comment ('/' :: '*' :: (body.1 ++ ['*', '/']))) ⟨.code, depth, opened⟩ := by
  have start : (Spot.mk .code depth opened).Leads [('/', .comment), ('*', .comment)]
      ⟨.blockComment, depth, opened⟩ := by
    refine .pair fun st start =>
      ⟨{ st with mode := .blockComment }, ?_, start.alone, rfl, start.depth, start.opened⟩
    rw [start.step_code]
    rfl
  have finish : (Spot.mk .blockComment depth opened).Leads
      (marked .comment body.1 ++ [('*', .comment), ('/', .comment)]) ⟨.code, depth, opened⟩ := by
    intro rest st start
    refine ⟨{ st with mode := .code }, ?_, start.alone, rfl, start.depth, start.opened⟩
    refine .append (reads_block start.alone start.mode (by simp) body.2) ?_
    refine .pair ?_ start.alone
    rw [State.step, start.alone, start.mode]
    rfl
  have parts := start.append finish
  rw [show [('*', Kind.comment), ('/', .comment)] = marked .comment ['*', '/'] from rfl,
    ← marked_append] at parts
  exact parts

/-! ### Templates -/

variable {depth opened} in
/-- A stretch of template text leaves the scanner as it is, if no brace comes
next. -/
lemma reads_text {st : State} (inside : st.At ⟨.template, depth, opened⟩)
    {rest : Text} (follows : rest.head? ≠ some '{')
    {glyphs : List (Glyph fun c => c ≠ '\x60' ∧ c ≠ '\\')}
    (closed : glyphs.IsChain fun g next => ¬ (g.plain? = some '$' ∧ next.plain? = some '{')) :
    Reads rest st (marked .template (glyphs.flatMap Glyph.chars)) st := by
  induction glyphs with
  | nil => exact .nil st
  | cons glyph glyphs ih =>
      rw [List.flatMap_cons, marked_append]
      refine .append ?_ (ih closed.tail)
      cases glyph with
      | escaped c =>
          refine .pair ?_ inside.alone
          rw [inside.step_template]
          rfl
      | plain c h =>
          obtain ⟨noTick, noEscape⟩ := h
          -- What comes next is a brace only if the text or the rest starts with it.
          have other : ¬ (c = '$' ∧ (glyphs.flatMap Glyph.chars ++ rest).head? = some '{') := by
            rintro ⟨rfl, brace⟩
            cases glyphs with
            | nil => exact follows brace
            | cons following glyphs =>
                have apart := (List.isChain_cons_cons.mp closed).1
                cases following with
                | plain c h =>
                    obtain rfl : c = '{' := by simpa [Glyph.chars] using brace
                    exact apart ⟨rfl, rfl⟩
                | escaped c => simp [Glyph.chars] at brace
          have step : st.step c (glyphs.flatMap Glyph.chars ++ rest).head? = (.template, st) := by
            rw [inside.step_template, State.stepTemplate]
            simp only [beq_iff_eq, noEscape, noTick, Bool.and_eq_true, other, if_false]
          refine .cons ?_ (.nil st)
          rw [map_fst_marked]
          exact step

variable {depth opened} in
/-- What is read behind a stretch of template text is read with it, if it does not
start with a brace. -/
lemma leads_text (text : TemplateText) {ms : Marks} {s : Spot}
    (later : (Spot.mk .template depth opened).Leads ms s)
    (start : ∃ mark ∈ ms.head?, mark.1 ≠ '{') :
    (Spot.mk .template depth opened).Leads (text.marks ++ ms) s := by
  intro rest st here
  obtain ⟨st', read, finish⟩ := later rest st here
  refine ⟨st', .append (reads_text here ?_ text.closed) read, finish⟩
  obtain ⟨mark, first, other⟩ := start
  obtain ⟨tail, rfl⟩ := List.head?_eq_some_iff.mp first
  simpa using other

/-- A tick opens a template. -/
lemma leads_tick : (Spot.mk .code depth opened).Leads [('\x60', .delimiter)]
    ⟨.template, depth + 1, opened⟩ := by
  refine .one fun st start next =>
    ⟨{ st with
        mode := .template, templateDepth := st.templateDepth + 1
        inWord := false, afterWord := false },
      ?_, start.alone, rfl, by rw [start.depth], start.opened⟩
  rw [start.step_code]
  rfl

/-- A tick in its text closes it. -/
lemma leads_lastTick : (Spot.mk .template (depth + 1) opened).Leads [('\x60', .delimiter)]
    ⟨.code, depth, opened⟩ := by
  refine .one fun st start next =>
    ⟨{ st with mode := .code, templateDepth := st.templateDepth - 1, regexAllowed := false },
      ?_, start.alone, rfl, ?_, start.opened⟩
  · rw [start.step_template]
    rfl
  · rw [start.depth]
    exact Int.add_sub_cancel depth 1

/-- A dollar sign with a brace opens an interpolation. -/
lemma leads_interpolation : (Spot.mk .template depth opened).Leads [('$', .code), ('{', .code)]
    ⟨.code, depth, 0 :: opened⟩ := by
  refine .pair fun st start =>
    ⟨{ st with
        mode := .code, interpolations := 0 :: st.interpolations
        regexAllowed := true, inWord := false },
      ?_, start.alone, rfl, start.depth, by rw [start.opened]⟩
  rw [start.step_template]
  rfl

/-- The brace that no brace inside it stands for closes it. -/
lemma leads_lastBrace : (Spot.mk .code depth (0 :: opened)).Leads [('}', .code)]
    ⟨.template, depth, opened⟩ := by
  refine .one fun st start next =>
    ⟨{ st with mode := .template, interpolations := opened },
      ?_, start.alone, rfl, start.depth, rfl⟩
  simp [start.step_code, State.stepCode, start.opened]

end Code

/-- A template goes on with a tick or with a dollar sign behind its text. -/
lemma head?_marksBehind (holes : List Hole) : ∃ mark ∈ (marksBehind holes).head?, mark.1 ≠ '{' := by
  cases holes with
  | nil => exact ⟨('\x60', .delimiter), rfl, by decide⟩
  | cons hole rest =>
      obtain ⟨content, text⟩ := hole
      exact ⟨('$', .code), rfl, by decide⟩

/-! ### Trees -/

mutual

/-- **Every lexeme is read as it is built.** It leads back to the spot before it, at
which no interpolation has lost a brace. -/
lemma Lexeme.leads : ∀ (lexeme : Lexeme) (depth : Int) (opened : List Int),
    (∀ count ∈ opened.head?, 0 ≤ count) →
      (Spot.mk .code depth opened).Leads lexeme.marks ⟨.code, depth, opened⟩
  | .char c, depth, opened, _ => leads_plainChar depth opened c
  | .braces content, depth, opened, counts => by
      have inner : ∀ count ∈ (opened.modifyHead (· + 1)).head?, 0 ≤ count := by
        cases opened with
        | nil => simp
        | cons count outer =>
            have count_nonneg : 0 ≤ count := counts count rfl
            simpa using (by omega : 0 ≤ count + 1)
      have read := leads_marksOf content depth (opened.modifyHead (· + 1)) inner
      exact (leads_opening depth opened).append (read.append (leads_closing depth counts))
  | .string literal, depth, opened, _ => leads_string depth opened literal
  | .lineComment body, depth, opened, _ => leads_lineComment depth opened body
  | .blockComment body, depth, opened, _ => leads_blockComment depth opened body
  | .template text holes, depth, opened, _ => by
      have read := leads_text text (leads_marksBehind holes depth opened) (head?_marksBehind holes)
      exact (leads_tick depth opened).append read

/-- So are lexemes one after another. -/
lemma leads_marksOf : ∀ (lexemes : List Lexeme) (depth : Int) (opened : List Int),
    (∀ count ∈ opened.head?, 0 ≤ count) →
      (Spot.mk .code depth opened).Leads (marksOf lexemes) ⟨.code, depth, opened⟩
  | [], _, _, _ => .nil _
  | lexeme :: rest, depth, opened, counts =>
      (lexeme.leads depth opened counts).append (leads_marksOf rest depth opened counts)

/-- What is left of a template leads out of it. -/
lemma leads_marksBehind : ∀ (holes : List Hole) (depth : Int) (opened : List Int),
    (Spot.mk .template (depth + 1) opened).Leads (marksBehind holes) ⟨.code, depth, opened⟩
  | [], depth, opened => leads_lastTick depth opened
  | ⟨content, text⟩ :: rest, depth, opened => by
      have read := leads_marksOf content (depth + 1) (0 :: opened) (by simp)
      have later := leads_text text (leads_marksBehind rest depth opened) (head?_marksBehind rest)
      exact (leads_interpolation (depth + 1) opened).append
        (read.append ((leads_lastBrace (depth + 1) opened).append later))

end

/-- **The scanner reads trees of lexemes as they are built.** Every character has the
kind it is built with, however deep it stands, and behind the text the scanner is in
code, with no template and no interpolation open. -/
theorem kinds_render (lexemes : List Lexeme) :
    kinds (render lexemes) = builtKinds lexemes ∧
      (stateAt (render lexemes) (render lexemes).length).At ⟨.code, 0, []⟩ := by
  have start : ({} : State).At ⟨.code, 0, []⟩ := ⟨rfl, rfl, rfl, rfl⟩
  obtain ⟨st, read, finish⟩ := leads_marksOf lexemes 0 [] (by simp) [] {} start
  refine ⟨read.kinds, ?_⟩
  have last : stateAt (render lexemes) (render lexemes).length = st := by
    rw [render, List.length_map]
    exact read.after
  rw [last]
  exact finish

/-- A group in an interpolation, with text behind it. -/
example :
    let group := Lexeme.braces [.char ⟨'a', by decide⟩]
    let tree := Lexeme.template ⟨[], .nil⟩ [⟨[group], ⟨[.plain 'b' (by decide)], .singleton _⟩⟩]
    render [tree] = "\x60$\x7b\x7ba\x7d\x7db\x60".toList ∧
      (builtKinds [tree]).map Kind.letter = "qcccccctq".toList := by
  decide

end LintRepair.Lexical
