/-
Comments do not tell on the code around them.

* `IsComment`: a text that is a comment in front of a rest;
* `Recognized`: a comment that the scanner reads as one;
* `IsComment.reads`: behind a comment the scanner is as it was before it;
* `recognized_of_kind`: every character of a comment stands in a recognized one;
* `kinds_blanked`: where the first word behind a comment does not go on the word before
  it, no kind outside the comment changes when it is blanked out.
-/
import Mathlib.Data.List.TakeWhile
import LintRepair.Proofs.Lexical.Tree
import LintRepair.Proofs.Lexical.Word

namespace LintRepair.Lexical

open Text

/-- A text that is a comment in front of a rest: one up to the end of its line, one up
to its last star and slash, or one that is not ended. -/
inductive IsComment : Text → Text → Prop
  | line (body : LineBody) {rest : Text} (ends : rest = [] ∨ rest.head? = some '\n') :
    IsComment ('/' :: '/' :: body.1) rest
  | block (body : BlockBody) (rest : Text) :
    IsComment ('/' :: '*' :: (body.1 ++ ['*', '/'])) rest
  | unended (body : BlockBody) : IsComment ('/' :: '*' :: body.1) []

/-- A text with its characters blanked out, but for line feeds. -/
def blanked (t : Text) : Text := t.map fun c => if c = '\n' then c else ' '

/-- The scanner reads the middle one of three parts of a text as a comment: it is one,
and its first slash is read as code. -/
structure Recognized (before comment rest : Text) : Prop where
  isComment : IsComment comment rest
  inCode : (stateAt (before ++ comment ++ rest) before.length).InCode

/-- A comment starts with a slash. -/
lemma IsComment.slash {comment rest : Text} (h : IsComment comment rest) :
    ∃ tail, comment = '/' :: tail := by
  cases h <;> exact ⟨_, rfl⟩

/-! ### Reading on -/

section Reads

variable {st st' : State} {c : Char} {ms : Marks}

/-- Every text is read somehow in front of every other. -/
lemma exists_reads (rest t : Text) (st : State) :
    ∃ ms st', Reads rest st ms st' ∧ ms.map Prod.fst = t := by
  induction t generalizing st with
  | nil => exact ⟨[], st, .nil st, rfl⟩
  | cons c t ih =>
      obtain ⟨ms, st', read, rfl⟩ := ih (st.step c (t ++ rest).head?).2
      exact ⟨(c, (st.step c (ms.map Prod.fst ++ rest).head?).1) :: ms, st', .cons rfl read, rfl⟩

/-- Where a character leaves the scanner in code in front of a slash, a blank could
stand there as well. -/
lemma step_slash_eq_blank (inCode : (st.step c (some '/')).2.InCode) :
    st.step c (some ' ') = st.step c (some '/') := by
  obtain ⟨mode, alone⟩ := inCode
  cases joined : st.joined with
  | some kind => simp only [State.step, joined]
  | none =>
    cases inside : st.mode with
    | code =>
        have start : st.InCode := ⟨inside, joined⟩
        -- Two slashes would open a comment.
        have other : c ≠ '/' := by
          rintro rfl
          rw [start.step_eq, State.stepCode_eq, if_pos ⟨rfl, rfl⟩] at mode
          cases mode
        rw [start.step_eq, start.step_eq, State.stepCode_eq, State.stepCode_eq]
        simp only [other, false_and, if_false]
    | blockComment =>
        -- A star and a slash would end one.
        have other : c ≠ '*' := by
          rintro rfl
          simp [State.step, joined, inside] at alone
        simp [State.step, joined, inside, other]
    | lineComment | string quote | regex inClass => simp only [State.step, joined, inside]
    | template => simp [State.step, joined, inside, State.stepTemplate]

/-- What is read in front of a slash that is code is read alike in front of a
blank. -/
lemma Reads.blank {rest rest' : Text} (read : Reads ('/' :: rest) st ms st')
    (inCode : st'.InCode) : Reads (' ' :: rest') st ms st' := by
  induction read with
  | nil st => exact .nil st
  | @cons st st' st'' c kind ms now later ih =>
      refine .cons ?_ (ih inCode)
      cases later with
      | nil =>
          rw [List.map_nil, List.nil_append, List.head?_cons] at now ⊢
          rw [step_slash_eq_blank (by rw [now]; exact inCode), now]
      | cons next later => exact now

/-- In code, blanks are read as code, and they end the word. -/
lemma reads_blanked (start : st.InCode) (rest : Text) {t : Text} (some' : t ≠ []) :
    Reads rest st (marked .code (blanked t)) st.forget := by
  have blank : ∀ c : Char, isBlank (if c = '\n' then c else ' ') = true := by
    intro c
    split
    · next feed => rw [feed]; rfl
    · rfl
  have idle : ∀ t, Reads rest st.forget (marked .code (blanked t)) st.forget := by
    intro t
    induction t with
    | nil => exact .nil _
    | cons c t ih => exact .cons (start.forget.step_blank (blank c)) ih
  cases t with
  | nil => exact absurd rfl some'
  | cons c t => exact .cons (start.step_blank (blank c)) (idle t)

/-- A slash and a character with which it opens a comment are read as part of it. -/
lemma reads_opening (start : st.InCode) (rest : Text) {c : Char} {mode : Mode}
    (opens : c = '/' ∧ mode = .lineComment ∨ c = '*' ∧ mode = .blockComment) :
    Reads rest st [('/', .comment), (c, .comment)] { st with mode } := by
  refine .pair ?_ start.alone
  rw [start.step_eq]
  obtain ⟨rfl, rfl⟩ | ⟨rfl, rfl⟩ := opens <;> rfl

/-- Behind a block comment that ends the scanner is as it was before it. -/
lemma reads_blockComment (start : st.InCode) (body : BlockBody) (rest : Text) :
    Reads rest st (marked .comment ('/' :: '*' :: (body.1 ++ ['*', '/']))) st := by
  have alone : { st with mode := .blockComment : State }.joined = none := start.alone
  have said : Reads ('*' :: '/' :: rest) { st with mode := .blockComment }
      (marked .comment body.1) { st with mode := .blockComment } :=
    reads_block alone rfl (by simp) body.2
  have finish : Reads rest { st with mode := .blockComment }
      [('*', .comment), ('/', .comment)] st := by
    refine .pair ?_ start.alone
    rw [State.step, start.alone, ← start.mode]
    rfl
  have parts := Reads.append (reads_opening start _ (.inr ⟨rfl, rfl⟩)) (said.append finish)
  rwa [show [('*', Kind.comment), ('/', .comment)] = marked .comment ['*', '/'] from rfl,
    ← marked_append] at parts

/-- A comment is read as one. Behind it the scanner is as it was before it, but in a
comment yet where the end of the line or of the text comes next. -/
lemma IsComment.reads {comment rest : Text} (h : IsComment comment rest) (start : st.InCode) :
    ∃ st', Reads rest st (marked .comment comment) st' ∧
      (st' = st ∨ rest = [] ∨
        (∃ behind, rest = '\n' :: behind) ∧ st' = { st with mode := .lineComment }) := by
  have alone (mode : Mode) : { st with mode : State }.joined = none := start.alone
  cases h with
  | line body ends =>
      have said : Reads rest { st with mode := .lineComment } (marked .comment body.1)
          { st with mode := .lineComment } := reads_line (alone _) rfl rest body.2
      refine ⟨_, .append (reads_opening start _ (.inl ⟨rfl, rfl⟩)) said, ?_⟩
      rcases ends with none | feed
      · exact .inr (.inl none)
      · exact .inr (.inr ⟨List.head?_eq_some_iff.mp feed, rfl⟩)
  | block body rest => exact ⟨st, reads_blockComment start body rest, .inl rfl⟩
  | unended body =>
      have said : Reads [] { st with mode := .blockComment } (marked .comment body.1)
          { st with mode := .blockComment } := reads_block (alone _) rfl (by simp) body.2
      exact ⟨_, .append (reads_opening start _ (.inr ⟨rfl, rfl⟩)) said, .inr (.inl rfl)⟩

end Reads

/-! ### Blanking a comment -/

section Blank

variable {before comment rest : Text}

/-- From the start of a text, what is read leads to the state at its end. -/
lemma Reads.stateAt {ms : Marks} {st : State} (read : Reads rest {} ms st) :
    stateAt (ms.map Prod.fst ++ rest) (ms.map Prod.fst).length = st := by
  rw [List.length_map]
  exact read.after_append

/-- The line feed behind a comment leads back to the code before it. -/
lemma step_lineFeed {st : State} (start : st.InCode) (next : Option Char) :
    ({ st with mode := .lineComment } : State).step '\n' next = (.code, st) := by
  obtain ⟨mode, joined, depth, opened, allowed, word, inWord, afterWord, parens⟩ := st
  obtain ⟨rfl, rfl⟩ := start
  rfl

/-- What follows a comment has the same kinds as behind blanks, if the first word in it
does not go on the word before the comment. -/
lemma kinds_rest {st st' : State} (start : st.InCode)
    (finish : st' = st ∨ rest = [] ∨
      (∃ behind, rest = '\n' :: behind) ∧ st' = { st with mode := .lineComment })
    (reached : stateAt (before ++ rest) before.length = st')
    (apart : ∀ i, before.length ≤ i →
      (∀ j, before.length ≤ j → j < i → ¬ NameAt (before ++ rest) j) →
      ¬ GoesOn (before ++ rest) i) :
    st.forget.kinds rest = st'.kinds rest := by
  rcases finish with rfl | rfl | ⟨⟨behind, rfl⟩, rfl⟩
  · rw [← reached]
    exact kinds_forget before rest rfl apart
  · rfl
  · have parts : before ++ '\n' :: behind = (before ++ ['\n']) ++ behind := by simp
    have feed : (before ++ '\n' :: behind)[before.length]? = some '\n' := by simp
    have next : stateAt (before ++ '\n' :: behind) (before ++ ['\n']).length = st := by
      rw [List.length_append, List.length_singleton, stateAt_succ feed, reached,
        step_lineFeed start]
    have later := kinds_forget (before ++ ['\n']) behind parts ?_
    · rw [next] at later
      rw [State.kinds, State.kinds, step_lineFeed start, start.forget.step_blank rfl]
      exact congrArg _ later
    · intro i le between
      rw [List.length_append, List.length_singleton] at le between
      refine apart i (by omega) fun j low high => ?_
      by_cases first : j = before.length
      · rintro ⟨-, name⟩
        rw [first, feed] at name
        exact absurd name (by decide)
      · exact between j (by omega) high

/-- **Comments are transparent.** Where the first word behind a comment does not go on
the word before it, every character outside the comment keeps its kind when the
comment is blanked out. -/
theorem kinds_blanked (found : Recognized before comment rest)
    (apart : ∀ i, before.length + comment.length ≤ i →
      (∀ j, before.length + comment.length ≤ j → j < i →
        ¬ NameAt (before ++ comment ++ rest) j) →
      ¬ GoesOn (before ++ comment ++ rest) i) {i : Nat}
    (outside : i < before.length ∨ before.length + comment.length ≤ i) :
    (kinds (before ++ blanked comment ++ rest))[i]? =
      (kinds (before ++ comment ++ rest))[i]? := by
  obtain ⟨ms, st, first, rfl⟩ := exists_reads (comment ++ rest) before {}
  have start : st.InCode := by
    rw [← first.stateAt, ← List.append_assoc]
    exact found.inCode
  obtain ⟨tail, slash⟩ := found.isComment.slash
  obtain ⟨st', inside, finish⟩ := found.isComment.reads start
  have read : Reads rest {} (ms ++ marked .comment comment) st' := by
    refine .append ?_ inside
    rw [map_fst_marked]
    exact first
  have readBlank : Reads rest {} (ms ++ marked .code (blanked comment)) st.forget := by
    refine .append ?_ (reads_blanked start rest (by simp [slash]))
    rw [map_fst_marked, slash]
    rw [slash] at first
    exact first.blank start
  have same : st.forget.kinds rest = st'.kinds rest := by
    have reached := read.stateAt
    rw [List.map_append, map_fst_marked] at reached
    rw [← List.length_append] at apart
    exact kinds_rest start finish reached apart
  have whole := read.kinds_append
  have blank := readBlank.kinds_append
  rw [List.map_append, map_fst_marked, List.map_append] at whole blank
  rw [kinds, blank, kinds, whole, same]
  have lengths : (marked .code (blanked comment)).length = (marked .comment comment).length := by
    simp [marked, blanked]
  rw [List.length_map] at outside
  rcases outside with earlier | later
  · rw [List.append_assoc, List.append_assoc, List.getElem?_append_left (by simpa using earlier),
      List.getElem?_append_left (by simpa using earlier)]
  · have behind : (ms.map Prod.snd ++ (marked .comment comment).map Prod.snd).length ≤ i := by
      simpa [marked] using later
    rw [List.getElem?_append_right behind, List.getElem?_append_right (by simpa [lengths] using behind)]
    simp [lengths]

/-- A comment over two lines behind `return` that comes before a regular
expression. -/
theorem kinds_blanked_return :
    let comment : Text := "/*\n*/".toList
    Recognized "return".toList comment " /x/".toList ∧
      (kinds ("return".toList ++ blanked comment ++ " /x/".toList))[12]? =
        (kinds ("return".toList ++ comment ++ " /x/".toList))[12]? := by
  have found : Recognized "return".toList "/*\n*/".toList " /x/".toList :=
    ⟨.block ⟨['\n'], by decide⟩ _, by decide⟩
  refine ⟨found, kinds_blanked found ?_ (by decide)⟩
  intro i behind _ goesOn
  have none : ∀ i < 15, 11 ≤ i →
      ¬ GoesOn ("return".toList ++ "/*\n*/".toList ++ " /x/".toList) i := by decide
  exact none i goesOn.1.lt behind goesOn

/-- A comment between two words makes one of them: behind `typeofvoid` a slash is taken
for a division, behind `void` it opens a regular expression. -/
theorem kinds_blanked_not : ¬ ∀ (before comment rest : Text) (i : Nat),
    Recognized before comment rest →
      (i < before.length ∨ before.length + comment.length ≤ i) →
        (kinds (before ++ blanked comment ++ rest))[i]? =
          (kinds (before ++ comment ++ rest))[i]? := by
  intro always
  have same := always "typeof".toList "/**/".toList "void /a/".toList 15
    ⟨.block ⟨[], by decide⟩ _, by decide⟩ (by decide)
  exact absurd same (by decide)

end Blank

/-! ### Every comment is recognized -/

/-- A text without the end of a comment, or that with what stands before and behind
it. -/
lemma exists_blockBody (t : Text) :
    (∃ (body : BlockBody) (rest : Text), t = body.1 ++ '*' :: '/' :: rest) ∨
      ∃ body : BlockBody, t = body.1 := by
  induction t with
  | nil => exact .inr ⟨⟨[], by simp⟩, rfl⟩
  | cons c t ih =>
      by_cases ends : c = '*' ∧ t.head? = some '/'
      · obtain ⟨rfl, slash⟩ := ends
        obtain ⟨rest, rfl⟩ := List.head?_eq_some_iff.mp slash
        exact .inl ⟨⟨[], by simp⟩, rest, rfl⟩
      have within : ∀ body : Text, body <+: t → ¬ ['*', '/'] <:+: body →
          ¬ ['*', '/'] <:+: c :: body := by
        rintro body ⟨rest, rfl⟩ none either
        rcases List.infix_cons_iff.mp either with first | later
        · obtain ⟨rfl, slash⟩ := List.cons_prefix_cons.mp first
          obtain ⟨tail, rfl⟩ := slash
          exact ends ⟨rfl, rfl⟩
        · exact none later
      rcases ih with ⟨⟨body, none⟩, rest, rfl⟩ | ⟨⟨_, none⟩, rfl⟩
      · exact .inl ⟨⟨c :: body, within body (List.prefix_append _ _) none⟩, rest, rfl⟩
      · exact .inr ⟨⟨c :: t, within t List.prefix_rfl none⟩, rfl⟩

/-- Every text that starts like a comment is one with a rest behind it. -/
lemma exists_isComment {c : Char} (t : Text) (opens : c = '/' ∨ c = '*') :
    ∃ comment rest, '/' :: c :: t = comment ++ rest ∧ IsComment comment rest := by
  rcases opens with rfl | rfl
  · have body : '\n' ∉ t.takeWhile (· != '\n') := fun feed => by
      simpa using List.mem_takeWhile_imp feed
    refine ⟨_, t.dropWhile (· != '\n'), ?_, .line ⟨_, body⟩ ?_⟩
    · rw [List.cons_append, List.cons_append, List.takeWhile_append_dropWhile]
    · cases behind : t.dropWhile (· != '\n') with
      | nil => exact .inl rfl
      | cons d rest =>
          have stop := List.head?_dropWhile_not (· != '\n') t
          rw [behind] at stop
          exact .inr (by simpa using stop)
  · rcases exists_blockBody t with ⟨body, rest, rfl⟩ | ⟨body, rfl⟩
    · exact ⟨_, rest, by simp, .block body rest⟩
    · exact ⟨_, [], by simp, .unended body⟩

/-- The scanner is neither in a comment, nor does the next character belong to the
end or the start of one. -/
structure State.Outside (st : State) : Prop where
  line : st.mode ≠ .lineComment
  block : st.mode ≠ .blockComment
  alone : st.joined ≠ some .comment

lemma State.InCode.outside {st : State} (h : st.InCode) : st.Outside :=
  ⟨by simp [h.mode], by simp [h.mode], by simp [h.alone]⟩

/-- Outside of comments, only a slash that opens one is part of one; behind every
other character the scanner is outside as well. -/
lemma State.Outside.step {st : State} (h : st.Outside) (c : Char) (next : Option Char) :
    (st.InCode ∧ c = '/' ∧ (next = some '/' ∨ next = some '*')) ∨
      ((st.step c next).1 ≠ .comment ∧ (st.step c next).2.Outside) := by
  obtain ⟨line, block, joined⟩ := h
  cases alone : st.joined with
  | some kind =>
      have other : kind ≠ .comment := fun same => joined (same ▸ alone)
      simp only [State.step, alone]
      exact .inr ⟨other, line, block, by simp⟩
  | none =>
    cases inside : st.mode with
    | code =>
        have start : st.InCode := ⟨inside, alone⟩
        by_cases opens : c = '/' ∧ (next = some '/' ∨ next = some '*')
        · exact .inl ⟨start, opens⟩
        have once : ¬ (c = '/' ∧ next = some '/') := fun h => opens ⟨h.1, .inl h.2⟩
        have twice : ¬ (c = '/' ∧ next = some '*') := fun h => opens ⟨h.1, .inr h.2⟩
        right
        rw [start.step_eq, State.stepCode_eq, if_neg once, if_neg twice]
        split_ifs <;> refine ⟨by simp, ?_, ?_, ?_⟩ <;> simp [State.plain, inside, alone]
    | lineComment => exact absurd inside line
    | blockComment => exact absurd inside block
    | string quote =>
        right
        simp only [State.step, alone, inside, State.stepString]
        split_ifs <;> refine ⟨by simp, ?_, ?_, ?_⟩ <;> simp [inside, alone]
    | regex inClass =>
        right
        simp only [State.step, alone, inside, State.stepRegex]
        split_ifs <;> refine ⟨by simp, ?_, ?_, ?_⟩ <;> simp [inside, alone]
    | template =>
        right
        simp only [State.step, alone, inside, State.stepTemplate]
        split_ifs <;> refine ⟨by simp, ?_, ?_, ?_⟩ <;> simp [inside, alone]

/-- What is read somewhere in a text leads to the state behind it. -/
lemma Reads.stateAt_append {t before rest : Text} {ms : Marks} {st : State}
    (parts : t = before ++ (ms.map Prod.fst ++ rest))
    (read : Reads rest (Lexical.stateAt t before.length) ms st) :
    Lexical.stateAt t (before.length + ms.length) = st := by
  obtain ⟨ms', first, start, rfl⟩ := exists_reads (ms.map Prod.fst ++ rest) before {}
  rw [parts, start.stateAt] at read
  have whole := (start.append read).stateAt
  rw [List.map_append, List.append_assoc, ← parts] at whole
  simpa using whole

/-- Where a slash opens a comment, the scanner recognizes one. -/
lemma exists_recognized {t : Text} {j : Nat} (inCode : (stateAt t j).InCode)
    (slash : t[j]? = some '/') (opens : t[j + 1]? = some '/' ∨ t[j + 1]? = some '*') :
    ∃ before comment rest, t = before ++ comment ++ rest ∧ before.length = j ∧
      Recognized before comment rest := by
  obtain ⟨c, next, slashed⟩ : ∃ c, t[j + 1]? = some c ∧ (c = '/' ∨ c = '*') := by
    rcases opens with opens | opens
    · exact ⟨_, opens, .inl rfl⟩
    · exact ⟨_, opens, .inr rfl⟩
  obtain ⟨within, slash⟩ := List.getElem?_eq_some_iff.mp slash
  obtain ⟨within', next⟩ := List.getElem?_eq_some_iff.mp next
  obtain ⟨comment, rest, split, isComment⟩ := exists_isComment (t.drop (j + 2)) slashed
  have parts : t = t.take j ++ comment ++ rest := by
    rw [List.append_assoc, ← split, ← slash, ← next, ← List.drop_eq_getElem_cons within',
      ← List.drop_eq_getElem_cons within, List.take_append_drop]
  have place : (t.take j).length = j := List.length_take_of_le (Nat.le_of_lt within)
  refine ⟨t.take j, comment, rest, parts, place, isComment, ?_⟩
  rw [← parts, place]
  exact inCode

/-- Behind a comment, or behind the line feed that ends it, the scanner is outside of
comments again. -/
lemma Recognized.behind {before comment rest : Text} (found : Recognized before comment rest) :
    let t := before ++ comment ++ rest
    let stop := before.length + comment.length
    rest = [] ∨ (stateAt t stop).Outside ∨
      (kinds t)[stop]? = some .code ∧ (stateAt t (stop + 1)).Outside := by
  intro t stop
  obtain ⟨st, read, finish⟩ := found.isComment.reads found.inCode
  have reached : stateAt t stop = st := by
    have reached := read.stateAt_append (t := t) (by rw [map_fst_marked]; exact List.append_assoc ..)
    rwa [marked, List.length_map] at reached
  rcases finish with rfl | none | ⟨⟨behind, rfl⟩, rfl⟩
  · exact .inr (.inl (reached ▸ found.inCode.outside))
  · exact .inl none
  · have feed : t[stop]? = some '\n' := by
      rw [show stop = (before ++ comment).length from List.length_append.symm]
      simp [t]
    refine .inr (.inr ⟨?_, ?_⟩)
    · rw [getElem?_kinds, feed, reached, Option.map_some, step_lineFeed found.inCode]
    · rw [stateAt_succ feed, reached, step_lineFeed found.inCode]
      exact found.inCode.outside

/-- **Every comment is recognized.** A character that the scanner takes for part of a
comment stands in one that it recognizes. -/
theorem recognized_of_kind {t : Text} {i : Nat} (stands : (kinds t)[i]? = some .comment) :
    ∃ before comment rest, t = before ++ comment ++ rest ∧ Recognized before comment rest ∧
      before.length ≤ i ∧ i < before.length + comment.length := by
  have within : i < t.length := by
    simpa using (List.getElem?_eq_some_iff.mp stands).1
  -- From an offset outside of comments on, by induction on how far it is to the character.
  suffices onward : ∀ n j, j + n = i → (stateAt t j).Outside →
      ∃ before comment rest, t = before ++ comment ++ rest ∧ Recognized before comment rest ∧
        before.length ≤ i ∧ i < before.length + comment.length from
    onward i 0 (Nat.zero_add i) (State.InCode.outside (by rw [stateAt_zero]; exact ⟨rfl, rfl⟩))
  intro n
  induction n using Nat.strongRecOn with
  | _ n ih =>
    intro j distance outside
    have here : t[j]? = some t[j] := List.getElem?_eq_getElem (by omega)
    rcases outside.step t[j] t[j + 1]? with ⟨inCode, slash, opens⟩ | ⟨other, later⟩
    · obtain ⟨before, comment, rest, parts, rfl, found⟩ :=
        exists_recognized inCode (slash ▸ here) opens
      by_cases inside : i < before.length + comment.length
      · exact ⟨before, comment, rest, parts, found, by omega, inside⟩
      obtain ⟨tail, long⟩ := found.isComment.slash
      have long : comment.length = tail.length + 1 := by rw [long, List.length_cons]
      rcases found.behind with none | outside' | ⟨code, outside'⟩
      · rw [parts, none, List.append_nil, List.length_append] at within
        exact absurd within inside
      · rw [← parts] at outside'
        exact ih (i - (before.length + comment.length)) (by omega) _ (by omega) outside'
      · rw [← parts] at code outside'
        have beyond : i ≠ before.length + comment.length := by
          rintro rfl
          rw [stands] at code
          cases code
        exact ih (i - (before.length + comment.length + 1)) (by omega) _ (by omega) outside'
    · have beyond : i ≠ j := by
        rintro rfl
        rw [getElem?_kinds, here] at stands
        exact other (Option.some.inj stands)
      rw [← stateAt_succ here] at later
      exact ih (n - 1) (by omega) (j + 1) (by omega) later

end LintRepair.Lexical
