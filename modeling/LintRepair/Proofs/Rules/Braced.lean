/-
`curly` and what stands between a head and its body.

* `HeadEnds`: where the head of a control statement ends in masked text, with
  `HeadEnds.inCode`: in code;
* `Unbraced`: a head, the gap behind it, a body and the rest of the text;
* `braced_of_fix`: the built-in fixer puts the body into braces and drops the gap, so that
  nothing but blanks is lost just if no comment and no regular expression stands in it.
-/
import LintRepair.Proofs.Code.Scope
import LintRepair.Proofs.Lexical.Next
import LintRepair.Proofs.Lexical.Paren
import LintRepair.Proofs.Rules.Above
import LintRepair.Proofs.Rules.Blanks

namespace LintRepair.Rules

open Text Lexical Code Check Repair

variable {code m t word after head gap body rest : Text} {d : Diagnostic} {o e : Nat}

/-! ### Texts without blanks -/

lemma without_append (p : Char → Bool) (t u : Text) : without p (t ++ u) = without p t ++ without p u :=
  List.filter_append ..

lemma without_eq_nil_iff {p : Char → Bool} : without p t = [] ↔ ∀ c ∈ t, p c = true := by
  simp [without]

/-- A part of a text is of a class just if the text is, where the part stands. -/
lemma forall_mem_iff_between {p : Char → Bool} (before part behind : Text) :
    (∀ c ∈ part, p c = true) ↔ ∀ i, before.length ≤ i → i < (before ++ part).length →
      (before ++ (part ++ behind))[i]?.any p = true := by
  have stands : ∀ k < part.length,
      (before ++ (part ++ behind))[before.length + k]? = part[k]? := by
    intro k within
    rw [List.getElem?_append_right (Nat.le_add_right _ _), Nat.add_sub_cancel_left,
      List.getElem?_append_left within]
  refine ⟨fun all i low high => ?_, fun all c among => ?_⟩
  · obtain ⟨k, rfl⟩ := Nat.exists_eq_add_of_le low
    rw [List.length_append, Nat.add_lt_add_iff_left] at high
    rw [stands k high, List.getElem?_eq_getElem high, Option.any_some]
    exact all _ (List.getElem_mem high)
  · obtain ⟨k, within, rfl⟩ := List.getElem_of_mem among
    have here := all (before.length + k) (Nat.le_add_right _ _)
      (by rw [List.length_append]; omega)
    rwa [stands k within, List.getElem?_eq_getElem within, Option.any_some] at here

/-! ### Keywords -/

/-- A keyword of masked text: no name goes on beside it, and it is not that of a member. -/
def KeywordAt (m word : Text) (o : Nat) : Prop := StandsAt (fun c => isName c || c == '.') m word o

/-- What is found for a keyword on a line is one. -/
lemma keywordAt_of_findKeyword (there : (line? code d.line.value).isSome = true)
    (some' : word ≠ [])
    (found : findKeyword code (mask code) d.line.value d.column.value word = some o) :
    KeywordAt (mask code) word o := by
  obtain ⟨l, line⟩ := Option.isSome_iff_exists.mp there
  obtain ⟨_, _, around⟩ := exists_around line
  obtain ⟨front, back, whole, start, feed, feed'⟩ := around.exists_mask
  obtain ⟨before, behind, shape, rfl, ends, apart⟩ :=
    exists_of_mem_wordOffsetsFrom some' (mem_of_findKeyword found)
  rw [show maskedLine code d.line.value = before ++ (word ++ behind) from shape] at whole
  have parts : mask code = (front ++ before) ++ (word ++ (behind ++ back)) := by
    rw [whole]
    simp only [List.append_assoc]
  have length : lineStart code d.line.value + before.length = (front ++ before).length := by
    rw [List.length_append, start]
  have front' : endsIn (fun c => isName c || c == '.') front = false := by
    rw [endsIn, Option.any_eq_false]
    intro c last
    rw [feed c last]
    decide
  have back' : startsIn isName back = false := by
    rw [startsIn, Option.any_eq_false]
    intro c first
    rw [feed' c first]
    decide
  rw [parts, length]
  exact standsAt_append (endsIn_append_eq_false front' (by simpa [endsIn] using apart))
    (startsIn_append_eq_false ends back')

/-! ### Heads -/

/-- Words that are the whole head of a statement. -/
def bareWords : List Text := ["else", "do"].map String.toList

/-- Words whose head goes on in parentheses. -/
def headWords : List Text := ["if", "for", "while"].map String.toList

/-- The head of a control statement ends before an offset of masked text: it is a word, or a
word and what stands in the parentheses behind it. -/
inductive HeadEnds (m : Text) : Nat → Prop
  | word {word : Text} {o : Nat} (among : word ∈ bareWords) (stands : KeywordAt m word o) :
      HeadEnds m (o + word.length)
  | parens {word blanks inside rest : Text} {o : Nat} (among : word ∈ headWords)
      (stands : KeywordAt m word o) (blank : ∀ c ∈ blanks, isBlank c = true)
      (shape : m.drop (o + word.length) = blanks ++ '(' :: (inside ++ ')' :: rest))
      (closed : Closed '(' ')' inside) :
      HeadEnds m (o + word.length + blanks.length + 1 + inside.length + 1)

lemma isBlank_of_isBodyBlank {c : Char} (blank : isBodyBlank c = true) : isBlank c = true := by
  simp only [isBodyBlank, Bool.or_eq_true, beq_iff_eq] at blank
  rcases blank with (rfl | rfl) | rfl <;> rfl

/-- Blanks, apart. -/
lemma takeWhile_append_drop_skipBlanks (m : Text) (i : Nat) :
    (m.drop i).takeWhile isBodyBlank ++ m.drop (Brace.skipBlanks m i) = m.drop i := by
  rw [Brace.skipBlanks, ← List.drop_drop]
  exact List.prefix_iff_eq_append.mp (List.takeWhile_prefix isBodyBlank)

/-- What a head is found to be is one. -/
lemma headEnds_of_headEnd? (among : word ∈ Brace.curlyWords) (stands : KeywordAt m word o)
    (found : Brace.headEnd? m word (o + word.length) = some e) : HeadEnds m e := by
  rw [Brace.headEnd?] at found
  split at found
  · next listed =>
    dsimp only at found
    split at found
    · next paren =>
      obtain ⟨k, matching, rfl⟩ := Option.map_eq_some_iff.mp found
      obtain ⟨inside, rest, shape, rfl, closed⟩ :=
        exists_of_findMatching rfl (by decide) paren matching
      have blanks := takeWhile_append_drop_skipBlanks m (o + word.length)
      rw [shape] at blanks
      exact .parens (List.contains_iff_mem.mp listed) stands
        (fun c hc => isBlank_of_isBodyBlank (List.mem_takeWhile_imp hc)) blanks.symm closed
    · cases found
  · next other =>
    cases found
    refine .word ?_ stands
    have both : ∀ word ∈ Brace.curlyWords,
        ["if".toList, "for".toList, "while".toList].contains word = true ∨ word ∈ bareWords := by
      decide
    exact (both word among).resolve_left other

/-- Behind a word that is a head there is code. -/
lemma KeywordAt.inCode (stands : KeywordAt (mask t) word o) (among : word ∈ bareWords) :
    (stateAt t (o + word.length)).InCode := by
  have letters : ∀ word ∈ bareWords, ∃ w c, word = w ++ [c] ∧ isName c = true ∧
      isBlank c = false ∧ c ∉ ['\x27', '\x22', '\x60', '$', '{'] := by
    intro word among
    rcases List.mem_cons.mp among with rfl | among
    · exact ⟨['e', 'l', 's'], 'e', rfl, by decide⟩
    · rw [List.mem_singleton.mp among]
      exact ⟨['d'], 'o', rfl, by decide⟩
  obtain ⟨w, c, rfl, name, solid, other⟩ := letters word among
  have last : (mask t)[o + w.length]? = some c := by
    obtain ⟨rest, shape⟩ := stands.here
    rw [← List.getElem?_drop, ← shape]
    simp
  obtain ⟨inCode, here⟩ := codeAt_of_mask last solid other
  rw [List.length_append, List.length_singleton, ← Nat.add_assoc, stateAt_succ here,
    inCode.step_name name]
  exact ⟨inCode.mode, inCode.alone⟩

/-- So there is behind every head. -/
lemma HeadEnds.inCode (h : HeadEnds (mask t) e) : (stateAt t e).InCode := by
  cases h with
  | word among stands => exact stands.inCode among
  | @parens word blanks inside rest o among stands blank shape closed =>
      have paren : (mask t)[o + word.length + (blanks.length + 1 + inside.length)]? = some ')' := by
        have split : blanks ++ '(' :: (inside ++ ')' :: rest) =
            (blanks ++ '(' :: inside) ++ ')' :: rest := by simp
        have length : blanks.length + 1 + inside.length = (blanks ++ '(' :: inside).length := by
          simp only [List.length_append, List.length_cons]
          omega
        rw [← List.getElem?_drop, shape, split, length, List.getElem?_append_right (Nat.le_refl _),
          Nat.sub_self]
        rfl
      obtain ⟨inCode, here⟩ := (mask_eq_paren (.inr rfl)).mp paren
      rw [← Nat.add_assoc, ← Nat.add_assoc] at here inCode
      rw [stateAt_succ here, inCode.step_closing]
      exact ⟨inCode.mode, inCode.alone⟩

/-! ### Bodies -/

/-- A text with a control statement whose body is in no braces: its head, what stands
between the two, the body, and the rest. -/
structure Unbraced (code head gap body rest : Text) : Prop where
  eq : code = head ++ (gap ++ (body ++ rest))
  headEnds : HeadEnds (mask code) head.length
  /-- In the masked text there are only blanks between the head and the body. -/
  between : ∀ i, head.length ≤ i → i < (head ++ gap).length → (mask code)[i]?.any isBlank = true
  /-- The body is the statement behind the gap. -/
  body_eq : body = trimRight
    (slice code (head ++ gap).length (statementEnd (mask code) (head ++ gap).length))
  some' : body ≠ []

lemma mem_curlyWords (among : word ∈ Brace.wordsOf d) : word ∈ Brace.curlyWords := by
  rw [Brace.wordsOf] at among
  split at among
  · split_ifs at among with listed
    · rw [List.mem_singleton.mp among]
      exact List.contains_iff_mem.mp listed
    · exact among
  · exact among

/-- Where the masked text is skipped there are blanks. -/
lemma isBlank_of_lt_skipBlanks {i j : Nat} (low : i ≤ j) (high : j < Brace.skipBlanks m i) :
    m[j]?.any isBlank = true := by
  obtain ⟨k, rfl⟩ := Nat.exists_eq_add_of_le low
  have within : k < ((m.drop i).takeWhile isBodyBlank).length := by
    rw [Brace.skipBlanks] at high
    omega
  rw [← List.getElem?_drop, ← takeWhile_append_drop_skipBlanks, List.getElem?_append_left within,
    List.getElem?_eq_getElem within, Option.any_some]
  exact isBlank_of_isBodyBlank (List.mem_takeWhile_imp (List.getElem_mem within))

/-- What is found for a control statement without braces is one. -/
lemma unbraced_of_bare? {b : Brace.Bare} (there : (line? code d.line.value).isSome = true)
    (found : Brace.bare? code d = some b)
    (read : trimRight (slice code b.bodyStart (statementEnd (mask code) b.bodyStart)) = body)
    (some' : body ≠ []) :
    Unbraced code (code.take b.headEnd) (slice code b.headEnd b.bodyStart) body
      (code.drop (b.bodyStart + body.length)) := by
  obtain ⟨word, among, place, ends, start, first, stands, -⟩ := exists_of_bare? found
  have listed := mem_curlyWords among
  have order : b.headEnd ≤ b.bodyStart := by
    rw [start]
    exact Nat.le_add_right _ _
  have within : b.bodyStart < code.length := by
    simpa using (List.getElem?_eq_some_iff.mp stands).1
  have head : (code.take b.headEnd).length = b.headEnd := List.length_take_of_le (by omega)
  have gap : (code.take b.headEnd ++ slice code b.headEnd b.bodyStart).length = b.bodyStart := by
    rw [List.length_append, head, length_slice order (Nat.le_of_lt within)]
    omega
  have behind : body <+: code.drop b.bodyStart := by
    obtain ⟨tail, whole, -⟩ :=
      trimRight_append_blanks (slice code b.bodyStart (statementEnd (mask code) b.bodyStart))
    rw [read] at whole
    have part : body <+: slice code b.bodyStart (statementEnd (mask code) b.bodyStart) :=
      ⟨tail, whole.symm⟩
    exact part.trans (List.take_prefix _ _)
  refine ⟨?_, ?_, ?_, ?_, some'⟩
  · rw [← List.drop_drop, List.prefix_iff_eq_append.mp behind, ← drop_eq_slice_append order,
      List.take_append_drop]
  · rw [head]
    refine headEnds_of_headEnd? listed (keywordAt_of_findKeyword there ?_ place) ends
    have long : ∀ word ∈ Brace.curlyWords, word ≠ [] := by decide
    exact long word listed
  · rw [gap, head]
    intro i low high
    exact isBlank_of_lt_skipBlanks low (start ▸ high)
  · rw [gap, read]

/-- What `curly` does to a text. -/
lemma exists_of_curly (there : (line? code d.line.value).isSome = true)
    (edit : Brace.curly.edit code d = .ok after) :
    ∃ head gap body rest opening closing, Unbraced code head gap body rest ∧
      after = head ++ (opening ++ (body ++ (closing ++ rest))) ∧
      without isBlank opening = ['{'] ∧ without isBlank closing = ['}'] := by
  simp only [Brace.curly] at edit
  split at edit
  · cases edit
  next b found =>
  split_ifs at edit with semicolon nested empty
  · cases edit
  · cases edit
  · cases edit
  cases edit
  have unbraced := unbraced_of_bare? there found rfl (mt List.isEmpty_iff.mpr empty)
  generalize trimRight (slice code b.bodyStart (statementEnd (mask code) b.bodyStart)) = body
    at unbraced ⊢
  generalize leading : leadingBlanks _ = indent
  have blank : without isBlank indent = [] := by
    rw [without_eq_nil_iff, ← leading]
    exact isBlank_of_mem_leadingBlanks
  have blank' : without isBlank (Whitespace.indentUnit code) = [] :=
    without_eq_nil_iff.mpr fun c hc => isBlank_of_isSpaceOrTab (isSpaceOrTab_of_mem_indentUnit c hc)
  refine ⟨_, _, body, _, [' ', '{', '\n'] ++ (indent ++ Whitespace.indentUnit code),
    ['\n'] ++ indent ++ ['}'], unbraced, ?_, ?_, ?_⟩
  · rw [splice]
    simp only [List.append_assoc]
  · rw [without_append, without_append, blank, blank']
    rfl
  · rw [without_append, without_append, blank]
    rfl

/-- **Nothing but the gap is lost.** The built-in fixer of `curly` puts the statement behind
the head of a control statement into braces. What stands between the two is dropped: with the
blanks left out, one brace is inserted behind the head and one behind the body just if there
is no comment and no regular expression there. -/
theorem braced_of_fix {accepts : Acceptor} {o : Options} {f : Fixer} {r : FixResult}
    (builtin : builtin? accepts o "curly" = some f) (fix : f.fix code d = .ok r)
    (success : r.isSuccess = true) :
    ∃ head gap body rest opening closing, Unbraced code head gap body rest ∧
      r.code = head ++ (opening ++ (body ++ (closing ++ rest))) ∧
      without isBlank opening = ['{'] ∧ without isBlank closing = ['}'] ∧
      (∀ i, head.length ≤ i → i < (head ++ gap).length →
        Idle code i ∨ (kinds code)[i]? = some .regex) ∧
      (without isBlank r.code = without isBlank head ++
          '{' :: (without isBlank (gap ++ body) ++ '}' :: without isBlank rest) ↔
        ∀ i, head.length ≤ i → i < (head ++ gap).length → (kinds code)[i]? = some .code) := by
  cases builtin
  obtain ⟨takesOn, edit, -⟩ := edit_of_fixer fix success
  obtain ⟨head, gap, body, rest, opening, closing, unbraced, shape, opens, closes⟩ :=
    exists_of_curly (line?_isSome_of_canFix takesOn) edit
  have inCode := unbraced.headEnds.inCode
  refine ⟨head, gap, body, rest, opening, closing, unbraced, shape, opens, closes,
    fun i low high => idle_or_regex_of_mask inCode unbraced.between low high, ?_⟩
  have blank := forall_mem_iff_between (p := isBlank) head gap (body ++ rest)
  rw [← unbraced.eq] at blank
  rw [kinds_eq_code_iff inCode unbraced.between, ← blank, ← without_eq_nil_iff, shape]
  simp only [without_append, opens, closes, List.append_assoc, List.singleton_append,
    List.append_cancel_left_eq, List.cons.injEq, true_and]
  rw [← List.append_assoc, List.append_cancel_right_eq, List.self_eq_append_left]

/-- A condition at the start of a text. -/
def bareCondition : Diagnostic :=
  { rule := some "curly", message := "Expected \x7b after \x27if\x27 condition.", line := 1,
    column := 1 }

theorem braced_of_fix_comment :
    let code := "if (a)\n  b(); // c".toList
    ∃ f r, builtin? Grammar.accepts {} "curly" = some f ∧ f.fix code bareCondition = .ok r ∧
      r.isSuccess = true ∧ r.code = "if (a) \x7b\n  b();\n\x7d // c".toList ∧
      ∃ head gap body rest opening closing, Unbraced code head gap body rest ∧
        r.code = head ++ (opening ++ (body ++ (closing ++ rest))) ∧
        without isBlank opening = ['{'] ∧ without isBlank closing = ['}'] ∧
        (∀ i, head.length ≤ i → i < (head ++ gap).length →
          Idle code i ∨ (kinds code)[i]? = some .regex) ∧
        (without isBlank r.code = without isBlank head ++
            '{' :: (without isBlank (gap ++ body) ++ '}' :: without isBlank rest) ↔
          ∀ i, head.length ≤ i → i < (head ++ gap).length → (kinds code)[i]? = some .code) := by
  intro code
  let f := complex Grammar.accepts "CurlyFixer" "curly"
    "Add braces around control statement bodies" Brace.curly
  have builtin : builtin? Grammar.accepts {} "curly" = some f := rfl
  have fix : f.fix code bareCondition = .ok { code := "if (a) \x7b\n  b();\n\x7d // c".toList } := by
    decide +kernel
  exact ⟨f, _, builtin, fix, rfl, rfl, braced_of_fix builtin fix rfl⟩

/-- A comment between a head and its body. -/
theorem braced_of_fix_not : ¬ ∀ (code : Text) (d : Diagnostic) (f : Fixer) (r : FixResult),
    builtin? Grammar.accepts {} "curly" = some f → f.fix code d = .ok r → r.isSuccess = true →
      ∃ head body rest, without isBlank code = head ++ (body ++ rest) ∧
        without isBlank r.code = head ++ '{' :: (body ++ '}' :: rest) := by
  intro always
  obtain ⟨head, body, rest, before, after⟩ := always "if (a) /* c */ b();".toList bareCondition _
    { code := "if (a) \x7b\n  b();\n\x7d".toList } rfl (by decide +kernel) rfl
  have long := congrArg List.length before
  have long' := congrArg List.length after
  simp only [List.length_append, List.length_cons] at long long'
  have lengths : (without isBlank "if (a) /* c */ b();".toList).length = 14 ∧
      (without isBlank "if (a) \x7b\n  b();\n\x7d".toList).length = 11 := by decide
  omega

end LintRepair.Rules
