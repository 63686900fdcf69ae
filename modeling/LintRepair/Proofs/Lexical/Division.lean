/-
Slashes behind operands.

* `PartOfName`: a word that is a property, or the end of a longer name;
* `EndsOperand`: the characters with which an operand ends;
* `Misread`: those behind which the scanner expects another operand all the same;
* `kind_slash`: behind every other one a slash divides, and code goes on behind it.
-/
import LintRepair.Grammar.Token
import LintRepair.Proofs.Lexical.Paren
import LintRepair.Proofs.Lexical.Token

namespace LintRepair.Lexical

open Text Code Grammar

section Operand

variable {t : Text} {b i o p q : Nat} {c : Char}

/-! ### Operands -/

/-- The dot of a member access. It is no part of a spread, nor does it stand behind the
digits of a number that no dot stands before. -/
def MemberDot (t : Text) (d : Nat) : Prop :=
  CodeAt t d '.' ∧ ¬ ['.', '.', '.'] <:+ t.take (d + 1) ∧
    ∀ b q, WordAt t b q → q + 1 = d →
      (∃ c ∈ slice t b d, isAsciiDigit c = false ∧ c ≠ '_') ∨
        ['.'] <:+ t.take b ∧ ¬ ['.', '.', '.'] <:+ t.take b

/-- An escape ends before an offset. -/
def EscapeBefore (t : Text) (i : Nat) : Prop :=
  ∃ before escape c, t.take i = before ++ '\\' :: 'u' :: escape ∧
    unicodeEscape escape = some (c, [])

/-- The word that starts at an offset goes on a name: a number sign stands before it, or
a mark, which is no letter to the scanner, or an escape. -/
def Prolongs (t : Text) (b : Nat) : Prop :=
  endsIn (fun c => c == '#' || isIdentifierPart c) (t.take b) = true ∨ EscapeBefore t b

/-- The word that starts at an offset is a property, or the end of a longer name, and no
keyword however it is spelled. -/
def PartOfName (t : Text) (b : Nat) : Prop :=
  (∃ d, MemberDot t d ∧ Behind t d b) ∨ Prolongs t b

/-- The parenthesis at an offset is that of the head of a control statement. -/
def HeadAt (t : Text) (o : Nat) : Prop :=
  ∃ b q, WordAt t b q ∧ slice t b (q + 1) ∈ controlHeads ∧ ¬ PartOfName t b ∧ Behind t q o

/-- An operand ends with the character at an offset. -/
inductive EndsOperand (t : Text) : Nat → Prop
  /-- An identifier, a number, or a property however it is spelled. -/
  | word {b p : Nat} (word : WordAt t b p)
      (noKeyword : slice t b (p + 1) ∉ operandKeywords ∨ PartOfName t b) : EndsOperand t p
  /-- An identifier that ends with a mark or an escape, a number that ends with its point,
  or a bracket. -/
  | sign {p : Nat} {c : Char} (stands : CodeAt t p c)
      (sign : c = ']' ∨ c = '.' ∨ c = '}' ∧ EscapeBefore t (p + 1) ∨
        isIdentifierPart c = true ∧ isName c = false)
      (inside : (stateAt t (p + 1)).mode = .code) : EndsOperand t p
  /-- A string, a template or a regular expression. -/
  | literal {p : Nat} (ends : EndsLiteral t p) : EndsOperand t p
  /-- A parenthesis that does not close the head of a control statement. -/
  | paren {p : Nat} (closing : CodeAt t p ')')
      (noHead : ∀ o, CodeAt t o '(' → findMatching (mask t) o = some p → ¬ HeadAt t o) :
      EndsOperand t p
  /-- Two plus or two minus signs in the same line behind such an operand. -/
  | update {q p : Nat} {c : Char} (operand : EndsOperand t q) (behind : Behind t q p)
      (sameLine : ∀ m, q < m → m < p → t[m]?.any isLineEnd = false)
      (sign : c = '+' ∨ c = '-') (first : CodeAt t p c) (second : CodeAt t (p + 1) c) :
      EndsOperand t (p + 1)
  /-- A zero-width space behind such an operand, which is no blank to the scanner. -/
  | space {q p : Nat} (operand : EndsOperand t q) (behind : Behind t q p)
      (stands : CodeAt t p '\ufeff') : EndsOperand t p

/-- Behind this character the scanner expects an operand, though one may have ended
there. -/
inductive Misread (t : Text) : Nat → Prop
  /-- A property or the end of a longer name is spelled like a keyword, or a word that
  the scanner takes for the rest of another one makes a keyword with it. -/
  | word {b p : Nat} (word : WordAt t b p) (keyword : heard t b p ∈ operandKeywords)
      (wrong : PartOfName t b ∨ GoesOn t b) : Misread t p
  /-- A plus or a minus sign. -/
  | update {p : Nat} {c : Char} (sign : c = '+' ∨ c = '-') (stands : CodeAt t p c) : Misread t p
  /-- A parenthesis closes what the scanner takes for the head of a control statement:
  what it has in mind is a property or the end of a longer name, or was heard with
  another word, or stands before the end of an interpolation. -/
  | paren {b q o p : Nat} (opening : CodeAt t o '(') (found : findMatching (mask t) o = some p)
      (mind : InMind t b q o) (head : heard t b q ∈ controlHeads)
      (wrong : PartOfName t b ∨ GoesOn t b ∨ ¬ Behind t q o) : Misread t p

/-! ### What the scanner makes of them -/

/-- A word that it starts anew it hears as it stands. -/
lemma heard_eq (w : WordAt t b p) (anew : ¬ GoesOn t b) : heard t b p = slice t b (p + 1) := by
  have first := w.names b (Nat.le_refl b) w.le
  have fresh : (stateAt t b).inWord = false := by
    rw [Bool.eq_false_iff]
    exact fun inWord => anew ⟨first, inWord⟩
  rw [heard, State.spelled, fresh]
  rfl

/-- A word has one start. -/
lemma WordAt.start_eq {b' : Nat} (w : WordAt t b p) (w' : WordAt t b' p) : b = b' := by
  have le : ∀ {b b' : Nat}, WordAt t b p → WordAt t b' p → b ≤ b' := by
    intro b b' w w'
    by_contra later
    obtain ⟨k, rfl⟩ : ∃ k, b = k + 1 := ⟨b - 1, by omega⟩
    have inside := w.le
    exact w.starts k rfl (w'.names k (by omega) (by omega))
  exact Nat.le_antisymm (le w w') (le w' w)

/-- What is misread is a character of a word, a sign of an update, or a parenthesis. -/
lemma Misread.codeAt (h : Misread t p) :
    ∃ c, CodeAt t p c ∧ (isName c = true ∨ c = '+' ∨ c = '-' ∨ c = ')') := by
  cases h with
  | word word keyword wrong =>
      obtain ⟨inCode, name⟩ := word.names p word.le (Nat.le_refl p)
      obtain ⟨c, stands, name⟩ := (Option.any_eq_true _ _).mp name
      exact ⟨c, ⟨inCode, stands⟩, .inl name⟩
  | update sign stands =>
      rcases sign with rfl | rfl
      · exact ⟨_, stands, .inr (.inl rfl)⟩
      · exact ⟨_, stands, .inr (.inr (.inl rfl))⟩
  | paren opening found mind head wrong =>
      exact ⟨')', (parens_of_findMatching opening found).1, .inr (.inr (.inr rfl))⟩

lemma CodeAt.eq {d : Char} (h : CodeAt t p c) (h' : CodeAt t p d) : c = d :=
  Option.some.inj (h.2.symm.trans h'.2)

/-- Such a character is code. -/
lemma Misread.kind (h : Misread t p) : (kinds t)[p]? = some .code := by
  obtain ⟨c, ⟨inCode, stands⟩, sign⟩ := h.codeAt
  rw [getElem?_kinds, stands, Option.map_some]
  rcases sign with name | rfl | rfl | rfl
  · rw [inCode.step_name name]
  · rw [inCode.step_plain (by decide)]
  · rw [inCode.step_plain (by decide)]
  · rw [inCode.step_closing]

/-- Behind a sign of code it depends on the sign whether an operand follows. -/
lemma CodeAt.read_sign (stands : CodeAt t p c)
    (other : c ∉ ['/', '\x27', '\x22', '\x60', '(', ')']) (noName : isName c = false)
    (solid : isBlank c = false) (inside : (stateAt t (p + 1)).mode = .code) :
    (stateAt t (p + 1)).InCode ∧ (stateAt t (p + 1)).regexAllowed = precedesRegex c := by
  obtain ⟨inCode, stands⟩ := stands
  simp only [List.mem_cons, List.not_mem_nil, or_false, not_or] at other
  obtain ⟨slash, single, double, tick, opening, closing⟩ := other
  have noWord : (isAlnum c || c == '_' || c == '$') = false := noName
  have found := inCode.step_eq.trans ((stateAt t p).stepCode_eq c t[p + 1]?)
  simp only [slash, single, double, tick, false_and, or_self, if_false] at found
  rw [stateAt_succ stands] at inside ⊢
  split_ifs at found
  · rw [found] at inside
    cases inside
  · rw [found]
    refine ⟨⟨?_, ?_⟩, ?_⟩
    · rw [State.plain, State.mode_codeChar, inCode.mode]
    · rw [State.plain, State.joined_codeChar, inCode.alone]
    · simp [State.plain, State.codeChar, noWord, solid, opening, closing]

/-- A sign that opens and closes nothing leads back to code. -/
lemma CodeAt.mode_succ (stands : CodeAt t p c)
    (other : c ∉ ['/', '\x27', '\x22', '\x60', '{', '}']) : (stateAt t (p + 1)).mode = .code := by
  rw [stateAt_succ stands.2, stands.1.step_plain other, State.mode_codeChar, stands.1.mode]

/-- Behind a sign that no operand follows the scanner expects none. -/
lemma CodeAt.read_end (stands : CodeAt t p c)
    (other : c ∉ ['/', '\x27', '\x22', '\x60', '(', ')']) (noName : isName c = false)
    (solid : isBlank c = false) (last : precedesRegex c = false)
    (inside : (stateAt t (p + 1)).mode = .code) :
    (stateAt t (p + 1)).InCode ∧ ((stateAt t (p + 1)).regexAllowed = true ↔ Misread t p) := by
  obtain ⟨inCode, allowed⟩ := stands.read_sign other noName solid inside
  rw [allowed, last]
  refine ⟨inCode, by simp, fun misread => ?_⟩
  obtain ⟨d, stands', sign⟩ := misread.codeAt
  obtain rfl := stands.eq stands'
  rcases sign with name | rfl | rfl | rfl
  · rw [noName] at name
    cases name
  · exact absurd last (by decide)
  · exact absurd last (by decide)
  · exact absurd other (by decide)

/-- A zero-width space is no character of a word. -/
lemma isName_zeroWidth : isName '\ufeff' = false := by
  simp only [isName, isWord, isAlnum, decimalValue?, Ranges.within, ← Array.any_toList,
    ← Array.find?_toList]
  decide +kernel

/-- What an identifier goes on with is no blank. -/
lemma solid_of_mark (part : isIdentifierPart c = true) : isBlank c = false := by
  have none : ∀ n ∈ blankCodes, isIdentifierPart (Char.ofNat n) = false := by
    simp only [isIdentifierPart, isIdentifierStart, isName, isWord, isAlnum, decimalValue?,
      Ranges.within, ← Array.any_toList, ← Array.find?_toList]
    decide +kernel
  by_contra blank
  have code := toNat_mem_blankCodes (by simpa using blank)
  rw [← Char.ofNat_toNat c, none _ code] at part
  cases part

/-- Nor is it a sign. -/
lemma ne_of_mark (part : isIdentifierPart c = true) :
    c ∉ ['/', '\x27', '\x22', '\x60', '(', ')'] ∧ precedesRegex c = false := by
  constructor
  · have signs : ['/', '\x27', '\x22', '\x60', '(', ')'].any isIdentifierPart = false := by decide
    exact fun sign => List.any_eq_false.mp signs c sign part
  · have signs : ['(', '[', '{', ',', ';', ':', '!', '&', '|', '?', '+', '-', '*', '/', '%', '=',
        '<', '>', '^', '~'].any isIdentifierPart = false := by decide
    exact decide_eq_false fun sign => List.any_eq_false.mp signs c sign part

/-- Behind a word the scanner expects an operand if it hears a keyword. -/
lemma WordAt.misread_iff (word : WordAt t b p)
    (noKeyword : slice t b (p + 1) ∉ operandKeywords ∨ PartOfName t b) :
    heard t b p ∈ operandKeywords ↔ Misread t p := by
  constructor
  · intro keyword
    refine .word word keyword ?_
    by_contra none
    rw [not_or] at none
    rw [heard_eq word none.2] at keyword
    exact noKeyword.elim (· keyword) none.1
  · intro misread
    obtain ⟨-, name⟩ := word.names p word.le (Nat.le_refl p)
    cases misread with
    | word word' keyword wrong =>
        obtain rfl := word.start_eq word'
        exact keyword
    | update sign stands =>
        rw [stands.2, Option.any_some] at name
        rcases sign with rfl | rfl <;> exact absurd name (by decide)
    | paren opening found mind head wrong =>
        rw [(parens_of_findMatching opening found).1.2, Option.any_some] at name
        exact absurd name (by decide)

/-- A parenthesis that closes no head closes one for the scanner just where it has
something else in mind. -/
lemma misread_paren_iff (closing : CodeAt t p ')')
    (noHead : ∀ o, CodeAt t o '(' → findMatching (mask t) o = some p → ¬ HeadAt t o) :
    (stateAt t p).parens.headD false = true ↔ Misread t p := by
  constructor
  · intro expected
    obtain ⟨o, opening, found⟩ := exists_findMatching closing (by
      rintro none
      rw [none] at expected
      cases expected)
    rw [(parens_of_findMatching opening found).2, List.headD_cons] at expected
    have within : o ≤ t.length := Nat.le_of_lt (List.getElem?_eq_some_iff.mp opening.2).1
    obtain ⟨b, q, mind, head⟩ := (expectsHead_iff within).mp expected
    refine .paren opening found mind head ?_
    by_contra none
    simp only [not_or, not_not] at none
    obtain ⟨noPart, anew, behind⟩ := none
    rw [heard_eq mind.word anew] at head
    exact noHead o opening found ⟨b, q, mind.word, head, noPart, behind⟩
  · intro misread
    cases misread with
    | word word keyword wrong =>
        obtain ⟨-, name⟩ := word.names p word.le (Nat.le_refl p)
        rw [closing.2, Option.any_some] at name
        exact absurd name (by decide)
    | update sign stands =>
        obtain rfl := closing.eq stands
        exact absurd sign (by decide)
    | paren opening found mind head wrong =>
        have within := Nat.le_of_lt (List.getElem?_eq_some_iff.mp opening.2).1
        rw [(parens_of_findMatching opening found).2, List.headD_cons]
        exact (expectsHead_iff within).mpr ⟨_, _, mind, head⟩

/-- **Behind an operand** the scanner is in code, and takes a slash for the start of a
regular expression just where it misreads the operand. -/
lemma EndsOperand.state (h : EndsOperand t p) :
    (stateAt t (p + 1)).InCode ∧ ((stateAt t (p + 1)).regexAllowed = true ↔ Misread t p) := by
  cases h with
  | word word noKeyword =>
      obtain ⟨inCode, -, -, allowed⟩ := word.state
      refine ⟨inCode, ?_⟩
      rw [allowed, List.contains_iff_mem]
      exact word.misread_iff noKeyword
  | @sign _ c stands sign inside =>
      have facts : c ∉ ['/', '\x27', '\x22', '\x60', '(', ')'] ∧ isName c = false ∧
          isBlank c = false ∧ precedesRegex c = false := by
        rcases sign with rfl | rfl | ⟨rfl, -⟩ | ⟨part, noName⟩
        · decide
        · decide
        · decide
        · exact ⟨(ne_of_mark part).1, noName, solid_of_mark part, (ne_of_mark part).2⟩
      obtain ⟨other, noName, solid, last⟩ := facts
      exact stands.read_end other noName solid last inside
  | literal ends =>
      obtain ⟨kind, inside⟩ := ends
      have within : p < t.length := by
        rcases kind with kind | kind <;> simpa using (List.getElem?_eq_some_iff.mp kind).1
      have stands : t[p]? = some t[p] := List.getElem?_eq_getElem within
      have silent : ¬ Misread t p := fun misread => by
        rw [misread.kind] at kind
        exact absurd kind (by decide)
      rw [getElem?_kinds, stands, Option.map_some, Option.some_inj, Option.some_inj] at kind
      rw [stateAt_succ stands] at inside ⊢
      obtain ⟨inCode, divides⟩ := State.inCode_of_ends (consistent_stateAt t p) kind inside
      exact ⟨inCode, by simp [divides, silent]⟩
  | paren closing noHead =>
      obtain ⟨inCode, stands⟩ := closing
      rw [stateAt_succ stands, inCode.step_closing]
      exact ⟨⟨inCode.mode, inCode.alone⟩, misread_paren_iff ⟨inCode, stands⟩ noHead⟩
  | @update _ p c operand behind sameLine sign first second =>
      have inside := second.mode_succ (by rcases sign with rfl | rfl <;> decide)
      obtain ⟨inCode, allowed⟩ := second.read_sign (by rcases sign with rfl | rfl <;> decide)
        (by rcases sign with rfl | rfl <;> decide) (by rcases sign with rfl | rfl <;> decide) inside
      have expected : precedesRegex c = true := by rcases sign with rfl | rfl <;> decide
      rw [allowed, expected]
      exact ⟨inCode, fun _ => .update sign second, fun _ => rfl⟩
  | space operand behind stands =>
      exact stands.read_end (by decide) isName_zeroWidth (by decide) (by decide)
        (stands.mode_succ (by decide))

/-- **Slashes behind operands.** A slash behind an operand, with nothing but blanks and
comments between, is no part of a comment: it divides, and the scanner goes on in code
behind it, unless the operand is misread; behind one that is, the slash opens a regular
expression. -/
theorem kind_slash (ends : EndsOperand t p) (behind : Behind t p i) (slash : t[i]? = some '/')
    (other : (kinds t)[i]? ≠ some .comment) :
    (¬ Misread t p → (kinds t)[i]? = some .code ∧ (stateAt t (i + 1)).InCode) ∧
      (Misread t p → (kinds t)[i]? = some .regex) := by
  obtain ⟨inCode, misread⟩ := ends.state
  obtain ⟨between, allowed⟩ := behind.state inCode
  rw [getElem?_kinds, slash, Option.map_some] at other ⊢
  obtain ⟨opens, divides⟩ := between.step_slash (fun same => other (congrArg some same))
  rw [allowed] at opens divides
  constructor
  · intro read
    obtain ⟨kind, inCode'⟩ := divides (Bool.eq_false_iff.mpr (mt misread.mp read))
    rw [stateAt_succ slash]
    exact ⟨congrArg some kind, inCode'⟩
  · intro read
    exact congrArg some (opens (misread.mpr read))

/-- A division behind a call in the head of a loop, with a comment before it. -/
theorem kind_slash_call :
    let t : Text := "while (f(a) /*b*/ / 2)".toList
    EndsOperand t 10 ∧ Behind t 10 18 ∧ ¬ Misread t 10 ∧
      (kinds t)[18]? = some .code ∧ (stateAt t 19).InCode := by
  intro t
  have ends : EndsOperand t 10 := by
    refine .paren (by decide) fun o opening found => ?_
    have within : o < 22 := (List.getElem?_eq_some_iff.mp opening.2).1
    have partner : ∀ o < 22, CodeAt t o '(' → findMatching (mask t) o = some 10 → o = 8 := by
      decide
    obtain rfl := partner o within opening found
    rintro ⟨b, q, word, head, -, before, idle⟩
    -- The name of the call is the only word right before its parenthesis.
    obtain rfl : q = 7 := by
      by_contra other
      exact absurd (idle 7 (by decide) (by omega)) (by decide)
    have called : ∀ b ≤ 7, slice t b 8 ∉ controlHeads := by decide
    exact called b word.le head
  have behind : Behind t 10 18 := by decide
  have read : ¬ Misread t 10 := ends.state.2.not.mp (by decide)
  exact ⟨ends, behind, read, (kind_slash ends behind (by decide) (by decide)).1 read⟩

/-- A property that is spelled like a keyword: a slash behind it is taken for the start
of a regular expression. -/
theorem kind_slash_property : ¬ ∀ (t : Text) (p i : Nat), EndsOperand t p → Behind t p i →
    t[i]? = some '/' → (kinds t)[i]? ≠ some .comment → (kinds t)[i]? = some .code := by
  intro always
  have word : WordAt "a.in/b/c".toList 2 3 := by
    refine ⟨by decide, fun m low high => ?_, fun m first => ?_⟩
    · have names : ∀ m < 4, 2 ≤ m → NameAt "a.in/b/c".toList m := by decide
      exact names m (by omega) low
    · obtain rfl : m = 1 := by omega
      decide
  have dot : MemberDot "a.in/b/c".toList 1 := by
    refine ⟨by decide, by decide, fun b q word behind => .inl ⟨'a', ?_, by decide⟩⟩
    obtain rfl : q = 0 := by omega
    obtain rfl : b = 0 := Nat.le_zero.mp word.le
    decide
  have ends : EndsOperand "a.in/b/c".toList 3 := .word word (.inr (.inl ⟨1, dot, by decide⟩))
  exact absurd (always _ 3 4 ends (by decide) (by decide) (by decide)) (by decide)

end Operand

end LintRepair.Lexical
