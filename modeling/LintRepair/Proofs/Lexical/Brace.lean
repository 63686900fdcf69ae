/-
Braces that are not masked, and template text.

* `inCode_of_opening`: behind an opening brace the scanner is in code and in no word;
* `inCode_of_closing`: behind a closing one it is as well, or in the template whose
  interpolation the brace closes;
* `tick_or_of_template`: template text does not end unseen.
-/
import LintRepair.Proofs.Lexical.Literal

namespace LintRepair.Lexical

open Text

/-! ### Braces -/

namespace State

variable {st : State} {c : Char} {next : Option Char}

lemma InCode.plain (h : st.InCode) (c : Char) : (st.plain c).InCode where
  mode := by simpa [State.plain] using h.mode
  alone := by simpa [State.plain] using h.alone

/-- An opening brace in code. -/
lemma InCode.step_openingBrace (h : st.InCode) : st.step '{' next = (.code, st.plain '{') := by
  rw [h.step_eq, stepCode_eq]
  rfl

/-- A closing brace in code closes an interpolation, or is read as plain code. -/
lemma InCode.step_closingBrace (h : st.InCode) (next : Option Char) :
    (st.step '}' next).2.mode = .template ∨ st.step '}' next = (.code, st.plain '}') := by
  rw [h.step_eq, stepCode_eq]
  by_cases last : st.interpolations.head? = some 0
  · left
    simp [last]
  · right
    simp [last]

/-- What is not a character of a word ends it. -/
lemma inWord_plain (other : isName c = false) : (st.plain c).inWord = false := by
  have noWord : (isAlnum c || c == '_' || c == '$') = false := other
  simp only [State.plain, codeChar, noWord, Bool.false_eq_true, if_false]
  split_ifs <;> rfl

/-- The dollar sign before an interpolation ends the word. -/
lemma inWord_of_joined (joined : (st.step c next).2.joined = some .code) :
    (st.step c next).2.inWord = false := by
  cases alone : st.joined with
  | some kind => simp [step, alone] at joined
  | none =>
    cases inside : st.mode with
    | code =>
        rw [InCode.step_eq ⟨inside, alone⟩, stepCode_eq] at joined
        split_ifs at joined <;> simp [State.plain, alone] at joined
    | lineComment | blockComment =>
        simp only [step, alone, inside] at joined
        split_ifs at joined <;> simp [alone] at joined
    | string quote =>
        simp only [step, alone, inside, stepString] at joined
        split_ifs at joined <;> simp [alone] at joined
    | regex inClass =>
        simp only [step, alone, inside, stepRegex] at joined
        split_ifs at joined <;> simp [alone] at joined
    | template =>
        simp only [step, alone, inside, stepTemplate] at joined ⊢
        split_ifs at joined ⊢ <;> simp [alone] at joined ⊢

end State

section Brace

variable {t : Text} {i : Nat} {kind : Kind}

/-- A brace that is not masked is code. -/
lemma code_of_brace {c : Char} (stands : t[i]? = some c) (brace : c = '{' ∨ c = '}')
    (read : (kinds t)[i]? = some kind) (kept : kind.isKept = true) :
    ((stateAt t i).step c t[i + 1]?).1 = .code := by
  rw [getElem?_kinds, stands, Option.map_some, Option.some_inj] at read
  cases kind with
  | code => exact read
  | delimiter =>
      have quoted := State.quoted_of_delimiter (tidy_stateAt t i) (consistent_stateAt t i) read
      rcases brace with rfl | rfl <;> exact absurd quoted (by decide)
  | string | comment | regex | template => cases kept

/-- Behind an opening brace that is not masked, the scanner is in code and in no word. -/
lemma inCode_of_opening (stands : t[i]? = some '{') (read : (kinds t)[i]? = some kind)
    (kept : kind.isKept = true) :
    (stateAt t (i + 1)).InCode ∧ (stateAt t (i + 1)).inWord = false := by
  have code := code_of_brace stands (.inl rfl) read kept
  rw [stateAt_succ stands]
  rcases State.inCode_or_of_code code with inCode | joined | dollar | feed
  · rw [inCode.step_openingBrace]
    exact ⟨inCode.plain '{', State.inWord_plain (by decide)⟩
  · have apart : (stateAt t i).inWord = false := by
      cases i with
      | zero => rw [stateAt_zero]
      | succ j =>
          have within : j + 1 < t.length := (List.getElem?_eq_some_iff.mp stands).1
          have before : t[j]? = some t[j] := List.getElem?_eq_getElem (Nat.lt_of_succ_lt within)
          rw [stateAt_succ before] at joined ⊢
          exact State.inWord_of_joined joined
    have mode : (stateAt t i).mode = .code := (consistent_stateAt t i).joined .code joined
    simp only [State.step, joined]
    exact ⟨⟨mode, rfl⟩, apart⟩
  · cases dollar
  · cases feed

/-- A closing brace that is not masked stands in code. Behind it the scanner is in code
and in no word, or in the template whose interpolation it closes. -/
lemma inCode_of_closing (stands : t[i]? = some '}') (read : (kinds t)[i]? = some kind)
    (kept : kind.isKept = true) : (stateAt t i).InCode ∧
      ((stateAt t (i + 1)).mode = .template ∨
        (stateAt t (i + 1)).InCode ∧ (stateAt t (i + 1)).inWord = false) := by
  have code := code_of_brace stands (.inr rfl) read kept
  have inCode : (stateAt t i).InCode := by
    rcases State.inCode_or_of_code code with inCode | joined | dollar | feed
    · exact inCode
    · have brace := brace_of_joined joined (List.getElem?_eq_some_iff.mp stands).1
      rw [stands] at brace
      cases brace
    · cases dollar
    · cases feed
  refine ⟨inCode, ?_⟩
  rw [stateAt_succ stands]
  rcases inCode.step_closingBrace t[i + 1]? with closes | plain
  · exact .inl closes
  · rw [plain]
    exact .inr ⟨inCode.plain '}', State.inWord_plain (by decide)⟩

end Brace

/-! ### Template text -/

/-- In template text only a tick and a dollar sign are not masked. -/
lemma State.template_or {st : State} (consistent : st.Consistent) (inside : st.mode = .template)
    (c : Char) (next : Option Char) :
    ((st.step c next).1 = .template ∧ (st.step c next).2.mode = .template) ∨
      ((st.step c next).1.isKept = true ∧ (c = '\x60' ∨ c = '$')) := by
  cases joined : st.joined with
  | some kind =>
      have goes := consistent.joined kind joined
      rw [inside] at goes
      have text : kind = .template := by
        cases kind <;> simp [Kind.GoesWith] at goes ⊢
      simp only [step, joined, text]
      exact .inl ⟨trivial, inside⟩
  | none =>
      simp only [step, joined, inside, stepTemplate]
      split_ifs <;> simp_all [Kind.isKept]

/-- A character of a masked text that is blank in the text is blank. -/
lemma isBlank_mask {t : Text} {i : Nat} {c b : Char} (stands : t[i]? = some c)
    (blank : isBlank c = true) (masked : (mask t)[i]? = some b) : isBlank b = true := by
  rcases mask_eq_or t i with same | filled
  · rw [masked, stands, Option.some_inj] at same
    rw [same, blank]
  · rw [masked, Option.some_inj] at filled
    rw [filled]
    rfl

/-- Where template text is followed by masked blanks, another character that is not
masked is a tick or a dollar sign. -/
lemma tick_or_of_template {t : Text} {i n : Nat} (inside : (stateAt t i).mode = .template)
    (blank : ∀ j, i ≤ j → j < i + n → ∀ c ∈ (mask t)[j]?, isBlank c = true) {c : Char} {kind : Kind}
    (stands : t[i + n]? = some c) (read : (kinds t)[i + n]? = some kind)
    (kept : kind.isKept = true) : c = '\x60' ∨ c = '$' := by
  have within : i + n < t.length := (List.getElem?_eq_some_iff.mp stands).1
  have stays : ∀ m ≤ n, (stateAt t (i + m)).mode = .template := by
    intro m
    induction m with
    | zero => exact fun _ => inside
    | succ m ih =>
        intro before
        obtain ⟨b, here⟩ : ∃ b, t[i + m]? = some b := ⟨_, List.getElem?_eq_getElem (by omega)⟩
        rw [← Nat.add_assoc, stateAt_succ here]
        rcases State.template_or (consistent_stateAt t (i + m)) (ih (by omega)) b t[i + m + 1]? with ⟨-, stays⟩ | ⟨kept, solid⟩
        · exact stays
        · have masked : (mask t)[i + m]? = some b := by
            rw [getElem?_mask, here, Option.map_some, Kind.masked_of_isKept kept]
          have blank := blank (i + m) (by omega) (by omega) b masked
          rcases solid with rfl | rfl <;> exact absurd blank (by decide)
  rw [getElem?_kinds, stands, Option.map_some, Option.some_inj] at read
  rcases State.template_or (consistent_stateAt t (i + n)) (stays n (Nat.le_refl n)) c
    t[i + n + 1]? with ⟨text, -⟩ | ⟨-, solid⟩
  · rw [read] at text
    rw [text] at kept
    cases kept
  · exact solid

end LintRepair.Lexical
