/-
Literals, and what masking leaves of them.

* `State.Tidy`: what the scanner has in mind inside of a literal;
* `EndsRegex`, `EndsLiteral`: a literal ends, and behind it a slash divides;
* `Kind.masked`: what stands for a character in the masked text;
* `kept_of_mask`, `codeAt_of_mask`: what is not blank in the masked text.
-/
import LintRepair.Lexical.Scan
import LintRepair.Proofs.Lexical.Word

namespace LintRepair.Lexical

open Text

/-! ### Inside of literals -/

namespace State

variable {st : State} {c : Char} {next : Option Char}

/-- Strings have one of the two quotes. Inside of one and inside of a regular expression
no word is the last thing read, and a slash would open a regular expression inside of
one, as it would where an interpolation starts. -/
structure Tidy (st : State) : Prop where
  quote : ∀ q, st.mode = .string q → q = '\x27' ∨ q = '\x22'
  string : ∀ q, st.mode = .string q → st.afterWord = false
  regex : ∀ inClass, st.mode = .regex inClass → st.afterWord = false ∧ st.regexAllowed = true
  interpolation : st.joined = some .code → st.regexAllowed = true

/-- Every character leads from a tidy state to a tidy one. -/
lemma Tidy.step (h : st.Tidy) (c : Char) (next : Option Char) : (st.step c next).2.Tidy := by
  obtain ⟨quote, string, regex, interpolation⟩ := h
  cases alone : st.joined with
  | some kind =>
      simp only [State.step, alone]
      exact ⟨quote, string, regex, by simp⟩
  | none =>
    cases inside : st.mode with
    | code =>
        rw [InCode.step_eq ⟨inside, alone⟩, stepCode_eq]
        split_ifs
        all_goals refine ⟨?_, ?_, ?_, ?_⟩ <;> simp_all [plain]
    | lineComment | blockComment =>
        simp only [State.step, alone, inside]
        split_ifs <;> refine ⟨?_, ?_, ?_, ?_⟩ <;> simp [alone, inside]
    | string q =>
        simp only [State.step, alone, inside, stepString]
        split_ifs <;> refine ⟨?_, ?_, ?_, ?_⟩ <;> simp_all
    | regex inClass =>
        simp only [State.step, alone, inside, stepRegex]
        split_ifs <;> refine ⟨?_, ?_, ?_, ?_⟩ <;> simp_all
    | template =>
        simp only [State.step, alone, inside, stepTemplate]
        split_ifs <;> refine ⟨?_, ?_, ?_, ?_⟩ <;> simp_all

/-- Delimiters are quotes and ticks. -/
lemma quoted_of_delimiter (tidy : st.Tidy) (consistent : st.Consistent)
    (delimiter : (st.step c next).1 = .delimiter) : c = '\x27' ∨ c = '\x22' ∨ c = '\x60' := by
  cases joined : st.joined with
  | some kind =>
      simp only [State.step, joined] at delimiter
      exact (delimiter ▸ consistent.joined kind joined : Kind.delimiter.GoesWith st.mode).elim
  | none =>
    cases inside : st.mode with
    | code =>
        rw [InCode.step_eq ⟨inside, joined⟩, stepCode_eq] at delimiter
        split_ifs at delimiter with _ _ _ quoted tick
        · exact quoted.imp_right .inl
        · exact .inr (.inr tick)
    | lineComment | blockComment =>
        simp only [State.step, joined, inside] at delimiter
        split_ifs at delimiter
    | string quote =>
        simp only [State.step, joined, inside, stepString] at delimiter
        split_ifs at delimiter with _ closing
        obtain rfl : c = quote := by simpa using closing
        exact (tidy.quote c inside).imp_right .inl
    | regex inClass =>
        simp only [State.step, joined, inside, stepRegex] at delimiter
        split_ifs at delimiter
    | template =>
        simp only [State.step, joined, inside, stepTemplate] at delimiter
        split_ifs at delimiter with _ tick
        exact .inr (.inr (by simpa using tick))

/-- Behind the end of a literal a slash divides. -/
lemma inCode_of_ends (consistent : st.Consistent)
    (literal : (st.step c next).1 = .delimiter ∨ (st.step c next).1 = .regex)
    (ends : (st.step c next).2.mode = .code) :
    (st.step c next).2.InCode ∧ (st.step c next).2.regexAllowed = false := by
  cases joined : st.joined with
  | some kind =>
      simp only [State.step, joined] at literal ends
      have goes := consistent.joined kind joined
      rcases literal with rfl | rfl
      · exact goes.elim
      · obtain ⟨inClass, inside⟩ := goes
        rw [inside] at ends
        cases ends
  | none =>
    cases inside : st.mode with
    | code =>
        rw [InCode.step_eq ⟨inside, joined⟩, stepCode_eq] at literal ends
        split_ifs at literal ends
        simp at literal
    | lineComment | blockComment =>
        simp only [State.step, joined, inside] at literal
        split_ifs at literal <;> simp at literal
    | string quote =>
        simp only [State.step, joined, inside, stepString] at literal ends ⊢
        split_ifs at literal ends ⊢ <;> simp_all
        exact ⟨rfl, rfl⟩
    | regex inClass =>
        simp only [State.step, joined, inside, stepRegex] at literal ends ⊢
        split_ifs at literal ends ⊢ <;> simp_all
        exact ⟨rfl, rfl⟩
    | template =>
        simp only [State.step, joined, inside, stepTemplate] at literal ends ⊢
        split_ifs at literal ends ⊢ <;> simp_all
        exact ⟨rfl, rfl⟩

/-- Only what a regular expression may start with ends one. -/
lemma regexAllowed_of_ends (tidy : st.Tidy) (consistent : st.Consistent)
    (regex : (st.step c next).1 = .regex) (ends : (st.step c next).2.mode = .code) :
    st.regexAllowed = true := by
  cases joined : st.joined with
  | some kind =>
      simp only [State.step, joined] at regex ends
      obtain ⟨inClass, inside⟩ := regex ▸ consistent.joined kind joined
      exact (tidy.regex inClass inside).2
  | none =>
    cases inside : st.mode with
    | code =>
        rw [InCode.step_eq ⟨inside, joined⟩, stepCode_eq] at regex ends
        split_ifs at regex ends
    | lineComment | blockComment =>
        simp only [State.step, joined, inside] at regex
        split_ifs at regex
    | string quote =>
        simp only [State.step, joined, inside, stepString] at regex
        split_ifs at regex
    | regex inClass => exact (tidy.regex inClass inside).2
    | template =>
        simp only [State.step, joined, inside, stepTemplate] at regex
        split_ifs at regex

end State

/-! ### The ends of literals -/

/-- The scanner is in a tidy state at every offset of every text. -/
lemma tidy_stateAt (t : Text) (i : Nat) : (stateAt t i).Tidy :=
  State.after_induction {} ⟨by simp, by simp, by simp, by simp⟩ (fun _ c next h => h.step c next) t i

/-- A regular expression ends with the character at an offset. -/
def EndsRegex (t : Text) (i : Nat) : Prop :=
  (kinds t)[i]? = some .regex ∧ (stateAt t (i + 1)).mode = .code
  deriving Decidable

/-- A string, a template or a regular expression ends with the character at an
offset. -/
def EndsLiteral (t : Text) (i : Nat) : Prop :=
  ((kinds t)[i]? = some .delimiter ∨ (kinds t)[i]? = some .regex) ∧
    (stateAt t (i + 1)).mode = .code
  deriving Decidable

/-! ### Characters of a masked text -/

/-- What stands for a character of a kind in the masked text. -/
def Kind.masked (kind : Kind) (c : Char) : Char :=
  if kind.isKept || c == '\n' then c else ' '

/-- The masked text character by character. -/
lemma getElem?_mask (t : Text) (i : Nat) :
    (mask t)[i]? = t[i]?.map fun c => ((stateAt t i).step c t[i + 1]?).1.masked c := by
  rw [mask, List.getElem?_zipWith, getElem?_kinds]
  cases t[i]? <;> rfl

/-- A character stays in it, or a blank stands for it. -/
lemma mask_eq_or (t : Text) (i : Nat) :
    (mask t)[i]? = t[i]? ∨ (mask t)[i]? = some ' ' := by
  rw [getElem?_mask]
  cases t[i]? with
  | none => exact .inl rfl
  | some c =>
      rw [Option.map_some, Option.some_inj, Option.some_inj, Kind.masked]
      split_ifs
      · exact .inl rfl
      · exact .inr rfl

namespace Kind

variable {kind : Kind} {c : Char}

lemma masked_of_isKept (kept : kind.isKept = true) : kind.masked c = c := by
  rw [masked, kept, Bool.true_or, if_pos rfl]

lemma masked_of_ne (filled : kind.isKept = false) (other : c ≠ '\n') : kind.masked c = ' ' := by
  simp [masked, filled, other]

lemma masked_lineFeed : kind.masked '\n' = '\n' := by
  rw [masked, beq_self_eq_true, Bool.or_true, if_pos rfl]

/-- A character that is filled in is blank. -/
lemma isBlank_masked (filled : kind.isKept = false) : isBlank (kind.masked c) = true := by
  by_cases feed : c = '\n'
  · rw [feed, masked_lineFeed]
    rfl
  · rw [masked_of_ne filled feed]
    rfl

/-- It stays as it is whatever it is taken for in the masked text. -/
lemma masked_masked (filled : kind.isKept = false) (again : Kind) :
    again.masked (kind.masked c) = kind.masked c := by
  by_cases feed : c = '\n'
  · rw [feed, masked_lineFeed, masked_lineFeed]
  · rw [masked_of_ne filled feed]
    cases again <;> rfl

/-- A blank is blank whatever it is taken for. -/
lemma isBlank_masked_of_isBlank (kind : Kind) (blank : isBlank c = true) :
    isBlank (kind.masked c) = true := by
  rw [masked]
  split_ifs
  · exact blank
  · rfl

end Kind

section Mask

variable {t : Text} {i : Nat} {c : Char}

/-- What is not blank in the masked text has been kept. -/
lemma kept_of_mask (stands : (mask t)[i]? = some c) (solid : isBlank c = false) :
    t[i]? = some c ∧ ((stateAt t i).step c t[i + 1]?).1.isKept = true := by
  rw [getElem?_mask] at stands
  obtain ⟨d, here, stays⟩ := Option.map_eq_some_iff.mp stands
  have kept : ((stateAt t i).step d t[i + 1]?).1.isKept = true := by
    by_contra filled
    rw [← stays, Kind.isBlank_masked (by simpa using filled)] at solid
    cases solid
  obtain rfl : d = c := by rwa [Kind.masked_of_isKept kept] at stays
  exact ⟨here, kept⟩

/-- Unless it is a quote, or what an interpolation starts with, it stands in code. -/
lemma codeAt_of_mask (stands : (mask t)[i]? = some c) (solid : isBlank c = false)
    (other : c ∉ ['\x27', '\x22', '\x60', '$', '{']) : CodeAt t i c := by
  obtain ⟨here, kept⟩ := kept_of_mask stands solid
  refine ⟨?_, here⟩
  cases kind : ((stateAt t i).step c t[i + 1]?).1 with
  | code =>
      rcases State.inCode_or_of_code kind with inCode | joined | rfl | rfl
      · exact inCode
      · have brace := brace_of_joined joined (List.getElem?_eq_some_iff.mp here).1
        obtain rfl : c = '{' := Option.some.inj (here.symm.trans brace)
        simp at other
      · simp at other
      · exact absurd solid (by decide)
  | delimiter =>
      have quoted := State.quoted_of_delimiter (tidy_stateAt t i) (consistent_stateAt t i) kind
      rcases quoted with rfl | rfl | rfl <;> simp at other
  | string | comment | regex | template =>
      rw [kind] at kept
      cases kept

/-- What is neither blank nor a quote stays in the masked text just if it is code. -/
lemma getElem?_mask_eq_iff (solid : isBlank c = false)
    (other : c ∉ ['\x27', '\x22', '\x60']) :
    (mask t)[i]? = some c ↔ t[i]? = some c ∧ (kinds t)[i]? = some .code := by
  constructor
  · intro stands
    obtain ⟨here, kept⟩ := kept_of_mask stands solid
    refine ⟨here, ?_⟩
    rw [getElem?_kinds, here, Option.map_some, Option.some_inj]
    cases kind : ((stateAt t i).step c t[i + 1]?).1 with
    | code => rfl
    | delimiter =>
        have quoted := State.quoted_of_delimiter (tidy_stateAt t i) (consistent_stateAt t i) kind
        rcases quoted with rfl | rfl | rfl <;> simp at other
    | string | comment | regex | template =>
        rw [kind] at kept
        cases kept
  · rintro ⟨here, code⟩
    rw [getElem?_kinds, here, Option.map_some, Option.some_inj] at code
    rw [getElem?_mask, here, Option.map_some, code, Kind.masked_of_isKept rfl]

end Mask

end LintRepair.Lexical
