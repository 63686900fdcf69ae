/-
The scanner at an offset of a text.

* `getElem?_kinds`, `stateAt_succ`: the kind of a character and the state behind it
  are those of one step from the state before it;
* `State.Consistent`: the invariant of the scanner, which tells how many templates
  are open, and in which mode a character can belong to the one before it;
* `consistent_stateAt`: it holds at every offset of every text;
* `isCode_contextAt`: an edit may be made just where the scanner is in code.
-/
import Mathlib.Tactic.Common
import LintRepair.Lexical.Context

namespace LintRepair.Lexical

open Text

namespace State

/-! ### One character of a text -/

/-- The kind of a character, whatever state the scanner starts from. -/
lemma getElem?_kinds (st : State) (t : Text) (i : Nat) :
    (st.kinds t)[i]? = t[i]?.map fun c => ((st.after t i).step c t[i + 1]?).1 := by
  induction t generalizing st i with
  | nil => rfl
  | cons c rest ih =>
      cases i with
      | zero =>
          have next : (c :: rest)[0 + 1]? = rest.head? := List.head?_eq_getElem?.symm
          rw [next]
          rfl
      | succ i => exact ih _ i

/-- The state behind a character. -/
lemma after_succ {t : Text} {i : Nat} {c : Char} (st : State) (h : t[i]? = some c) :
    st.after t (i + 1) = ((st.after t i).step c t[i + 1]?).2 := by
  induction t generalizing st i with
  | nil => cases h
  | cons b rest ih =>
      cases i with
      | zero =>
          have next : (b :: rest)[0 + 1]? = rest.head? := List.head?_eq_getElem?.symm
          obtain rfl : b = c := Option.some.inj h
          have none : ∀ (st : State) (t : Text), st.after t 0 = st := by
            intro st t
            cases t <;> rfl
          rw [next, none]
          exact none _ rest
      | succ i => exact ih _ h

/-- What holds of a state and is kept by every character holds at every offset. -/
lemma after_induction {P : State → Prop} (st : State) (start : P st)
    (step : ∀ st c next, P st → P (State.step st c next).2) (t : Text) (count : Nat) :
    P (st.after t count) := by
  induction t generalizing st count with
  | nil => exact start
  | cons c rest ih =>
      cases count with
      | zero => exact start
      | succ count => exact ih _ (step st c rest.head? start) count

/-! ### Plain code -/

section CodeChar

variable (st : State) (c : Char)

/-- A character that opens and closes nothing leaves the scanner where it is. -/
@[simp] lemma mode_codeChar : (st.codeChar c).mode = st.mode := by
  unfold codeChar
  split_ifs <;> rfl

@[simp] lemma joined_codeChar : (st.codeChar c).joined = st.joined := by
  unfold codeChar
  split_ifs <;> rfl

@[simp] lemma templateDepth_codeChar : (st.codeChar c).templateDepth = st.templateDepth := by
  unfold codeChar
  split_ifs <;> rfl

@[simp] lemma interpolations_codeChar : (st.codeChar c).interpolations = st.interpolations := by
  unfold codeChar
  split_ifs <;> rfl

end CodeChar

end State

/-! ### The invariant -/

/-- Whether a character of a kind can belong to the one before it when the scanner
is in a mode. A comment's last character does so when the scanner is in code
already. -/
def Kind.GoesWith : Kind → Mode → Prop
  | .code, mode => mode = .code
  | .delimiter, _ => False
  | .string, mode => ∃ quote, mode = .string quote
  | .comment, mode => mode = .lineComment ∨ mode = .blockComment ∨ mode = .code
  | .regex, mode => ∃ inClass, mode = .regex inClass
  | .template, mode => mode = .template

namespace State

/-- The scanner's state makes sense: each open template but the innermost has an
open interpolation, and so has that one unless its text is being read; and the
next character goes with the mode if it belongs to the one before it. -/
structure Consistent (st : State) : Prop where
  depth : st.templateDepth = st.interpolations.length + if st.mode = .template then 1 else 0
  joined : ∀ kind, st.joined = some kind → kind.GoesWith st.mode

namespace Consistent

variable {st : State} {c : Char} {next : Option Char}

lemma start : ({} : State).Consistent where
  depth := rfl
  joined := by simp

/-- A state that stands as deep in templates as a consistent one, and from which
the next character stands alone, is consistent. -/
lemma of_depth {st' : State} (h : st.Consistent) (depth : st'.templateDepth = st.templateDepth)
    (opened : st'.interpolations.length = st.interpolations.length)
    (mode : st'.mode = .template ↔ st.mode = .template) (alone : st'.joined = none) :
    st'.Consistent where
  depth := by
    rw [depth, opened, h.depth]
    simp only [mode]
  joined := by simp [alone]

/-- A character of code leads to a consistent state. -/
lemma stepCode (h : st.Consistent) (inCode : st.mode = .code) (alone : st.joined = none) :
    (st.stepCode c next).2.Consistent := by
  have depth : st.templateDepth = st.interpolations.length := by
    simpa [inCode] using h.depth
  rw [State.stepCode]
  split
  · exact ⟨by simpa using depth, by simp [Kind.GoesWith]⟩
  split
  · exact ⟨by simpa using depth, by simp [Kind.GoesWith]⟩
  split
  · exact h.of_depth rfl rfl (by simp [inCode]) alone
  split
  · exact h.of_depth rfl rfl (by simp [inCode]) alone
  split
  · exact ⟨by simpa using depth, by simp [alone]⟩
  split
  · exact h.of_depth (by simp) (by simp) (by simp) (by simpa using alone)
  · next opened outer among =>
    rw [among] at depth
    split_ifs
    · exact h.of_depth (by simp) (by simp [among]) (by simp) (by simpa using alone)
    · exact ⟨by simpa using depth, by simp [alone]⟩
    · exact h.of_depth (by simp) (by simp [among]) (by simp) (by simpa using alone)
    · exact h.of_depth (by simp) (by simp) (by simp) (by simpa using alone)

/-- So does a character of a string. -/
lemma stepString {quote : Char} (h : st.Consistent) (inside : st.mode = .string quote)
    (alone : st.joined = none) : (st.stepString quote c).2.Consistent := by
  have depth : st.templateDepth = st.interpolations.length := by
    simpa [inside] using h.depth
  rw [State.stepString]
  split_ifs
  · exact ⟨by simpa [inside] using depth, by simp [Kind.GoesWith, inside]⟩
  · exact h.of_depth rfl rfl (by simp [inside]) alone
  · exact h.of_depth rfl rfl (by simp [inside]) alone
  · exact h

/-- So does a character of a regular expression. -/
lemma stepRegex {inClass : Bool} (h : st.Consistent) (inside : st.mode = .regex inClass)
    (alone : st.joined = none) : (st.stepRegex inClass c).2.Consistent := by
  have depth : st.templateDepth = st.interpolations.length := by
    simpa [inside] using h.depth
  rw [State.stepRegex]
  split_ifs
  · exact ⟨by simpa [inside] using depth, by simp [Kind.GoesWith, inside]⟩
  all_goals exact h.of_depth rfl rfl (by simp [inside]) alone

/-- So does a character of template text. -/
lemma stepTemplate (h : st.Consistent) (inside : st.mode = .template)
    (alone : st.joined = none) : (st.stepTemplate c next).2.Consistent := by
  have depth : st.templateDepth = st.interpolations.length + 1 := by
    simpa [inside] using h.depth
  rw [State.stepTemplate]
  split_ifs
  · exact ⟨by simpa [inside] using depth, by simp [Kind.GoesWith, inside]⟩
  · exact ⟨by simp [depth], by simp [alone]⟩
  · exact ⟨by simpa using depth, by simp [Kind.GoesWith]⟩
  · exact h

/-- Every character leads from a consistent state to a consistent one. -/
lemma step (h : st.Consistent) (c : Char) (next : Option Char) :
    (st.step c next).2.Consistent := by
  rw [State.step]
  split
  · exact h.of_depth rfl rfl Iff.rfl rfl
  · next alone =>
    split
    · next inside => exact h.stepCode inside alone
    · next inside =>
      split_ifs
      · exact h.of_depth rfl rfl (by simp [inside]) alone
      · exact h
    · next inside =>
      split_ifs
      · exact ⟨by simpa [inside] using h.depth, by simp [Kind.GoesWith]⟩
      · exact h
    · next inside => exact h.stepString inside alone
    · next inside => exact h.stepRegex inside alone
    · next inside => exact h.stepTemplate inside alone

/-- **Code is where a consistent scanner reads code.** In an open template it
reads an interpolation then, and template text is never read outside of one. -/
lemma isCode_context (h : st.Consistent) : st.context.isCode = true ↔ st.mode = .code := by
  cases inside : st.mode with
  | code =>
      have either : st.templateDepth ≤ 0 ∨ 0 < st.templateDepth := by omega
      simpa [Context.isCode, State.context, State.quote?, inside] using either
  | template =>
      have deep : 0 < st.templateDepth := by
        rw [h.depth, inside, if_pos rfl]
        omega
      simp [Context.isCode, State.context, State.quote?, inside, deep]
  | _ => simp [Context.isCode, State.context, State.quote?, inside]

end Consistent

end State

/-! ### At an offset -/

variable (t : Text) (i : Nat)

lemma stateAt_zero : stateAt t 0 = {} := by cases t <;> rfl

/-- The kind of a character is that of the step from the state before it. -/
lemma getElem?_kinds :
    (kinds t)[i]? = t[i]?.map fun c => ((stateAt t i).step c t[i + 1]?).1 :=
  State.getElem?_kinds {} t i

/-- The state behind a character is that of the step from the state before it. -/
lemma stateAt_succ {t : Text} {i : Nat} {c : Char} (h : t[i]? = some c) :
    stateAt t (i + 1) = ((stateAt t i).step c t[i + 1]?).2 :=
  State.after_succ {} h

/-- The scanner is in a consistent state at every offset of every text. -/
theorem consistent_stateAt : (stateAt t i).Consistent :=
  State.after_induction {} .start (fun _ c next h => h.step c next) t i

/-- An edit may be made just where the scanner is in code. -/
theorem isCode_contextAt : (contextAt t i).isCode = true ↔ (stateAt t i).mode = .code :=
  (consistent_stateAt t i).isCode_context

end LintRepair.Lexical
