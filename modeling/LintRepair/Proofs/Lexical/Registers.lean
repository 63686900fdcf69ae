/-
The scanner as a loop that leaps over pairs of characters.

* `Registers`: what the loop keeps from one turn to the next, the quote of a string and the
  class of a regular expression each on its own;
* `Registers.stride`: one turn, which takes one character or two;
* `scan`: the loop up to an offset, with the kinds that it records;
* `State.stride_registers`, `Reached.turn`: a turn of the loop goes along with the scanner that
  reads one character after the other; `scanFrom_spec`: so does every run;
* `recorded_scan`: over a whole text the loop records its kinds;
* `registers_sound`: wherever the loop stops, its registers fit each other.
-/
import LintRepair.Proofs.Lexical.Cache
import LintRepair.Proofs.Lexical.Closed

namespace LintRepair.Lexical

open Text

/-! ### The loop -/

/-- What the loop is inside of. -/
inductive Phase
  | code
  | lineComment
  | blockComment
  | string
  | regex
  | template
  deriving DecidableEq, Repr

/-- What the loop keeps from one turn to the next. No register is bound to another one: a
turn changes those that it writes and leaves the others. -/
structure Registers where
  phase : Phase := .code
  /-- The quote that ends the string. -/
  quote : Option Char := none
  /-- Whether a character class of the regular expression is open. -/
  inClass : Bool := false
  templateDepth : Int := 0
  /-- For each open interpolation, the innermost first, how many braces are open inside it. -/
  interpolations : List Int := []
  regexAllowed : Bool := true
  word : Text := []
  inWord : Bool := false
  afterWord : Bool := false
  parens : List Bool := []
  deriving DecidableEq, Repr

/-- What a turn of the loop comes to. -/
structure Stride where
  /-- The kind of the characters that it takes. -/
  kind : Kind
  /-- Whether it takes two of them. -/
  double : Bool
  registers : Registers
  deriving DecidableEq, Repr

/-- How many characters a turn takes. -/
def Stride.width (s : Stride) : Nat := if s.double then 2 else 1

lemma Stride.width_pos (s : Stride) : 0 < s.width := by
  rw [width]
  split <;> decide

/-- The kinds recorded behind a turn: one for each character that it takes, but never more
than there are characters. -/
def Stride.record (s : Stride) (count : Nat) (marks : List Kind) : List Kind :=
  marks ++ List.replicate (min s.width (count - marks.length)) s.kind

namespace Registers

/-- A character of plain code that opens and closes nothing. -/
def codeChar (r : Registers) (c : Char) : Registers :=
  if isAlnum c || c == '_' || c == '$' then
    let word := if r.inWord then r.word ++ [c] else [c]
    { r with
      word, inWord := true, afterWord := true
      regexAllowed := operandKeywords.contains word }
  else if isBlank c then { r with inWord := false }
  else if c == '(' then
    { r with
      inWord := false, afterWord := false, regexAllowed := true
      parens := (r.afterWord && controlHeads.contains r.word) :: r.parens }
  else if c == ')' then
    { r with
      inWord := false, afterWord := false
      regexAllowed := r.parens.headD false, parens := r.parens.tail }
  else { r with inWord := false, afterWord := false, regexAllowed := precedesRegex c }

/-- A turn in code. Only a brace that closes no interpolation is counted in one. -/
def strideCode (r : Registers) (c : Char) (next : Option Char) : Stride :=
  if c = '/' ∧ next = some '/' then ⟨.comment, true, { r with phase := .lineComment }⟩
  else if c = '/' ∧ next = some '*' then ⟨.comment, true, { r with phase := .blockComment }⟩
  else if c = '/' ∧ r.regexAllowed = true then
    ⟨.regex, false, { r with phase := .regex, inClass := false, afterWord := false }⟩
  else if c = '\x27' ∨ c = '\x22' then
    ⟨.delimiter, false, { r with
      phase := .string, quote := some c, inWord := false, afterWord := false }⟩
  else if c = '\x60' then
    ⟨.delimiter, false, { r with
      phase := .template, templateDepth := r.templateDepth + 1
      inWord := false, afterWord := false }⟩
  else if c = '}' ∧ r.interpolations.head? = some 0 then
    ⟨.code, false, { r with phase := .template, interpolations := r.interpolations.tail }⟩
  else
    ⟨.code, false, { r with
      interpolations := r.interpolations.modifyHead (· + braceCount c) }.codeChar c⟩

/-- A turn in a string. -/
def strideString (r : Registers) (c : Char) : Stride :=
  if c = '\\' then ⟨.string, true, r⟩
  else if some c = r.quote then
    ⟨.delimiter, false, { r with phase := .code, quote := none, regexAllowed := false }⟩
  else if c = '\n' then ⟨.code, false, { r with phase := .code, quote := none }⟩
  else ⟨.string, false, r⟩

/-- A turn in a regular expression. -/
def strideRegex (r : Registers) (c : Char) : Stride :=
  if c = '\\' then ⟨.regex, true, r⟩
  else if c = '\n' then ⟨.code, false, { r with phase := .code, inClass := false }⟩
  else if r.inClass then ⟨.regex, false, { r with inClass := c != ']' }⟩
  else if c = '[' then ⟨.regex, false, { r with inClass := true }⟩
  else if c = '/' then
    ⟨.regex, false, { r with phase := .code, regexAllowed := false, inWord := false }⟩
  else ⟨.regex, false, r⟩

/-- A turn in the text of a template. -/
def strideTemplate (r : Registers) (c : Char) (next : Option Char) : Stride :=
  if c = '\\' then ⟨.template, true, r⟩
  else if c = '\x60' then
    ⟨.delimiter, false, { r with
      phase := .code, templateDepth := r.templateDepth - 1, regexAllowed := false }⟩
  else if c = '$' ∧ next = some '{' then
    ⟨.code, true, { r with
      phase := .code, interpolations := 0 :: r.interpolations
      regexAllowed := true, inWord := false }⟩
  else ⟨.template, false, r⟩

/-- One turn of the loop, at a character with the one behind it. -/
def stride (r : Registers) (c : Char) (next : Option Char) : Stride :=
  match r.phase with
  | .code => r.strideCode c next
  | .lineComment =>
    if c = '\n' then ⟨.code, false, { r with phase := .code }⟩ else ⟨.comment, false, r⟩
  | .blockComment =>
    if c = '*' ∧ next = some '/' then ⟨.comment, true, { r with phase := .code }⟩
    else ⟨.comment, false, r⟩
  | .string => r.strideString c
  | .regex => r.strideRegex c
  | .template => r.strideTemplate c next

end Registers

/-- The loop from an offset on. It turns while it is before another offset and before the end
of the text, and may stop one character behind either. -/
def scanFrom (t : Text) (stop : Int) (i : Nat) (r : Registers) (marks : List Kind) :
    Registers × List Kind :=
  if inside : i < clampOffset t stop then
    have within : i < t.length := Nat.lt_of_lt_of_le inside (Nat.min_le_left _ _)
    let s := r.stride t[i] t[i + 1]?
    scanFrom t stop (i + s.width) s.registers (s.record t.length marks)
  else (r, marks)
termination_by t.length - i
decreasing_by
  have within : i < t.length := Nat.lt_of_lt_of_le inside (Nat.min_le_left _ _)
  exact Nat.sub_lt_sub_left within (Nat.lt_add_of_pos_right (Stride.width_pos _))

/-- The loop from the start of a text up to an offset. -/
def scan (t : Text) (stop : Int) : Registers × List Kind := scanFrom t stop 0 {} []

/-! ### One turn -/

/-- The phase of a mode. -/
def Mode.phase : Mode → Phase
  | .code => .code
  | .lineComment => .lineComment
  | .blockComment => .blockComment
  | .string _ => .string
  | .regex _ => .regex
  | .template => .template

/-- Whether a character class is open in a mode. -/
def Mode.inClass : Mode → Bool
  | .regex inClass => inClass
  | _ => false

/-- The registers that stand for a state of the scanner. -/
def State.registers (st : State) : Registers where
  phase := st.mode.phase
  quote := st.quote?
  inClass := st.mode.inClass
  templateDepth := st.templateDepth
  interpolations := st.interpolations
  regexAllowed := st.regexAllowed
  word := st.word
  inWord := st.inWord
  afterWord := st.afterWord
  parens := st.parens

/-- The turn that a step of the scanner makes. -/
def Stride.ofStep (p : Kind × State) : Stride := ⟨p.1, p.2.joined.isSome, p.2.registers⟩

namespace State

variable {st : State} {c : Char} {next : Option Char} {kind : Kind}

lemma registers_codeChar (st : State) (c : Char) :
    (st.codeChar c).registers = st.registers.codeChar c := by
  have word : st.registers.inWord = st.inWord := rfl
  simp only [codeChar, Registers.codeChar, word]
  split_ifs <;> rfl

lemma registers_plain (st : State) (c : Char) : (st.plain c).registers =
    { st.registers with
      interpolations := st.interpolations.modifyHead (· + braceCount c) }.codeChar c :=
  registers_codeChar _ c

/-- **A turn of the loop** is a step of the scanner: it records the kind of the character,
takes the next one as well just if that belongs to it, and leaves the registers for the
state behind it. -/
lemma stride_registers (alone : st.joined = none) (c : Char) (next : Option Char) :
    st.registers.stride c next = .ofStep (st.step c next) := by
  obtain ⟨mode, joined, depth, opened, allowed, word, inWord, after, parens⟩ := st
  obtain rfl : joined = none := alone
  cases mode with
  | code =>
      rw [InCode.step_eq ⟨rfl, rfl⟩, stepCode_eq]
      simp only [apply_ite Stride.ofStep]
      iterate 6 refine if_congr Iff.rfl rfl ?_
      have same (st : State) : (st.plain c).joined = st.joined := by rw [plain, joined_codeChar]
      simp only [Stride.ofStep, registers_plain, same]
      rfl
  | lineComment =>
      simp only [step, beq_iff_eq, apply_ite Stride.ofStep]
      rfl
  | blockComment =>
      simp only [step, Bool.and_eq_true, beq_iff_eq, apply_ite Stride.ofStep]
      rfl
  | string quote =>
      simp only [step, stepString, beq_iff_eq, apply_ite Stride.ofStep]
      exact if_congr Iff.rfl rfl (if_congr Option.some_inj rfl rfl)
  | regex inClass =>
      simp only [step, stepRegex, beq_iff_eq, apply_ite Stride.ofStep]
      cases inClass <;> rfl
  | template =>
      simp only [step, stepTemplate, Bool.and_eq_true, beq_iff_eq, apply_ite Stride.ofStep]
      rfl

/-- What belongs to a character is of its kind. -/
lemma kind_of_joined (joined : (st.step c next).2.joined = some kind) :
    (st.step c next).1 = kind := by
  cases alone : st.joined with
  | some kind' => simp [step, alone] at joined
  | none =>
    cases inside : st.mode with
    | code =>
        rw [InCode.step_eq ⟨inside, alone⟩, stepCode_eq] at joined ⊢
        split_ifs at joined ⊢ <;> simp_all [State.plain]
    | lineComment | blockComment =>
        simp only [step, alone, inside] at joined ⊢
        split_ifs at joined ⊢ <;> simp_all
    | string quote =>
        simp only [step, alone, inside, stepString] at joined ⊢
        split_ifs at joined ⊢ <;> simp_all
    | regex inClass =>
        simp only [step, alone, inside, stepRegex] at joined ⊢
        split_ifs at joined ⊢ <;> simp_all
    | template =>
        simp only [step, alone, inside, stepTemplate] at joined ⊢
        split_ifs at joined ⊢ <;> simp_all

end State

/-! ### Every run -/

section Run

variable {t : Text} {stop : Int} {i j : Nat} {r : Registers} {marks : List Kind} {c : Char}

/-- Behind the end of a text nothing is read. -/
lemma stateAt_succ_of_length_le (behind : t.length ≤ i) : stateAt t (i + 1) = stateAt t i := by
  rw [stateAt, stateAt, ← State.after_min, ← State.after_min _ t i, Nat.min_eq_left behind,
    Nat.min_eq_left (Nat.le_succ_of_le behind)]

/-- A character that belongs to the one before it is of its kind and changes no register, and
the next one stands alone. -/
lemma joined_succ {kind : Kind} (joined : (stateAt t i).joined = some kind) :
    (kinds t)[i]? = t[i]?.map (fun _ => kind) ∧
      (stateAt t (i + 1)).registers = (stateAt t i).registers ∧
      (i < t.length → (stateAt t (i + 1)).joined = none) := by
  cases here : t[i]? with
  | none =>
      have behind : t.length ≤ i := List.getElem?_eq_none_iff.mp here
      rw [getElem?_kinds, here, stateAt_succ_of_length_le behind]
      exact ⟨rfl, rfl, fun within => absurd within (Nat.not_lt_of_le behind)⟩
  | some c =>
      have step : (stateAt t i).step c t[i + 1]? = (kind, { stateAt t i with joined := none }) := by
        rw [State.step, joined]
      rw [getElem?_kinds, here, Option.map_some, stateAt_succ here, step]
      exact ⟨rfl, rfl, fun _ => rfl⟩

/-- The loop goes along with the scanner at the start of a turn: it has the registers for its
state, and has recorded the kinds of all characters before. -/
structure Reached (t : Text) (i : Nat) (r : Registers) (marks : List Kind) : Prop where
  registers : r = (stateAt t i).registers
  alone : i < t.length → (stateAt t i).joined = none
  marks : marks = (kinds t).take i

lemma Reached.start (t : Text) : Reached t 0 {} [] := by
  refine ⟨?_, fun _ => ?_, List.take_zero.symm⟩
  · rw [stateAt_zero]
    rfl
  · rw [stateAt_zero]

/-- **One turn more.** The loop still goes along with the scanner, which has the same registers
at each offset of the turn. -/
lemma Reached.turn (h : Reached t i r marks) (here : t[i]? = some c) :
    let s := r.stride c t[i + 1]?
    Reached t (i + s.width) s.registers (s.record t.length marks) ∧
      ∀ j, i < j → j ≤ i + s.width → (stateAt t j).registers = s.registers := by
  intro s
  obtain ⟨within, -⟩ := List.getElem?_eq_some_iff.mp here
  have first : s = .ofStep ((stateAt t i).step c t[i + 1]?) := by
    rw [← State.stride_registers (h.alone within), ← h.registers]
  have read : (kinds t)[i]? = some s.kind := by
    rw [getElem?_kinds, here, first]
    rfl
  have double : s.double = (stateAt t (i + 1)).joined.isSome := by rw [first, stateAt_succ here]; rfl
  have registers : (stateAt t (i + 1)).registers = s.registers := by
    rw [first, stateAt_succ here]
    rfl
  have count : t.length - marks.length = t.length - i := by
    rw [h.marks, List.length_take_of_le (by rw [length_kinds]; omega)]
  cases joined : (stateAt t (i + 1)).joined with
  | none =>
      have width : s.width = 1 := by rw [Stride.width, double, joined]; rfl
      rw [width, Stride.record, width, count, Nat.min_eq_left (by omega)]
      refine ⟨⟨registers.symm, fun _ => joined, ?_⟩, fun j low high => ?_⟩
      · rw [List.take_add_one, read, h.marks]
        rfl
      · obtain rfl : j = i + 1 := by omega
        exact registers
  | some kind =>
      have width : s.width = 2 := by rw [Stride.width, double, joined]; rfl
      obtain ⟨next, same, alone⟩ := joined_succ joined
      obtain rfl : s.kind = kind := by
        rw [stateAt_succ here] at joined
        rw [first]
        exact State.kind_of_joined joined
      rw [width, Stride.record, width, count]
      refine ⟨⟨(same.trans registers).symm, ?_, ?_⟩, fun j low high => ?_⟩
      · exact fun more => alone (by omega)
      · rw [List.take_add_one, List.take_add_one, read, next, h.marks, List.append_assoc]
        -- At the end of the text there is no second character to record.
        cases behind : t[i + 1]? with
        | none =>
            have ends : t.length - i = 1 := by
              have := List.getElem?_eq_none_iff.mp behind
              omega
            rw [ends]
            rfl
        | some d =>
            have goesOn : 2 ≤ t.length - i := by
              have := (List.getElem?_eq_some_iff.mp behind).1
              omega
            rw [Nat.min_eq_left goesOn]
            rfl
      · obtain rfl | rfl : j = i + 1 ∨ j = i + 2 := by omega
        · exact registers
        · exact same.trans registers

/-- **Every run of the loop** stops with the registers for the scanner's state at the offset,
and has recorded the kinds of the characters up to there. -/
lemma scanFrom_spec {i : Nat} {r : Registers} {marks : List Kind} (h : Reached t i r marks)
    (le : i ≤ clampOffset t stop) :
    (scanFrom t stop i r marks).1 = (stateAt t (clampOffset t stop)).registers ∧
      ∃ j ≥ clampOffset t stop, (scanFrom t stop i r marks).2 = (kinds t).take j := by
  by_cases inside : i < clampOffset t stop
  · have within : i < t.length := Nat.lt_of_lt_of_le inside (Nat.min_le_left _ _)
    obtain ⟨reached, registers⟩ := h.turn (List.getElem?_eq_getElem within)
    have wide := (r.stride t[i] t[i + 1]?).width_pos
    rw [scanFrom, dif_pos inside]
    by_cases goesOn : i + (r.stride t[i] t[i + 1]?).width ≤ clampOffset t stop
    · exact scanFrom_spec reached goesOn
    · -- The turn has passed the offset, and the loop stops behind it.
      rw [scanFrom, dif_neg (by omega), registers _ inside (by omega)]
      exact ⟨rfl, _, by omega, reached.marks⟩
  · obtain rfl : i = clampOffset t stop := by omega
    rw [scanFrom, dif_neg inside]
    exact ⟨h.registers, _, Nat.le_refl _, h.marks⟩
termination_by t.length - i

/-- The loop over a whole text records its kinds. -/
lemma recorded_scan (t : Text) : (scan t t.length).2 = kinds t := by
  have whole : clampOffset t t.length = t.length := by simp [clampOffset]
  obtain ⟨-, j, behind, recorded⟩ := scanFrom_spec (.start t) (Nat.zero_le (clampOffset t t.length))
  rw [scan, recorded, List.take_of_length_le (by rw [length_kinds]; omega)]

end Run

/-! ### What the registers hold -/

/-- The registers fit each other: as many templates are open as interpolations, and one more
in the text of a template; no count of braces is negative; a quote is kept just in a string;
and a class is open in regular expressions only. -/
structure Registers.Sound (r : Registers) : Prop where
  depth : r.templateDepth = r.interpolations.length + if r.phase = .template then 1 else 0
  counts : ∀ n ∈ r.interpolations, 0 ≤ n
  quote : r.quote.isSome = true ↔ r.phase = .string
  inClass : r.inClass = true → r.phase = .regex

/-- So do the registers for a consistent state. -/
lemma State.Consistent.sound {st : State} (h : st.Consistent) (counts : st.Counts) :
    st.registers.Sound where
  depth := by
    refine h.depth.trans ?_
    cases inside : st.mode <;> simp [registers, Mode.phase, inside]
  counts := counts
  quote := by cases inside : st.mode <;> simp [registers, Mode.phase, quote?, inside]
  inClass := by cases inside : st.mode <;> simp [registers, Mode.phase, Mode.inClass, inside]

/-- A consistent scanner is in an interpolation just if one is open and it does not read the
text of a template. -/
lemma State.Consistent.inTemplateExpression {st : State} (h : st.Consistent) :
    st.context.inTemplateExpression = true ↔ st.interpolations ≠ [] ∧ st.mode ≠ .template := by
  have depth := h.depth
  rw [← List.length_pos_iff]
  cases inside : st.mode <;> simp_all [context]

/-- **The scanner's registers**, wherever it stops in a text of any form. They are those for
its state there and fit each other; so the depth of templates is never negative, and the
context is that of an interpolation just if one is open and no template text is read. -/
theorem registers_sound (t : Text) (stop : Int) :
    let st := stateAt t (clampOffset t stop)
    (scan t stop).1 = st.registers ∧ (scan t stop).1.Sound ∧ 0 ≤ st.templateDepth ∧
      (st.context.inTemplateExpression = true ↔ st.interpolations ≠ [] ∧ st.mode ≠ .template) := by
  intro st
  have consistent : st.Consistent := consistent_stateAt t _
  have sound : st.registers.Sound := consistent.sound (counts_stateAt (Nat.min_le_left _ _))
  have same : (scan t stop).1 = st.registers := (scanFrom_spec (.start t) (Nat.zero_le _)).1
  refine ⟨same, same ▸ sound, ?_, consistent.inTemplateExpression⟩
  have depth := consistent.depth
  split_ifs at depth <;> omega

/-- A string in braces in an interpolation of an open template. -/
example : (scan "\x60a$\x7b\x7bx: 'b".toList 9).1 =
    { phase := .string, quote := some '\x27', templateDepth := 1, interpolations := [1]
      regexAllowed := true, word := "x".toList } := by
  decide +kernel

end LintRepair.Lexical
