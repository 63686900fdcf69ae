/-
Code as the scanner reads it.

* `State.InCode`: the next character is read as code, and by itself;
* `State.stepCode_eq`: all that a character of code can do; `State.plain` is the
  state behind one that opens and closes nothing;
* `State.InCode.step_blank`, `State.InCode.step_name`, `State.InCode.step_opening`,
  `State.InCode.step_closing`: what blanks, words and parentheses do;
* `CodeAt`, `NameAt`, `GoesOn`: a character of code, one of a word, and one that goes on
  the word that the scanner is in;
* `State.step_forget`: whether the scanner is in a word tells on nothing but the
  characters of words.
-/
import LintRepair.Proofs.Lexical.Offset

namespace LintRepair.Lexical

open Text

/-! ### Blanks -/

/-- The code points of the blanks. -/
def blankCodes : List Nat :=
  [9, 10, 11, 12, 13, 28, 29, 30, 31, 32, 0x85, 0xA0, 0x1680, 0x2000, 0x2001, 0x2002,
    0x2003, 0x2004, 0x2005, 0x2006, 0x2007, 0x2008, 0x2009, 0x200A, 0x2028, 0x2029,
    0x202F, 0x205F, 0x3000]

lemma toNat_mem_blankCodes {c : Char} (blank : isBlank c = true) : c.toNat ∈ blankCodes := by
  simp only [isBlank, Bool.or_eq_true, Bool.and_eq_true, decide_eq_true_eq, beq_iff_eq] at blank
  simp only [blankCodes, List.mem_cons, List.not_mem_nil, or_false]
  omega

/-- No blank is a character of a word. -/
lemma isName_of_isBlank {c : Char} (blank : isBlank c = true) : isName c = false := by
  have none : ∀ n ∈ blankCodes, isName (Char.ofNat n) = false := by
    -- The kernel looks through a table quickly only if it is a list.
    simp only [isName, isWord, isAlnum, decimalValue?, Ranges.within, ← Array.any_toList,
      ← Array.find?_toList]
    decide +kernel
  rw [← Char.ofNat_toNat c]
  exact none _ (toNat_mem_blankCodes blank)

/-- What is not blank is not a blank. -/
lemma ne_of_isBlank {b c : Char} (blank : isBlank c = true) (solid : isBlank b = false) :
    c ≠ b := by
  rintro rfl
  rw [blank] at solid
  cases solid

/-! ### Single steps -/

/-- How many braces more are open behind a character than before it. -/
def braceCount (c : Char) : Int := if c = '{' then 1 else if c = '}' then -1 else 0

namespace State

/-- The next character is read as code, and does not belong to the one before it. -/
structure InCode (st : State) : Prop where
  mode : st.mode = .code
  alone : st.joined = none

instance (st : State) : Decidable st.InCode :=
  decidable_of_iff (st.mode = .code ∧ st.joined = none)
    ⟨fun h => ⟨h.1, h.2⟩, fun h => ⟨h.mode, h.alone⟩⟩

/-- The state behind a character of code that opens and closes neither a literal nor a
comment nor an interpolation. Inside an interpolation braces are counted. -/
def plain (st : State) (c : Char) : State :=
  { st with interpolations := st.interpolations.modifyHead (· + braceCount c) }.codeChar c

/-- Whether a parenthesis would open the head of a control statement. -/
def expectsHead (st : State) : Bool := st.afterWord && controlHeads.contains st.word

/-- The state without the memory that the last character was one of a word. -/
def forget (st : State) : State := { st with inWord := false }

variable {st : State} {c : Char} {next : Option Char}

lemma InCode.step_eq (h : st.InCode) : st.step c next = st.stepCode c next := by
  rw [step, h.alone, h.mode]

/-- **What a character of code does.** It opens a comment, a regular expression, a
string or a template, or closes an interpolation, or does nothing of the kind. -/
lemma stepCode_eq (st : State) (c : Char) (next : Option Char) : st.stepCode c next =
    if c = '/' ∧ next = some '/' then
      (.comment, { st with mode := .lineComment, joined := some .comment })
    else if c = '/' ∧ next = some '*' then
      (.comment, { st with mode := .blockComment, joined := some .comment })
    else if c = '/' ∧ st.regexAllowed = true then
      (.regex, { st with mode := .regex false, afterWord := false })
    else if c = '\x27' ∨ c = '\x22' then
      (.delimiter, { st with mode := .string c, inWord := false, afterWord := false })
    else if c = '\x60' then
      (.delimiter, { st with
        mode := .template, templateDepth := st.templateDepth + 1
        inWord := false, afterWord := false })
    else if c = '}' ∧ st.interpolations.head? = some 0 then
      (.code, { st with mode := .template, interpolations := st.interpolations.tail })
    else (.code, st.plain c) := by
  rw [stepCode]
  simp only [beq_iff_eq, Bool.and_eq_true, Bool.or_eq_true]
  iterate 5 refine if_congr Iff.rfl rfl ?_
  cases among : st.interpolations with
  | nil =>
      have same : st.plain c = st.codeChar c := by
        rw [plain, among, List.modifyHead_nil, ← among]
      rw [same]
      simp
  | cons opened outer =>
      have same : st.plain c =
          { st with interpolations := (opened + braceCount c) :: outer }.codeChar c := by
        rw [plain, among, List.modifyHead_cons]
      rw [same]
      by_cases opening : c = '{'
      · simp [opening, braceCount]
      by_cases closing : c = '}'
      · by_cases last : opened = 0
        · simp [closing, last]
        · simp [closing, last, braceCount, Int.sub_eq_add_neg]
      · simp [opening, closing, braceCount, ← among]

lemma plain_of_ne (opening : c ≠ '{') (closing : c ≠ '}') : st.plain c = st.codeChar c := by
  have same : st.interpolations.modifyHead (· + braceCount c) = st.interpolations := by
    cases st.interpolations with
    | nil => rfl
    | cons opened outer => simp [braceCount, opening, closing]
  rw [plain, same]

/-- A character that opens and closes nothing is read as plain code. -/
lemma InCode.step_plain (h : st.InCode) (other : c ∉ ['/', '\x27', '\x22', '\x60', '{', '}']) :
    st.step c next = (.code, st.codeChar c) := by
  simp only [List.mem_cons, List.not_mem_nil, or_false, not_or] at other
  obtain ⟨slash, single, double, tick, opening, closing⟩ := other
  rw [h.step_eq, stepCode_eq]
  simp only [slash, single, double, tick, closing, false_and, or_self, if_false]
  rw [plain_of_ne opening closing]

/-! ### Whether the scanner is in a word -/

lemma forget_plain (other : isName c = false) : st.forget.plain c = (st.plain c).forget := by
  have noWord : (isAlnum c || c == '_' || c == '$') = false := other
  simp only [plain, codeChar, noWord, forget, Bool.false_eq_true, if_false]
  split_ifs <;> rfl

/-- Unless a character of a word is read, it makes no difference whether the scanner
is in one. -/
lemma step_forget (other : st.InCode → isName c = false) :
    st.forget.step c next = ((st.step c next).1, (st.step c next).2.forget) := by
  obtain ⟨mode, joined, depth, opened, allowed, word, inWord, afterWord, parens⟩ := st
  cases joined with
  | some kind => rfl
  | none =>
    cases mode with
    | code =>
        rw [InCode.step_eq ⟨rfl, rfl⟩, InCode.step_eq ⟨rfl, rfl⟩, stepCode_eq, stepCode_eq,
          forget_plain (other ⟨rfl, rfl⟩)]
        change _ = Prod.map id forget _
        simp only [apply_ite (Prod.map id forget)]
        rfl
    | lineComment | blockComment =>
        simp only [step, forget]
        split_ifs <;> rfl
    | string quote =>
        simp only [step, forget, stepString]
        split_ifs <;> rfl
    | regex inClass =>
        simp only [step, forget, stepRegex]
        split_ifs <;> rfl
    | template =>
        simp only [step, forget, stepTemplate]
        split_ifs <;> rfl

lemma InCode.forget (h : st.InCode) : st.forget.InCode := ⟨h.mode, h.alone⟩

/-- A blank in code ends the word. -/
lemma InCode.step_blank (h : st.InCode) (blank : isBlank c = true) :
    st.step c next = (.code, st.forget) := by
  have solid : ['/', '\x27', '\x22', '\x60', '{', '}'].any isBlank = false := by decide
  have noWord : (isAlnum c || c == '_' || c == '$') = false := isName_of_isBlank blank
  rw [h.step_plain fun mem => List.any_eq_false.mp solid c mem blank]
  simp only [codeChar, noWord, blank, State.forget, Bool.false_eq_true, if_true, if_false]

/-- The word that the scanner is in. -/
def spelled (st : State) : Text := if st.inWord then st.word else []

/-- A character of a word in code goes on the word, or starts one. -/
lemma InCode.step_name (h : st.InCode) (name : isName c = true) :
    st.step c next = (.code,
      { st with
        word := st.spelled ++ [c], inWord := true, afterWord := true
        regexAllowed := operandKeywords.contains (st.spelled ++ [c]) }) := by
  have noName : ['/', '\x27', '\x22', '\x60', '{', '}'].any isName = false := by decide
  have read : (isAlnum c || c == '_' || c == '$') = true := name
  have word : (if st.inWord then st.word ++ [c] else [c]) = st.spelled ++ [c] := by
    rw [spelled]
    split_ifs <;> rfl
  rw [h.step_plain fun mem => List.any_eq_false.mp noName c mem name, codeChar, if_pos read,
    word]

/-- An opening parenthesis in code. -/
lemma InCode.step_opening (h : st.InCode) : st.step '(' next = (.code,
    { st with
      inWord := false, afterWord := false, regexAllowed := true
      parens := st.expectsHead :: st.parens }) :=
  h.step_plain (by decide)

/-- A closing parenthesis in code. -/
lemma InCode.step_closing (h : st.InCode) : st.step ')' next = (.code,
    { st with
      inWord := false, afterWord := false
      regexAllowed := st.parens.headD false, parens := st.parens.tail }) :=
  h.step_plain (by decide)

/-- A slash that is read as code in code opens neither a comment nor a regular
expression. -/
lemma InCode.of_slash (h : st.InCode) (code : (st.step '/' next).1 = .code) :
    next ≠ some '/' ∧ next ≠ some '*' ∧ st.regexAllowed = false := by
  rw [h.step_eq, stepCode_eq] at code
  refine ⟨fun line => ?_, fun block => ?_, Bool.eq_false_iff.mpr fun regex => ?_⟩
  · simp [line] at code
  · simp [block] at code
  · split_ifs at code <;> simp_all

/-- Code belongs to the character before it only where a dollar sign opens an
interpolation. -/
lemma next_of_joined (joined : (st.step c next).2.joined = some .code) : next = some '{' := by
  cases alone : st.joined with
  | some kind => simp [step, alone] at joined
  | none =>
    cases inside : st.mode with
    | code =>
        rw [InCode.step_eq ⟨inside, alone⟩, stepCode_eq] at joined
        split_ifs at joined <;> simp [plain, alone] at joined
    | lineComment | blockComment =>
        simp only [step, alone, inside] at joined
        split_ifs at joined <;> simp [alone] at joined
    | string quote =>
        simp only [step, alone, inside, stepString] at joined
        split_ifs at joined <;> simp [alone] at joined
    | regex inClass =>
        simp only [step, alone, inside, stepRegex] at joined
        split_ifs at joined <;> simp [alone] at joined
    | template =>
        simp only [step, alone, inside, stepTemplate] at joined
        split_ifs at joined with _ _ opening <;> simp [alone] at joined
        simpa using (Bool.and_eq_true_iff.mp opening).2

/-- What is read as code without being in code is a brace that opens an interpolation,
its dollar sign, or the line feed behind something that it ends. -/
lemma inCode_or_of_code (code : (st.step c next).1 = .code) :
    st.InCode ∨ st.joined = some .code ∨ c = '$' ∨ c = '\n' := by
  cases alone : st.joined with
  | some kind =>
      simp only [step, alone] at code
      exact .inr (.inl (by rw [code]))
  | none =>
    cases inside : st.mode with
    | code => exact .inl ⟨inside, alone⟩
    | lineComment | blockComment =>
        simp only [step, alone, inside] at code
        split_ifs at code <;> simp_all
    | string quote =>
        simp only [step, alone, inside, stepString] at code
        split_ifs at code
        simp_all
    | regex inClass =>
        simp only [step, alone, inside, stepRegex] at code
        split_ifs at code
        simp_all
    | template =>
        simp only [step, alone, inside, stepTemplate] at code
        split_ifs at code
        simp_all

end State

/-! ### Words in a text -/

/-- A character of code that belongs to the one before it is a brace. -/
lemma brace_of_joined {t : Text} {i : Nat} (joined : (stateAt t i).joined = some .code)
    (within : i < t.length) : t[i]? = some '{' := by
  cases i with
  | zero =>
      rw [stateAt_zero] at joined
      cases joined
  | succ j =>
      have before : t[j]? = some t[j] := List.getElem?_eq_getElem (Nat.lt_of_succ_lt within)
      rw [stateAt_succ before] at joined
      exact State.next_of_joined joined

/-- A character stands at an offset, in code and by itself. -/
def CodeAt (t : Text) (i : Nat) (c : Char) : Prop := (stateAt t i).InCode ∧ t[i]? = some c
  deriving Decidable

/-- A character of a word stands at an offset, in code. -/
def NameAt (t : Text) (i : Nat) : Prop :=
  (stateAt t i).InCode ∧ t[i]?.any isName = true
  deriving Decidable

/-- A character of a word stands at an offset, and the scanner takes it for the next
one of the word that it is in. -/
def GoesOn (t : Text) (i : Nat) : Prop := NameAt t i ∧ (stateAt t i).inWord = true
  deriving Decidable

/-- A slash that is read as code stands alone in code. -/
lemma inCode_of_slash {t : Text} {i : Nat} (slash : t[i]? = some '/')
    (code : (kinds t)[i]? = some .code) : (stateAt t i).InCode := by
  rw [getElem?_kinds, slash, Option.map_some, Option.some_inj] at code
  rcases State.inCode_or_of_code code with inCode | joined | dollar | feed
  · exact inCode
  · have brace := brace_of_joined joined (List.getElem?_eq_some_iff.mp slash).1
    rw [slash] at brace
    cases brace
  · cases dollar
  · cases feed

lemma NameAt.lt {t : Text} {i : Nat} (h : NameAt t i) : i < t.length := by
  obtain ⟨c, stands, -⟩ := (Option.any_eq_true _ _).mp h.2
  exact (List.getElem?_eq_some_iff.mp stands).1

/-- The kinds of what follows are the same whether the scanner is in a word or not,
if the next character of a word does not go on one. -/
lemma kinds_forget {t : Text} (before rest : Text) (parts : t = before ++ rest)
    (apart : ∀ i, before.length ≤ i → (∀ j, before.length ≤ j → j < i → ¬ NameAt t j) →
      ¬ GoesOn t i) :
    (stateAt t before.length).forget.kinds rest = (stateAt t before.length).kinds rest := by
  induction rest generalizing before with
  | nil => rfl
  | cons c rest ih =>
      have here : t[before.length]? = some c := by simp [parts]
      have next : t[before.length + 1]? = rest.head? := by
        simp [parts, List.getElem?_append_right, List.head?_eq_getElem?]
      by_cases word : NameAt t before.length
      · have fresh : (stateAt t before.length).inWord = false := by
          rw [Bool.eq_false_iff]
          exact fun inWord => apart _ (Nat.le_refl _) (fun j le lt => absurd lt (by omega)) ⟨word, inWord⟩
        have same : (stateAt t before.length).forget = stateAt t before.length := by
          rw [State.forget, ← fresh]
        rw [same]
      · have other : (stateAt t before.length).InCode → isName c = false := by
          intro inCode
          rw [Bool.eq_false_iff]
          exact fun name => word ⟨inCode, by rw [here]; exact name⟩
        have later := ih (before ++ [c]) (by simp [parts]) ?_
        · rw [List.length_append, List.length_singleton, stateAt_succ here, next] at later
          rw [State.kinds, State.kinds, State.step_forget other, later]
        · intro i le between
          rw [List.length_append, List.length_singleton] at le between
          refine apart i (by omega) fun j low high => ?_
          by_cases first : j = before.length
          · rw [first]
            exact word
          · exact between j (by omega) high

end LintRepair.Lexical
