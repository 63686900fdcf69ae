/-
Masked texts, and masking them again.

* `Masks`: a text holds what is code in another one, and blanks elsewhere;
* `MasksLine`: a line of the masked text has the columns of the line;
* `mask_geometry`: both hold of the masked text, with one kind for each character;
* `FollowsRegex`: since a regular expression ended, nothing has told whether another one
  may start;
* `Seamless`: no literal and no word is torn by masking the text;
* `Beside`: at an offset, where the scanner is in the text and in the masked text;
* `mask_mask_iff`: masking such a text twice is masking it once, just if no slash
  divides behind a regular expression.
-/
import LintRepair.Proofs.Lexical.Registers
import LintRepair.Proofs.Lexical.Shadow
import LintRepair.Proofs.Text.Around

namespace LintRepair.Lexical

open Text

/-! ### The geometry of masking -/

/-- What is filled in are blanks, unless another text is asked for. -/
lemma maskWith_blank (t : Text) : maskWith [' '] t = mask t := by
  rw [maskWith, mask, ← List.flatMap_def, ← List.map_uncurry_zip_eq_zipWith, List.map_eq_flatMap]
  refine List.flatMap_congr fun p _ => ?_
  obtain ⟨c, kind⟩ := p
  rw [Function.uncurry_apply_pair]
  dsimp only
  split_ifs <;> rfl

/-- A text masks another one: it has its length and its line feeds, the characters of code and
the delimiters stand in it, and in place of all others there are blanks. -/
structure Masks (t m : Text) : Prop where
  length : m.length = t.length
  feeds : ∀ i : Nat, m[i]? = some '\n' ↔ t[i]? = some '\n'
  kept : ∀ i : Nat, (kinds t)[i]? = some .code ∨ (kinds t)[i]? = some .delimiter → m[i]? = t[i]?
  filled : ∀ (i : Nat) (c : Char), t[i]? = some c → c ≠ '\n' →
    (kinds t)[i]? ≠ some .code → (kinds t)[i]? ≠ some .delimiter → m[i]? = some ' '

lemma masks_mask (t : Text) : Masks t (mask t) where
  length := length_mask t
  feeds _ := getElem?_mask_eq_newline_iff
  kept i code := by
    rw [getElem?_mask]
    cases here : t[i]? with
    | none => rfl
    | some c =>
        rw [getElem?_kinds, here, Option.map_some, Option.some_inj, Option.some_inj] at code
        rw [Option.map_some, Kind.masked_of_isKept]
        rcases code with code | delimiter
        · rw [code]
          rfl
        · rw [delimiter]
          rfl
  filled i c here other code delimiter := by
    rw [getElem?_kinds, here, Option.map_some, Ne, Option.some_inj] at code delimiter
    rw [getElem?_mask, here, Option.map_some, Kind.masked_of_ne _ other]
    cases read : ((stateAt t i).step c t[i + 1]?).1 with
    | code => exact absurd read code
    | delimiter => exact absurd read delimiter
    | string | comment | regex | template => rfl

/-- The masked line goes with the line, column by column. -/
structure MasksLine (t : Text) (line : Int) : Prop where
  length : (maskedLine t line).length = (getLine t line).length
  isLine : line? (mask t) line = some (maskedLine t line)
  columns : ∀ j < (getLine t line).length,
    (getLine t line)[j]? = t[lineStart t line + j]? ∧
      (maskedLine t line)[j]? = (mask t)[lineStart t line + j]?

lemma masksLine {t : Text} {line : Int} (there : (line? t line).isSome = true) : MasksLine t line := by
  obtain ⟨l, found⟩ := Option.isSome_iff_exists.mp there
  obtain ⟨above, below, h⟩ := exists_around found
  refine ⟨?_, line?_mask there, fun j inside => ?_⟩
  · rw [h.getLine]
    exact h.length_maskedLine
  rw [h.getLine] at inside ⊢
  constructor
  · rw [h.lineStart]
    conv_rhs => rw [h.eq]
    rw [List.getElem?_append_right (Nat.le_add_right _ _), Nat.add_sub_cancel_left,
      List.getElem?_append_left inside]
  · rw [h.maskedLine, List.getElem?_take_of_lt inside, List.getElem?_drop]

/-- **The geometry of masking.** The scanner records one kind for each character of a text, to
its very end; masked by them, the text keeps its length, its line feeds and all that is code;
and each of its lines is masked column by column. -/
theorem mask_geometry (t : Text) :
    (scan t t.length).2 = kinds t ∧ (kinds t).length = t.length ∧
      maskWith [' '] t = mask t ∧ Masks t (mask t) ∧
      ∀ line, (line? t line).isSome = true → MasksLine t line :=
  ⟨recorded_scan t, length_kinds t, maskWith_blank t, masks_mask t, fun _ => masksLine⟩

/-- A comment above a string that ends with the text, in an escape. -/
theorem mask_geometry_escape :
    (line? "/*a\nb*/'\\".toList 2).isSome = true ∧ MasksLine "/*a\nb*/'\\".toList 2 ∧
      (scan "/*a\nb*/'\\".toList 9).2 =
        [.comment, .comment, .comment, .comment, .comment, .comment, .comment, .delimiter, .string] ∧
      maskWith [' '] "/*a\nb*/'\\".toList = "   \n   ' ".toList := by
  obtain ⟨recorded, -, blanks, -, lines⟩ := mask_geometry "/*a\nb*/'\\".toList
  have there : (line? "/*a\nb*/'\\".toList 2).isSome = true := by decide
  refine ⟨there, lines 2 there, ?_, ?_⟩
  · rw [show (9 : Int) = "/*a\nb*/'\\".toList.length from rfl, recorded]
    decide
  · rw [blanks]
    decide

/-! ### A text and its masked text -/

/-- The character at an offset tells whether a slash behind it opens a regular
expression: it ends another literal, or it is one of code and not blank, and there is
code behind it. -/
def Telling (t : Text) (i : Nat) : Prop :=
  (stateAt t (i + 1)).mode = .code ∧
    ((kinds t)[i]? = some .delimiter ∨
      (kinds t)[i]? = some .code ∧ t[i]?.any isBlank = false)
  deriving Decidable

/-- Since a regular expression ended before an offset, nothing has told whether another
one may start there: there are only blanks, comments and literals that did not end. -/
def FollowsRegex (t : Text) (i : Nat) : Prop :=
  ∃ p < i, EndsRegex t p ∧ ∀ m < i, p < m → ¬ Telling t m

instance (t : Text) (i : Nat) : Decidable (FollowsRegex t i) :=
  decidable_of_iff (∃ p ∈ List.range i, EndsRegex t p ∧ ∀ m ∈ List.range i, p < m → ¬ Telling t m)
    (by simp only [List.mem_range, FollowsRegex])

section Text

variable {t : Text} {i : Nat} {c : Char}

lemma endsRegex_iff (stands : t[i]? = some c) : EndsRegex t i ↔
    ((stateAt t i).step c t[i + 1]?).1 = .regex ∧
      ((stateAt t i).step c t[i + 1]?).2.mode = .code := by
  rw [EndsRegex, getElem?_kinds, stands, Option.map_some, Option.some_inj, stateAt_succ stands]

lemma telling_iff (stands : t[i]? = some c) :
    Telling t i ↔ (stateAt t i).Tells c t[i + 1]? := by
  rw [Telling, getElem?_kinds, stands, Option.map_some, Option.some_inj, Option.some_inj,
    stateAt_succ stands, Option.any_some, State.Tells]

/-- What ends a regular expression does not tell. -/
lemma EndsRegex.not_telling (h : EndsRegex t i) : ¬ Telling t i := by
  rintro ⟨-, delimiter | ⟨code, -⟩⟩
  · rw [h.1] at delimiter
    cases delimiter
  · rw [h.1] at code
    cases code

/-- One character more. -/
lemma followsRegex_succ :
    FollowsRegex t (i + 1) ↔ EndsRegex t i ∨ FollowsRegex t i ∧ ¬ Telling t i := by
  constructor
  · rintro ⟨p, before, ends, silent⟩
    rcases Nat.eq_or_lt_of_le (Nat.le_of_lt_succ before) with rfl | earlier
    · exact .inl ends
    · exact .inr ⟨⟨p, earlier, ends, fun m low high => silent m (by omega) high⟩,
        silent i (Nat.lt_succ_self i) earlier⟩
  · rintro (ends | ⟨⟨p, before, ends, silent⟩, last⟩)
    · exact ⟨i, Nat.lt_succ_self i, ends, fun m low high => by omega⟩
    · refine ⟨p, by omega, ends, fun m low high => ?_⟩
      rcases Nat.eq_or_lt_of_le (Nat.le_of_lt_succ low) with rfl | earlier
      · exact last
      · exact silent m earlier high

/-- Nothing in a text is torn by masking it: no string goes on in another line, every
word goes on with the character behind it, and no regular expression starts where a
parenthesis would open the head of a control statement. -/
structure Seamless (t : Text) : Prop where
  lines : ∀ i : Nat, t[i]? = some '\n' → (kinds t)[i]? ≠ some .string
  words : ∀ i : Nat, GoesOn t (i + 1) → NameAt t i
  heads : ∀ i : Nat, (stateAt t i).mode = .code → (kinds t)[i]? = some .regex →
    (stateAt t i).expectsHead = false

/-- Behind the end of a text there is nothing to tear. -/
instance (t : Text) : Decidable (Seamless t) :=
  decidable_of_iff (∀ i < t.length,
      (t[i]? = some '\n' → (kinds t)[i]? ≠ some .string) ∧ (GoesOn t (i + 1) → NameAt t i) ∧
        ((stateAt t i).mode = .code → (kinds t)[i]? = some .regex →
          (stateAt t i).expectsHead = false)) <| by
    constructor
    · intro h
      refine ⟨fun i feed => ?_, fun i goesOn => ?_, fun i inside regex => ?_⟩
      · exact (h i (List.getElem?_eq_some_iff.mp feed).1).1 feed
      · exact (h i (Nat.lt_of_succ_lt goesOn.1.lt)).2.1 goesOn
      · have within := (List.getElem?_eq_some_iff.mp regex).1
        exact (h i (by simpa using within)).2.2 inside regex
    · exact fun h i _ => ⟨h.lines i, h.words i, h.heads i⟩

/-- Where the scanner is in the masked text, beside where it is in the text: behind a
regular expression a slash may open another one, and a word that goes on with every
character does so as well. -/
structure Beside (t : Text) (i : Nat) : Prop where
  state : (stateAt (mask t) i).Shadows (stateAt t i)
  allowed : (stateAt (mask t) i).regexAllowed = true ↔
    (stateAt t i).regexAllowed = true ∨ FollowsRegex t i
  inWord : ∀ j, i = j + 1 → NameAt t j → (stateAt (mask t) i).inWord = true

namespace Beside

lemma start (t : Text) : Beside t 0 := by
  refine ⟨?_, ?_, by simp⟩
  · rw [stateAt_zero, stateAt_zero]
    exact ⟨rfl, rfl, rfl, rfl, id, rfl, rfl⟩
  · rw [stateAt_zero, stateAt_zero]
    exact ⟨.inl, fun _ => rfl⟩

/-- The character at the offset. -/
lemma echoes (h : Beside t i) (seamless : Seamless t) (stands : t[i]? = some c)
    (divides : t[i]? = some '/' → (kinds t)[i]? = some .code → ¬ FollowsRegex t i) :
    (stateAt t i).Echoes (stateAt (mask t) i) c t[i + 1]? (mask t)[i + 1]? := by
  have kind : (kinds t)[i]? = some ((stateAt t i).step c t[i + 1]?).1 := by
    rw [getElem?_kinds, stands, Option.map_some]
  refine h.state.echoes (tidy_stateAt t i) (consistent_stateAt t i) ?_ ?_ ?_ ?_ ?_ ?_ ?_
  · exact mask_eq_or t (i + 1)
  · intro joined
    rw [← stateAt_succ stands] at joined
    rw [getElem?_mask]
    cases behind : t[i + 1]? with
    | none => rfl
    | some d =>
        rw [Option.map_some, State.step, joined]
        exact congrArg some (Kind.masked_of_isKept rfl)
  · exact fun allowed => h.allowed.mpr (.inl allowed)
  · rintro rfl string
    exact seamless.lines i stands (by rw [kind, string])
  · rintro rfl code
    have stands' : (kinds t)[i]? = some .code := by rw [kind, code]
    obtain ⟨-, -, divided⟩ := (inCode_of_slash stands stands').of_slash code
    rw [Bool.eq_false_iff, Ne, h.allowed, not_or]
    exact ⟨by simp [divided], divides stands stands'⟩
  · intro inCode name inWord
    have goesOn : GoesOn t i := ⟨⟨inCode, by rw [stands]; exact name⟩, inWord⟩
    cases i with
    | zero =>
        rw [stateAt_zero] at inWord
        cases inWord
    | succ j => exact h.inWord j rfl (seamless.words j goesOn)
  · intro inside regex
    exact seamless.heads i inside (by rw [kind, regex])

/-- The next offset. -/
lemma succ (h : Beside t i) (seamless : Seamless t) (within : i < t.length)
    (divides : t[i]? = some '/' → (kinds t)[i]? = some .code → ¬ FollowsRegex t i) :
    Beside t (i + 1) := by
  have stands : t[i]? = some t[i] := List.getElem?_eq_getElem within
  have found := h.echoes seamless stands divides
  have stands' : (mask t)[i]? = some (((stateAt t i).step t[i] t[i + 1]?).1.masked t[i]) := by
    rw [getElem?_mask, stands, Option.map_some]
  refine ⟨?_, ?_, ?_⟩
  · rw [stateAt_succ stands, stateAt_succ stands']
    exact found.state
  · rw [stateAt_succ stands', found.allowed, followsRegex_succ]
    by_cases tells : Telling t i
    · have goesOn : ¬ EndsRegex t i := fun ends => ends.not_telling tells
      rw [if_pos ((telling_iff stands).mp tells), stateAt_succ stands]
      simp [goesOn, tells]
    have silent := mt (telling_iff stands).mpr tells
    by_cases ends : EndsRegex t i
    · obtain ⟨regex, mode⟩ := (endsRegex_iff stands).mp ends
      have allowed :=
        State.regexAllowed_of_ends (tidy_stateAt t i) (consistent_stateAt t i) regex mode
      rw [if_neg silent, h.allowed]
      simp [ends, allowed]
    · have same := State.regexAllowed_of_silent silent (mt (endsRegex_iff stands).mpr ends)
      rw [if_neg silent, h.allowed, stateAt_succ stands, same]
      simp [ends, tells]
  · rintro j same ⟨inCode, name⟩
    obtain rfl : i = j := by omega
    rw [stands, Option.any_some] at name
    have inCode' : (stateAt (mask t) i).InCode :=
      h.state.inCode (by rw [inCode.mode]; rfl) (by simp [inCode.alone])
    rw [stateAt_succ stands', inCode.step_name name, Kind.masked_of_isKept rfl, inCode'.step_name name]

/-- Up to the first division behind a regular expression. -/
lemma of_divides (seamless : Seamless t) (within : i ≤ t.length)
    (divides : ∀ j < i, t[j]? = some '/' → (kinds t)[j]? = some .code → ¬ FollowsRegex t j) :
    Beside t i := by
  induction i with
  | zero => exact start t
  | succ i ih =>
      have before := ih (by omega) fun j earlier => divides j (by omega)
      exact before.succ seamless within (divides i (Nat.lt_succ_self i))

/-- A division behind a regular expression is the start of one in the masked text. -/
lemma opens (h : Beside t i) (slash : t[i]? = some '/') (code : (kinds t)[i]? = some .code)
    (follows : FollowsRegex t i) : (mask (mask t))[i]? = some ' ' := by
  have inCode := inCode_of_slash slash code
  rw [getElem?_kinds, slash, Option.map_some, Option.some_inj] at code
  have stands' : (mask t)[i]? = some '/' := by
    rw [getElem?_mask, slash, Option.map_some, code, Kind.masked_of_isKept rfl]
  have inCode' : (stateAt (mask t) i).InCode :=
    h.state.inCode (by rw [inCode.mode]; rfl) (by simp [inCode.alone])
  obtain ⟨line, block, -⟩ := inCode.of_slash code
  have ahead : (mask t)[i + 1]? ≠ some '/' ∧ (mask t)[i + 1]? ≠ some '*' := by
    rcases mask_eq_or t (i + 1) with same | blank
    · rw [same]
      exact ⟨line, block⟩
    · rw [blank]
      exact ⟨by decide, by decide⟩
  rw [getElem?_mask, stands', Option.map_some, inCode'.step_eq, State.stepCode_eq,
    if_neg (by simp [ahead.1]), if_neg (by simp [ahead.2]),
    if_pos ⟨rfl, h.allowed.mpr (.inr follows)⟩]
  rfl

end Beside

/-- **Masking a masked text.** Where nothing in a text is torn by masking it, the masked
text stays as it is when it is masked again just if no slash divides behind a regular
expression. -/
theorem mask_mask_iff (seamless : Seamless t) : mask (mask t) = mask t ↔
    ∀ i : Nat, t[i]? = some '/' → (kinds t)[i]? = some .code → ¬ FollowsRegex t i := by
  constructor
  · intro same i
    induction i using Nat.strongRecOn with
    | _ i ih =>
      intro slash code follows
      have within : i < t.length := (List.getElem?_eq_some_iff.mp slash).1
      have beside : Beside t i := .of_divides seamless (Nat.le_of_lt within) ih
      have again := beside.opens slash code follows
      rw [same, getElem?_mask, slash, Option.map_some] at again
      rw [getElem?_kinds, slash, Option.map_some, Option.some_inj] at code
      rw [code] at again
      cases again
  · intro divides
    refine List.ext_getElem? fun i => ?_
    cases stands : t[i]? with
    | none => simp [getElem?_mask, stands]
    | some c =>
        have within : i < t.length := (List.getElem?_eq_some_iff.mp stands).1
        have beside : Beside t i := .of_divides seamless (Nat.le_of_lt within) fun j _ => divides j
        have found := beside.echoes seamless stands (divides i)
        have once : (mask t)[i]? = some (((stateAt t i).step c t[i + 1]?).1.masked c) := by
          rw [getElem?_mask, stands, Option.map_some]
        rw [getElem?_mask, once, Option.map_some, found.masked]

/-- Divisions behind a string and behind what follows a regular expression. -/
theorem mask_mask_division :
    Seamless "x = \x22a\x22 / /b/.c / 2 // d".toList ∧
      mask (mask "x = \x22a\x22 / /b/.c / 2 // d".toList) =
        mask "x = \x22a\x22 / /b/.c / 2 // d".toList := by
  have seamless : Seamless "x = \x22a\x22 / /b/.c / 2 // d".toList := by decide
  refine ⟨seamless, (mask_mask_iff seamless).mpr fun i slash code follows => ?_⟩
  have within := (List.getElem?_eq_some_iff.mp slash).1
  have none : ∀ i < 24, "x = \x22a\x22 / /b/.c / 2 // d".toList[i]? = some '/' →
      (kinds "x = \x22a\x22 / /b/.c / 2 // d".toList)[i]? = some .code →
        ¬ FollowsRegex "x = \x22a\x22 / /b/.c / 2 // d".toList i := by decide
  exact none i within slash code follows

/-- A division behind a regular expression starts one in the masked text; a string that
goes on in another line ends there; a word that a comment takes apart is two of them;
and where an interpolation ends with the name of a control statement, a parenthesis
behind a regular expression opens its head. -/
theorem mask_mask_torn :
    mask (mask "/a/ / b".toList) ≠ mask "/a/ / b".toList ∧
      mask (mask "\x22\\\n\x22a".toList) ≠ mask "\x22\\\n\x22a".toList ∧
      mask (mask "typeof/**/void / a/".toList) ≠ mask "typeof/**/void / a/".toList ∧
      mask (mask "\x60$\x7bif\x7d$\x7b/a/(b)/c/\x7d\x60".toList) ≠
        mask "\x60$\x7bif\x7d$\x7b/a/(b)/c/\x7d\x60".toList := by
  decide

end Text

end LintRepair.Lexical
