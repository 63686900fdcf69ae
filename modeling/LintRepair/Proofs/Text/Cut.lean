/-
Classes of characters, and texts cut at blanks and offsets.

* `isBlank_of_isSpaceOrTab`, `isName_of_isNameStart`: one class within another;
* `startsIn_append`, `endsIn_append`: the first and the last character of two texts;
* `find?_eq_some_iff`: the first occurrence of a text in another;
* `trimLeft_append`, `exists_trim`, `trim_trim`: just the blanks at the ends are cut;
* `length_slice`, `drop_eq_slice_append`, `slice_append_slice`: the part between two
  offsets.
-/
import LintRepair.Text.Basic
import Mathlib.Data.List.DropRight
import Mathlib.Tactic.Common

namespace LintRepair.Text

variable {t u : Text} {i j : Nat}

/-! ### Classes of characters -/

lemma isBlank_of_isSpaceOrTab {c : Char} (blank : isSpaceOrTab c = true) :
    isBlank c = true := by
  rw [isSpaceOrTab, Bool.or_eq_true, beq_iff_eq, beq_iff_eq] at blank
  rcases blank with rfl | rfl <;> rfl

lemma isName_of_isNameStart {c : Char} (first : isNameStart c = true) : isName c = true := by
  rw [isNameStart, Bool.or_eq_true, Bool.or_eq_true] at first
  rcases first with (letter | underscore) | dollar
  · have ascii : c.toNat < 128 := by
      simp only [isAsciiLetter, Bool.or_eq_true, Bool.and_eq_true, decide_eq_true_eq, Char.le_def,
        UInt32.le_iff_toNat_le] at letter
      change c.val.toNat < 128
      rcases letter with ⟨-, small⟩ | ⟨-, capital⟩
      · exact Nat.lt_of_le_of_lt small (by decide)
      · exact Nat.lt_of_le_of_lt capital (by decide)
    simp [isName, isWord, isAlnum, ascii, letter]
  · simp [isName, isWord, underscore]
  · simp [isName, dollar]

lemma isWord_of_isName (ends : startsIn isName t = false) : startsIn isWord t = false := by
  cases t with
  | nil => rfl
  | cons c rest =>
      change isName c = false at ends
      rw [isName, Bool.or_eq_false_iff] at ends
      exact ends.1

lemma endsIn_isWord_of_isName (ends : endsIn isName t = false) : endsIn isWord t = false := by
  rw [endsIn] at ends ⊢
  cases last : t.getLast? with
  | none => rfl
  | some c =>
      rw [last, Option.any_some, isName, Bool.or_eq_false_iff] at ends
      exact ends.1

/-! ### First and last characters -/

lemma startsIn_append {p : Char → Bool} (some' : t ≠ []) (u : Text) :
    startsIn p (t ++ u) = startsIn p t := by
  cases t with
  | nil => exact absurd rfl some'
  | cons c rest => rfl

lemma endsIn_append {p : Char → Bool} (some' : u ≠ []) (t : Text) :
    endsIn p (t ++ u) = endsIn p u := by
  rw [endsIn, endsIn, List.getLast?_append, List.getLast?_eq_some_getLast some']
  rfl

/-- Neither of two texts starts with a character of a class. -/
lemma startsIn_append_eq_false {p : Char → Bool} (first : startsIn p t = false)
    (second : startsIn p u = false) : startsIn p (t ++ u) = false := by
  cases t with
  | nil => exact second
  | cons c rest => exact first

/-- Neither of two texts ends with one. -/
lemma endsIn_append_eq_false {p : Char → Bool} (first : endsIn p t = false)
    (second : endsIn p u = false) : endsIn p (t ++ u) = false := by
  by_cases some' : u = []
  · rwa [some', List.append_nil]
  · rwa [endsIn_append some']

/-! ### Occurrences -/

/-- The first occurrence of a text is where it stands, and stands nowhere before. -/
lemma find?_eq_some_iff {part t : Text} {i : Nat} :
    find? part t = some i ↔ part <+: t.drop i ∧ ∀ k < i, ¬ part <+: t.drop k := by
  induction t generalizing i with
  | nil =>
      cases part with
      | cons c part => simp [find?]
      | nil =>
          have first : 0 = i ↔ ∀ k, i ≤ k :=
            ⟨fun h k => h ▸ k.zero_le, fun h => (Nat.le_zero.mp (h 0)).symm⟩
          simp [find?, first]
  | cons c rest ih =>
      by_cases here : part <+: c :: rest
      · rw [find?, if_pos (List.isPrefixOf_iff_prefix.mpr here)]
        cases i with
        | zero => simp [here]
        | succ i =>
            have later : ¬ ∀ k < i + 1, ¬ part <+: (c :: rest).drop k := fun h =>
              h 0 i.succ_pos here
            simp only [Option.some.injEq, later, and_false, reduceCtorEq]
      · rw [find?, if_neg (mt List.isPrefixOf_iff_prefix.mp here), Option.map_eq_some_iff]
        cases i with
        | zero => simp [here]
        | succ i =>
            have later : (∀ k < i + 1, ¬ part <+: (c :: rest).drop k) ↔
                ∀ k < i, ¬ part <+: rest.drop k :=
              Nat.forall_lt_succ_left.trans (and_iff_right here)
            rw [later, List.drop_succ_cons, ← ih]
            simp

lemma contains_iff {t part : Text} : contains t part = true ↔ part <:+: t := by
  rw [contains]
  induction t with
  | nil => cases part <;> simp [find?]
  | cons c rest ih =>
      rw [find?, List.infix_cons_iff, ← List.isPrefixOf_iff_prefix, ← ih]
      split_ifs with here <;> simp [here]

/-! ### Blanks -/

lemma isBlank_of_mem_leadingBlanks : ∀ c ∈ leadingBlanks t, isBlank c = true :=
  fun _ hc => List.mem_takeWhile_imp hc

lemma startsIn_trimLeft (t : Text) : startsIn isBlank (trimLeft t) = false := by
  have stop := List.head?_dropWhile_not isBlank t
  rw [startsIn, trimLeft]
  cases first : (t.dropWhile isBlank).head? with
  | none => rfl
  | some c =>
      rw [first] at stop
      simpa using stop

lemma trimLeft_of_solid (solid : startsIn isBlank t = false) : trimLeft t = t := by
  cases t with
  | nil => rfl
  | cons c rest =>
      change isBlank c = false at solid
      rw [trimLeft, List.dropWhile_cons_of_neg (by rw [solid]; exact Bool.false_ne_true)]

/-- Blanks before a text are cut. -/
lemma trimLeft_append (blank : ∀ c ∈ u, isBlank c = true) (solid : startsIn isBlank t = false) :
    trimLeft (u ++ t) = t := by
  rw [trimLeft, List.dropWhile_append_of_pos blank]
  exact trimLeft_of_solid solid

/-- The end of a text that does not end in a blank stays. -/
lemma trimRight_append_singleton {c : Char} (t : Text) (solid : isBlank c = false) :
    trimRight (t ++ [c]) = t ++ [c] := by
  simp [trimRight, dropEndWhile, solid]

/-- Blanks at the end are cut. -/
lemma trimRight_append (t : Text) (blank : ∀ c ∈ u, isBlank c = true) :
    trimRight (t ++ u) = trimRight t := by
  rw [trimRight, trimRight, dropEndWhile, dropEndWhile, List.reverse_append,
    List.dropWhile_append_of_pos fun c among => blank c (List.mem_reverse.mp among)]

/-- What is left of a text without the blanks at its ends does not end in one. -/
lemma exists_trim (t : Text) : ∃ u v : Text, t = u ++ (trim t ++ v) ∧ (∀ c ∈ u, isBlank c = true) ∧
    (∀ c ∈ v, isBlank c = true) ∧ ∀ c ∈ (trim t).getLast?, isBlank c = false := by
  obtain ⟨v, split, blank⟩ := trimRight_append_blanks (trimLeft t)
  refine ⟨t.takeWhile isBlank, v, ?_, fun c hc => List.mem_takeWhile_imp hc, blank, ?_⟩
  · rw [trim, ← split, trimLeft, List.takeWhile_append_dropWhile]
  · intro c hc
    rw [trim, trimRight, dropEndWhile, List.getLast?_reverse] at hc
    have stop := List.head?_dropWhile_not isBlank (trimLeft t).reverse
    rw [hc] at stop
    simpa using stop

/-- There are no blanks to cut where they have been. -/
@[simp]
lemma trim_trim (t : Text) : trim (trim t) = trim t := by
  have start : trim t <+: trimLeft t := List.rdropWhile_prefix isBlank _
  have solid : startsIn isBlank (trim t) = false := by
    have solid := startsIn_trimLeft t
    obtain ⟨behind, shape⟩ := start
    rw [← shape] at solid
    by_cases empty : trim t = []
    · rw [empty]
      rfl
    · rwa [startsIn_append empty] at solid
  rw [trim, trimLeft_of_solid solid]
  exact List.rdropWhile_idempotent isBlank _

/-- Characters of a class are taken off the end of a text, as far as they go. -/
lemma exists_dropEndWhile (p : Char → Bool) (t : Text) : ∃ v : Text, t = dropEndWhile p t ++ v ∧
    (∀ c ∈ v, p c = true) ∧ ∀ c ∈ (dropEndWhile p t).getLast?, p c = false := by
  refine ⟨(t.reverse.takeWhile p).reverse, ?_, ?_, ?_⟩
  · rw [dropEndWhile, ← List.reverse_append, List.takeWhile_append_dropWhile, List.reverse_reverse]
  · intro c among
    exact List.mem_takeWhile_imp (List.mem_reverse.mp among)
  · intro c last
    rw [dropEndWhile, List.getLast?_reverse] at last
    have other := List.head?_dropWhile_not p t.reverse
    rw [Option.mem_def.mp last] at other
    exact other

/-- And no further. -/
lemma dropEndWhile_of_last {p : Char → Bool} (after : ∀ c ∈ u, p c = true)
    (last : ∀ c ∈ t.getLast?, p c = false) : dropEndWhile p (t ++ u) = t := by
  have front : t.reverse.dropWhile p = t.reverse := by
    rw [← List.head?_reverse] at last
    cases rev : t.reverse with
    | nil => rfl
    | cons c rest => exact List.dropWhile_cons_of_neg (by simp [last c (by rw [rev]; rfl)])
  rw [dropEndWhile, List.reverse_append,
    List.dropWhile_append_of_pos fun c among => after c (List.mem_reverse.mp among), front,
    List.reverse_reverse]

/-- Blanks at the end are cut up to a text that does not end in one. -/
lemma trimRight_append_of_solid (solid : endsIn isBlank t = false) (u : Text) :
    trimRight (t ++ u) = t ++ trimRight u := by
  obtain ⟨v, parts, blank, last⟩ := exists_dropEndWhile isBlank u
  have last' : ∀ c ∈ (t ++ trimRight u).getLast?, isBlank c = false := by
    intro c here
    rw [Option.mem_def, List.getLast?_append] at here
    cases ends : (trimRight u).getLast? with
    | none =>
        rw [ends, Option.none_or] at here
        rwa [endsIn, here, Option.any_some] at solid
    | some d =>
        rw [ends, Option.some_or] at here
        exact last c (ends.trans here)
  have parts' : t ++ u = (t ++ trimRight u) ++ v := by
    conv_lhs => rw [parts]
    rw [trimRight, List.append_assoc]
  rw [parts', trimRight, dropEndWhile_of_last blank last']

lemma length_dropEndWhile_le (p : Char → Bool) (t : Text) : (dropEndWhile p t).length ≤ t.length :=
  (List.rdropWhile_prefix p t).length_le

lemma length_trim_le (t : Text) : (trim t).length ≤ t.length :=
  Nat.le_trans (length_dropEndWhile_le isBlank _) (List.dropWhile_suffix isBlank).length_le

/-! ### Parts between offsets -/

lemma length_slice (low : i ≤ j) (high : j ≤ t.length) : (slice t i j).length = j - i := by
  rw [slice, List.length_take, List.length_drop]
  omega

lemma take_eq_take_append_slice (low : i ≤ j) : t.take j = t.take i ++ slice t i j := by
  conv_lhs => rw [← Nat.add_sub_cancel' low, List.take_add]
  rfl

lemma drop_eq_slice_append (low : i ≤ j) : t.drop i = slice t i j ++ t.drop j := by
  have later : t.drop j = (t.drop i).drop (j - i) := by
    rw [List.drop_drop, Nat.add_sub_cancel' low]
  rw [later, slice, List.take_append_drop]

/-- What stands behind an offset up to another one, and behind that. -/
lemma drop_eq_slice_cons {c : Char} (low : i ≤ j) (here : t[j]? = some c) :
    t.drop i = slice t i j ++ c :: t.drop (j + 1) := by
  obtain ⟨within, here⟩ := List.getElem?_eq_some_iff.mp here
  rw [drop_eq_slice_append low, List.drop_eq_getElem_cons within, here]

/-- A part between two offsets, cut in two. -/
lemma slice_append_slice {k : Nat} (low : i ≤ j) (high : j ≤ k) :
    slice t i k = slice t i j ++ slice t j k := by
  have lengths : k - i = (j - i) + (k - j) := by omega
  rw [slice, lengths, List.take_add, List.drop_drop, Nat.add_sub_cancel' low]
  rfl

lemma drop_slice (t : Text) (i j k : Nat) : (slice t i j).drop k = slice t (i + k) j := by
  rw [slice, slice, List.drop_take, List.drop_drop, Nat.sub_sub]

lemma getElem?_slice {k : Nat} (low : i ≤ k) (high : k < j) :
    (slice t i j)[k - i]? = t[k]? := by
  rw [slice, List.getElem?_take_of_lt (by omega), List.getElem?_drop, Nat.add_sub_cancel' low]

/-- The character before an offset. -/
lemma getLast?_take_of_le (within : i ≤ t.length) :
    (t.take i).getLast? = if i = 0 then none else t[i - 1]? := by
  rw [List.getLast?_take]
  split_ifs with first
  · rfl
  · rw [List.getElem?_eq_getElem (by omega)]
    rfl

lemma length_slice_le (t : Text) (i j : Nat) : (slice t i j).length ≤ t.length := by
  rw [slice, List.length_take, List.length_drop]
  omega

lemma lt_of_slice_ne_nil (some' : slice t i j ≠ []) : i < j := by
  by_contra other
  rw [slice, Nat.sub_eq_zero_of_le (Nat.not_lt.mp other)] at some'
  exact some' rfl

end LintRepair.Text
