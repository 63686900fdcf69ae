/-
Lists and assignments outside brackets.

* `nesting`: how many brackets are open at the end of a text;
* `Separates`, `Part`: a separator outside brackets, and what stands between two;
* `splitMasked_append`: a text is split at a separator, and on either side as before;
  `splitMasked_of_first` and `Part.mem_splitTopLevel` for the first part and for each;
* `AssignsAt`: an assignment outside brackets, with `topLevelAssignment?_eq_some` and
  `topLevelAssignment?_eq_none` for the first of them.

Brackets and separators are read off masked text.
-/
import LintRepair.Code.Statement
import Mathlib.Tactic.Common

namespace LintRepair.Code

open Text Lexical

variable {m ms cs t : Text} {sep : Char} {i j k : Nat} {depth : Int}

/-! ### Nesting -/

/-- What a character adds to the number of open brackets. -/
def bracketStep (c : Char) : Int := if isOpener c then 1 else if isCloser c then -1 else 0

/-- How many brackets are open at the end of a text. -/
def nesting : Text → Int
  | [] => 0
  | c :: m => bracketStep c + nesting m

@[simp]
lemma nesting_nil : nesting [] = 0 := rfl

@[simp]
lemma nesting_cons (c : Char) (m : Text) : nesting (c :: m) = bracketStep c + nesting m :=
  rfl

@[simp]
lemma nesting_append (m n : Text) : nesting (m ++ n) = nesting m + nesting n := by
  induction m with
  | nil => simp
  | cons c m ih => rw [List.cons_append, nesting_cons, nesting_cons, ih, Int.add_assoc]

/-- What is no bracket. -/
def Unbracketed (c : Char) : Prop := isOpener c = false ∧ isCloser c = false

instance : DecidablePred Unbracketed := fun _ => inferInstanceAs (Decidable (_ ∧ _))

lemma Unbracketed.step {c : Char} (plain : Unbracketed c) : bracketStep c = 0 := by
  rw [bracketStep, plain.1, plain.2]
  rfl

/-! ### Cutting at a separator -/

lemma consHead_append (c : Char) {ps : List Text} (some' : ps ≠ []) (qs : List Text) :
    consHead c (ps ++ qs) = consHead c ps ++ qs := by
  cases ps with
  | nil => exact absurd rfl some'
  | cons p ps => rfl

lemma splitMasked_ne_nil {isSeparator : Char → Bool} :
    splitMasked isSeparator depth ms cs ≠ [] := by
  have consHead_ne_nil : ∀ (c : Char) (ps : List Text), consHead c ps ≠ [] := by
    intro c ps
    cases ps <;> exact List.cons_ne_nil _ _
  unfold splitMasked
  split
  · split_ifs
    · exact consHead_ne_nil _ _
    · exact consHead_ne_nil _ _
    · exact List.cons_ne_nil _ _
    · exact consHead_ne_nil _ _
  · exact List.cons_ne_nil _ _

/-- A character that does not separate belongs to the first part. -/
lemma splitMasked_cons {isSeparator : Char → Bool} {m c : Char}
    (inside : isSeparator m = true → Unbracketed m → depth ≠ 0) :
    splitMasked isSeparator depth (m :: ms) (c :: cs) =
      consHead c (splitMasked isSeparator (depth + bracketStep m) ms cs) := by
  rw [splitMasked, bracketStep]
  split_ifs with opener closer separator
  · rfl
  · rfl
  · rw [Bool.and_eq_true, beq_iff_eq] at separator
    exact absurd separator.2 (inside separator.1 ⟨by simpa using opener, by simpa using closer⟩)
  · rw [Int.add_zero]

/-- A text is split at a separator, and on either side of it as before. -/
lemma splitMasked_append {isSeparator : Char → Bool} {s c : Char} {ms' cs' : Text}
    (lengths : ms.length = cs.length) (separator : isSeparator s = true) (plain : Unbracketed s)
    (outside : depth + nesting ms = 0) :
    splitMasked isSeparator depth (ms ++ s :: ms') (cs ++ c :: cs') =
      splitMasked isSeparator depth ms cs ++ splitMasked isSeparator 0 ms' cs' := by
  induction ms generalizing cs depth with
  | nil =>
      obtain rfl := List.length_eq_zero_iff.mp lengths.symm
      obtain rfl : depth = 0 := by simpa using outside
      simp [splitMasked, plain.1, plain.2, separator]
  | cons m ms ih =>
      cases cs with
      | nil => cases lengths
      | cons d ds =>
          have lengths' : ms.length = ds.length := by simpa using lengths
          rw [nesting_cons, ← Int.add_assoc] at outside
          rw [List.cons_append, List.cons_append]
          by_cases here : isSeparator m = true ∧ Unbracketed m ∧ depth = 0
          · obtain ⟨separates, free, rfl⟩ := here
            rw [free.step] at outside
            rw [Int.add_zero] at outside
            simp only [splitMasked, free.1, free.2, separates, Bool.and_self, beq_self_eq_true,
              Bool.false_eq_true, if_false, if_true]
            rw [ih lengths' outside, List.cons_append]
          · have inside : isSeparator m = true → Unbracketed m → depth ≠ 0 :=
              fun separates free zero => here ⟨separates, free, zero⟩
            rw [splitMasked_cons inside, splitMasked_cons inside, ih lengths' outside,
              consHead_append d splitMasked_ne_nil]

/-- A text without a separator is one part. -/
lemma splitMasked_whole (lengths : ms.length = cs.length)
    (none' : ∀ k, ms[k]? = some sep → depth + nesting (ms.take k) ≠ 0) :
    splitMasked (· == sep) depth ms cs = [cs] := by
  induction ms generalizing cs depth with
  | nil =>
      obtain rfl := List.length_eq_zero_iff.mp lengths.symm
      rfl
  | cons m ms ih =>
      cases cs with
      | nil => cases lengths
      | cons c cs =>
          have inside : (m == sep) = true → Unbracketed m → depth ≠ 0 := by
            intro separator _
            have := none' 0 (by rw [beq_iff_eq.mp separator]; rfl)
            simpa using this
          rw [splitMasked_cons inside, ih (by simpa using lengths) fun k stands => ?_]
          · rfl
          · have := none' (k + 1) stands
            rwa [List.take_succ_cons, nesting_cons, ← Int.add_assoc] at this

/-! ### Parts -/

/-- A separator stands at an offset of masked text, outside brackets. -/
def Separates (sep : Char) (m : Text) (i : Nat) : Prop :=
  m[i]? = some sep ∧ nesting (m.take i) = 0
  deriving Decidable

/-- What stands from one offset of masked text up to another is a part of a
list: a separator or an end of the text on either side, and none inside. -/
structure Part (sep : Char) (m : Text) (i j : Nat) : Prop where
  le : i ≤ j
  first : i = 0 ∨ 0 < i ∧ Separates sep m (i - 1)
  last : j = m.length ∨ Separates sep m j
  inside : ∀ k, i ≤ k → k < j → ¬ Separates sep m k

lemma not_separates_of_notMem (none' : sep ∉ m) : ¬ Separates sep m i :=
  fun separates => none' (List.mem_of_getElem? separates.1)

/-- A text without separators is one part. -/
lemma part_of_none (none' : ∀ k, ¬ Separates sep m k) : Part sep m 0 m.length :=
  ⟨Nat.zero_le _, .inl rfl, .inl rfl, fun k _ _ => none' k⟩

lemma Separates.lt (h : Separates sep m i) : i < m.length :=
  (List.getElem?_eq_some_iff.mp h.1).1

lemma Separates.eq_append (h : Separates sep m i) : m = m.take i ++ sep :: m.drop (i + 1) := by
  obtain ⟨within, here⟩ := List.getElem?_eq_some_iff.mp h.1
  rw [← here, ← List.drop_eq_getElem_cons within, List.take_append_drop]

/-- Behind a separator no bracket is open. -/
lemma Separates.nesting_take_succ (plain : Unbracketed sep) (h : Separates sep m i) :
    nesting (m.take (i + 1)) = 0 := by
  rw [List.take_add_one, h.1, nesting_append, h.2]
  simp [plain.step]

lemma separates_drop (level : nesting (m.take i) = 0) :
    Separates sep (m.drop i) k ↔ Separates sep m (i + k) := by
  rw [Separates, Separates, List.getElem?_drop, List.take_add, nesting_append, level, Int.zero_add]

/-- Where a part starts no bracket is open. -/
lemma Part.level (plain : Unbracketed sep) (h : Part sep m i j) : nesting (m.take i) = 0 := by
  rcases h.first with rfl | ⟨later, separates⟩
  · rfl
  · rw [← Nat.sub_add_cancel later]
    exact separates.nesting_take_succ plain

lemma Part.le_length (h : Part sep m i j) : j ≤ m.length := by
  rcases h.last with rfl | separates
  · exact Nat.le_refl _
  · exact Nat.le_of_lt separates.lt

/-- A part is the first of what stands from its start on. -/
lemma Part.drop (plain : Unbracketed sep) (h : Part sep m i j) :
    Part sep (m.drop i) 0 (j - i) := by
  have shifted (k : Nat) : Separates sep (m.drop i) k ↔ Separates sep m (i + k) :=
    separates_drop (h.level plain)
  have le := h.le
  refine ⟨Nat.zero_le _, .inl rfl, ?_, fun k _ before => ?_⟩
  · rw [shifted, Nat.add_sub_cancel' h.le, List.length_drop]
    exact h.last.imp (fun last => by rw [last]) id
  · rw [shifted]
    exact h.inside _ (Nat.le_add_right _ _) (by omega)

/-- A text is split at each of its separators. -/
lemma splitMasked_of_separates (plain : Unbracketed sep) (lengths : m.length = t.length)
    (separates : Separates sep m k) :
    splitMasked (· == sep) 0 m t =
      splitMasked (· == sep) 0 (m.take k) (t.take k) ++
        splitMasked (· == sep) 0 (m.drop (k + 1)) (t.drop (k + 1)) := by
  have short : k < t.length := lengths ▸ separates.lt
  have shape : t = t.take k ++ t[k] :: t.drop (k + 1) := by
    rw [← List.drop_eq_getElem_cons short, List.take_append_drop]
  have cut : splitMasked (· == sep) 0 (m.take k ++ sep :: m.drop (k + 1))
      (t.take k ++ t[k] :: t.drop (k + 1)) = _ :=
    splitMasked_append (by simp [lengths]) (beq_self_eq_true sep) plain (by rw [separates.2]; rfl)
  rwa [← shape, ← separates.eq_append] at cut

/-- The first part, and the others. -/
lemma splitMasked_of_first (plain : Unbracketed sep) (lengths : m.length = t.length)
    (first : Part sep m 0 k) (separates : Separates sep m k) :
    splitMasked (· == sep) 0 m t =
      t.take k :: splitMasked (· == sep) 0 (m.drop (k + 1)) (t.drop (k + 1)) := by
  rw [splitMasked_of_separates plain lengths separates, splitMasked_whole (by simp [lengths])]
  · rfl
  · intro i stands level
    obtain ⟨within, -⟩ := List.getElem?_eq_some_iff.mp stands
    have before : i < k := by
      rw [List.length_take] at within
      omega
    rw [List.getElem?_take_of_lt before] at stands
    rw [List.take_take, Nat.min_eq_left (Nat.le_of_lt before), Int.zero_add] at level
    exact first.inside i (Nat.zero_le _) before ⟨stands, level⟩

/-- A text that is one part. -/
lemma splitMasked_of_only (lengths : m.length = t.length) (only : Part sep m 0 m.length) :
    splitMasked (· == sep) 0 m t = [t] := by
  refine splitMasked_whole lengths fun i stands level => ?_
  rw [Int.zero_add] at level
  exact only.inside i (Nat.zero_le _) (Separates.lt ⟨stands, level⟩) ⟨stands, level⟩

/-- What stands at the start of a text up to its first separator. -/
lemma head?_splitMasked (plain : Unbracketed sep) (lengths : m.length = t.length)
    (first : Part sep m 0 k) : (splitMasked (· == sep) 0 m t).head? = some (t.take k) := by
  rcases first.last with rfl | separates
  · rw [splitMasked_of_only lengths first, lengths, List.take_length]
    rfl
  · rw [splitMasked_of_first plain lengths first separates]
    rfl

/-- Each part of a list is among those that a text is split into. -/
lemma Part.mem_splitTopLevel (plain : Unbracketed sep) (part : Part sep (mask t) i j) :
    slice t i j ∈ splitTopLevel sep t := by
  have lengths : (mask t).length = t.length := length_mask t
  have first : slice t i j ∈ splitMasked (· == sep) 0 ((mask t).drop i) (t.drop i) :=
    List.mem_of_head? (head?_splitMasked plain (by simp) (part.drop plain))
  change slice t i j ∈ splitMasked (· == sep) 0 (mask t) t
  rcases part.first with rfl | ⟨later, separates⟩
  · exact first
  · obtain ⟨k, rfl⟩ : ∃ k, i = k + 1 := ⟨i - 1, by omega⟩
    rw [splitMasked_of_separates plain lengths separates]
    exact List.mem_append_right _ first

/-! ### Assignments -/

/-- An equals sign that assigns stands at an offset of masked text, outside
brackets. -/
def AssignsAt (m : Text) (i : Nat) : Prop :=
  m[i]? = some '=' ∧ nesting (m.take i) = 0 ∧ assigns (m.take i).getLast? m[i + 1]? = true
  deriving Decidable

lemma not_assignsAt_of_notMem (none' : '=' ∉ m) : ¬ AssignsAt m i :=
  fun stands => none' (List.mem_of_getElem? stands.1)

lemma assignsAt_append {before rest : Text} {c : Char} :
    AssignsAt (before ++ c :: rest) before.length ↔
      c = '=' ∧ nesting before = 0 ∧ assigns before.getLast? rest.head? = true := by
  rw [AssignsAt, List.take_left, List.getElem?_append_right (Nat.le_refl _),
    List.getElem?_append_right (Nat.le_add_right _ _)]
  simp [List.head?_eq_getElem?]

lemma assignmentIn_cons {prev : Option Char} {c : Char} {rest : Text} :
    assignmentIn prev depth (c :: rest) =
      if c = '=' ∧ depth = 0 ∧ assigns prev rest.head? = true then some 0
      else (assignmentIn (some c) (depth + bracketStep c) rest).map (· + 1) := by
  rw [assignmentIn, bracketStep]
  by_cases equals : c = '='
  · subst equals
    simp [isOpener, isCloser]
  · simp only [equals, false_and, if_false, beq_eq_false_iff_ne.mpr equals, Bool.false_and,
      Bool.false_eq_true]
    split_ifs <;> simp [Int.sub_eq_add_neg]

/-- The scan for an assignment ends at the first one. -/
lemma assignmentIn_spec (before : Text) :
    match assignmentIn before.getLast? (nesting before) t with
    | some n => AssignsAt (before ++ t) (before.length + n) ∧
        ∀ i < n, ¬ AssignsAt (before ++ t) (before.length + i)
    | none => ∀ i, ¬ AssignsAt (before ++ t) (before.length + i) := by
  induction t generalizing before with
  | nil =>
      intro i stands
      obtain ⟨within, -⟩ := List.getElem?_eq_some_iff.mp stands.1
      rw [List.append_nil] at within
      omega
  | cons c rest ih =>
      have later := ih (before ++ [c])
      rw [List.getLast?_concat, nesting_append, nesting_cons, nesting_nil, Int.add_zero,
        List.append_assoc, List.singleton_append, List.length_append, List.length_singleton]
        at later
      have shift (n : Nat) : before.length + 1 + n = before.length + (n + 1) := by omega
      simp only [shift] at later
      rw [assignmentIn_cons]
      split_ifs with here
      · exact ⟨assignsAt_append.mpr here, fun i before => absurd before (Nat.not_lt_zero i)⟩
      · rw [← assignsAt_append] at here
        cases found : assignmentIn (some c) (nesting before + bracketStep c) rest with
        | none =>
            rw [found] at later
            intro i
            cases i with
            | zero => exact here
            | succ i => exact later i
        | some n =>
            rw [found] at later
            refine ⟨later.1, fun i lt => ?_⟩
            cases i with
            | zero => exact here
            | succ i => exact later.2 i (Nat.lt_of_succ_lt_succ lt)

/-- The first assignment of a text is found. -/
lemma topLevelAssignment?_eq_some (stands : AssignsAt (mask t) i)
    (first : ∀ k < i, ¬ AssignsAt (mask t) k) : topLevelAssignment? t = some i := by
  have spec := assignmentIn_spec (t := mask t) []
  simp only [List.getLast?_nil, nesting_nil, List.nil_append, List.length_nil, Nat.zero_add]
    at spec
  rw [topLevelAssignment?]
  cases found : assignmentIn none 0 (mask t) with
  | none =>
      rw [found] at spec
      exact absurd stands (spec i)
  | some n =>
      rw [found] at spec
      rcases Nat.lt_trichotomy n i with before | rfl | behind
      · exact absurd spec.1 (first n before)
      · rfl
      · exact absurd stands (spec.2 i behind)

/-- In a text without one none is found. -/
lemma topLevelAssignment?_eq_none (none' : ∀ k, ¬ AssignsAt (mask t) k) :
    topLevelAssignment? t = none := by
  have spec := assignmentIn_spec (t := mask t) []
  simp only [List.getLast?_nil, nesting_nil, List.nil_append, List.length_nil, Nat.zero_add]
    at spec
  rw [topLevelAssignment?]
  cases found : assignmentIn none 0 (mask t) with
  | none => rfl
  | some n =>
      rw [found] at spec
      exact absurd spec.1 (none' n)

end LintRepair.Code
