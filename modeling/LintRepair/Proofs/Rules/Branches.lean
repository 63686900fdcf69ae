/-
The branches that `no-ternary` writes.

* `QuestionAt`, `ConditionalAt`: the question mark and the colon of a conditional in masked
  text, with `ConditionalAt.unique`: there is one at most;
* `searched_marksFrom`: what a search for them comes to; `marksFrom_eq_some_iff` and
  `marksFrom_eq_none_iff`: it finds them just if they are there;
* `SplitsAt`: where a conditional is cut in three, by counting question marks and colons;
  `splitConditional_splitsAt`: there it is cut, and nowhere else;
* `ifElse`: a conditional as a statement with two branches;
* `exists_separates_behind`: behind the colon, the parts of a text are separated as they
  are in the whole text;
* `branches_of_fix`: the second branch holds all that stands behind the colon, and parts
  of it are separated just if they were;
* `branches_of_fix_not`: so that it may hold another statement.
-/
import LintRepair.Grammar.Statement
import LintRepair.Proofs.Code.Items
import LintRepair.Proofs.Lexical.Restart
import LintRepair.Proofs.Rules.Above
import LintRepair.Proofs.Rules.Blanks
import Mathlib.Data.Nat.Count

namespace LintRepair.Rules

open Text Lexical Code Check Repair
open Ternary (Conditional Role)

variable {code m t e : Text} {d : Diagnostic} {c : Conditional} {role : Role}
  {sep : Char} {q k : Nat}

/-! ### The marks of a conditional -/

/-- A question mark stands outside of brackets, and is no part of another operator. -/
structure QuestionAt (m : Text) (q : Nat) : Prop where
  separates : Separates '?' m q
  before : q = 0 ∨ m[q - 1]? ≠ some '?'
  behind : m[q + 1]? ≠ some '?' ∧ m[q + 1]? ≠ some '.'

instance (m : Text) (q : Nat) : Decidable (QuestionAt m q) :=
  decidable_of_iff (Separates '?' m q ∧ (q = 0 ∨ m[q - 1]? ≠ some '?') ∧
    m[q + 1]? ≠ some '?' ∧ m[q + 1]? ≠ some '.')
    ⟨fun h => ⟨h.1, h.2.1, h.2.2⟩, fun h => ⟨h.separates, h.before, h.behind⟩⟩

/-- How many conditionals behind a question mark still wait for their colon. -/
def pending (m : Text) (q : Nat) : Nat → Int
  | 0 => 0
  | n + 1 => pending m q n +
      if q < n then if QuestionAt m n then 1 else if Separates ':' m n then -1 else 0 else 0

/-- The first conditional in masked text: its question mark, and the colon that belongs to
it. -/
structure ConditionalAt (m : Text) (q k : Nat) : Prop where
  question : QuestionAt m q
  first : ∀ j < q, ¬ QuestionAt m j
  colon : Separates ':' m k
  lt : q < k
  opens : ∀ j ≤ k, 0 ≤ pending m q j
  closes : pending m q k = 0

/-- The question mark of a conditional, as the search for it tells it. -/
lemma questionAt_append {before rest : Text} {c : Char} :
    QuestionAt (before ++ c :: rest) before.length ↔ c = '?' ∧ nesting before = 0 ∧
      (startsIn (fun n => n == '?' || n == '.') rest || before.getLast? == some '?') = false := by
  have here : (before ++ c :: rest)[before.length]? = some c := by simp
  have behind : (before ++ c :: rest)[before.length + 1]? = rest.head? := by
    simp [List.getElem?_append_right, List.head?_eq_getElem?]
  have ahead : (before.length = 0 ∨ (before ++ c :: rest)[before.length - 1]? ≠ some '?') ↔
      before.getLast? ≠ some '?' := by
    rcases List.eq_nil_or_concat before with rfl | ⟨others, b, rfl⟩ <;> simp
  have follows : startsIn (fun n => n == '?' || n == '.') rest = false ↔
      rest.head? ≠ some '?' ∧ rest.head? ≠ some '.' := by
    cases rest <;> simp [startsIn]
  rw [Bool.or_eq_false_iff, beq_eq_false_iff_ne, follows, ← ahead, ← behind]
  constructor
  · rintro ⟨⟨stands, level⟩, before', behind'⟩
    rw [here, Option.some_inj] at stands
    exact ⟨stands, by simpa using level, behind', before'⟩
  · rintro ⟨stands, level, behind', before'⟩
    exact ⟨⟨by rw [here, stands], by simpa using level⟩, before', behind'⟩

/-- At the question mark itself none does. -/
lemma pending_of_le {n : Nat} (low : n ≤ q + 1) : pending m q n = 0 := by
  induction n with
  | zero => rfl
  | succ n ih => rw [pending, ih (by omega), if_neg (by omega), Int.add_zero]

/-- What the search for the marks knows behind the first characters of a text: the
question mark of the conditional, or that there has been none. -/
def Marked (m : Text) (n : Nat) : Option Nat → Nat → Prop
  | none, nested => nested = 0 ∧ ∀ j < n, ¬ QuestionAt m j
  | some p, nested => QuestionAt m p ∧ (∀ j < p, ¬ QuestionAt m j) ∧ p < n ∧
      pending m p n = nested ∧ ∀ j ≤ n, 0 ≤ pending m p j

/-- Behind one more character, the same question mark is known. -/
lemma Marked.keep {n p nested nested' : Nat} (h : Marked m n (some p) nested)
    (level : pending m p (n + 1) = nested') : Marked m (n + 1) (some p) nested' := by
  obtain ⟨question, first, lt, -, opens⟩ := h
  refine ⟨question, first, Nat.lt_succ_of_lt lt, level, fun j le => ?_⟩
  obtain earlier | rfl := Nat.le_succ_iff.mp le
  · exact opens j earlier
  · rw [level]
    exact Int.natCast_nonneg nested'

/-- A character that is none of the marks changes nothing. -/
lemma Marked.pass {n nested : Nat} {question : Option Nat} (h : Marked m n question nested)
    (other : ¬ QuestionAt m n) (plain : question = none ∨ ¬ Separates ':' m n) :
    Marked m (n + 1) question nested := by
  cases question with
  | none =>
      refine ⟨h.1, fun j before => ?_⟩
      obtain earlier | rfl := Nat.lt_succ_iff_lt_or_eq.mp before
      · exact h.2 j earlier
      · exact other
  | some p =>
      have plain := plain.resolve_left (by simp)
      refine h.keep ?_
      rw [pending, if_neg other, if_neg plain, ite_self, h.2.2.2.1, Int.add_zero]

/-- The first question mark is that of the conditional, -/
lemma Marked.first {n nested : Nat} (h : Marked m n none nested) (mark : QuestionAt m n) :
    Marked m (n + 1) (some n) 0 :=
  ⟨mark, h.2, Nat.lt_succ_self _, pending_of_le (Nat.le_refl _),
    fun _ le => Int.le_of_eq (pending_of_le le).symm⟩

/-- and one behind it that of another conditional, -/
lemma Marked.nest {n p nested : Nat} (h : Marked m n (some p) nested) (mark : QuestionAt m n) :
    Marked m (n + 1) (some p) (nested + 1) := by
  refine h.keep ?_
  rw [pending, if_pos h.2.2.1, if_pos mark, h.2.2.2.1, Int.natCast_succ]

/-- which a colon closes. -/
lemma Marked.close {n p nested : Nat} (h : Marked m n (some p) (nested + 1))
    (other : ¬ QuestionAt m n) (colon : Separates ':' m n) : Marked m (n + 1) (some p) nested := by
  refine h.keep ?_
  rw [pending, if_pos h.2.2.1, if_neg other, if_pos colon, h.2.2.2.1]
  omega

/-- A colon where no other conditional is open belongs to the first one. -/
lemma Marked.conditionalAt {n p : Nat} (h : Marked m n (some p) 0) (colon : Separates ':' m n) :
    ConditionalAt m p n :=
  have ⟨question, first, lt, closes, opens⟩ := h
  ⟨question, first, colon, lt, opens, closes⟩

/-- What a search for the marks of a conditional comes to: they stand there, or else what is
known behind the last character. -/
def Searched (m : Text) : Option (Nat × Nat) → Prop
  | some (q, k) => ConditionalAt m q k
  | none => ∃ question nested, Marked m m.length question nested

/-- **The search for the marks** of a conditional, from some place of a text on. -/
lemma searched_marksFrom {question : Option Nat} {nested : Nat} {before rest : Text}
    (whole : m = before ++ rest) (marked : Marked m before.length question nested) :
    Searched m
      (Ternary.marksFrom before.getLast? before.length (nesting before) question nested rest) := by
  induction rest generalizing before question nested with
  | nil =>
      rw [List.append_nil] at whole
      exact ⟨question, nested, whole ▸ marked⟩
  | cons c rest ih =>
      have mark : QuestionAt (before ++ c :: rest) before.length ↔ _ := questionAt_append
      have ends : Separates ':' m before.length ↔ c = ':' ∧ nesting before = 0 := by
        simp [Separates, whole]
      rw [← whole] at mark
      have next : ∀ question nested, Marked m (before.length + 1) question nested →
          Searched m (Ternary.marksFrom (some c) (before.length + 1)
            (nesting before + bracketStep c) question nested rest) := by
        intro question nested
        have later := @ih question nested (before ++ [c]) (by simp [whole])
        simpa using later
      have pass := fun other plain => next question nested (marked.pass other plain)
      rw [mark, ends] at pass
      unfold Ternary.marksFrom
      split_ifs with opener closer deep asks part colon
      · have other : c ≠ '?' ∧ c ≠ ':' := by constructor <;> rintro rfl <;> cases opener
        have later := pass (fun mark => other.1 mark.1) (.inr fun mark => other.2 mark.1)
        simpa [bracketStep, opener] using later
      · have other : c ≠ '?' ∧ c ≠ ':' := by constructor <;> rintro rfl <;> cases closer
        have later := pass (fun mark => other.1 mark.1) (.inr fun mark => other.2 mark.1)
        simpa [bracketStep, opener, closer, Int.sub_eq_add_neg] using later
      all_goals
        have step : bracketStep c = 0 := by simp [bracketStep, opener, closer]
        simp only [step, Int.add_zero] at next pass
      · have inside : nesting before ≠ 0 := by simpa using deep
        exact pass (fun mark => inside mark.2.1) (.inr fun mark => inside mark.2)
      · obtain rfl : c = '?' := by simpa using asks
        exact pass (fun mark => by simp [mark.2.2] at part) (.inr (by simp))
      · have mark := mark.mpr ⟨by simpa using asks, by simpa using deep, by simpa using part⟩
        cases question with
        | none =>
            obtain rfl := marked.1
            exact next (some before.length) 0 (marked.first mark)
        | some p => exact next (some p) (nested + 1) (marked.nest mark)
      · obtain rfl : c = ':' := by simpa using colon
        have level : nesting before = 0 := by simpa using deep
        have stands := ends.mpr ⟨rfl, level⟩
        cases question with
        | none => exact pass (by simp) (.inl rfl)
        | some p =>
          cases nested with
          | zero => exact marked.conditionalAt stands
          | succ n => exact next (some p) n (marked.close (by simp [mark]) stands)
      · have other : c ≠ '?' ∧ c ≠ ':' := ⟨by simpa using asks, by simpa using colon⟩
        exact pass (fun mark => other.1 mark.1) (.inr fun mark => other.2 mark.1)

/-- The first question mark of a conditional is one. -/
lemma QuestionAt.eq_of_first {p : Nat} (h : QuestionAt m p) (h' : QuestionAt m q)
    (first : ∀ j < p, ¬ QuestionAt m j) (first' : ∀ j < q, ¬ QuestionAt m j) : p = q := by
  rcases Nat.lt_trichotomy p q with before | same | behind
  · exact absurd h (first' p before)
  · exact same
  · exact absurd h' (first q behind)

namespace ConditionalAt

/-- Behind its colon more conditionals have been closed than opened. -/
lemma pending_succ (h : ConditionalAt m q k) : pending m q (k + 1) = -1 := by
  have other : ¬ QuestionAt m k := by
    intro question
    have stands := question.separates.1
    rw [h.colon.1] at stands
    cases stands
  rw [pending, h.closes, if_pos h.lt, if_neg other, if_pos h.colon]
  rfl

/-- So what has been searched without an end holds no conditional. -/
lemma not_marked {question : Option Nat} {nested : Nat} (h : ConditionalAt m q k) :
    ¬ Marked m m.length question nested := by
  intro marked
  cases question with
  | none => exact marked.2 q h.question.separates.lt h.question
  | some p =>
      obtain ⟨question, first, -, -, opens⟩ := marked
      obtain rfl : p = q := question.eq_of_first h.question first h.first
      have negative := opens (k + 1) h.colon.lt
      rw [h.pending_succ] at negative
      cases negative

/-- **There is one conditional at most** that is the first. -/
lemma unique {q' k' : Nat} (h : ConditionalAt m q k) (h' : ConditionalAt m q' k') :
    q = q' ∧ k = k' := by
  have ordered : ∀ {q k k'}, ConditionalAt m q k → ConditionalAt m q k' → ¬ k < k' := by
    intro q k k' h h' lt
    have negative := h'.opens (k + 1) lt
    rw [h.pending_succ] at negative
    cases negative
  obtain rfl : q = q' := h.question.eq_of_first h'.question h.first h'.first
  exact ⟨rfl, Nat.le_antisymm (Nat.not_lt.mp (ordered h' h)) (Nat.not_lt.mp (ordered h h'))⟩

end ConditionalAt

/-- The search through a whole text. -/
lemma searched (m : Text) : Searched m (Ternary.marksFrom none 0 0 none 0 m) := by
  have start : Marked m ([] : Text).length none 0 :=
    ⟨rfl, fun j before => absurd before (Nat.not_lt_zero j)⟩
  exact searched_marksFrom (List.nil_append m).symm start

/-- The marks of the first conditional are found, -/
lemma marksFrom_eq_some_iff :
    Ternary.marksFrom none 0 0 none 0 m = some (q, k) ↔ ConditionalAt m q k := by
  have spec := searched m
  constructor
  · intro found
    rwa [found] at spec
  · intro h
    cases found : Ternary.marksFrom none 0 0 none 0 m with
    | none =>
        rw [found] at spec
        obtain ⟨question, nested, marked⟩ := spec
        exact absurd marked h.not_marked
    | some marks =>
        rw [found] at spec
        obtain ⟨rfl, rfl⟩ := spec.unique h
        rfl

/-- and where none are found there is no conditional. -/
lemma marksFrom_eq_none_iff :
    Ternary.marksFrom none 0 0 none 0 m = none ↔ ∀ q k, ¬ ConditionalAt m q k := by
  rw [Option.eq_none_iff_forall_ne_some]
  simp only [Ne, Prod.forall, marksFrom_eq_some_iff]

/-! ### The parts of a conditional -/

/-- How many question marks of conditionals stand behind one offset and before another. -/
def questions (m : Text) (q n : Nat) : Nat := Nat.count (fun i => q < i ∧ QuestionAt m i) n

/-- How many colons stand there, outside of brackets. -/
def colons (m : Text) (q n : Nat) : Nat := Nat.count (fun i => q < i ∧ Separates ':' m i) n

/-- What is pending is what has been opened and not closed. -/
lemma pending_eq (m : Text) (q n : Nat) : pending m q n = questions m q n - colons m q n := by
  induction n with
  | zero => rfl
  | succ n ih =>
      have apart : QuestionAt m n → ¬ Separates ':' m n := by
        intro question colon
        have stands := question.separates.1
        rw [colon.1] at stands
        cases stands
      rw [pending, ih, questions, questions, colons, colons, Nat.count_succ, Nat.count_succ]
      by_cases behind : q < n
      · by_cases question : QuestionAt m n
        · simp only [behind, question, apart question, and_self, and_false, if_true, if_false]
          omega
        · simp only [behind, question, true_and, and_false, if_true, if_false]
          split_ifs <;> omega
      · simp only [behind, false_and, if_false]
        omega

/-- Where the parts of a conditional meet: at its question mark, which is the first one outside
of brackets that is no part of another operator, and at the colon outside of brackets up to
which there are as many other colons as question marks, and nowhere on the way more. -/
structure SplitsAt (t : Text) (q k : Nat) : Prop where
  lt : q < k
  mark : t[q]? = some '?'
  colon : t[k]? = some ':'
  question : QuestionAt (mask t) q
  first : ∀ j < q, ¬ QuestionAt (mask t) j
  separates : Separates ':' (mask t) k
  balanced : colons (mask t) q k = questions (mask t) q k
  opens : ∀ n ≤ k, colons (mask t) q n ≤ questions (mask t) q n

/-- They are the marks of a conditional in the masked text. -/
lemma splitsAt_iff : SplitsAt t q k ↔ ConditionalAt (mask t) q k := by
  constructor
  · intro h
    refine ⟨h.question, h.first, h.separates, h.lt, fun n le => ?_, ?_⟩
    · rw [pending_eq]
      have := h.opens n le
      omega
    · rw [pending_eq, h.balanced, Int.sub_self]
  · intro h
    have mark := (kept_of_mask h.question.separates.1 rfl).1
    have colon := (kept_of_mask h.colon.1 rfl).1
    refine ⟨h.lt, mark, colon, h.question, h.first, h.colon, ?_, fun n le => ?_⟩
    · have closes := h.closes
      rw [pending_eq] at closes
      omega
    · have opens := h.opens n le
      rw [pending_eq] at opens
      omega

/-- A conditional that is found stands there, and is cut at its marks. -/
lemma conditionalAt_of_splitConditional (split : Ternary.splitConditional? e = some c) :
    ∃ q k, ConditionalAt (mask e) q k ∧
      c = ⟨trim (e.take q), trim (slice e (q + 1) k), trim (e.drop (k + 1))⟩ := by
  obtain ⟨⟨q, k⟩, found, rfl⟩ := Option.map_eq_some_iff.mp split
  exact ⟨q, k, marksFrom_eq_some_iff.mp found, rfl⟩

/-- **The parts of a conditional.** A text is cut in three just where the parts of its first
conditional meet, each part without the blanks at its ends, and is left alone just if there is
no such place. -/
theorem splitConditional_splitsAt (t : Text) :
    (∀ c, Ternary.splitConditional? t = some c ↔ ∃ q k, SplitsAt t q k ∧
      c = ⟨trim (t.take q), trim (slice t (q + 1) k), trim (t.drop (k + 1))⟩) ∧
    (Ternary.splitConditional? t = none ↔ ∀ q k, ¬ SplitsAt t q k) := by
  simp only [splitsAt_iff]
  refine ⟨fun c => ⟨conditionalAt_of_splitConditional, ?_⟩, ?_⟩
  · rintro ⟨q, k, h, rfl⟩
    rw [Ternary.splitConditional?, marksFrom_eq_some_iff.mpr h]
    rfl
  · rw [Ternary.splitConditional?, Option.map_eq_none_iff, marksFrom_eq_none_iff]

/-- A conditional inside of another one, behind operators that are none. -/
example : Ternary.splitConditional? "a?.b ?? c ? d ? 1 : '?' : \x7bk: 2\x7d".toList =
    some ⟨"a?.b ?? c".toList, "d ? 1 : '?'".toList, "\x7bk: 2\x7d".toList⟩ := by
  decide +kernel

/-! ### The statement that is written -/

/-- The statement on a line, without the semicolon at its end. -/
def statementOf (line : Text) : Text :=
  if endsIn (· == ';') (trim line) then trimRight (trim line).dropLast else trim line

/-- A conditional as a statement with two branches, with what stands before each of them
and behind it. -/
def ifElse (role : Role) (c : Conditional) (inner outer : Text) : Text :=
  "if (".toList ++ c.test ++ [')', ' ', '{'] ++
    (inner ++ role.branch c.consequent ++ outer) ++ ['}'] ++ " else ".toList ++ ['{'] ++
    (inner ++ role.branch c.alternate ++ outer) ++ ['}']

/-- What is written in place of a conditional expression. -/
lemma expand_eq {indent unit block : Text} (expands : Ternary.expand role e indent unit = .ok block) :
    ∃ c, Ternary.splitConditional? e = some c ∧
      block = indent ++ ifElse role c ('\n' :: (indent ++ unit)) ('\n' :: indent) := by
  rw [Ternary.expand] at expands
  split at expands
  · cases expands
  next c split =>
    dsimp only at expands
    split_ifs at expands
    · cases expands
    · refine ⟨c, split, (Except.ok.inj expands).symm.trans ?_⟩
      unfold ifElse
      -- As variables the literals are not opened.
      generalize "if (".toList = start
      generalize " else ".toList = between
      simp only [List.append_assoc, List.cons_append, List.nil_append]

/-- What is written in place of the statement that holds it. -/
lemma expandStatement_eq {indent unit new : Text} {terminated : Bool}
    (expands : Ternary.expandStatement t indent unit terminated = .ok new) :
    ∃ role e c front back outer, Ternary.role? t = some (role, e) ∧
      Ternary.splitConditional? e = some c ∧
      new = front ++ ifElse role c ('\n' :: (outer ++ unit)) ('\n' :: outer) ++ back ∧
      (outer = indent ∨ outer = indent ++ unit) := by
  rw [Ternary.expandStatement] at expands
  split at expands
  · cases expands
  · next head e used =>
    obtain ⟨block, inside, expands⟩ := exists_of_bind_eq_ok expands
    obtain ⟨c, split, rfl⟩ := expand_eq inside
    cases expands
    exact ⟨_, e, c, indent ++ head ++ [' ', '{', '\n'] ++ (indent ++ unit),
      ['\n'] ++ indent ++ ['}'] ++ if terminated = true then [';'] else [], indent ++ unit, used,
      split, by simp only [List.append_assoc], .inr rfl⟩
  · next keyword name e used =>
    obtain ⟨block, inside, expands⟩ := exists_of_bind_eq_ok expands
    obtain ⟨c, split, rfl⟩ := expand_eq inside
    cases expands
    refine ⟨_, e, c, indent ++ (if keyword == "const".toList then "let".toList else keyword) ++
      [' '] ++ name ++ [';', '\n'] ++ indent, [], indent, used, split, ?_, .inl rfl⟩
    rw [List.append_nil]
    simp only [List.append_assoc]
    rfl
  · next role e _ _ used =>
    obtain ⟨c, split, rfl⟩ := expand_eq expands
    exact ⟨role, e, c, indent, [], indent, used, split, (List.append_nil _).symm, .inl rfl⟩

/-! ### Separators between blanks -/

lemma nesting_of_blank (blank : ∀ c ∈ t, isBlank c = true) : nesting t = 0 := by
  induction t with
  | nil => rfl
  | cons c t ih =>
      have other : ∀ b, isBlank b = false → c ≠ b :=
        fun b => ne_of_isBlank (blank c List.mem_cons_self)
      have plain : Unbracketed c := by
        simp only [Unbracketed, isOpener, isCloser, Bool.or_eq_false_iff, beq_eq_false_iff_ne]
        exact ⟨⟨⟨other '(' rfl, other '[' rfl⟩, other '{' rfl⟩, ⟨other ')' rfl, other ']' rfl⟩,
          other '}' rfl⟩
      rw [nesting_cons, plain.step, ih fun c hc => blank c (List.mem_cons_of_mem _ hc), Int.zero_add]

/-- What follows a text has no say in it. -/
lemma separates_append_left {j : Nat} (within : j < m.length) (back : Text) :
    Separates sep (m ++ back) j ↔ Separates sep m j := by
  rw [Separates, Separates, List.getElem?_append_left within,
    List.take_append_of_le_length (Nat.le_of_lt within)]

/-- Blanks around a text have no say in whether parts of it are separated. -/
lemma exists_separates_trim (solid : isBlank sep = false) (t : Text) :
    (∃ j, Separates sep (mask (trim t)) j) ↔ ∃ j, Separates sep (mask t) j := by
  obtain ⟨front, back, shape, blank, blank'⟩ := exists_mask_trim t
  have notFront : sep ∉ front := fun among => ne_of_isBlank (blank sep among) solid rfl
  have notBack : sep ∉ back := fun among => ne_of_isBlank (blank' sep among) solid rfl
  have shifted (j : Nat) : Separates sep (mask (trim t) ++ back) j ↔
      Separates sep (mask t) (front.length + j) := by
    have level : nesting ((mask t).take front.length) = 0 := by
      rw [shape, List.take_left, nesting_of_blank blank]
    have rest : (mask t).drop front.length = mask (trim t) ++ back := by rw [shape, List.drop_left]
    rw [← rest, separates_drop level]
  constructor
  · rintro ⟨j, separates⟩
    exact ⟨_, (shifted j).mp ((separates_append_left separates.lt back).mpr separates)⟩
  · rintro ⟨j, separates⟩
    have here := separates.1
    rw [shape] at here
    have low : front.length ≤ j := by
      by_contra early
      rw [List.getElem?_append_left (by omega)] at here
      exact notFront (List.mem_of_getElem? here)
    rw [← Nat.add_sub_cancel' low] at separates
    have inside := (shifted _).mpr separates
    have high : j - front.length < (mask (trim t)).length := by
      by_contra late
      have there := inside.1
      rw [List.getElem?_append_right (by omega)] at there
      exact notBack (List.mem_of_getElem? there)
    exact ⟨_, (separates_append_left high back).mp inside⟩

/-- What stands behind the colon of a conditional is separated as in the whole text. -/
lemma exists_separates_behind (conditional : ConditionalAt (mask e) q k)
    (parens : Closed '(' ')' ((mask e).take k)) (braces : Closed '{' '}' ((mask e).take k))
    (solid : isBlank sep = false) :
    (∃ j, Separates sep (mask (trim (e.drop (k + 1)))) j) ↔ ∃ j > k, Separates sep (mask e) j := by
  have level := conditional.colon.nesting_take_succ (by decide)
  rw [exists_separates_trim solid, mask_drop_colon conditional.colon.1 parens braces]
  constructor
  · rintro ⟨j, separates⟩
    exact ⟨k + 1 + j, by omega, (separates_drop level).mp separates⟩
  · rintro ⟨j, behind, separates⟩
    refine ⟨j - (k + 1), (separates_drop level).mpr ?_⟩
    rwa [Nat.add_sub_cancel' behind]

/-! ### The repair -/

/-- Out of the conditional in the expression at the end of a line's statement, a text has
been made that holds its parts in two branches, with nothing but blanks beside them. -/
structure Expanded (line after : Text) (role : Role) (e : Text) (c : Conditional) : Prop where
  used : Ternary.role? (statementOf line) = some (role, e)
  split : Ternary.splitConditional? e = some c
  written : ∃ front inner outer back, after = front ++ ifElse role c inner outer ++ back ∧
    (∀ b ∈ inner, isBlank b = true) ∧ ∀ b ∈ outer, isBlank b = true

/-- What the edit of `no-ternary` has done. -/
lemma expanded_noTernary {l after : Text} (there : line? code d.line.value = some l)
    (edit : Ternary.noTernary.edit code d = .ok after) : ∃ role e c, Expanded l after role e c := by
  obtain ⟨above, below, around⟩ := exists_around there
  have line : lineOf code d = l := around.getLine
  have indent : ∀ b ∈ leadingBlanks l, isBlank b = true := isBlank_of_mem_leadingBlanks
  have unit : ∀ b ∈ Whitespace.indentUnit code, isBlank b = true :=
    fun b among => isBlank_of_isSpaceOrTab (isSpaceOrTab_of_mem_indentUnit b among)
  simp only [Ternary.noTernary, line] at edit
  split at edit
  · cases edit
  split at edit
  · cases edit
  next new expands =>
  obtain ⟨role, e, c, front, back, outer, used, split, rfl, shape⟩ := expandStatement_eq expands
  have blank : ∀ b ∈ outer, isBlank b = true := by
    rcases shape with rfl | rfl
    · exact indent
    · exact fun b among => (List.mem_append.mp among).elim (indent b) (unit b)
  refine ⟨role, e, c, used, split, ended above ++ front,
    '\n' :: (outer ++ Whitespace.indentUnit code), '\n' :: outer, back ++ begun below, ?_, ?_, ?_⟩
  · rw [setLine_eq around edit]
    simp only [List.append_assoc]
  · exact List.forall_mem_cons.mpr ⟨rfl, List.forall_mem_append.mpr ⟨blank, unit⟩⟩
  · exact List.forall_mem_cons.mpr ⟨rfl, blank⟩

/-- **What the branches hold.** Where the built-in fixer of `no-ternary` expands a
conditional, the second branch holds all that stands behind the colon in the expression:
parts of it are separated by a comma or a semicolon outside of brackets just if the
expression has such a separator there. -/
theorem branches_of_fix {accepts : Acceptor} {o : Options} {f : Fixer} {r : FixResult}
    (builtin : builtin? accepts o "no-ternary" = some f) (fix : f.fix code d = .ok r)
    (success : r.isSuccess = true) :
    ∃ l role e c q k, line? code d.line.value = some l ∧ Expanded l r.code role e c ∧
      ConditionalAt (mask e) q k ∧ c.alternate = trim (e.drop (k + 1)) ∧
      (Closed '(' ')' ((mask e).take k) → Closed '{' '}' ((mask e).take k) →
        ∀ sep ∈ [',', ';'], (∀ j, ¬ Separates sep (mask c.alternate) j) ↔
          ∀ j > k, ¬ Separates sep (mask e) j) := by
  cases builtin
  obtain ⟨takesOn, edit, -⟩ := edit_of_fixer fix success
  obtain ⟨l, there⟩ := Option.isSome_iff_exists.mp (line?_isSome_of_canFix takesOn)
  obtain ⟨role, e, c, expanded⟩ := expanded_noTernary there edit
  obtain ⟨q, k, conditional, rfl⟩ := conditionalAt_of_splitConditional expanded.split
  refine ⟨l, role, e, _, q, k, there, expanded, conditional, rfl, fun parens braces sep among => ?_⟩
  have solid : isBlank sep = false := by
    rcases List.mem_pair.mp among with rfl | rfl <;> rfl
  simpa using not_congr (exists_separates_behind conditional parens braces solid)

/-- A conditional in the first line. -/
def conditional : Diagnostic :=
  { rule := some "no-ternary", message := "Ternary operator used.", line := 1, column := 1 }

theorem branches_of_fix_call :
    let code := "const n = f(w) ? 1 : g(3, 4);".toList
    let after := "let n;\nif (f(w)) \x7b\n  n = 1;\n\x7d else \x7b\n  n = g(3, 4);\n\x7d".toList
    ∃ f r, builtin? Grammar.accepts {} "no-ternary" = some f ∧ f.fix code conditional = .ok r ∧
      r.isSuccess = true ∧ r.code = after ∧
      ∀ sep ∈ [',', ';'], ∀ j, ¬ Separates sep (mask "g(3, 4)".toList) j := by
  intro code after
  let f := complex Grammar.accepts "NoTernaryFixer" "no-ternary"
    "Expand conditional expressions into if/else statements" Ternary.noTernary
  have builtin : builtin? Grammar.accepts {} "no-ternary" = some f := rfl
  have fix : f.fix code conditional = .ok { code := after } := by decide +kernel
  obtain ⟨l, role, e, c, q, k, there, expanded, marks, alternate, separated⟩ :=
    branches_of_fix builtin fix rfl
  have line : line? code 1 = some code := by decide +kernel
  obtain rfl : code = l := Option.some.inj (line.symm.trans there)
  have used : Ternary.role? (statementOf code) =
      some (.initializer "const".toList "n".toList, "f(w) ? 1 : g(3, 4)".toList) := by
    decide +kernel
  obtain ⟨rfl, rfl⟩ := Prod.mk.inj (Option.some.inj (used.symm.trans expanded.used))
  have colons : ∀ k < 18, Separates ':' (mask "f(w) ? 1 : g(3, 4)".toList) k → k = 9 := by
    decide +kernel
  obtain rfl := colons k marks.colon.lt marks.colon
  have value : trim ("f(w) ? 1 : g(3, 4)".toList.drop (9 + 1)) = "g(3, 4)".toList := by
    decide +kernel
  rw [alternate, value] at separated
  refine ⟨f, _, builtin, fix, rfl, rfl, fun sep among => ?_⟩
  refine (separated (by decide +kernel) (by decide +kernel) sep among).mpr fun j behind mark => ?_
  have none' : ∀ j < 18, ¬ Separates ',' (mask "f(w) ? 1 : g(3, 4)".toList) j ∧
      ¬ Separates ';' (mask "f(w) ? 1 : g(3, 4)".toList) j := by
    decide +kernel
  rcases List.mem_pair.mp among with rfl | rfl
  · exact (none' j mark.lt).1 mark
  · exact (none' j mark.lt).2 mark

/-- A statement behind the one that holds the conditional. -/
theorem branches_of_fix_not : ¬ ∀ (code : Text) (d : Diagnostic) (f : Fixer) (r : FixResult)
    (l : Text) (role : Role) (e : Text) (c : Conditional),
      builtin? Grammar.accepts {} "no-ternary" = some f → f.fix code d = .ok r →
      r.isSuccess = true → line? code d.line.value = some l →
      Ternary.role? (statementOf l) = some (role, e) → Ternary.splitConditional? e = some c →
      ∀ sep ∈ [',', ';'], ∀ j, ¬ Separates sep (mask c.alternate) j := by
  intro always
  let code := "x ? a() : b(); c();".toList
  let after := "if (x) \x7b\n  a();\n\x7d else \x7b\n  b(); c();\n\x7d".toList
  have mark : Separates ';' (mask "b(); c()".toList) 3 := by decide +kernel
  exact always code conditional _ { code := after } code .statement "x ? a() : b(); c()".toList
    ⟨"x".toList, "a()".toList, "b(); c()".toList⟩ rfl (by decide +kernel) rfl (by decide +kernel)
    (by decide +kernel) (by decide +kernel) ';' (by decide) 3 mark

end LintRepair.Rules
