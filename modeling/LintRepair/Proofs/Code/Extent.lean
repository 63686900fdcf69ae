/-
Where a statement ends.

* `StopsAt`: a place in a masked text at which a statement ends that starts before it;
* `statementLength_append`: a statement goes on through a text in which it does not end;
* `statementLength_spec`: it ends at the first such place;
* `Breaks`: a place in a part of a statement at which it ends whatever stands around the part.
-/
import LintRepair.Proofs.Code.Items
import LintRepair.Proofs.Text.Cut

namespace LintRepair.Code

open Text Lexical

variable {m before rest t : Text} {c : Char} {i n : Nat}

/-- A place at which a statement ends, outside brackets that are opened in it: a semicolon, a
bracket that closes another one, or a line feed that the statement goes on at neither behind
nor before. -/
inductive StopsAt (m : Text) (i : Nat) : Prop
  | semicolon (here : m[i]? = some ';') (level : nesting (m.take i) = 0)
  | closer {c : Char} (here : m[i]? = some c) (closes : isCloser c = true)
      (level : nesting (m.take i) = 0)
  | feed (here : m[i]? = some '\n') (level : nesting (m.take i) = 0)
      (behind : startsIn continuesBehind (trimLeft (m.take i).reverse) = false)
      (before : startsIn continuesBefore (trimLeft (m.drop (i + 1))) = false)

lemma StopsAt.level (h : StopsAt m i) : nesting (m.take i) = 0 := by
  cases h <;> assumption

lemma StopsAt.lt (h : StopsAt m i) : i < m.length := by
  cases h with
  | semicolon here | closer here | feed here => exact (List.getElem?_eq_some_iff.mp here).1

/-- Whether a statement ends at a character is told by what stands before and behind it. -/
lemma stopsAt_append : StopsAt (before ++ c :: rest) before.length ↔
    nesting before = 0 ∧ (c = ';' ∨ isCloser c = true ∨
      c = '\n' ∧ startsIn continuesBehind (trimLeft before.reverse) = false ∧
        startsIn continuesBefore (trimLeft rest) = false) := by
  have here : (before ++ c :: rest)[before.length]? = some c := by simp
  have front : (before ++ c :: rest).take before.length = before := List.take_left
  have back : (before ++ c :: rest).drop (before.length + 1) = rest := by simp
  constructor
  · rintro (⟨here', level⟩ | ⟨here', closes, level⟩ | ⟨here', level, behind, ahead⟩) <;>
      rw [here, Option.some.injEq] at here' <;> subst here' <;> rw [front] at level
    · exact ⟨level, .inl rfl⟩
    · exact ⟨level, .inr (.inl closes)⟩
    · rw [front] at behind
      rw [back] at ahead
      exact ⟨level, .inr (.inr ⟨rfl, behind, ahead⟩)⟩
  · rintro ⟨level, rfl | closes | ⟨rfl, behind, ahead⟩⟩ <;> rw [← front] at level
    · exact .semicolon here level
    · exact .closer here closes level
    · exact .feed here level (by rwa [front]) (by rwa [back])

/-! ### One character -/

/-- A statement ends where it may. -/
lemma statementLength_of_stopsAt (stops : StopsAt (before ++ c :: rest) before.length) :
    statementLength before.reverse (nesting before).toNat (c :: rest) =
      if c = ';' then 1 else 0 := by
  obtain ⟨level, rfl | closes | ⟨rfl, behind, ahead⟩⟩ := stopsAt_append.mp stops
  · rw [level]
    rfl
  · have other : isOpener c = false ∧ c ≠ ';' := by
      revert closes
      simp only [isCloser, isOpener]
      grind
    rw [level, statementLength, other.1, closes]
    simp [other.2]
  · rw [trimLeft] at behind
    rw [level, statementLength, behind, ahead]
    simp [isOpener, isCloser]

/-- It goes on elsewhere. -/
lemma statementLength_of_not_stopsAt (level : 0 ≤ nesting before)
    (goesOn : ¬ StopsAt (before ++ c :: rest) before.length) :
    0 ≤ nesting (before ++ [c]) ∧
      statementLength before.reverse (nesting before).toNat (c :: rest) =
        statementLength (before ++ [c]).reverse (nesting (before ++ [c])).toNat rest + 1 := by
  rw [stopsAt_append] at goesOn
  rw [nesting_append, nesting_cons, nesting_nil, Int.add_zero, List.reverse_append,
    List.reverse_singleton, List.singleton_append, statementLength, bracketStep]
  split_ifs with opener closer outside semicolon feed
  · exact ⟨by omega, by rw [Int.toNat_add level (by decide)]; rfl⟩
  · exact absurd ⟨by omega, .inr (.inl closer)⟩ goesOn
  · exact ⟨by omega, by rw [show (nesting before + -1).toNat = (nesting before).toNat - 1 by omega]⟩
  · simp only [Bool.and_eq_true, beq_iff_eq] at semicolon
    exact absurd ⟨by omega, .inl semicolon.2⟩ goesOn
  · simp only [Bool.and_eq_true, beq_iff_eq, Bool.not_eq_true', Bool.or_eq_false_iff] at feed
    exact absurd ⟨by omega, .inr (.inr ⟨feed.1.2, feed.2⟩)⟩ goesOn
  · rw [Int.add_zero]
    exact ⟨level, rfl⟩

/-- A character that ends a statement ends it outside of brackets. -/
lemma statementLength_of_ends {pre rest : Text} {c : Char} (level : nesting pre = 0)
    (ends : c = ';' ∨ isCloser c = true ∨
      c = '\n' ∧ startsIn continuesBehind (trimLeft pre.reverse) = false ∧
        startsIn continuesBefore (trimLeft rest) = false) :
    statementLength pre.reverse 0 (c :: rest) = if c = ';' then 1 else 0 := by
  have stops := statementLength_of_stopsAt (stopsAt_append.mpr ⟨level, ends⟩)
  rwa [level] at stops

/-! ### A text -/

/-- **A statement goes on** through a text in which it does not end. -/
lemma statementLength_append (level : 0 ≤ nesting before)
    (goesOn : ∀ i < t.length, ¬ StopsAt (before ++ (t ++ rest)) (before.length + i)) :
    0 ≤ nesting (before ++ t) ∧
      statementLength before.reverse (nesting before).toNat (t ++ rest) =
        t.length + statementLength (before ++ t).reverse (nesting (before ++ t)).toNat rest := by
  induction t generalizing before with
  | nil => simpa using level
  | cons c t ih =>
      obtain ⟨level', first⟩ :=
        @statementLength_of_not_stopsAt before (t ++ rest) c level (goesOn 0 (Nat.succ_pos _))
      have parts : before ++ (c :: t ++ rest) = before ++ [c] ++ (t ++ rest) := by simp
      obtain ⟨level'', later⟩ := ih level' fun i low => by
        have goesOn := goesOn (i + 1) (Nat.succ_lt_succ low)
        rwa [parts, show before.length + (i + 1) = (before ++ [c]).length + i by simp; omega] at goesOn
      rw [List.append_assoc, List.singleton_append] at level'' later
      rw [List.cons_append]
      refine ⟨level'', ?_⟩
      rw [first, later, List.length_cons, Nat.add_right_comm]

/-- So it does through one that is in no bracket. -/
lemma statementLength_append_of_level (level : nesting before = 0) (level' : nesting t = 0)
    (goesOn : ∀ i < t.length, ¬ StopsAt (before ++ (t ++ rest)) (before.length + i)) :
    statementLength before.reverse 0 (t ++ rest) =
      t.length + statementLength (before ++ t).reverse 0 rest := by
  have through := (statementLength_append (Int.le_of_eq level.symm) goesOn).2
  rwa [nesting_append, level, level'] at through

/-- **Where a statement ends.** It goes on as far as no place ends it, but that a semicolon
belongs to it. -/
lemma statementLength_spec (level : 0 ≤ nesting before) :
    let n := statementLength before.reverse (nesting before).toNat t
    n ≤ t.length ∧
      (∀ i < n, StopsAt (before ++ t) (before.length + i) → t[i]? = some ';' ∧ n = i + 1) ∧
      (n < t.length → (StopsAt (before ++ t) (before.length + n) ∧ t[n]? ≠ some ';') ∨
        ∃ i, t[i]? = some ';' ∧ n = i + 1) := by
  induction t generalizing before with
  | nil => simp [statementLength]
  | cons c t ih =>
      by_cases stops : StopsAt (before ++ c :: t) before.length
      · dsimp only
        rw [statementLength_of_stopsAt stops]
        split_ifs with semicolon
        · subst semicolon
          exact ⟨by simp, fun i low _ => by simp [show i = 0 by omega],
            fun _ => .inr ⟨0, rfl, rfl⟩⟩
        · exact ⟨Nat.zero_le _, fun i low => by omega, fun _ => .inl ⟨stops, by simpa using semicolon⟩⟩
      · obtain ⟨level', first⟩ := statementLength_of_not_stopsAt level stops
        obtain ⟨within, goesOn, ends⟩ := ih level'
        have parts : before ++ c :: t = before ++ [c] ++ t := by simp
        have place : ∀ i, before.length + (i + 1) = (before ++ [c]).length + i := by
          intro i
          simp only [List.length_append, List.length_singleton]
          omega
        dsimp only
        rw [first]
        generalize statementLength (before ++ [c]).reverse (nesting (before ++ [c])).toNat t = n at *
        refine ⟨Nat.succ_le_succ within, ?_, ?_⟩
        · intro i low here
          cases i with
          | zero => exact absurd here stops
          | succ i =>
              rw [parts, place] at here
              obtain ⟨semicolon, last⟩ := goesOn i (by omega) here
              exact ⟨semicolon, by omega⟩
        · intro more
          rw [parts, place]
          refine (ends (by simpa using more)).imp_right fun ⟨i, semicolon, last⟩ => ?_
          exact ⟨i + 1, semicolon, by omega⟩

/-- So it does that starts with the text. -/
lemma statementLength_cases {n : Nat} (length : statementLength [] 0 t = n) :
    n ≤ t.length ∧
      (∀ i < n, StopsAt t i → t[i]? = some ';' ∧ n = i + 1) ∧
      (n < t.length → (StopsAt t n ∧ t[n]? ≠ some ';') ∨ ∃ i, t[i]? = some ';' ∧ n = i + 1) := by
  subst length
  simpa using @statementLength_spec [] t (Int.le_refl 0)

/-! ### A part of a statement -/

variable {a b pre post : Text}

/-- What a text starts with behind its blanks. -/
lemma startsIn_trimLeft_append (p : Char → Bool) (a b : Text) :
    startsIn p (trimLeft (a ++ b)) =
      if a.all isBlank then startsIn p (trimLeft b) else startsIn p (trimLeft a) := by
  rw [trimLeft, List.dropWhile_append]
  by_cases blank : a.all isBlank = true
  · rw [if_pos blank, if_pos (by simpa using blank), trimLeft]
  · have some' : a.dropWhile isBlank ≠ [] := by simpa using blank
    rw [if_neg blank, if_neg (by simpa using some'), startsIn_append some', trimLeft]

/-- A place at which a part of a statement ends it whatever stands around: not at a line feed
on whose one side the part is blank. -/
structure Breaks (m : Text) (i : Nat) : Prop where
  stops : StopsAt m i
  amid : m[i]? = some '\n' → (m.take i).all isBlank = false ∧ (m.drop (i + 1)).all isBlank = false

lemma breaks_append : Breaks (a ++ c :: b) a.length ↔
    nesting a = 0 ∧ (c = ';' ∨ isCloser c = true ∨
      c = '\n' ∧ startsIn continuesBehind (trimLeft a.reverse) = false ∧
        startsIn continuesBefore (trimLeft b) = false) ∧
      (c = '\n' → a.all isBlank = false ∧ b.all isBlank = false) := by
  have here : (a ++ c :: b)[a.length]? = some c := by simp
  have front : (a ++ c :: b).take a.length = a := List.take_left
  have back : (a ++ c :: b).drop (a.length + 1) = b := by simp
  rw [← and_assoc, ← @stopsAt_append a b c]
  constructor
  · rintro ⟨stops, amid⟩
    rw [here, front, back, Option.some.injEq] at amid
    exact ⟨stops, amid⟩
  · rintro ⟨stops, amid⟩
    exact ⟨stops, by rwa [here, front, back, Option.some.injEq]⟩

lemma exists_parts (within : i < m.length) : ∃ a c b, m = a ++ c :: b ∧ a.length = i :=
  ⟨m.take i, m[i], m.drop (i + 1), by rw [← List.drop_eq_getElem_cons, List.take_append_drop],
    List.length_take_of_le (Nat.le_of_lt within)⟩

/-- Where a part breaks a statement off, it ends. -/
lemma Breaks.stopsAt (h : Breaks m i) (level : nesting pre = 0) (post : Text) :
    StopsAt (pre ++ (m ++ post)) (pre.length + i) := by
  obtain ⟨a, c, b, rfl, rfl⟩ := exists_parts h.stops.lt
  obtain ⟨level', kind, amid⟩ := breaks_append.mp h
  rw [show pre ++ (a ++ c :: b ++ post) = (pre ++ a) ++ c :: (b ++ post) by simp,
    ← List.length_append, stopsAt_append, nesting_append, level, level']
  refine ⟨rfl, kind.imp_right (.imp_right fun ⟨feed, behind, before⟩ => ?_)⟩
  obtain ⟨some', some''⟩ := amid feed
  rw [List.reverse_append, startsIn_trimLeft_append, startsIn_trimLeft_append, List.all_reverse,
    if_neg (by rw [some']; decide), if_neg (by rw [some'']; decide)]
  exact ⟨feed, behind, before⟩

lemma mem_leadingBlanks (blank : ∀ x ∈ a, isBlank x = true) :
    '\n' ∈ leadingBlanks (a ++ '\n' :: b) := by
  rw [leadingBlanks, List.takeWhile_append_of_pos blank]
  exact List.mem_append_right _ (by simp [isBlank])

/-- Elsewhere it ends at the blank ends of the part only, and there only if what stands around
does not go on. -/
lemma not_stopsAt_of_not_breaks (whole : ¬ Breaks m i) (within : i < m.length)
    (level : nesting pre = 0)
    (before : '\n' ∉ leadingBlanks m ∨ startsIn continuesBehind (trimLeft pre.reverse) = true)
    (behind : '\n' ∉ leadingBlanks m.reverse ∨ startsIn continuesBefore (trimLeft post) = true) :
    ¬ StopsAt (pre ++ (m ++ post)) (pre.length + i) := by
  obtain ⟨a, c, b, rfl, rfl⟩ := exists_parts within
  rw [show pre ++ (a ++ c :: b ++ post) = (pre ++ a) ++ c :: (b ++ post) by simp,
    ← List.length_append, stopsAt_append, nesting_append, level, Int.zero_add]
  rintro ⟨level', kind⟩
  by_cases feed : c = '\n'
  swap
  · exact whole (breaks_append.mpr ⟨level', kind.imp_right (.imp_right fun h => absurd h.1 feed),
      fun h => absurd h feed⟩)
  subst feed
  obtain ⟨-, stops, stops'⟩ := (kind.resolve_left (by decide)).resolve_left (by decide)
  rw [List.reverse_append, startsIn_trimLeft_append, List.all_reverse] at stops
  rw [startsIn_trimLeft_append] at stops'
  have some' : a.all isBlank = false := by
    by_contra blank
    rw [Bool.not_eq_false] at blank
    rw [if_pos blank] at stops
    rcases before with free | goesOn
    · refine free (mem_leadingBlanks fun x among => ?_)
      exact List.all_eq_true.mp blank x among
    · rw [stops] at goesOn
      cases goesOn
  have some'' : b.all isBlank = false := by
    by_contra blank
    rw [Bool.not_eq_false] at blank
    rw [if_pos blank] at stops'
    rcases behind with free | goesOn
    · rw [List.reverse_append, List.reverse_cons, List.append_assoc] at free
      exact free (mem_leadingBlanks (by simpa using blank))
    · rw [stops'] at goesOn
      cases goesOn
  rw [if_neg (by rw [some']; decide)] at stops
  rw [if_neg (by rw [some'']; decide)] at stops'
  exact whole (breaks_append.mpr ⟨level', .inr (.inr ⟨rfl, stops, stops'⟩), fun _ => ⟨some', some''⟩⟩)

end LintRepair.Code
