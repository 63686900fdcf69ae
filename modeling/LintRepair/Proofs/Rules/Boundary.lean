/-
`no-plusplus` and the end of the statement.

* `Updates`: the text of an update, and its target without blanks; `exists_of_update?`: it
  stands where an update is found;
* `InForHead`: an offset in the head of a `for` loop, in no other bracket;
* `Bounded`: a sum ends with a statement, whatever the next line is;
* `bounded_of_fix`: what the built-in fixer writes is bounded just if the next token cannot
  go on an expression.
-/
import LintRepair.Proofs.Code.Items
import LintRepair.Proofs.Lexical.Next
import LintRepair.Proofs.Rules.Element
import LintRepair.Proofs.Rules.Whole

namespace LintRepair.Rules

open Text Lexical Code Check Repair

variable {code t after : Text} {d : Diagnostic} {i p : Nat}

/-! ### Updates -/

/-- The text of an update, and its target without blanks. -/
structure Updates (part target : Text) : Prop where
  chars : ∀ c ∈ part, isBlank c = true ∨ isName c = true ∨ c ∈ ['.', '+', '-']
  starts : startsIn isBlank part = false
  ends : endsIn isBlank part = false
  long : 1 < part.length
  names : ∀ c ∈ target, isName c = true ∨ c = '.'
  some' : target ≠ []

/-- A name or a chain of members, with blanks in it. -/
structure Spaced (t : Text) : Prop where
  chars : ∀ c ∈ t, isBlank c = true ∨ isName c = true ∨ c = '.'
  starts : startsIn isName t = true
  ends : endsIn isName t = true

lemma leadingBlanks_append_drop (t : Text) :
    leadingBlanks t ++ t.drop (leadingBlanks t).length = t :=
  (List.prefix_iff_eq_append.mp (List.takeWhile_prefix isBlank))

/-- A name, apart. -/
lemma exists_identifier (some' : Operator.identifierLength t ≠ 0) :
    ∃ w rest, t = w ++ rest ∧ w.length = Operator.identifierLength t ∧ isIdentifier w = true := by
  refine ⟨_, _, (List.take_append_drop (Operator.identifierLength t) t).symm, ?_,
    isIdentifier_take some'⟩
  rw [(take_identifierLength some').2, Operator.identifierLength, if_pos (take_identifierLength some').1]

/-- Accesses by name, apart: they end with a name. -/
lemma exists_accesses (fuel : Nat) (t : Text) : ∃ a rest, t = a ++ rest ∧
    a.length = Operator.accessLength fuel t ∧
    (∀ c ∈ a, isBlank c = true ∨ isName c = true ∨ c = '.') ∧
    (a = [] ∨ endsIn isName a = true) := by
  have none' : ∀ t : Text, ∃ a rest, t = a ++ rest ∧ a.length = 0 ∧
      (∀ c ∈ a, isBlank c = true ∨ isName c = true ∨ c = '.') ∧
      (a = [] ∨ endsIn isName a = true) := fun t => ⟨[], t, rfl, rfl, by simp, .inl rfl⟩
  induction fuel generalizing t with
  | zero => exact none' t
  | succ fuel ih =>
      rw [Operator.accessLength]
      dsimp only
      split
      · next rest dot =>
        split_ifs with nameless
        · exact none' t
        · obtain ⟨w, rest', word, length, identifier⟩ := exists_identifier nameless
          obtain ⟨a, rest'', shape, length', chars, ends⟩ := ih rest'
          have whole : t = (leadingBlanks t ++ '.' :: (leadingBlanks rest ++ w)) ++ rest' := by
            conv_lhs => rw [← leadingBlanks_append_drop t, dot, ← leadingBlanks_append_drop rest, word]
            simp
          have taken : (leadingBlanks t ++ '.' :: (leadingBlanks rest ++ w)).length =
              (leadingBlanks t).length + 1 + (leadingBlanks rest).length +
                Operator.identifierLength (rest.drop (leadingBlanks rest).length) := by
            simp [length]
            omega
          have behind : t.drop (leadingBlanks t ++ '.' :: (leadingBlanks rest ++ w)).length = rest' :=
            (congrArg _ whole).trans List.drop_left
          rw [← taken, behind]
          refine ⟨leadingBlanks t ++ '.' :: (leadingBlanks rest ++ w) ++ a, rest'', ?_, ?_, ?_, .inr ?_⟩
          · rw [List.append_assoc, ← shape]
            exact whole
          · rw [List.length_append, length']
          · intro c among
            simp only [List.mem_append, List.mem_cons] at among
            rcases among with (blank | dot | blank | name) | later
            · exact .inl (isBlank_of_mem_leadingBlanks c blank)
            · exact .inr (.inr dot)
            · exact .inl (isBlank_of_mem_leadingBlanks c blank)
            · exact .inr (.inl (all_isName_of_isIdentifier identifier c name))
            · exact chars c later
          · have last : endsIn isName (leadingBlanks t ++ '.' :: (leadingBlanks rest ++ w)) = true := by
              rw [← List.cons_append, ← List.append_assoc,
                endsIn_append (ne_nil_of_isIdentifier identifier)]
              exact (chain_of_isIdentifier identifier).2
            rcases ends with rfl | ends
            · rwa [List.append_nil]
            · rwa [endsIn_append]
              rintro rfl
              cases ends
      · exact none' t

/-- The target of an update, apart. -/
lemma exists_target (some' : Operator.targetLength t ≠ 0) :
    ∃ a rest, t = a ++ rest ∧ a.length = Operator.targetLength t ∧ Spaced a := by
  rw [Operator.targetLength] at some' ⊢
  split_ifs at some' ⊢ with nameless
  · exact absurd rfl some'
  · obtain ⟨w, rest, shape, length, identifier⟩ := exists_identifier nameless
    have behind : t.drop (Operator.identifierLength t) = rest := by
      rw [← length]
      exact (congrArg _ shape).trans List.drop_left
    obtain ⟨a, rest', shape', length', chars, ends⟩ := exists_accesses t.length rest
    have names := all_isName_of_isIdentifier identifier
    refine ⟨w ++ a, rest', by rw [List.append_assoc, ← shape', ← shape], ?_, ?_, ?_, ?_⟩
    · rw [List.length_append, length, length', behind]
    · intro c among
      rcases List.mem_append.mp among with name | later
      · exact .inr (.inl (names c name))
      · exact chars c later
    · rw [startsIn_append (ne_nil_of_isIdentifier identifier)]
      obtain ⟨c, w', rfl⟩ := List.exists_cons_of_ne_nil (ne_nil_of_isIdentifier identifier)
      exact names c List.mem_cons_self
    · rcases ends with rfl | ends
      · rw [List.append_nil]
        exact (chain_of_isIdentifier identifier).2
      · rwa [endsIn_append]
        rintro rfl
        cases ends

namespace Spaced

variable {a g : Text} {op : Char}

lemma startsIn_isBlank (spaced : Spaced a) : startsIn isBlank a = false := by
  obtain ⟨-, name, -⟩ := spaced
  cases a with
  | nil => cases name
  | cons c rest =>
      change isName c = true at name
      change isBlank c = false
      by_contra blank
      rw [isName_of_isBlank (by simpa using blank)] at name
      cases name

lemma ne_nil (spaced : Spaced a) : a ≠ [] := by
  rintro rfl
  cases spaced.starts

/-- Without blanks it is a chain of names. -/
lemma without (spaced : Spaced a) :
    (∀ c ∈ without isBlank a, isName c = true ∨ c = '.') ∧ without isBlank a ≠ [] := by
  constructor
  · intro c among
    obtain ⟨among, solid⟩ := List.mem_filter.mp among
    exact (spaced.chars c among).resolve_left (by simpa using solid)
  · have solid := spaced.startsIn_isBlank
    obtain ⟨c, rest, rfl⟩ := List.exists_cons_of_ne_nil spaced.ne_nil
    change isBlank c = false at solid
    simp [Text.without, solid]

/-- With the operator behind it is an update, -/
lemma updates_behind (spaced : Spaced a) (blank : ∀ c ∈ g, isBlank c = true)
    (operator : op = '+' ∨ op = '-') : Updates (a ++ (g ++ [op, op])) (Text.without isBlank a) := by
  refine ⟨?_, ?_, ?_, by simp; omega, spaced.without.1, spaced.without.2⟩
  · intro c among
    simp only [List.mem_append, List.mem_cons, List.not_mem_nil, or_false, or_self] at among
    rcases among with among | among | rfl
    · exact (spaced.chars c among).imp_right (Or.imp_right (by simp [·]))
    · exact .inl (blank c among)
    · exact .inr (.inr (by rcases operator with rfl | rfl <;> decide))
  · rw [startsIn_append spaced.ne_nil]
    exact spaced.startsIn_isBlank
  · rw [← List.append_assoc, endsIn_append (List.cons_ne_nil op [op])]
    rcases operator with rfl | rfl <;> rfl

/-- and with the operator before it. -/
lemma updates_before (spaced : Spaced a) (blank : ∀ c ∈ g, isBlank c = true)
    (operator : op = '+' ∨ op = '-') : Updates (op :: op :: (g ++ a)) (Text.without isBlank a) := by
  refine ⟨?_, ?_, ?_, by simp, spaced.without.1, spaced.without.2⟩
  · intro c among
    simp only [List.mem_append, List.mem_cons] at among
    rcases among with rfl | rfl | among | among
    · exact .inr (.inr (by rcases operator with rfl | rfl <;> decide))
    · exact .inr (.inr (by rcases operator with rfl | rfl <;> decide))
    · exact .inl (blank c among)
    · exact (spaced.chars c among).imp_right (Or.imp_right (by simp [·]))
  · rcases operator with rfl | rfl <;> rfl
  · rw [← List.cons_append, ← List.cons_append, endsIn_append spaced.ne_nil]
    exact endsIn_isBlank spaced.ends

end Spaced

/-! ### The update that is found -/

lemma exists_of_updateOperator? {adds : Bool} (found : Operator.updateOperator? t = some adds) :
    ∃ op rest, t = op :: op :: rest ∧ (op = '+' ∨ op = '-') := by
  unfold Operator.updateOperator? at found
  split at found
  · exact ⟨'+', _, rfl, .inl rfl⟩
  · exact ⟨'-', _, rfl, .inr rfl⟩
  · cases found

/-- A text starts with an update. -/
def StartsUpdate (t : Text) (offset : Nat) (u : Operator.Update) : Prop :=
  ∃ part rest, t = part ++ rest ∧ u.start = offset ∧ u.stop = offset + part.length ∧
    Updates part u.target

variable {u : Operator.Update} {prev : Option Char} {offset : Nat}

lemma startsUpdate_of_postfixed? (found : Operator.postfixed? prev offset t = some u) :
    StartsUpdate t offset u := by
  rw [Operator.postfixed?] at found
  dsimp only at found
  split_ifs at found with none'
  obtain ⟨adds, operator, rfl⟩ := Option.map_eq_some_iff.mp found
  rw [not_or] at none'
  obtain ⟨a, rest, rfl, length, spaced⟩ := exists_target none'.1
  obtain ⟨op, rest', behind, sign⟩ := exists_of_updateOperator? operator
  rw [← length, List.drop_left, ← List.drop_drop, List.drop_left] at behind
  have blanks := leadingBlanks_append_drop rest
  rw [behind] at blanks
  refine ⟨a ++ (leadingBlanks rest ++ [op, op]), rest', ?_, rfl, ?_, ?_⟩
  · conv_lhs => rw [← blanks]
    simp
  · rw [← length, List.drop_left]
    simp
    omega
  · rw [← length, List.take_left]
    exact spaced.updates_behind isBlank_of_mem_leadingBlanks sign

lemma startsUpdate_of_prefixed? (found : Operator.prefixed? prev offset t = some u) :
    StartsUpdate t offset u := by
  simp only [Operator.prefixed?, Option.bind_eq_bind, Option.bind_eq_some_iff] at found
  obtain ⟨adds, operator, found⟩ := found
  split_ifs at found with none'
  obtain rfl := Option.some.inj found
  obtain ⟨op, rest, rfl, sign⟩ := exists_of_updateOperator? operator
  have same : (op :: op :: rest).drop 2 = rest := rfl
  rw [same] at none' ⊢
  obtain ⟨a, rest', shape, length, spaced⟩ := exists_target none'
  have whole : op :: op :: rest = (op :: op :: (leadingBlanks rest ++ a)) ++ rest' := by
    rw [← List.drop_drop, same] at shape
    conv_lhs => rw [← leadingBlanks_append_drop rest, shape]
    simp
  refine ⟨op :: op :: (leadingBlanks rest ++ a), rest', whole, rfl, ?_, ?_⟩
  · rw [← length]
    simp
    omega
  · have target : slice (op :: op :: rest) (2 + (leadingBlanks rest).length) (2 +
        (leadingBlanks rest).length + Operator.targetLength
          ((op :: op :: rest).drop (2 + (leadingBlanks rest).length))) = a := by
      rw [slice, ← length, shape, Nat.add_sub_cancel_left, List.take_left]
    rw [target]
    exact spaced.updates_before isBlank_of_mem_leadingBlanks sign

/-- An update that is found among others starts a part of the text. -/
lemma exists_of_mem_updatesFrom {form : Option Char → Nat → Text → Option Operator.Update}
    {skipped : Nat} (among : u ∈ Operator.updatesFrom form prev offset skipped t) :
    ∃ k prev', form prev' (offset + k) (t.drop k) = some u := by
  induction t generalizing prev offset skipped with
  | nil => cases among
  | cons c rest ih =>
      have later : ∀ {skipped}, u ∈ Operator.updatesFrom form (some c) (offset + 1) skipped rest →
          ∃ k prev', form prev' (offset + k) ((c :: rest).drop k) = some u := by
        intro skipped among
        obtain ⟨k, prev', found⟩ := ih among
        exact ⟨k + 1, prev', by rw [← Nat.add_assoc, Nat.add_right_comm]; exact found⟩
      cases skipped with
      | succ n => exact later among
      | zero =>
          rw [Operator.updatesFrom] at among
          split at among
          · next v found =>
            rcases List.mem_cons.mp among with rfl | among
            · exact ⟨0, prev, found⟩
            · exact later among
          · exact later among

/-- **The update that is found** stands in the masked text. -/
lemma exists_of_update? (found : Operator.update? code d = some u) :
    ∃ part rest, (mask code).drop u.start = part ++ rest ∧ u.stop = u.start + part.length ∧
      Updates part u.target := by
  obtain ⟨v, nearest, rfl⟩ := Option.map_eq_some_iff.mp found
  have starts : ∃ k, StartsUpdate ((maskedLineOf code d).drop k) k v := by
    rcases List.mem_append.mp (mem_of_nearest? nearest) with among | among
    · obtain ⟨k, prev, here⟩ := exists_of_mem_updatesFrom among
      rw [Nat.zero_add] at here
      exact ⟨k, startsUpdate_of_postfixed? here⟩
    · obtain ⟨k, prev, here⟩ := exists_of_mem_updatesFrom among
      rw [Nat.zero_add] at here
      exact ⟨k, startsUpdate_of_prefixed? here⟩
  obtain ⟨k, part, rest, shape, start, stop, updates⟩ := starts
  obtain ⟨below, line⟩ : maskedLineOf code d <+: (mask code).drop (lineStartOf code d) :=
    List.takeWhile_prefix _
  have within : k ≤ (maskedLineOf code d).length := by
    have := congrArg List.length shape
    have := updates.long
    rw [List.length_drop, List.length_append] at *
    omega
  refine ⟨part, rest ++ below, ?_, by dsimp only; omega, updates⟩
  dsimp only
  rw [start, ← List.drop_drop, ← line, List.drop_append_of_le_length within, shape,
    List.append_assoc]

/-! ### The head of a loop -/

/-- An offset in the head of a `for` loop, in no other bracket there. -/
def InForHead (m : Text) (i : Nat) : Prop :=
  ∃ head inside, m.take i = head ++ '(' :: inside ∧
    endsWithWord "for".toList (trimRight head) = true ∧ nesting inside = 0 ∧
    ∀ k, 0 ≤ nesting (inside.take k)

lemma nesting_reverse (t : Text) : nesting t.reverse = nesting t := by
  induction t with
  | nil => rfl
  | cons c rest ih =>
      rw [List.reverse_cons, nesting_append, ih, nesting_cons, nesting_cons, nesting_nil]
      omega

/-- Up to an unclosed bracket, every bracket that opens has been closed, read from the end. -/
lemma exists_of_unclosedBracket? {depth : Nat} {c : Char} {rest : Text}
    (found : unclosedBracket? depth t = some (c, rest)) :
    ∃ mid, t = mid ++ c :: rest ∧ nesting mid = depth ∧ ∀ k, nesting (mid.take k) ≤ depth := by
  induction t generalizing depth with
  | nil => cases found
  | cons b t ih =>
      -- One character more, which changes the depth that is looked for.
      have more : ∀ {depth' : Nat}, unclosedBracket? depth' t = some (c, rest) →
          bracketStep b + depth' = depth →
          ∃ mid, b :: t = mid ++ c :: rest ∧ nesting mid = depth ∧
            ∀ k, nesting (mid.take k) ≤ depth := by
        intro depth' found step
        obtain ⟨mid, rfl, level, below⟩ := ih found
        refine ⟨b :: mid, rfl, by rw [nesting_cons, level, step], fun k => ?_⟩
        cases k with
        | zero => exact Int.natCast_nonneg depth
        | succ k =>
            have := below k
            rw [List.take_succ_cons, nesting_cons]
            omega
      rw [unclosedBracket?] at found
      split_ifs at found with closes opens outermost
      · have other : isOpener b = false := by
          simp only [isCloser, Bool.or_eq_true, beq_iff_eq] at closes
          rcases closes with (rfl | rfl) | rfl <;> rfl
        refine more found ?_
        rw [bracketStep, if_neg (by simp [other]), if_pos closes]
        omega
      · obtain ⟨rfl, rfl⟩ := Prod.mk.inj (Option.some.inj found)
        exact ⟨[], rfl, by rw [nesting_nil, outermost]; rfl, fun k => by simp⟩
      · refine more found ?_
        rw [bracketStep, if_pos opens]
        omega
      · refine more found ?_
        rw [bracketStep, if_neg opens, if_neg closes, Int.zero_add]

/-- What the method takes for the last part of the head of a loop is in the head of one. -/
lemma inForHead_of_inLoopUpdate {m : Text} (found : Operator.inLoopUpdate m i = true) :
    InForHead m i := by
  simp only [Operator.inLoopUpdate] at found
  split at found
  · next rest unclosed =>
    obtain ⟨mid, shape, level, below⟩ := exists_of_unclosedBracket? unclosed
    refine ⟨rest.reverse, mid.reverse, ?_, (Bool.and_eq_true_iff.mp found).1,
      by rw [nesting_reverse, level]; rfl, fun k => ?_⟩
    · rw [← List.reverse_inj, shape]
      simp
    · have parts := congrArg nesting (List.take_append_drop (mid.length - k) mid)
      have first := below (mid.length - k)
      rw [nesting_append, level] at parts
      rw [List.take_reverse, nesting_reverse]
      omega
  · cases found

/-! ### The end of the statement -/

/-- What a token at the start of a line goes on with, if it starts with it. -/
def continuing : List Char :=
  ['(', '[', '\x60', '/', '+', '-', '*', '%', '.', ',', '?', '<', '>', '=', '&', '|', '^']

/-- An expression that ends at `i` ends with its statement, where the next token is at
`p`: there is none, it ends the statement, or it is in another line and does not go on an
expression. -/
def Bounded (t : Text) (i p : Nat) : Prop :=
  t[p]? = none ∨ t[p]? = some ';' ∨ t[p]? = some '}' ∨
    (∃ m, i ≤ m ∧ m < p ∧ t[m]? = some '\n') ∧ ∀ c ∈ t[p]?, c ∉ continuing

/-- What is written for an update. -/
def written (u : Operator.Update) : Text :=
  u.target ++ (if u.adds then " += 1" else " -= 1").toList

lemma edit_noPlusplus (edit : Operator.noPlusplus.edit code d = .ok after) :
    ∃ u, Operator.update? code d = some u ∧
      Operator.valueDiscarded (mask code) u.start u.stop = true ∧
      after = splice code u.start u.stop (written u) := by
  simp only [Operator.noPlusplus] at edit
  split at edit
  · cases edit
  · next u found =>
    by_cases discarded : Operator.valueDiscarded (mask code) u.start u.stop = true
    · rw [if_pos discarded] at edit
      exact ⟨u, found, discarded, (Except.ok.inj edit).symm⟩
    · rw [if_neg discarded] at edit
      cases edit

/-- Outside of the head of a loop, nothing but spaces and tabs stands between the update and
the end of its statement. -/
lemma ends_of_valueDiscarded {m : Text} {start stop : Nat}
    (discarded : Operator.valueDiscarded m start stop = true) (outside : ¬ InForHead m start) :
    ∀ c ∈ ((m.drop stop).dropWhile isSpaceOrTab).head?, c ∈ [';', '\n', '}'] := by
  have apart : Operator.inLoopUpdate m start = false := by
    rw [Bool.eq_false_iff]
    exact mt inForHead_of_inLoopUpdate outside
  simp only [Operator.valueDiscarded, apart, Bool.false_eq_true, if_false] at discarded
  split_ifs at discarded with ends
  all_goals
    intro c first
    obtain ⟨rest, behind⟩ := List.head?_eq_some_iff.mp first
    rw [behind] at ends
    simpa [startsIn, or_assoc] using ends

/-! ### What is written -/

/-- Plain characters of code lead to code. -/
lemma inCode_after_plain {st : State} (start : st.InCode) {w : Text} (rest : Text)
    (plain : ∀ c ∈ w, c ∉ ['/', '\x27', '\x22', '\x60', '{', '}']) :
    (st.after (w ++ rest) w.length).InCode := by
  induction w generalizing st with
  | nil =>
      rw [List.length_nil, State.after_zero]
      exact start
  | cons c w ih =>
      rw [List.cons_append, List.length_cons, State.after,
        start.step_plain (plain c List.mem_cons_self)]
      exact ih ⟨by simp [start.mode], by simp [start.alone]⟩
        fun b among => plain b (List.mem_cons_of_mem c among)

/-- The characters of an assignment are plain. -/
lemma plain_of_written {part : Text} (updates : Updates part u.target) :
    ∀ c ∈ written u, c ∉ ['/', '\x27', '\x22', '\x60', '{', '}'] := by
  have operators : ∀ adds : Bool, (if adds then " += 1" else " -= 1").toList.all
      (! ['/', '\x27', '\x22', '\x60', '{', '}'].contains ·) = true := by decide
  intro c among bad
  rcases List.mem_append.mp among with target | operator
  · have name := updates.names c target
    simp only [List.mem_cons, List.not_mem_nil, or_false] at bad
    rcases bad with rfl | rfl | rfl | rfl | rfl | rfl <;> exact absurd name (by decide)
  · have other := List.all_eq_true.mp (operators u.adds) c operator
    simp only [Bool.not_eq_true', ← Bool.not_eq_true, List.contains_iff_mem] at other
    exact other bad

/-- What a chain of names starts with has no say in how the character before it is read. -/
lemma neutral_of_chars {w rest : Text} (some' : w ≠ [])
    (chars : ∀ c ∈ w, isBlank c = true ∨ isName c = true ∨ c ∈ ['.', '+', '-']) :
    Neutral (w ++ rest).head? := by
  obtain ⟨c, w, rfl⟩ := List.exists_cons_of_ne_nil some'
  have first := chars c List.mem_cons_self
  refine ⟨?_, ?_, ?_⟩ <;> rintro ⟨⟩ <;> exact absurd first (by decide)

/-- Behind what is written for an update in code, the scanner is in code. -/
lemma inCode_behind_written {before part rest : Text} (updates : Updates part u.target)
    (neutral : Neutral rest.head?) (inCode : (stateAt (before ++ rest) before.length).InCode)
    (rest' : Text) :
    (stateAt (before ++ (written u ++ rest')) (before.length + (written u).length)).InCode := by
  obtain ⟨ms, st, read, rfl⟩ := exists_reads rest before {}
  have start : (written u ++ rest') = u.target ++
      ((if u.adds then " += 1" else " -= 1").toList ++ rest') := List.append_assoc _ _ _
  have neutral' : Neutral (written u ++ rest').head? := by
    rw [start]
    exact neutral_of_chars updates.some' fun c among => (updates.names c among).elim (.inr ∘ .inl)
      fun dot => .inr (.inr (by simp [dot]))
  have read' : Reads (written u ++ rest') {} ms st :=
    read.alike fun c _ st => State.step_neutral neutral neutral'
  rw [read.stateAt] at inCode
  rw [stateAt_append_add, read'.stateAt]
  exact inCode_after_plain inCode rest' (plain_of_written updates)

/-- The scanner is in code before and behind an update. -/
lemma inCode_around {part rest : Text} (updates : Updates part u.target)
    (stands : (mask code).drop i = part ++ rest) (apart : rest.head? ≠ some '{') :
    (stateAt code i).InCode ∧ (stateAt code (i + part.length)).InCode ∧
      (code.drop i).head? = (part ++ rest).head? := by
  have masked : ∀ k, (mask code)[i + k]? = (part ++ rest)[k]? := fun k => by
    rw [← stands, List.getElem?_drop]
  have plain : ∀ c ∈ part, isBlank c = false → isName c = true ∨ c ∈ ['.', '+', '-'] :=
    fun c among solid => (updates.chars c among).resolve_left (by simp [solid])
  have long := updates.long
  refine ⟨?_, ?_, ?_⟩
  · obtain ⟨c, c', w, rfl⟩ : ∃ c c' w, part = c :: c' :: w := by
      rcases part with _ | ⟨c, _ | ⟨c', w⟩⟩
      · simp at long
      · simp at long
      · exact ⟨c, c', w, rfl⟩
    have second : c' ≠ '{' := by
      rintro rfl
      exact absurd (updates.chars '{' (by simp)) (by decide)
    exact (inCode_of_mask (masked 0) (plain c List.mem_cons_self updates.starts)
      (by rw [masked 1]; simpa using second)).1
  · obtain rfl | ⟨w, c, rfl⟩ := List.eq_nil_or_concat part
    · simp at long
    · rw [List.concat_eq_append] at *
      have solid : isBlank c = false := by simpa [endsIn] using updates.ends
      have last : (mask code)[i + w.length]? = some c := by
        rw [masked]
        simp
      have next : (mask code)[i + w.length + 1]? = rest.head? := by
        rw [Nat.add_assoc, masked]
        simp [List.getElem?_append_right, List.head?_eq_getElem?]
      rw [List.length_append, List.length_singleton, ← Nat.add_assoc]
      exact (inCode_of_mask last (plain c (by simp) solid) (by rwa [next])).2
  · obtain ⟨c, w, rfl⟩ := List.exists_cons_of_ne_nil (List.ne_nil_of_length_pos (Nat.lt_of_succ_lt long))
    rw [List.head?_drop]
    exact (kept_of_mask (masked 0) updates.starts).1

/-- So it is behind the update that is found, and behind what is written for it. -/
lemma inCode_of_update? (found : Operator.update? code d = some u)
    (apart : (mask code)[u.stop]? ≠ some '{') :
    u.start ≤ code.length ∧ (stateAt code u.stop).InCode ∧
      (stateAt (code.take u.start ++ (written u ++ code.drop u.stop))
        (u.start + (written u).length)).InCode := by
  obtain ⟨part, rest, stands, stop, updates⟩ := exists_of_update? found
  have some' : part ≠ [] := List.ne_nil_of_length_pos (Nat.lt_of_succ_lt updates.long)
  have within : u.start ≤ code.length := by
    by_contra beyond
    rw [List.drop_of_length_le (by simpa using Nat.le_of_lt (Nat.not_le.mp beyond))] at stands
    exact some' (List.append_eq_nil_iff.mp stands.symm).1
  have next : rest.head? ≠ some '{' := by
    rwa [stop, ← List.head?_drop, ← List.drop_drop, stands, List.drop_left] at apart
  obtain ⟨before, behind, first⟩ := inCode_around updates stands next
  have length : (code.take u.start).length = u.start := by
    rw [List.length_take, Nat.min_eq_left within]
  have start : (stateAt (code.take u.start ++ code.drop u.start) (code.take u.start).length).InCode := by
    rw [List.take_append_drop, length]
    exact before
  have neutral : Neutral (code.drop u.start).head? := by
    rw [first]
    exact neutral_of_chars some' updates.chars
  have rewritten := inCode_behind_written updates neutral start (code.drop u.stop)
  rw [length] at rewritten
  exact ⟨within, stop ▸ behind, rewritten⟩

lemma bounded_iff (found : (∀ c ∈ t[p]?, c ∈ [';', '}', '/']) ∨ ∃ m, i ≤ m ∧ m < p ∧ t[m]? = some '\n') :
    Bounded t i p ↔ ∀ c ∈ t[p]?, c ∉ continuing := by
  constructor
  · rintro (none' | semicolon | brace | ⟨-, goesOn⟩) c here
    · rw [none'] at here
      cases here
    · obtain rfl := Option.some.inj (semicolon.symm.trans here)
      decide
    · obtain rfl := Option.some.inj (brace.symm.trans here)
      decide
    · exact goesOn c here
  · intro goesOn
    rcases found with ends | line
    · cases here : t[p]? with
      | none => exact .inl here
      | some c =>
          have among := ends c here
          simp only [List.mem_cons, List.not_mem_nil, or_false] at among
          rcases among with rfl | rfl | rfl
          · exact .inr (.inl here)
          · exact .inr (.inr (.inl here))
          · exact absurd (by decide) (goesOn '/' here)
    · exact .inr (.inr (.inr ⟨line, goesOn⟩))

/-- **The end of the statement.** Outside of the heads of loops, what the built-in fixer of
`no-plusplus` writes for an update is followed, behind blanks and comments, by a semicolon,
a brace, the end of the text, or a line end behind which nothing goes on the expression,
just if the next token does not start like one that does. -/
theorem bounded_of_fix {accepts : Acceptor} {o : Options} {f : Fixer} {r : FixResult}
    (builtin : builtin? accepts o "no-plusplus" = some f) (fix : f.fix code d = .ok r)
    (success : r.isSuccess = true)
    (outside : ∀ u, Operator.update? code d = some u → ¬ InForHead (mask code) u.start) :
    ∃ u p, Operator.update? code d = some u ∧
      r.code = code.take u.start ++ (written u ++ code.drop u.stop) ∧
      NextToken r.code (u.start + (written u).length) p ∧
      (Bounded r.code (u.start + (written u).length) p ↔ ∀ c ∈ r.code[p]?, c ∉ continuing) := by
  cases builtin
  obtain ⟨-, edit, -⟩ := edit_of_fixer fix success
  obtain ⟨u, found, discarded, rewritten⟩ := edit_noPlusplus edit
  have shape : r.code = code.take u.start ++ (written u ++ code.drop u.stop) := by
    rw [rewritten, splice, List.append_assoc]
  obtain ⟨p, next⟩ := exists_nextToken r.code (u.start + (written u).length)
  refine ⟨u, p, found, shape, next, bounded_iff ?_⟩
  have ends := ends_of_valueDiscarded discarded (outside u found)
  have apart : (mask code)[u.stop]? ≠ some '{' := by
    intro brace
    obtain ⟨rest, behind⟩ := List.head?_eq_some_iff.mp (List.head?_drop.trans brace)
    rw [behind] at ends
    exact absurd (ends '{' rfl) (by decide)
  obtain ⟨within, inCode, inCode'⟩ := inCode_of_update? found apart
  rw [← shape] at inCode'
  rw [drop_mask] at ends
  have length : (code.take u.start ++ written u).length = u.start + (written u).length := by
    rw [List.length_append, List.length_take, Nat.min_eq_left within]
  obtain ⟨n, rfl⟩ := Nat.exists_eq_add_of_le next.le
  have idles : ∀ m, Idle r.code (u.start + (written u).length + m) ↔
      (stateAt r.code (u.start + (written u).length)).Idles (code.drop u.stop) m := by
    intro m
    rw [shape, ← List.append_assoc, ← length]
    exact State.idle_append_add _ _ m
  have stands : ∀ m : Nat, r.code[u.start + (written u).length + m]? = (code.drop u.stop)[m]? := by
    intro m
    rw [shape, ← List.append_assoc, ← length, List.getElem?_append_right (by omega),
      Nat.add_sub_cancel_left]
  rcases State.found_of_ends inCode'.between (inCode.mode.trans inCode'.mode.symm)
    (inCode.alone.trans inCode'.alone.symm) ends
    (fun m lt => (idles m).mp (next.idle _ (by omega) (by omega))) (mt (idles n).mpr next.token)
    with token | ⟨m, lt, feed⟩
  · rw [stands]
    exact .inl token
  · exact .inr ⟨_, Nat.le_add_right _ m, by omega, (stands m).trans feed⟩

/-- An update at the start of a text. -/
def updated : Diagnostic :=
  { rule := some "no-plusplus", message := "Unary operator '++' used.", line := 1, column := 1 }

lemma not_inForHead_zero (m : Text) : ¬ InForHead m 0 := by
  rintro ⟨head, inside, shape, -⟩
  simp at shape

theorem bounded_of_fix_comment :
    let code := "x++ // n\ny();".toList
    ∃ f r, builtin? Grammar.accepts {} "no-plusplus" = some f ∧ f.fix code updated = .ok r ∧
      r.isSuccess = true ∧
      (∀ u, Operator.update? code updated = some u → ¬ InForHead (mask code) u.start) ∧
      r.code = "x += 1 // n\ny();".toList ∧
      ∃ u p, Operator.update? code updated = some u ∧
        r.code = code.take u.start ++ (written u ++ code.drop u.stop) ∧
        NextToken r.code (u.start + (written u).length) p ∧
        (Bounded r.code (u.start + (written u).length) p ↔ ∀ c ∈ r.code[p]?, c ∉ continuing) := by
  intro code
  let f := simple Grammar.accepts "NoPlusplusFixer" "no-plusplus"
    "Replace increment and decrement operators with compound assignment" Operator.noPlusplus
  have builtin : builtin? Grammar.accepts {} "no-plusplus" = some f := rfl
  have fix : f.fix code updated = .ok { code := "x += 1 // n\ny();".toList } := by
    decide +kernel
  have outside : ∀ u, Operator.update? code updated = some u →
      ¬ InForHead (mask code) u.start := by
    intro u found
    have here : Operator.update? code updated = some ⟨0, 3, ['x'], true⟩ := by decide +kernel
    obtain rfl := Option.some.inj (here.symm.trans found)
    exact not_inForHead_zero _
  exact ⟨f, _, builtin, fix, rfl, outside, rfl, bounded_of_fix builtin fix rfl outside⟩

/-- An update with a bracket at the start of the next line. -/
theorem bounded_of_fix_not : ¬ ∀ (code : Text) (d : Diagnostic) (f : Fixer) (r : FixResult)
    (u : Operator.Update) (p : Nat),
      builtin? Grammar.accepts {} "no-plusplus" = some f → f.fix code d = .ok r →
      r.isSuccess = true → Operator.update? code d = some u →
      ¬ InForHead (mask code) u.start → NextToken r.code (u.start + (written u).length) p →
      Bounded r.code (u.start + (written u).length) p := by
  intro always
  have next : NextToken "x += 1\n[1].map(f);".toList 6 7 := by
    refine ⟨by decide, fun m low high => ?_, by decide⟩
    obtain rfl : m = 6 := by omega
    decide
  rcases always "x++\n[1].map(f);".toList updated _ { code := "x += 1\n[1].map(f);".toList }
    ⟨0, 3, ['x'], true⟩ 7 rfl (by decide +kernel) rfl (by decide +kernel) (not_inForHead_zero _)
    next with none' | semicolon | brace | ⟨-, goesOn⟩
  · cases none'
  · exact absurd semicolon (by decide)
  · exact absurd brace (by decide)
  · exact goesOn '[' rfl (by decide)

end LintRepair.Rules
