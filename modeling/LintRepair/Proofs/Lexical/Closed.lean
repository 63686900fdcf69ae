/-
A text read where other brackets are open.

* `State.onto`: a state with what is open in another one below it;
* `State.step_onto`: a character that closes nothing of that is read alike;
* `Reads.onto`: so is a text in which no bracket closes that it has not opened;
  `Reads.of_onto`: the other way round;
* `Counted`: what is open behind a text, by the brackets of the masked text;
* `Reads.onto_of_closed`: if it closes all that it opens, what is open below is as before;
  `open_of_slice`: so it is behind what is closed in the masked text.
-/
import LintRepair.Proofs.Lexical.Next

namespace LintRepair.Lexical

open Text Code

namespace State

variable {st base : State} {c : Char} {next : Option Char} {k : Int}

/-! ### One character -/

/-- A state with what is open in another one below it, where `k` braces have been opened on
top of the innermost interpolation there. -/
def onto (st base : State) (k : Int) : State :=
  { st with
    templateDepth := st.templateDepth + base.templateDepth
    interpolations := st.interpolations ++ base.interpolations.modifyHead (· + k)
    parens := st.parens ++ base.parens }

lemma inCode_onto : (st.onto base k).InCode ↔ st.InCode :=
  ⟨fun h => ⟨h.mode, h.alone⟩, fun h => ⟨h.mode, h.alone⟩⟩

/-- A character that closes nothing of what is open below. -/
structure Spares (st : State) (k : Int) (c : Char) : Prop where
  paren : st.InCode → c = ')' → st.parens ≠ []
  brace : st.InCode → c = '}' → st.interpolations = [] → 0 < k

/-- How many braces are open on top of the innermost interpolation below, behind a
character. -/
def raised (st : State) (k : Int) (c : Char) : Int :=
  if st.InCode ∧ st.interpolations = [] then k + braceCount c else k

lemma raised_of_ne (opening : c ≠ '{') (closing : c ≠ '}') : st.raised k c = k := by
  simp [raised, braceCount, opening, closing]

lemma codeChar_onto (spares : c = ')' → st.parens ≠ []) :
    (st.onto base k).codeChar c = (st.codeChar c).onto base k := by
  rw [codeChar, codeChar]
  by_cases name : (isAlnum c || c == '_' || c == '$') = true
  · rw [if_pos name, if_pos name]
    rfl
  rw [if_neg name, if_neg name]
  split_ifs with blank opening closing
  · rfl
  · rfl
  · obtain ⟨head, parens, shape⟩ := List.exists_cons_of_ne_nil (spares (by simpa using closing))
    simp only [onto, shape]
    rfl
  · rfl

/-- Plain code is read alike. -/
lemma plain_onto (inCode : st.InCode) (spares : st.Spares k c) :
    (st.onto base k).plain c = (st.plain c).onto base (st.raised k c) := by
  have interpolations : (st.onto base k).interpolations.modifyHead (· + braceCount c) =
      st.interpolations.modifyHead (· + braceCount c) ++
        base.interpolations.modifyHead (· + st.raised k c) := by
    cases among : st.interpolations with
    | nil =>
        simp only [onto, raised, among, inCode, and_self, if_true, List.nil_append,
          List.modifyHead_nil, List.modifyHead_modifyHead]
        congr 1
        funext n
        simp [Int.add_assoc]
    | cons n outer => simp [onto, raised, among]
  have alike := @codeChar_onto
    { st with interpolations := st.interpolations.modifyHead (· + braceCount c) } base c
    (st.raised k c) (spares.paren inCode)
  rw [plain, interpolations]
  exact alike

/-- An interpolation is closed alike, and none of those below is. -/
lemma closes_onto (counts : base.Counts) (inCode : st.InCode)
    (spares : st.Spares k c) :
    (c = '}' ∧ (st.onto base k).interpolations.head? = some 0) ↔
      (c = '}' ∧ st.interpolations.head? = some 0) := by
  refine and_congr_right fun closing => ?_
  cases among : st.interpolations with
  | cons n outer => simp [onto, among]
  | nil =>
      have above := spares.brace inCode closing among
      cases below : base.interpolations with
      | nil => simp [onto, among, below]
      | cons n outer =>
          have first : 0 ≤ n := counts n (below ▸ List.mem_cons_self)
          have open' : n + k ≠ 0 := by omega
          simp [onto, among, below, open']

/-- Inside of anything, it makes no difference what is open below. -/
lemma step_onto_inside (inside : ¬ st.InCode) :
    (st.onto base k).step c next = ((st.step c next).1, (st.step c next).2.onto base k) := by
  obtain ⟨mode, joined, depth, opened, allowed, word, inWord, afterWord, parens⟩ := st
  cases joined with
  | some kind => rfl
  | none =>
    cases mode with
    | code => exact absurd ⟨rfl, rfl⟩ inside
    | lineComment | blockComment =>
        simp only [step, onto]
        split_ifs <;> rfl
    | string quote =>
        simp only [step, onto, stepString]
        split_ifs <;> rfl
    | regex inClass =>
        simp only [step, onto, stepRegex]
        split_ifs <;> rfl
    | template =>
        simp only [step, onto, stepTemplate]
        split_ifs
        · rfl
        · simp [Int.sub_eq_add_neg, Int.add_right_comm]
        · rfl
        · rfl

/-- **A character that closes nothing of what is open below is read alike.** -/
lemma step_onto (counts : base.Counts) (spares : st.Spares k c) :
    (st.onto base k).step c next =
      ((st.step c next).1, (st.step c next).2.onto base (st.raised k c)) := by
  by_cases inCode : st.InCode
  swap
  · have same : st.raised k c = k := by simp [raised, inCode]
    rw [same]
    exact step_onto_inside inCode
  have other : ∀ b, b ≠ '{' → b ≠ '}' → c = b → st.raised k c = k := by
    rintro b opening closing rfl
    exact raised_of_ne opening closing
  rw [(inCode_onto.mpr inCode).step_eq, inCode.step_eq, stepCode_eq, stepCode_eq,
    plain_onto inCode spares]
  simp only [closes_onto counts inCode spares]
  have allowed : (st.onto base k).regexAllowed = st.regexAllowed := rfl
  rw [allowed]
  split_ifs with line block regex quote tick last
  · rw [other '/' (by decide) (by decide) line.1]
    rfl
  · rw [other '/' (by decide) (by decide) block.1]
    rfl
  · rw [other '/' (by decide) (by decide) regex.1]
    rfl
  · rw [raised_of_ne (by rintro rfl; simp at quote) (by rintro rfl; simp at quote)]
    rfl
  · rw [other '\x60' (by decide) (by decide) tick]
    simp [onto, Int.add_right_comm]
  · obtain ⟨outer, among⟩ := List.head?_eq_some_iff.mp last.2
    simp [onto, raised, among]
  · rfl

/-! ### What is open behind it -/

/-- A closing bracket in code is not masked. -/
lemma InCode.masked_closing (h : st.InCode) (closing : c = ')' ∨ c = '}') :
    (st.step c next).1.masked c = c := by
  have code : (st.step c next).1 = .code := by
    rcases closing with rfl | rfl
    · rw [h.step_closing]
    · rw [h.step_eq, stepCode_eq]
      simp only [Char.reduceEq, false_and, or_self, if_false]
      split_ifs <;> rfl
  rw [code, Kind.masked_of_isKept rfl]

/-- The parentheses of the masked text are those in code. -/
lemma masked_eq_paren {b : Char} (tidy : st.Tidy) (consistent : st.Consistent)
    (brace : st.joined = some .code → c = '{') (paren : b = '(' ∨ b = ')') :
    (st.step c next).1.masked c = b ↔ st.InCode ∧ c = b := by
  have solid : isBlank b = false := by rcases paren with rfl | rfl <;> decide
  constructor
  · intro stays
    cases kept : (st.step c next).1.isKept with
    | false => simp [← stays, Kind.isBlank_masked kept] at solid
    | true =>
      rw [Kind.masked_of_isKept kept] at stays
      subst stays
      cases kind : (st.step c next).1 with
      | code =>
          rcases inCode_or_of_code kind with inCode | joined | rfl | rfl
          · exact ⟨inCode, rfl⟩
          · rw [brace joined] at paren
            exact absurd paren (by decide)
          · exact absurd paren (by decide)
          · exact absurd paren (by decide)
      | delimiter =>
          rcases quoted_of_delimiter tidy consistent kind with rfl | rfl | rfl <;>
            exact absurd paren (by decide)
      | string | comment | regex | template =>
          rw [kind] at kept
          cases kept
  · rintro ⟨inCode, rfl⟩
    rcases paren with rfl | rfl
    · rw [inCode.step_opening]
      rfl
    · exact inCode.masked_closing (.inl rfl)

/-- The parentheses that the scanner remembers are counted in the masked text. -/
lemma length_parens_step (tidy : st.Tidy) (consistent : st.Consistent)
    (brace : st.joined = some .code → c = '{') (spares : st.Spares k c) :
    ((st.step c next).2.parens.length : Int) =
      st.parens.length + height '(' ')' [(st.step c next).1.masked c] := by
  have masked := fun {b} => @masked_eq_paren st c next b tidy consistent brace
  rw [parens_step]
  split_ifs with opening closing
  · rw [(masked (.inl rfl)).mpr opening, height_up (by decide), List.length_cons]
    omega
  · have some' := List.length_pos_of_ne_nil (spares.paren closing.1 closing.2)
    rw [(masked (.inr rfl)).mpr closing, height_down (by decide), List.length_tail]
    omega
  · rw [height_other (mt (masked (.inl rfl)).mp opening) (mt (masked (.inr rfl)).mp closing),
      Int.add_zero]

/-- Outside of all interpolations no brace is remembered. -/
lemma InCode.opened_outside (h : st.InCode) (outside : st.interpolations = []) :
    (st.step c next).2.opened = 0 ∧ (st.step c next).1.braces c = braceCount c := by
  have alone : (st.plain c).joined = none := by rw [State.plain, joined_codeChar, h.alone]
  have none' : (st.plain c).interpolations = [] := by
    rw [State.plain, interpolations_codeChar, outside, List.modifyHead_nil]
  have other : ∀ b, b ≠ '{' → b ≠ '}' → c = b → braceCount c = 0 := by
    rintro b opening closing rfl
    simp [braceCount, opening, closing]
  rw [h.step_eq, stepCode_eq]
  split_ifs with line block regex quote tick last
  · simp [opened, bracesIn, outside, Kind.braces, line.1, braceCount]
  · simp [opened, bracesIn, outside, Kind.braces, block.1, braceCount]
  · simp [opened, bracesIn, outside, Kind.braces, regex.1, braceCount, h.alone]
  · rcases quote with rfl | rfl <;>
      simp [opened, bracesIn, outside, Kind.braces, braceCount, h.alone]
  · simp [opened, bracesIn, outside, Kind.braces, tick, braceCount, h.alone]
  · simp [outside] at last
  · simp [opened, bracesIn, none', alone, Kind.braces]

/-- So are the braces on top of the innermost interpolation below. -/
lemma raised_add_opened (counts : st.Counts) (tidy : st.Tidy) (consistent : st.Consistent)
    (brace : st.joined = some .code → c = '{') :
    (st.step c next).2.Counts ∧ st.raised k c + (st.step c next).2.opened =
      k + st.opened + height '{' '}' [(st.step c next).1.masked c] := by
  obtain ⟨counts', step⟩ := @opened_step st c next counts brace
  refine ⟨counts', ?_⟩
  rw [height_masked tidy consistent]
  by_cases outside : st.InCode ∧ st.interpolations = []
  · obtain ⟨none', count⟩ := @InCode.opened_outside st c next outside.1 outside.2
    have start : st.opened = 0 := by simp [opened, outside.1.alone, outside.2, bracesIn]
    rw [raised, if_pos outside, none', count, start]
    omega
  · rcases step with ⟨inside, -⟩ | once
    · exact absurd inside outside
    · rw [raised, if_neg outside, once]
      omega

end State

/-! ### A text -/

/-- The text of characters that have been read, masked. -/
def Marks.masked (ms : Marks) : Text := ms.map fun read => read.2.masked read.1

/-- No bracket of a pair is closed in a text that is not among `n` open ones or opened in it. -/
def Covers (up down : Char) (n : Int) (t : Text) : Prop := ∀ j, 0 ≤ n + height up down (t.take j)

lemma covers_cons {up down : Char} {n : Int} {b : Char} {t : Text}
    (covers : Covers up down n (b :: t)) :
    0 ≤ n + height up down [b] ∧ Covers up down (n + height up down [b]) t := by
  have later : Covers up down (n + height up down [b]) t := by
    intro j
    have level := covers (j + 1)
    rw [List.take_succ_cons, height_cons] at level
    omega
  exact ⟨by simpa using later 0, later⟩

/-- What the scanner remembers is in order. -/
structure State.Sound (st : State) : Prop where
  consistent : st.Consistent
  tidy : st.Tidy
  counts : st.Counts

/-- What is read, counted on top of what is open below. -/
structure Counted (s s' : State) (k k' : Int) (m : Text) : Prop where
  sound : s'.Sound
  nonneg : 0 ≤ k'
  parens : (s'.parens.length : Int) = s.parens.length + height '(' ')' m
  braces : k' + s'.opened = k + s.opened + height '{' '}' m

namespace State

variable {st base : State} {c : Char} {next : Option Char} {k : Int}

/-- A bracket that is among the open ones is none of those below. -/
lemma spares_of_covers {kind : Kind} (read : st.InCode → c = ')' ∨ c = '}' → kind.masked c = c)
    (parens : 0 ≤ (st.parens.length : Int) + height '(' ')' [kind.masked c])
    (braces : 0 ≤ k + st.opened + height '{' '}' [kind.masked c]) : st.Spares k c where
  paren inCode closing := by
    rw [read inCode (.inl closing), closing, height_down (by decide)] at parens
    exact List.ne_nil_of_length_pos (by omega)
  brace inCode closing outside := by
    have start : st.opened = 0 := by simp [opened, inCode.alone, outside, bracesIn]
    rw [read inCode (.inr closing), closing, height_down (by decide), start] at braces
    omega

/-- One character, counted. -/
lemma Sound.step (sound : st.Sound) (nonneg : 0 ≤ k) (brace : st.joined = some .code → c = '{')
    (spares : st.Spares k c) :
    Counted st (st.step c next).2 k (st.raised k c) [(st.step c next).1.masked c] := by
  obtain ⟨counts, braces⟩ := @raised_add_opened st c next k sound.counts sound.tidy
    sound.consistent brace
  refine ⟨⟨sound.consistent.step c next, sound.tidy.step c next, counts⟩, ?_,
    length_parens_step sound.tidy sound.consistent brace spares, braces⟩
  rw [raised]
  split_ifs with outside
  · by_cases closing : c = '}'
    · have above := spares.brace outside.1 closing outside.2
      rw [braceCount, if_neg (by rw [closing]; decide), if_pos closing]
      omega
    · rw [braceCount, if_neg closing]
      split_ifs <;> omega
  · exact nonneg

end State

lemma Counted.trans {s s' s'' : State} {k k' k'' : Int} {m m' : Text} (h : Counted s s' k k' m)
    (h' : Counted s' s'' k' k'' m') : Counted s s'' k k'' (m ++ m') where
  sound := h'.sound
  nonneg := h'.nonneg
  parens := by
    rw [h'.parens, h.parens, height_append, Int.add_assoc]
  braces := by
    rw [h'.braces, h.braces, height_append, Int.add_assoc]

namespace Reads

variable {s s' place end' base : State} {k : Int} {ms : Marks} {rest : Text}

/-- **On top of other brackets** a text in which no bracket closes that it has not opened is
read alike. -/
lemma onto (read : Reads rest s ms s') (counts : base.Counts) (sound : s.Sound) (nonneg : 0 ≤ k)
    (brace : s.joined = some .code → (ms.map Prod.fst ++ rest).head? = some '{')
    (parens : Covers '(' ')' s.parens.length ms.masked)
    (braces : Covers '{' '}' (k + s.opened) ms.masked) :
    ∃ k', Counted s s' k k' ms.masked ∧ Reads rest (s.onto base k) ms (s'.onto base k') := by
  induction read generalizing k with
  | nil s => exact ⟨k, ⟨sound, nonneg, by simp [Marks.masked], by simp [Marks.masked]⟩, .nil _⟩
  | @cons s s' s'' c kind ms now later ih =>
      obtain ⟨first, parens'⟩ := covers_cons parens
      obtain ⟨first', braces'⟩ := covers_cons braces
      have brace' : s.joined = some .code → c = '{' := fun joined => by simpa using brace joined
      have read : (s.step c (ms.map Prod.fst ++ rest).head?).1 = kind := congrArg Prod.fst now
      have behind : (s.step c (ms.map Prod.fst ++ rest).head?).2 = s' := congrArg Prod.snd now
      have spares : s.Spares k c := State.spares_of_covers
        (fun inCode closing => read ▸ inCode.masked_closing closing) first first'
      have step := @State.Sound.step s c (ms.map Prod.fst ++ rest).head? k sound nonneg brace' spares
      rw [now] at step
      obtain ⟨k', counted, onwards⟩ := ih step.sound step.nonneg
        (fun joined => State.next_of_joined (behind ▸ joined))
        (by rw [step.parens]; exact parens') (by rw [step.braces]; exact braces')
      refine ⟨k', step.trans counted, .cons ?_ onwards⟩
      rw [State.step_onto counts spares, now]

/-- So what is read on top of other brackets is read so without them. -/
lemma of_onto (read : Reads rest place ms end') (onto : place = s.onto base k)
    (counts : base.Counts) (sound : s.Sound) (nonneg : 0 ≤ k)
    (brace : s.joined = some .code → (ms.map Prod.fst ++ rest).head? = some '{')
    (parens : Covers '(' ')' s.parens.length ms.masked)
    (braces : Covers '{' '}' (k + s.opened) ms.masked) :
    ∃ s' k', Counted s s' k k' ms.masked ∧ end' = s'.onto base k' ∧ Reads rest s ms s' := by
  induction read generalizing s k with
  | nil _ =>
      exact ⟨s, k, ⟨sound, nonneg, by simp [Marks.masked], by simp [Marks.masked]⟩, onto, .nil _⟩
  | @cons place place' end' c kind ms now later ih =>
      obtain ⟨first, parens'⟩ := covers_cons parens
      obtain ⟨first', braces'⟩ := covers_cons braces
      have brace' : s.joined = some .code → c = '{' := fun joined => by simpa using brace joined
      have read : (place.step c (ms.map Prod.fst ++ rest).head?).1 = kind := congrArg Prod.fst now
      have spares : s.Spares k c := State.spares_of_covers
        (fun inCode closing => read ▸
          (onto ▸ State.inCode_onto.mpr inCode : place.InCode).masked_closing closing) first first'
      rw [onto, State.step_onto counts spares, Prod.mk.injEq] at now
      obtain ⟨now, rfl⟩ := now
      have step := @State.Sound.step s c (ms.map Prod.fst ++ rest).head? k sound nonneg brace'
        spares
      rw [now] at step
      obtain ⟨s', k', counted, shape, onwards⟩ := ih rfl step.sound step.nonneg
        State.next_of_joined (by rw [step.parens]; exact parens')
        (by rw [step.braces]; exact braces')
      exact ⟨s', k', step.trans counted, shape, .cons (Prod.ext now rfl) onwards⟩

end Reads

/-! ### A closed text -/

namespace State

variable {s s' st base : State} {k' : Int} {m : Text}

/-- The state with nothing open in it. -/
def bare (st : State) : State := { st with templateDepth := 0, interpolations := [], parens := [] }

/-- Every state has what is open in it below nothing else. -/
@[simp]
lemma bare_onto (st : State) : st.bare.onto st 0 = st := by
  have same : st.interpolations.modifyHead (· + 0) = st.interpolations := by
    cases st.interpolations <;> simp
  simp only [bare, onto, same, Int.zero_add, List.nil_append]

lemma InCode.bare (h : st.InCode) : st.bare.InCode := ⟨h.mode, h.alone⟩

lemma InCode.sound_bare (h : st.InCode) : st.bare.Sound where
  consistent := ⟨by simp [State.bare, h.mode], by simp [State.bare, h.alone]⟩
  tidy := by
    refine ⟨?_, ?_, ?_, ?_⟩ <;> simp [State.bare, h.mode, h.alone]
  counts := by simp [Counts, State.bare]

/-- Behind a closed text nothing is open that has not been before it. -/
lemma none_of_counted (counted : Counted s s' 0 k' m) (start : s.bare = s) (alone : s.joined = none)
    (parens : Closed '(' ')' m) (braces : Closed '{' '}' m) (ends : s'.joined ≠ some .code) :
    s'.parens = [] ∧ s'.interpolations = [] ∧ k' = 0 := by
  have count := counted.parens
  have count' := counted.braces
  have few := length_le_bracesIn counted.sound.counts
  have nonneg := counted.nonneg
  have none' : s.opened = 0 := by
    rw [← start]
    simp [opened, State.bare, bracesIn, alone]
  rw [parens.1, ← start] at count
  rw [braces.1, none', opened, if_neg ends] at count'
  refine ⟨List.length_eq_zero_iff.mp (by simpa [State.bare] using count),
    List.length_eq_zero_iff.mp ?_, ?_⟩ <;> omega

end State

namespace Reads

variable {s s' st st' base : State} {ms : Marks} {rest : Text}

/-- **A closed text** is read alike wherever it stands, and leaves open what has been open. -/
lemma onto_of_closed (read : Reads rest s ms s') (start : s.bare = s) (inCode : s.InCode)
    (counts : base.Counts) (parens : Closed '(' ')' ms.masked) (braces : Closed '{' '}' ms.masked)
    (ends : s'.joined ≠ some .code) :
    s'.parens = [] ∧ s'.interpolations = [] ∧ Reads rest (s.onto base 0) ms (s'.onto base 0) := by
  have none' : s.parens = [] ∧ s.opened = 0 := by
    rw [← start]
    simp [State.bare, State.opened, State.bracesIn, inCode.alone]
  obtain ⟨k', counted, onwards⟩ := read.onto counts (start ▸ inCode.sound_bare) (Int.le_refl 0)
    (fun joined => by simp [inCode.alone] at joined) (by simpa [none'.1, Covers] using parens.2)
    (by simpa [none'.2, Covers] using braces.2)
  obtain ⟨noParens, noBraces, rfl⟩ :=
    State.none_of_counted counted start inCode.alone parens braces ends
  exact ⟨noParens, noBraces, onwards⟩

/-- What is open behind a text that is closed where it stands. -/
lemma open_of_closed (read : Reads rest st ms st') (inCode : st.InCode) (counts : st.Counts)
    (parens : Closed '(' ')' ms.masked) (braces : Closed '{' '}' ms.masked)
    (ends : st'.joined ≠ some .code) :
    st'.parens = st.parens ∧ st'.interpolations = st.interpolations := by
  obtain ⟨s', k', counted, rfl, -⟩ := read.of_onto st.bare_onto.symm counts inCode.sound_bare
    (Int.le_refl 0) (fun joined => by simp [State.bare, inCode.alone] at joined)
    (by simpa [State.bare, Covers] using parens.2)
    (by simpa [State.bare, State.opened, State.bracesIn, inCode.alone, Covers] using braces.2)
  obtain ⟨noParens, noBraces, rfl⟩ := State.none_of_counted counted rfl inCode.bare.alone parens
    braces ends
  constructor
  · simp [State.onto, noParens]
  · have same := congrArg State.interpolations st.bare_onto
    simpa [State.onto, noBraces, State.bare] using same

end Reads

variable {t : Text} {i j : Nat}

/-- In every text, no count of braces is negative. -/
lemma counts_stateAt (within : i ≤ t.length) : (stateAt t i).Counts := by
  induction i with
  | zero =>
      rw [stateAt_zero]
      simp [State.Counts]
  | succ i ih =>
      have here : t[i]? = some t[i] := List.getElem?_eq_getElem within
      rw [stateAt_succ here]
      exact (State.opened_step (ih (Nat.le_of_succ_le within)) fun joined => by
        simpa [here] using brace_of_joined joined within).1

/-- What is read between two offsets leads to the state at the second, and is what stands
there in the masked text. -/
lemma slice_of_reads {s : State} {ms : Marks} (low : i ≤ j) (high : j ≤ t.length)
    (text : ms.map Prod.fst = slice t i j) (read : Reads (t.drop j) (stateAt t i) ms s) :
    stateAt t j = s ∧ slice (mask t) i j = ms.masked := by
  have length : ms.length = j - i := by
    rw [← length_slice low high, ← text, List.length_map]
  have start : (t.take i).length = i := List.length_take_of_le (by omega)
  have parts : t = t.take i ++ (ms.map Prod.fst ++ t.drop j) := by
    rw [text, ← drop_eq_slice_append low, List.take_append_drop]
  have reached : stateAt t j = s := by
    have whole := Reads.stateAt_append parts (by rw [start]; exact read)
    rwa [start, length, Nat.add_sub_cancel' low] at whole
  have masks := masks_of_reads read
  rw [text, ← drop_eq_slice_append low, ← drop_mask] at masks
  refine ⟨reached, ?_⟩
  rw [slice, masks, List.take_left' (by rw [List.length_map, length])]
  rfl

/-- What stands between two offsets is read from the state at the first to that at the
second. -/
lemma exists_reads_slice (t : Text) (low : i ≤ j) (high : j ≤ t.length) :
    ∃ ms : Marks, ms.map Prod.fst = slice t i j ∧ ms.masked = slice (mask t) i j ∧
      Reads (t.drop j) (stateAt t i) ms (stateAt t j) := by
  obtain ⟨ms, st, read, text⟩ := exists_reads (t.drop j) (slice t i j) (stateAt t i)
  obtain ⟨reached, masked⟩ := slice_of_reads low high text read
  exact ⟨ms, text, masked.symm, reached ▸ read⟩

/-- **What is closed in the masked text** leaves open what has been open before it. -/
theorem open_of_slice (low : i ≤ j) (high : j ≤ t.length) (inCode : (stateAt t i).InCode)
    (parens : Closed '(' ')' (slice (mask t) i j)) (braces : Closed '{' '}' (slice (mask t) i j))
    (ends : (stateAt t j).joined ≠ some .code) :
    (stateAt t j).parens = (stateAt t i).parens ∧
      (stateAt t j).interpolations = (stateAt t i).interpolations := by
  obtain ⟨ms, -, masked, read⟩ := exists_reads_slice t low high
  exact read.open_of_closed inCode (counts_stateAt (Nat.le_trans low high)) (masked ▸ parens)
    (masked ▸ braces) ends

end LintRepair.Lexical
