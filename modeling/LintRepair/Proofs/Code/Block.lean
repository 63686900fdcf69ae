/-
Blocks around an offset, from the inside out.

* `BlockAround`: a pair of braces around an offset;
* `Innermost`: of the pairs with a property the one inside all others, or the whole text if
  there is none;
* `BlockAround.nested`, `blockAround_outer`: of two pairs around an offset one is inside the
  other, so the pairs around the inner one are those that are left;
* `innermost_enclosingBlock`: the walk back from an offset finds the innermost pair;
* `Outward`: the walk from a block to the blocks around it, up to a function body;
  `outward_functionAround`: it ends, as each block starts before the last;
* `innermost_scopes`: both walks where no fault is found.
-/
import LintRepair.Proofs.Code.Partner

namespace LintRepair.Code

open Text Lexical Check

variable {t m before mid rest : Text} {o i j i' j' k fuel : Nat} {s r : Span}

/-! ### Pairs of braces -/

/-- Two braces of code that are partners, the first before an offset, the second at or behind
it. -/
structure BlockAround (t : Text) (o i j : Nat) : Prop where
  pair : ListAt t i j
  brace : t[i]? = some '{'
  opens : i < o
  closes : o ≤ j

/-- Of the pairs of offsets with a property, the part of the text between the two that are
inside all others; the whole text if there are none. -/
inductive Innermost (m : Text) (P : Nat → Nat → Prop) : Span → Prop
  | block {i j : Nat} (here : P i j) (inside : ∀ i' j', P i' j' → i' ≤ i ∧ j ≤ j') :
      Innermost m P ⟨i + 1, j⟩
  | whole (none' : ∀ i j, ¬ P i j) : Innermost m P ⟨0, m.length⟩

/-- How many braces are open at an offset. -/
def braceHeight (m : Text) (o : Nat) : Int := height '{' '}' (m.take o)

/-- Behind an opening brace more braces are open than before it, as long as none is closed that
was open there. -/
lemma height_take_behind (opens : ∀ j, 0 ≤ height '{' '}' (mid.take j)) (low : before.length < k)
    (high : k ≤ before.length + 1 + mid.length) (rest : Text) :
    height '{' '}' before + 1 ≤ height '{' '}' ((before ++ '{' :: (mid ++ rest)).take k) := by
  obtain ⟨n, rfl⟩ := Nat.exists_eq_add_of_lt low
  have within : n ≤ mid.length := by omega
  have opening : height '{' '}' ['{'] = 1 := height_up (by decide)
  have stays := opens n
  rw [Nat.add_assoc, List.take_length_add_append, List.take_succ_cons,
    List.take_append_of_le_length within, height_append, height_cons, opening]
  omega

/-- Between two braces that are partners more braces are open than before the first one, and
behind the second no more than there. -/
lemma braceHeight_of_listAt (h : ListAt t i j) (brace : t[i]? = some '{') :
    (∀ k, i < k → k ≤ j → braceHeight (mask t) i + 1 ≤ braceHeight (mask t) k) ∧
      braceHeight (mask t) (j + 1) = braceHeight (mask t) i := by
  obtain ⟨b, c, before, mid, rest, here, partners, shape, rfl, rfl, closed⟩ := h.exists_masked
  obtain rfl : b = '{' := Option.some.inj (here.symm.trans brace)
  obtain rfl : '}' = c := Option.some.inj partners
  have inside : Closed '{' '}' mid := closed rfl
  have start : braceHeight (mask t) before.length = height '{' '}' before := by
    rw [braceHeight, shape, List.take_left]
  refine ⟨fun k low high => ?_, ?_⟩
  · rw [start, braceHeight, shape]
    exact height_take_behind inside.2 low high _
  · have whole : Closed '{' '}' ('{' :: (mid ++ ['}'])) := inside.enclosed (by decide)
    have parts : mask t = (before ++ '{' :: (mid ++ ['}'])) ++ rest := by rw [shape]; simp
    have last : before.length + 1 + mid.length + 1 = (before ++ '{' :: (mid ++ ['}'])).length := by
      simp only [List.length_append, List.length_cons, List.length_nil]
      omega
    rw [start, braceHeight, parts, last, List.take_left, height_append, whole.1, Int.add_zero]

/-- Of two pairs of braces around an offset, the one that starts first ends last. -/
lemma BlockAround.nested (h : BlockAround t o i j) (h' : BlockAround t o i' j') (le : i' ≤ i) :
    j ≤ j' := by
  obtain ⟨inside, -⟩ := braceHeight_of_listAt h.pair h.brace
  obtain ⟨inside', behind'⟩ := braceHeight_of_listAt h'.pair h'.brace
  by_contra! less
  have low := h.opens
  have high := h'.closes
  have first := inside (j' + 1) (by omega) less
  rcases Nat.eq_or_lt_of_le le with rfl | lt
  · omega
  · have second := inside' i lt (by omega)
    omega

/-- The pairs of braces around the innermost one are the others that are around an offset. -/
lemma blockAround_outer (h : BlockAround t o i j)
    (inside : ∀ i' j', BlockAround t o i' j' → i' ≤ i ∧ j ≤ j') :
    BlockAround t i i' j' ↔ BlockAround t o i' j' ∧ i' ≠ i := by
  constructor
  · intro outer
    obtain ⟨inside, -⟩ := braceHeight_of_listAt h.pair h.brace
    obtain ⟨inside', behind'⟩ := braceHeight_of_listAt outer.pair outer.brace
    have low := outer.opens
    have high := outer.closes
    refine ⟨⟨outer.pair, outer.brace, low.trans h.opens, ?_⟩, low.ne⟩
    by_contra! less
    have first := inside (j' + 1) (by omega) (less.trans_le h.closes)
    have second := inside' i low high
    omega
  · rintro ⟨around, other⟩
    obtain ⟨le, le'⟩ := inside i' j' around
    exact ⟨around.pair, around.brace, Nat.lt_of_le_of_ne le other,
      (h.opens.le.trans h.closes).trans le'⟩

/-! ### The walk back -/

/-- The walk back from an offset stops at a brace that is open there, with none behind it that
is; where it finds none, none is open. -/
lemma openAt_cases (m : Text) (o : Nat) :
    enclosingBlock m o = ⟨0, m.length⟩ ∧ (∀ k ≤ o, braceHeight m o ≤ braceHeight m k) ∨
      ∃ i < o, m[i]? = some '{' ∧
        enclosingBlock m o = ⟨i + 1, (findMatching m i).getD m.length⟩ ∧
        braceHeight m o = braceHeight m i + 1 ∧
        ∀ k, i < k → k ≤ o → braceHeight m i + 1 ≤ braceHeight m k := by
  rcases enclosingBlock_cases m o with ⟨top, lowest⟩ | ⟨before, mid, shape, closed, block⟩
  · refine .inl ⟨top, fun k le => ?_⟩
    have parts : m.take o = m.take k ++ (m.take o).drop k := by
      conv_lhs => rw [← List.take_append_drop k (m.take o), List.take_take, Nat.min_eq_left le]
    have level := lowest _ _ parts
    rw [braceHeight, braceHeight, parts, height_append]
    omega
  · have length := congrArg List.length shape
    rw [List.length_take, List.length_append, List.length_cons] at length
    have low : before.length < o := by omega
    have start : m.take before.length = before := by
      have cut := congrArg (List.take before.length) shape
      rwa [List.take_take, Nat.min_eq_left low.le, List.take_left] at cut
    have opening : height '{' '}' ['{'] = 1 := height_up (by decide)
    refine .inr ⟨before.length, low, ?_, block, ?_, fun k above within => ?_⟩
    · rw [← List.getElem?_take_of_lt low, shape, List.getElem?_append_right (Nat.le_refl _),
        Nat.sub_self]
      rfl
    · rw [braceHeight, braceHeight, start, shape, height_append, height_cons, opening, closed.1]
      omega
    · by_cases inside : k ≤ before.length + 1 + mid.length
      · have behind := height_take_behind closed.2 above inside []
        rwa [List.append_nil, ← shape, List.take_take, Nat.min_eq_left within, ← start] at behind
      · -- behind the end of the text nothing is opened or closed
        have same : m.take k = m.take o := by
          rw [List.take_of_length_le (by omega), List.take_of_length_le (by omega)]
        rw [braceHeight, braceHeight, start, same, shape, height_append, height_cons, opening,
          closed.1]
        omega

/-- **The innermost block.** Where every bracket has a partner, the walk back from an offset
finds the innermost pair of braces around it. -/
lemma innermost_enclosingBlock (fit : bracketFaults t = []) (o : Nat) :
    Innermost (mask t) (BlockAround t o) (enclosingBlock (mask t) o) := by
  rcases openAt_cases (mask t) o with ⟨top, lowest⟩ | ⟨i, low, stands, block, level, stays⟩
  · rw [top]
    refine .whole fun i j around => ?_
    have deeper := (braceHeight_of_listAt around.pair around.brace).1 o around.opens around.closes
    have := lowest i around.opens.le
    omega
  · obtain ⟨here, code⟩ := (getElem?_mask_eq_iff rfl (by decide)).mp stands
    obtain ⟨j, pair⟩ := exists_listAt_of_opener (bracketFaults_eq_nil_iff.mp fit)
      ⟨here, code, .inl rfl⟩ rfl
    have around : BlockAround t o i j := by
      refine ⟨pair, here, low, ?_⟩
      by_contra! less
      have behind := (braceHeight_of_listAt pair here).2
      have := stays (j + 1) (by have := pair.lt; omega) less
      omega
    rw [block, pair.findMatching, Option.getD_some]
    refine .block around fun i' j' around' => ?_
    have le : i' ≤ i := by
      by_contra! less
      have deeper := (braceHeight_of_listAt around'.pair around'.brace).1 o around'.opens
        around'.closes
      have := stays i' less around'.opens.le
      omega
    exact ⟨le, around.nested around' le⟩

/-! ### The walk outward -/

/-- The walk from a block to the blocks around it, and what it ends at: the first function body,
or the whole text when it leaves the last block. -/
inductive Outward (m : Text) : Span → Span → Prop
  | top {s : Span} (top : s.start = 0) : Outward m s ⟨0, m.length⟩
  | found {s : Span} (inside : s.start ≠ 0) (head : blockHead m s.start = .function) :
      Outward m s s
  | outer {s r : Span} (inside : s.start ≠ 0) (head : blockHead m s.start ≠ .function)
      (rest : Outward m (enclosingBlock m (s.start - 1)) r) : Outward m s r

/-- **The walk ends**, as each block starts before the last. -/
lemma outward_functionAround (room : s.start < fuel) : Outward m s (functionAround m fuel s) := by
  induction fuel generalizing s with
  | zero => exact absurd room (Nat.not_lt_zero _)
  | succ fuel ih =>
      rw [functionAround]
      split_ifs with top head
      · exact .top top
      · exact .found top head
      · have before : (enclosingBlock m (s.start - 1)).start ≤ s.start - 1 :=
          (surrounds_enclosingBlock m _).start_le
        exact .outer top head (ih (by omega))

/-- A pair of braces around an offset that are those of a function body. -/
def BodyAround (t : Text) (o i j : Nat) : Prop :=
  BlockAround t o i j ∧ blockHead (mask t) (i + 1) = .function

/-- Where every bracket has a partner, the walk from the innermost block ends at the innermost
function body. -/
lemma Outward.innermost (walk : Outward (mask t) s r) (fit : bracketFaults t = [])
    (here : Innermost (mask t) (BlockAround t o) s) : Innermost (mask t) (BodyAround t o) r := by
  induction walk generalizing o with
  | top top =>
      cases here with
      | block => cases top
      | whole none' => exact .whole fun i j body => none' i j body.1
  | found below head =>
      cases here with
      | block here inside => exact .block ⟨here, head⟩ fun i' j' body => inside i' j' body.1
      | whole none' => exact absurd rfl below
  | outer below head _ ih =>
      cases here with
      | @block i j here inside =>
          -- the bodies around the block are those around the offset, as the block is none
          have same : ∀ i' j', BodyAround t i i' j' ↔ BodyAround t o i' j' := by
            intro i' j'
            rw [BodyAround, BodyAround, blockAround_outer here inside]
            constructor
            · exact fun body => ⟨body.1.1, body.2⟩
            · rintro ⟨around, body⟩
              exact ⟨⟨around, fun eq => head (eq ▸ body)⟩, body⟩
          cases ih (innermost_enclosingBlock fit i) with
          | block here' inside' =>
              exact .block ((same _ _).mp here') fun i' j' body =>
                inside' i' j' ((same i' j').mpr body)
          | whole none' => exact .whole fun i' j' body => none' i' j' ((same i' j').mpr body)
      | whole none' => exact absurd rfl below

/-- **Scopes.** Where no bracket fault is found, the block that is found around an offset is the
innermost pair of braces around it, or the whole text. The walk from there to the blocks around
it ends, and ends at the innermost pair that are the braces of a function body, or at the whole
text. -/
theorem innermost_scopes (fit : bracketFaults t = []) (o : Nat) :
    Innermost (mask t) (BlockAround t o) (enclosingBlock (mask t) o) ∧
      Outward (mask t) (enclosingBlock (mask t) o) (functionScope (mask t) o) ∧
      Innermost (mask t) (BodyAround t o) (functionScope (mask t) o) := by
  have innermost := innermost_enclosingBlock fit o
  have room : (enclosingBlock (mask t) o).start < (mask t).length + 1 := by
    rcases openAt_cases (mask t) o with ⟨top, -⟩ | ⟨i, -, stands, block, -⟩
    · rw [top]
      exact Nat.zero_lt_succ _
    · rw [block]
      exact Nat.succ_lt_succ (List.getElem?_eq_some_iff.mp stands).1
  have walk := outward_functionAround (m := mask t) room
  exact ⟨innermost, walk, walk.innermost fit innermost⟩

/-- A function with a loop in it, and an object in an interpolation. -/
def looped : Text := "f = () => \x7b for (;;) \x7b g(\x60$\x7b \x7ba\x7d \x7d\x60) \x7d \x7d".toList

theorem innermost_of_looped :
    bracketFaults looped = [] ∧
      (enclosingBlock (mask looped) 32 = ⟨28, 33⟩ ∧
        Innermost (mask looped) (BlockAround looped 32) ⟨28, 33⟩) ∧
      functionScope (mask looped) 32 = ⟨11, 39⟩ ∧
      Outward (mask looped) ⟨28, 33⟩ ⟨11, 39⟩ ∧
      Innermost (mask looped) (BodyAround looped 32) ⟨11, 39⟩ := by
  have fit : bracketFaults looped = [] := by decide +kernel
  have block : enclosingBlock (mask looped) 32 = ⟨28, 33⟩ := by decide +kernel
  have body : functionScope (mask looped) 32 = ⟨11, 39⟩ := by decide +kernel
  obtain ⟨innermost, walk, innermost'⟩ := innermost_scopes fit 32
  rw [block] at innermost
  rw [block, body] at walk
  rw [body] at innermost'
  exact ⟨fit, ⟨block, innermost⟩, body, walk, innermost'⟩

end LintRepair.Code
