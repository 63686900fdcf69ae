/-
Brackets of one pair, and the blocks around an offset.

* `height`, `Closed`: how many brackets of a pair a text leaves open, and a text in which
  each of them has its partner;
* `balanceAt?_eq_some_iff`: a search for a partner passes just what is closed;
* `Surrounds`: a block that is open at an offset, or the whole text;
* `surrounds_functionScope`: so is the function body around an offset, with
  `Surrounds.start_le` and `Surrounds.le_stop` for the offsets in it.
-/
import LintRepair.Code.Scope
import Mathlib.Tactic.Common

namespace LintRepair.Code

open Text

variable {up down c : Char} {m t mid rest word : Text} {depth n o k : Nat} {s : Span}

/-! ### Heights -/

/-- How many brackets of a pair are open at the end of a text. -/
def height (up down : Char) (t : Text) : Int := t.count up - t.count down

@[simp]
lemma height_nil : height up down [] = 0 := rfl

lemma height_cons (up down c : Char) (t : Text) :
    height up down (c :: t) = height up down [c] + height up down t := by
  simp only [height, List.count_cons, List.count_nil]
  omega

@[simp]
lemma height_append (t u : Text) :
    height up down (t ++ u) = height up down t + height up down u := by
  simp only [height, List.count_append]
  omega

lemma height_up (pair : up ≠ down) : height up down [up] = 1 := by
  simp [height, pair]

lemma height_down (pair : up ≠ down) : height up down [down] = -1 := by
  simp [height, pair.symm]

lemma height_other (up' : c ≠ up) (down' : c ≠ down) : height up down [c] = 0 := by
  simp [height, up', down']

@[simp]
lemma height_reverse (t : Text) : height up down t.reverse = height up down t := by
  simp [height]

lemma height_swap (t : Text) : height down up t = - height up down t := by
  simp only [height]
  omega

/-- One character more. -/
lemma height_take_succ (stands : m[o]? = some c) :
    height up down (m.take (o + 1)) = height up down (m.take o) + height up down [c] := by
  rw [List.take_add_one, stands, height_append]
  rfl

/-- Each bracket of a pair has its partner in a text. -/
def Closed (up down : Char) (t : Text) : Prop :=
  height up down t = 0 ∧ ∀ j, 0 ≤ height up down (t.take j)

/-- Only as many characters as there are tell. -/
lemma closed_iff : Closed up down t ↔
    height up down t = 0 ∧ ∀ j < t.length, 0 ≤ height up down (t.take j) := by
  refine and_congr_right fun level => ⟨fun stays j _ => stays j, fun stays j => ?_⟩
  by_cases within : j < t.length
  · exact stays j within
  · exact Int.le_of_eq (by rw [List.take_of_length_le (Nat.not_lt.mp within), level])

instance (up down : Char) (t : Text) : Decidable (Closed up down t) :=
  decidable_of_iff _ closed_iff.symm

/-- So it has if the text is read from its end. -/
lemma Closed.reverse (h : Closed up down t) : Closed down up t.reverse := by
  refine ⟨by rw [height_reverse, height_swap, h.1, Int.neg_zero], fun j => ?_⟩
  have whole := congrArg (height up down) (List.take_append_drop (t.length - j) t)
  rw [height_append, h.1] at whole
  have first := h.2 (t.length - j)
  rw [List.take_reverse, height_reverse, height_swap]
  omega

/-- Nothing is left open where there is none of the brackets. -/
lemma height_of_notMem (up' : up ∉ t) (down' : down ∉ t) : height up down t = 0 := by
  rw [height, List.count_eq_zero_of_not_mem up', List.count_eq_zero_of_not_mem down']
  rfl

/-- So each has its partner. -/
lemma closed_of_notMem (up' : up ∉ t) (down' : down ∉ t) : Closed up down t :=
  ⟨height_of_notMem up' down', fun _ => (height_of_notMem (fun h => up' (List.mem_of_mem_take h))
    fun h => down' (List.mem_of_mem_take h)).symm ▸ Int.le_refl 0⟩

/-- It has in two texts one after the other, if it has in each. -/
lemma Closed.append (h : Closed up down t) (h' : Closed up down rest) :
    Closed up down (t ++ rest) := by
  refine ⟨by rw [height_append, h.1, h'.1]; rfl, fun j => ?_⟩
  rw [List.take_append, height_append]
  exact Int.add_nonneg (h.2 _) (h'.2 _)

/-- So it has in a closed text between a pair of brackets. -/
lemma Closed.enclosed (h : Closed up down t) (pair : up ≠ down) :
    Closed up down (up :: (t ++ [down])) := by
  have up' := height_up pair
  have down' := height_down pair
  refine closed_iff.mpr ⟨?_, fun j within => ?_⟩
  · rw [height_cons, height_append, up', down', h.1]
    rfl
  · cases j with
    | zero => simp
    | succ j =>
        have inside : j ≤ t.length := Nat.le_of_lt_succ (by simpa using within)
        rw [List.take_succ_cons, height_cons, List.take_append_of_le_length inside, up']
        exact Int.add_nonneg (by decide) (h.2 j)

/-! ### The search for a partner -/

/-- One step of the search. -/
lemma balanceAt?_cons (pair : up ≠ down) (deep : 1 ≤ depth) :
    balanceAt? up down depth (c :: t) =
      if c = down ∧ depth = 1 then some 0
      else (balanceAt? up down (depth + height up down [c]).toNat t).map (· + 1) := by
  rw [balanceAt?]
  by_cases up' : c = up
  · subst up'
    simp only [beq_self_eq_true, if_true, pair, false_and, if_false, height_up pair]
    rfl
  by_cases down' : c = down
  · subst down'
    have deeper : depth ≤ 1 ↔ depth = 1 := by omega
    have less : ((depth : Int) + -1).toNat = depth - 1 := by omega
    simp only [beq_eq_false_iff_ne.mpr up', Bool.false_eq_true, if_false, beq_self_eq_true,
      if_true, deeper, true_and, height_down pair, less]
  · simp only [beq_eq_false_iff_ne.mpr up', beq_eq_false_iff_ne.mpr down', Bool.false_eq_true,
      if_false, down', false_and, height_other up' down', Int.add_zero, Int.toNat_natCast]

/-- The search passes what leaves it as deep as it is, or deeper. -/
lemma balanceAt?_append (pair : up ≠ down) (rest : Text) :
    ∀ {mid : Text} {depth : Nat}, (∀ j, 1 ≤ (depth : Int) + height up down (mid.take j)) →
      balanceAt? up down depth (mid ++ rest) =
        (balanceAt? up down (depth + height up down mid).toNat rest).map (· + mid.length)
  | [], depth, _ => by simp
  | c :: mid, depth, stays => by
      have deep : 1 ≤ depth := by
        have := stays 0
        rw [List.take_zero, height_nil] at this
        omega
      have next := stays 1
      have other : ¬ (c = down ∧ depth = 1) := by
        rintro ⟨rfl, rfl⟩
        simp [height_down pair] at next
      have later : ∀ j, 1 ≤ (((depth : Int) + height up down [c]).toNat : Int) +
          height up down (mid.take j) := by
        intro j
        have further := stays (j + 1)
        rw [List.take_succ_cons, height_cons] at further
        have deep' : 1 ≤ (depth : Int) + height up down [c] := by simpa using next
        omega
      have depths : ((((depth : Int) + height up down [c]).toNat : Int) +
          height up down mid).toNat = ((depth : Int) + height up down (c :: mid)).toNat := by
        have deep' : 1 ≤ (depth : Int) + height up down [c] := by simpa using next
        rw [height_cons up down c mid]
        omega
      rw [List.cons_append, balanceAt?_cons pair deep, if_neg other,
        balanceAt?_append pair rest later, depths, Option.map_map]
      rfl

/-- It stays deep up to where it ends. -/
lemma one_le_height_step (pair : up ≠ down) (deep : 1 ≤ depth) (here : ¬ (c = down ∧ depth = 1)) :
    1 ≤ (depth : Int) + height up down [c] := by
  by_cases up' : c = up
  · rw [up', height_up pair]
    omega
  by_cases down' : c = down
  · have : depth ≠ 1 := fun one => here ⟨down', one⟩
    rw [down', height_down pair]
    omega
  · rw [height_other up' down']
    omega

/-- Where the search ends, just the brackets that it started with are open, and before it
no fewer have been. -/
lemma exists_of_balanceAt? (pair : up ≠ down) (deep : 1 ≤ depth)
    (found : balanceAt? up down depth t = some k) :
    ∃ mid rest, t = mid ++ down :: rest ∧ mid.length = k ∧
      (depth : Int) + height up down mid = 1 ∧
      ∀ j, 1 ≤ (depth : Int) + height up down (mid.take j) := by
  induction t generalizing depth k with
  | nil => cases found
  | cons c t ih =>
      rw [balanceAt?_cons pair deep] at found
      split_ifs at found with here
      · obtain ⟨rfl, rfl⟩ := here
        cases found
        exact ⟨[], t, rfl, rfl, rfl, fun j => by simp⟩
      · obtain ⟨k, later, rfl⟩ := Option.map_eq_some_iff.mp found
        have deep' := one_le_height_step pair deep here
        obtain ⟨mid, rest, rfl, rfl, level, stays⟩ := ih (by omega) later
        refine ⟨c :: mid, rest, rfl, rfl, ?_, fun j => ?_⟩
        · rw [height_cons]
          omega
        · cases j with
          | zero =>
              rw [List.take_zero, height_nil]
              omega
          | succ j =>
              have := stays j
              rw [List.take_succ_cons, height_cons]
              omega

/-- Where it does not end, no fewer are open at any place. -/
lemma one_le_of_balanceAt?_eq_none (pair : up ≠ down) (deep : 1 ≤ depth)
    (endless : balanceAt? up down depth (t ++ rest) = none) :
    1 ≤ (depth : Int) + height up down t := by
  induction t generalizing depth with
  | nil =>
      rw [height_nil]
      omega
  | cons c t ih =>
      rw [List.cons_append, balanceAt?_cons pair deep] at endless
      split_ifs at endless with here
      have deep' := one_le_height_step pair deep here
      have later := ih (by omega) (Option.map_eq_none_iff.mp endless)
      rw [height_cons]
      omega

/-- **A search for a partner** passes just what is closed. -/
lemma balanceAt?_eq_some_iff (pair : up ≠ down) :
    balanceAt? up down 1 t = some k ↔
      ∃ mid rest, t = mid ++ down :: rest ∧ mid.length = k ∧ Closed up down mid := by
  constructor
  · intro found
    obtain ⟨mid, rest, shape, length, level, stays⟩ :=
      exists_of_balanceAt? pair (Nat.le_refl 1) found
    refine ⟨mid, rest, shape, length, by omega, fun j => ?_⟩
    have := stays j
    omega
  · rintro ⟨mid, rest, rfl, rfl, level, stays⟩
    rw [balanceAt?_append pair _ fun j => by have := stays j; omega, level]
    simp [balanceAt?, pair.symm]

/-- The search for the partner of a bracket. -/
lemma findMatching_append (closer : closerOf? up = some down) (before rest : Text) :
    findMatching (before ++ up :: rest) before.length =
      (balanceAt? up down 1 rest).map (before.length + 1 + ·) := by
  have opener : (before ++ up :: rest)[before.length]? = some up := by
    rw [List.getElem?_append_right (Nat.le_refl _), Nat.sub_self]
    rfl
  have search : balanceAt? up down 0 (up :: rest) = (balanceAt? up down 1 rest).map (· + 1) := by
    rw [balanceAt?, if_pos (beq_self_eq_true _)]
  rw [findMatching, opener, List.drop_left]
  simp only [Option.bind_eq_bind, Option.bind_some, closer]
  rw [search]
  cases balanceAt? up down 1 rest with
  | none => rfl
  | some k => exact congrArg some (Nat.add_right_comm before.length k 1)

/-- What stands between a bracket and its partner is closed. -/
lemma exists_of_findMatching (closer : closerOf? up = some down) (pair : up ≠ down)
    (opener : m[o]? = some up) (found : findMatching m o = some k) :
    ∃ mid rest, m.drop o = up :: (mid ++ down :: rest) ∧ k = o + 1 + mid.length ∧
      Closed up down mid := by
  obtain ⟨within, here⟩ := List.getElem?_eq_some_iff.mp opener
  have behind : m.drop o = up :: m.drop (o + 1) := by
    rw [List.drop_eq_getElem_cons within, here]
  have search := findMatching_append closer (m.take o) (m.drop (o + 1))
  rw [← behind, List.take_append_drop, List.length_take, Nat.min_eq_left (Nat.le_of_lt within), found]
    at search
  obtain ⟨l, closes, rfl⟩ := Option.map_eq_some_iff.mp search.symm
  obtain ⟨mid, rest, shape, rfl, closed⟩ := (balanceAt?_eq_some_iff pair).mp closes
  exact ⟨mid, rest, by rw [behind, shape], rfl, closed⟩

/-- The partner of a brace is one that closes. -/
lemma getElem?_of_findMatching (brace : m[o]? = some '{') (found : findMatching m o = some k) :
    m[k]? = some '}' := by
  obtain ⟨mid, rest, shape, rfl, -⟩ := exists_of_findMatching rfl (by decide) brace found
  rw [Nat.add_assoc, ← List.getElem?_drop, shape, Nat.add_comm, List.getElem?_cons_succ,
    List.getElem?_append_right (Nat.le_refl _), Nat.sub_self]
  rfl

/-- The search back for the bracket that opens one. -/
lemma findMatchingBackward_append {before : Text} (opener : openerOf? down = some up)
    (pair : up ≠ down) (closed : Closed up down mid) (rest : Text) :
    findMatchingBackward (before ++ up :: (mid ++ down :: rest)) (before.length + 1 + mid.length) =
      some before.length := by
  have shape : before ++ up :: (mid ++ down :: rest) = (before ++ up :: mid) ++ down :: rest := by
    simp
  have place : (before ++ up :: mid).length = before.length + 1 + mid.length := by
    rw [List.length_append, List.length_cons]
    omega
  have closer : ((before ++ up :: mid) ++ down :: rest)[before.length + 1 + mid.length]? =
      some down := by
    rw [← place, List.getElem?_append_right (Nat.le_refl _), Nat.sub_self]
    rfl
  have reversed : (((before ++ up :: mid) ++ down :: rest).take
      (before.length + 1 + mid.length + 1)).reverse =
        down :: (mid.reverse ++ up :: before.reverse) := by
    rw [← place, List.take_length_add_append]
    simp
  have found : balanceAt? down up 1 (mid.reverse ++ up :: before.reverse) = some mid.length :=
    (balanceAt?_eq_some_iff pair.symm).mpr ⟨_, _, rfl, List.length_reverse, closed.reverse⟩
  have search : balanceAt? down up 0 (down :: (mid.reverse ++ up :: before.reverse)) =
      some (mid.length + 1) := by
    rw [balanceAt?, if_pos (beq_self_eq_true _), found]
    rfl
  rw [findMatchingBackward, shape, closer]
  simp only [Option.bind_eq_bind, Option.bind_some, opener]
  rw [reversed, search]
  simp only [Option.bind_some, Option.pure_def, Option.some_inj]
  omega

/-- A parenthesis, what is closed, and a parenthesis that closes it. -/
lemma findMatchingBackward_of_closed {before : Text} (closed : Closed '(' ')' mid) :
    findMatchingBackward (before ++ '(' :: (mid ++ [')']))
      ((before ++ '(' :: (mid ++ [')'])).length - 1) = some before.length := by
  have last : (before ++ '(' :: (mid ++ [')'])).length - 1 = before.length + 1 + mid.length := by
    simp only [List.length_append, List.length_cons, List.length_nil]
    omega
  rw [last]
  exact findMatchingBackward_append rfl (by decide) closed []

/-! ### Blocks -/

/-- The whole text, or a block whose brace stands before an offset and is open there. -/
inductive Surrounds (m : Text) (o : Nat) : Span → Prop
  | whole : Surrounds m o ⟨0, m.length⟩
  | block {before mid : Text} (shape : m.take o = before ++ '{' :: mid)
      (opens : ∀ j, 0 ≤ height '{' '}' (mid.take j)) :
      Surrounds m o ⟨before.length + 1, (findMatching m before.length).getD m.length⟩

lemma unclosedBrace?_eq (depth : Nat) (t : Text) :
    unclosedBrace? depth t = balanceAt? '}' '{' (depth + 1) t := by
  induction t generalizing depth with
  | nil => rfl
  | cons c t ih =>
      rw [unclosedBrace?, balanceAt?]
      by_cases closing : c = '}'
      · simp [closing, ih]
      by_cases opening : c = '{'
      · cases depth with
        | zero => simp [opening]
        | succ depth => simp [opening, ih]
      · simp [closing, opening, ih]

/-- The innermost block is open, and everything is closed between its brace and the
offset; where there is none, no brace is left open before the offset. -/
lemma enclosingBlock_cases (m : Text) (o : Nat) :
    enclosingBlock m o = ⟨0, m.length⟩ ∧
        (∀ before mid, m.take o = before ++ mid → height '{' '}' mid ≤ 0) ∨
      ∃ before mid, m.take o = before ++ '{' :: mid ∧ Closed '{' '}' mid ∧
        enclosingBlock m o =
          ⟨before.length + 1, (findMatching m before.length).getD m.length⟩ := by
  rw [enclosingBlock, unclosedBrace?_eq]
  cases found : balanceAt? '}' '{' (0 + 1) (m.take o).reverse with
  | none =>
      refine .inl ⟨rfl, fun before mid shape => ?_⟩
      rw [shape, List.reverse_append] at found
      have deep := one_le_of_balanceAt?_eq_none (by decide) (by decide) found
      rw [height_reverse, height_swap] at deep
      omega
  | some k =>
      obtain ⟨mid, rest, shape, rfl, closed⟩ := (balanceAt?_eq_some_iff (by decide)).mp found
      have shape' : m.take o = rest.reverse ++ '{' :: mid.reverse := by
        rw [← List.reverse_reverse (m.take o), shape]
        simp
      refine .inr ⟨_, _, shape', closed.reverse, ?_⟩
      have brace : (m.take o).length - 1 - mid.length = rest.reverse.length := by
        rw [shape']
        simp only [List.length_append, List.length_cons, List.length_reverse]
        omega
      dsimp only
      rw [brace]

lemma surrounds_enclosingBlock (m : Text) (o : Nat) : Surrounds m o (enclosingBlock m o) := by
  rcases enclosingBlock_cases m o with ⟨top, -⟩ | ⟨before, mid, shape, closed, block⟩
  · rw [top]
    exact .whole
  · rw [block]
    exact .block shape closed.2

/-- The block around one that is open is open as well. -/
lemma Surrounds.outer (h : Surrounds m o s) : Surrounds m o (enclosingBlock m (s.start - 1)) := by
  cases h with
  | whole =>
      have top : enclosingBlock m 0 = ⟨0, m.length⟩ := rfl
      exact top ▸ .whole
  | @block before mid shape opens =>
      rw [Nat.add_sub_cancel]
      have outside : m.take before.length = before := by
        have longer := congrArg (List.take before.length) shape
        rw [List.take_left, List.take_take] at longer
        have short : before.length ≤ o := by
          have := congrArg List.length shape
          rw [List.length_take, List.length_append] at this
          omega
        rwa [Nat.min_eq_left short] at longer
      rcases enclosingBlock_cases m before.length with
        ⟨top, -⟩ | ⟨before', mid', shape', closed, outer⟩
      · rw [top]
        exact .whole
      · rw [outer]
        rw [outside] at shape'
        have whole : m.take o = before' ++ '{' :: (mid' ++ '{' :: mid) := by
          rw [shape, shape']
          simp
        refine .block whole fun j => ?_
        rw [List.take_append, height_append]
        have first := closed.2 j
        cases later : j - mid'.length with
        | zero => simpa using first
        | succ i =>
            have inner := opens i
            rw [List.take_succ_cons, height_cons, height_up (by decide)]
            omega

lemma surrounds_functionAround (fuel : Nat) (h : Surrounds m o s) :
    Surrounds m o (functionAround m fuel s) := by
  induction fuel generalizing s with
  | zero => exact .whole
  | succ fuel ih =>
      rw [functionAround]
      split_ifs
      · exact .whole
      · exact h
      · exact ih h.outer

/-- The function body around an offset is open there. -/
lemma surrounds_functionScope (m : Text) (o : Nat) : Surrounds m o (functionScope m o) :=
  surrounds_functionAround _ (surrounds_enclosingBlock m o)

/-- It starts no later than there, -/
lemma Surrounds.start_le (h : Surrounds m o s) : s.start ≤ o := by
  cases h with
  | whole => exact Nat.zero_le o
  | @block before mid shape opens =>
      have := congrArg List.length shape
      rw [List.length_take, List.length_append, List.length_cons] at this
      dsimp only
      omega

/-- and ends behind what stands there without a closing brace. -/
lemma Surrounds.le_stop (h : Surrounds m o s) (here : word <+: m.drop o) (some' : word ≠ [])
    (open' : '}' ∉ word) : o + word.length ≤ s.stop := by
  obtain ⟨rest, behind⟩ := here
  have within : o + word.length ≤ m.length := by
    have longer := List.length_pos_iff.mpr some'
    have := congrArg List.length behind
    rw [List.length_append, List.length_drop] at this
    omega
  cases h with
  | whole => exact within
  | @block before mid shape opens =>
      have whole : m = before ++ '{' :: ((mid ++ word) ++ rest) := by
        rw [← List.take_append_drop o m, shape, ← behind]
        simp
      have stays : ∀ j, 1 ≤ ((1 : Nat) : Int) + height '{' '}' ((mid ++ word).take j) := by
        intro j
        have first := opens j
        have second : 0 ≤ height '{' '}' (word.take (j - mid.length)) := by
          rw [height, List.count_eq_zero_of_not_mem (a := '}') fun among =>
            open' (List.mem_of_mem_take among)]
          omega
        rw [List.take_append, height_append]
        omega
      have closer : closerOf? '{' = some '}' := rfl
      have matching := findMatching_append closer before ((mid ++ word) ++ rest)
      rw [← whole, balanceAt?_append (by decide) rest stays, Option.map_map] at matching
      dsimp only
      cases found : balanceAt? '{' '}' _ rest with
      | none =>
          rw [matching, found]
          exact within
      | some k =>
          have length := congrArg List.length shape
          rw [List.length_take, List.length_append, List.length_cons, Nat.min_eq_left (by omega)]
            at length
          rw [matching, found, Option.map_some, Option.getD_some, Function.comp_apply,
            List.length_append]
          omega

end LintRepair.Code
