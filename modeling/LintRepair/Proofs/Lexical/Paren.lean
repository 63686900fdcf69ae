/-
The scanner's parentheses, and the parentheses of the masked text.

* `State.parens_step`: only parentheses in code change what the scanner remembers of
  them;
* `mask_eq_paren`: these are the parentheses of the masked text;
* `parens_of_findMatching`: at the partner of a parenthesis, the scanner remembers what
  was expected of the parenthesis;
* `exists_findMatching`: where it remembers anything, a parenthesis has a partner.
-/
import LintRepair.Code.Bracket
import LintRepair.Proofs.Lexical.Literal

namespace LintRepair.Lexical

open Text Code

namespace State

variable {st : State} {c : Char} {next : Option Char}

/-- What a character does to the parentheses. -/
lemma parens_step (st : State) (c : Char) (next : Option Char) :
    (st.step c next).2.parens =
      if st.InCode ∧ c = '(' then st.expectsHead :: st.parens
      else if st.InCode ∧ c = ')' then st.parens.tail
      else st.parens := by
  by_cases inCode : st.InCode
  · by_cases opening : c = '('
    · subst opening
      rw [inCode.step_opening, if_pos ⟨inCode, rfl⟩]
    by_cases closing : c = ')'
    · subst closing
      rw [inCode.step_closing, if_neg (by simp), if_pos ⟨inCode, rfl⟩]
    rw [if_neg (by simp [opening]), if_neg (by simp [closing]), inCode.step_eq, stepCode_eq]
    have plain : (st.plain c).parens = st.parens := by
      simp only [State.plain, codeChar, beq_iff_eq, opening, closing, if_false]
      split_ifs <;> rfl
    split_ifs <;> first | rfl | exact plain
  · rw [if_neg (by simp [inCode]), if_neg (by simp [inCode])]
    cases joined : st.joined with
    | some kind => simp only [State.step, joined]
    | none =>
      cases inside : st.mode with
      | code => exact absurd ⟨inside, joined⟩ inCode
      | lineComment | blockComment =>
          simp only [State.step, joined, inside]
          split_ifs <;> rfl
      | string quote =>
          simp only [State.step, joined, inside, stepString]
          split_ifs <;> rfl
      | regex inClass =>
          simp only [State.step, joined, inside, stepRegex]
          split_ifs <;> rfl
      | template =>
          simp only [State.step, joined, inside, stepTemplate]
          split_ifs <;> rfl

end State

section Mask

variable {t : Text} {i o p : Nat} {c : Char}

/-- The parentheses of the masked text are those in code. -/
lemma mask_eq_paren (paren : c = '(' ∨ c = ')') : (mask t)[i]? = some c ↔ CodeAt t i c := by
  constructor
  · intro stays
    refine codeAt_of_mask stays ?_ ?_ <;> rcases paren with rfl | rfl <;> decide
  · rintro ⟨inCode, stands⟩
    rw [getElem?_mask, stands, Option.map_some]
    rcases paren with rfl | rfl
    · rw [inCode.step_opening]
      rfl
    · rw [inCode.step_closing]
      rfl

/-- What a character of the masked text does to the parentheses. -/
lemma parens_succ (stands : (mask t)[i]? = some c) :
    (stateAt t (i + 1)).parens =
      if c = '(' then (stateAt t i).expectsHead :: (stateAt t i).parens
      else if c = ')' then (stateAt t i).parens.tail
      else (stateAt t i).parens := by
  have within : i < t.length := by
    simpa using (List.getElem?_eq_some_iff.mp stands).1
  have here : t[i]? = some t[i] := List.getElem?_eq_getElem within
  have found : ∀ d : Char, (d = '(' ∨ d = ')') →
      ((stateAt t i).InCode ∧ t[i] = d ↔ c = d) := by
    intro d paren
    have both := mask_eq_paren (i := i) (t := t) paren
    rw [stands, CodeAt, here, Option.some_inj, Option.some_inj] at both
    exact both.symm
  rw [stateAt_succ here, State.parens_step]
  simp only [found _ (.inl rfl), found _ (.inr rfl)]

/-- A search for a closing parenthesis, one character further. -/
lemma balanceAt?_drop (depth : Nat) (stands : (mask t)[i]? = some c) :
    balanceAt? '(' ')' depth ((mask t).drop i) =
      if c = '(' then (balanceAt? '(' ')' (depth + 1) ((mask t).drop (i + 1))).map (· + 1)
      else if c = ')' then
        if depth ≤ 1 then some 0
        else (balanceAt? '(' ')' (depth - 1) ((mask t).drop (i + 1))).map (· + 1)
      else (balanceAt? '(' ')' depth ((mask t).drop (i + 1))).map (· + 1) := by
  obtain ⟨within, rfl⟩ := List.getElem?_eq_some_iff.mp stands
  rw [List.drop_eq_getElem_cons within, balanceAt?]
  simp only [beq_iff_eq]

/-- Where a search for a closing parenthesis that is `depth` parentheses deep ends, the
scanner remembers what was expected of the outermost of them, and of those around it. -/
lemma parens_of_balanceAt {depth k : Nat} (deep : 1 ≤ depth)
    (found : balanceAt? '(' ')' depth ((mask t).drop i) = some k) :
    (mask t)[i + k]? = some ')' ∧
      (stateAt t (i + k)).parens = (stateAt t i).parens.drop (depth - 1) := by
  induction k generalizing i depth with
  | zero =>
      cases stands : (mask t)[i]? with
      | none =>
          rw [List.drop_eq_nil_of_le (List.getElem?_eq_none_iff.mp stands), balanceAt?] at found
          cases found
      | some c =>
          rw [balanceAt?_drop depth stands] at found
          split_ifs at found with _ closing last
          · simp at found
          · obtain rfl : depth = 1 := by omega
            exact ⟨congrArg some closing, rfl⟩
          all_goals simp at found
  | succ k ih =>
      have place : i + (k + 1) = i + 1 + k := by omega
      rw [place]
      cases stands : (mask t)[i]? with
      | none =>
          rw [List.drop_eq_nil_of_le (List.getElem?_eq_none_iff.mp stands), balanceAt?] at found
          cases found
      | some c =>
          have parens := parens_succ stands
          rw [balanceAt?_drop depth stands] at found
          split_ifs at found with opening closing last
          · rw [if_pos opening] at parens
            obtain ⟨ends, rest⟩ := ih (Nat.le_add_left 1 depth) (by simpa using found)
            refine ⟨ends, ?_⟩
            obtain ⟨d, rfl⟩ : ∃ d, depth = d + 1 := ⟨depth - 1, by omega⟩
            rw [rest, parens, Nat.add_sub_cancel, Nat.add_sub_cancel, List.drop_succ_cons]
          · simp at found
          · rw [if_neg opening, if_pos closing] at parens
            obtain ⟨ends, rest⟩ := ih (by omega : 1 ≤ depth - 1) (by simpa using found)
            refine ⟨ends, ?_⟩
            rw [rest, parens, List.drop_tail]
            congr 1
            omega
          · rw [if_neg opening, if_neg closing] at parens
            obtain ⟨ends, rest⟩ := ih deep (by simpa using found)
            exact ⟨ends, by rw [rest, parens]⟩

/-- At the partner of a parenthesis, the scanner remembers whether it took that for one
of the head of a control statement. -/
lemma parens_of_findMatching (opening : CodeAt t o '(') (found : findMatching (mask t) o = some p) :
    CodeAt t p ')' ∧ (stateAt t p).parens = (stateAt t o).expectsHead :: (stateAt t o).parens := by
  have stands : (mask t)[o]? = some '(' := (mask_eq_paren (.inl rfl)).mpr opening
  have search : (balanceAt? '(' ')' 0 ((mask t).drop o)).map (o + ·) = some p := by
    rw [← found, findMatching, stands]
    exact Option.map_eq_bind
  rw [balanceAt?_drop 0 stands, if_pos rfl, Option.map_map, Option.map_eq_some_iff] at search
  obtain ⟨k, search, rfl⟩ := search
  obtain ⟨ends, parens⟩ := parens_of_balanceAt (Nat.le_refl 1) search
  have place : (((o + ·) ∘ (· + 1)) k : Nat) = o + 1 + k := by
    rw [Function.comp_apply, Nat.add_assoc, Nat.add_comm 1]
  rw [place]
  refine ⟨(mask_eq_paren (.inr rfl)).mp ends, ?_⟩
  rw [parens, parens_succ stands, if_pos rfl]
  rfl

/-- A search that is at a character goes on from the next one. -/
lemma search_succ {whole here next : Option Nat} (before : o ≤ i)
    (search : whole = here.map (· + (i - o))) (once : here = next.map (· + 1)) :
    whole = next.map (· + (i + 1 - o)) := by
  rw [search, once, Option.map_map]
  refine congrArg (Option.map · next) (funext fun k => ?_)
  rw [Function.comp_apply]
  omega

/-- Where the scanner remembers `depth` parentheses, a search from the outermost of them
is as deep there. -/
lemma exists_balanceAt (within : i ≤ t.length) {depth : Nat} (deep : 1 ≤ depth)
    (enough : depth ≤ (stateAt t i).parens.length) :
    ∃ o < i, (mask t)[o]? = some '(' ∧ balanceAt? '(' ')' 0 ((mask t).drop o) =
      (balanceAt? '(' ')' depth ((mask t).drop i)).map (· + (i - o)) := by
  induction i generalizing depth with
  | zero =>
      rw [stateAt_zero] at enough
      have none : depth ≤ 0 := enough
      omega
  | succ i ih =>
      have short : i < (mask t).length := by rwa [length_mask]
      obtain ⟨c, here⟩ : ∃ c, (mask t)[i]? = some c := ⟨_, List.getElem?_eq_getElem short⟩
      have ih := fun d => @ih (Nat.le_of_succ_le within) d
      have parens := parens_succ here
      by_cases opening : c = '('
      · rw [if_pos opening] at parens
        rw [parens, List.length_cons] at enough
        have once := fun d => balanceAt?_drop d here
        simp only [if_pos opening] at once
        obtain rfl | inner : depth = 1 ∨ 1 ≤ depth - 1 := by omega
        · refine ⟨i, Nat.lt_succ_self i, by rw [here, opening], ?_⟩
          rw [once, Nat.add_sub_cancel_left]
        · obtain ⟨o, before, stands, search⟩ := ih (depth - 1) inner (by omega)
          refine ⟨o, by omega, stands, search_succ (Nat.le_of_lt before) search ?_⟩
          rw [once, Nat.sub_add_cancel deep]
      by_cases closing : c = ')'
      · rw [if_neg opening, if_pos closing] at parens
        rw [parens, List.length_tail] at enough
        obtain ⟨o, before, stands, search⟩ := ih (depth + 1) (by omega) (by omega)
        refine ⟨o, by omega, stands, search_succ (Nat.le_of_lt before) search ?_⟩
        rw [balanceAt?_drop _ here, if_neg opening, if_pos closing, if_neg (by omega),
          Nat.add_sub_cancel]
      · rw [if_neg opening, if_neg closing] at parens
        rw [parens] at enough
        obtain ⟨o, before, stands, search⟩ := ih depth deep enough
        refine ⟨o, by omega, stands, search_succ (Nat.le_of_lt before) search ?_⟩
        rw [balanceAt?_drop _ here, if_neg opening, if_neg closing]

/-- Where the scanner remembers a parenthesis, a closing one has a partner. -/
lemma exists_findMatching (closing : CodeAt t p ')') (open' : (stateAt t p).parens ≠ []) :
    ∃ o, CodeAt t o '(' ∧ findMatching (mask t) o = some p := by
  have within : p < t.length := (List.getElem?_eq_some_iff.mp closing.2).1
  have stands : (mask t)[p]? = some ')' := (mask_eq_paren (.inr rfl)).mpr closing
  obtain ⟨o, before, opening, search⟩ := exists_balanceAt (Nat.le_of_lt within) (Nat.le_refl 1)
    (List.length_pos_iff.mpr open')
  refine ⟨o, (mask_eq_paren (.inl rfl)).mp opening, ?_⟩
  rw [balanceAt?_drop 1 stands, if_neg (by decide), if_pos rfl, if_pos (Nat.le_refl 1)] at search
  rw [findMatching, opening]
  refine Option.map_eq_bind.symm.trans ?_
  rw [search]
  have place : o + (0 + (p - o)) = p := by omega
  exact congrArg some place

end Mask

end LintRepair.Lexical
