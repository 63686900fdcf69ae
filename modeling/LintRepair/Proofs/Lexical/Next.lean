/-
The next token behind an offset.

* `NextToken`: the first character behind an offset that is neither blank nor of a comment;
* `drop_mask`: the masked text from an offset on is masked from the state there;
* `State.step_idle`: in front of a token it makes no difference what the scanner has in mind;
* `State.found_of_ends`: so the token can be told from a masked text that was read from
  another state, unless it is a slash;
* `inCode_of_mask`: characters of expressions that are not masked stand in code;
* `idle_or_regex_of_mask`: what is blank in the masked text behind code are blanks,
  comments and regular expressions; `kinds_eq_code_iff`: blanks only, just if the text is
  blank there.
-/
import LintRepair.Proofs.Lexical.Inside
import LintRepair.Proofs.Lexical.Restart
import LintRepair.Proofs.Lexical.Token
import Mathlib.Data.Nat.Find

namespace LintRepair.Lexical

open Text

variable {t rest : Text} {c : Char} {next : Option Char} {i n p : Nat}

/-- The first character behind an offset that is neither a blank of code nor one of a
comment, or the end of the text. -/
structure NextToken (t : Text) (i p : Nat) : Prop where
  le : i ≤ p
  idle : ∀ m, i ≤ m → m < p → Idle t m
  token : ¬ Idle t p

lemma exists_nextToken (t : Text) (i : Nat) : ∃ p, NextToken t i p := by
  have ends : ∃ p, i ≤ p ∧ ¬ Idle t p := ⟨max i t.length, Nat.le_max_left _ _, fun idle =>
    Nat.not_lt_of_le (Nat.le_max_right _ _) idle.lt⟩
  refine ⟨Nat.find ends, (Nat.find_spec ends).1, fun m low high => ?_, (Nat.find_spec ends).2⟩
  by_contra token
  exact Nat.find_min ends high ⟨low, token⟩

/-- The masked text from an offset on is masked from the state there. -/
lemma drop_mask (t : Text) (i : Nat) : (mask t).drop i = (stateAt t i).masks (t.drop i) := by
  rw [mask, List.drop_zipWith, kinds, State.drop_kinds]
  rfl

namespace State

variable {st st' : State}

/-- Of a text that is read from a state on, a blank of code, or a character of a comment. -/
def Idles (st : State) (t : Text) (m : Nat) : Prop :=
  (st.kinds t)[m]? = some .comment ∨
    (st.kinds t)[m]? = some .code ∧ t[m]?.any isBlank = true

lemma idles_zero : st.Idles (c :: rest) 0 ↔
    (st.step c rest.head?).1 = .comment ∨
      (st.step c rest.head?).1 = .code ∧ isBlank c = true := by
  simp [Idles, kinds]

lemma idles_succ : st.Idles (c :: rest) (n + 1) ↔ (st.step c rest.head?).2.Idles rest n := by
  simp [Idles, kinds]

/-- It is one of the whole text. -/
lemma idle_append_add (before rest : Text) (m : Nat) :
    Idle (before ++ rest) (before.length + m) ↔
      (stateAt (before ++ rest) before.length).Idles rest m := by
  have same : (Lexical.kinds (before ++ rest)).drop before.length =
      (stateAt (before ++ rest) before.length).kinds rest := by
    rw [Lexical.kinds, drop_kinds, List.drop_left]
    rfl
  rw [Idle, Idles, ← same, List.getElem?_drop, List.getElem?_append_right (by omega),
    Nat.add_sub_cancel_left]

/-- Blanks and comments are read alike, whatever the scanner has in mind. -/
lemma step_idle (between : st'.Between) (mode : st.mode = st'.mode)
    (joined : st.joined = st'.joined)
    (idle : (st'.step c next).1 = .comment ∨ (st'.step c next).1 = .code ∧ isBlank c = true) :
    (st.step c next).1 = (st'.step c next).1 ∧
      (st.step c next).2.mode = (st'.step c next).2.mode ∧
      (st.step c next).2.joined = (st'.step c next).2.joined := by
  rcases between.joined with alone | belongs
  · rcases between.mode with inside | inside | inside
    · have inCode' : st'.InCode := ⟨inside, alone⟩
      have inCode : st.InCode := ⟨mode.trans inside, joined.trans alone⟩
      by_cases blank : isBlank c = true
      · rw [inCode.step_blank blank, inCode'.step_blank blank]
        exact ⟨rfl, mode, joined⟩
      have comment : (st'.step c next).1 = .comment := by simpa [blank] using idle
      rw [inCode'.step_eq, stepCode_eq] at comment ⊢
      rw [inCode.step_eq, stepCode_eq]
      split_ifs at comment ⊢
      · exact ⟨rfl, rfl, rfl⟩
      · exact ⟨rfl, rfl, rfl⟩
    all_goals
      simp only [step, joined, mode, alone, inside]
      split_ifs <;> simp [mode, joined, inside, alone]
  · have belongs' : st.joined = some .comment := joined.trans belongs
    simp [step, belongs, belongs', mode]

/-- What is neither is read in code. -/
lemma inCode_of_token (between : st.Between)
    (token : ¬ ((st.step c next).1 = .comment ∨ (st.step c next).1 = .code ∧ isBlank c = true)) :
    st.InCode ∧ isBlank c = false := by
  rcases between.joined with alone | belongs
  · rcases between.mode with inside | inside | inside
    · have inCode : st.InCode := ⟨inside, alone⟩
      refine ⟨inCode, ?_⟩
      by_contra blank
      rw [inCode.step_blank (by simpa using blank)] at token
      exact token (.inr ⟨rfl, by simpa using blank⟩)
    all_goals
      refine absurd ?_ token
      simp only [step, alone, inside]
      split_ifs with feed
      · simp_all [isBlank]
      · exact .inl rfl
  · exact absurd (.inl (by simp [step, belongs])) token

/-- In code, only a slash is masked. -/
lemma InCode.isKept_step (h : st.InCode) (other : c ≠ '/') : (st.step c next).1.isKept = true := by
  rw [h.step_eq, stepCode_eq]
  simp only [other, false_and, if_false]
  split_ifs <;> rfl

/-- **The next token** of a text, told from a masked text that was read from another state.
If behind spaces and tabs that has nothing, or one of three characters, then so has the
text behind blanks and comments, or a line ends there, or else a slash stands there. -/
lemma found_of_ends (between : st'.Between) (mode : st.mode = st'.mode)
    (joined : st.joined = st'.joined)
    (ends : ∀ c ∈ ((st.masks t).dropWhile isSpaceOrTab).head?, c ∈ [';', '\n', '}'])
    (idle : ∀ m < n, st'.Idles t m) (token : ¬ st'.Idles t n) :
    (∀ c ∈ t[n]?, c ∈ [';', '}', '/']) ∨ ∃ m < n, t[m]? = some '\n' := by
  induction t generalizing st st' n with
  | nil => exact .inl (by simp)
  | cons c rest ih =>
      have masks : st.masks (c :: rest) =
          (st.step c rest.head?).1.masked c :: (st.step c rest.head?).2.masks rest := rfl
      rw [masks] at ends
      cases n with
      | zero =>
          rw [idles_zero] at token
          obtain ⟨inCode', solid⟩ := inCode_of_token between token
          have inCode : st.InCode := ⟨mode.trans inCode'.mode, joined.trans inCode'.alone⟩
          refine .inl ?_
          rintro _ ⟨⟩
          by_cases slash : c = '/'
          · simp [slash]
          have other : ¬ isSpaceOrTab c = true := fun space => by
            rw [isBlank_of_isSpaceOrTab space] at solid
            cases solid
          rw [Kind.masked_of_isKept (inCode.isKept_step slash), List.dropWhile_cons_of_neg other] at ends
          have among := ends c rfl
          simp only [List.mem_cons, List.not_mem_nil, or_false] at among ⊢
          rcases among with rfl | rfl | rfl
          · exact .inl rfl
          · cases solid
          · exact .inr (.inl rfl)
      | succ n =>
          have first := idle 0 (Nat.succ_pos n)
          rw [idles_zero] at first
          obtain ⟨kind, mode', joined'⟩ := step_idle between mode joined first
          by_cases feed : c = '\n'
          · exact .inr ⟨0, Nat.succ_pos n, by rw [feed]; rfl⟩
          have space : isSpaceOrTab ((st.step c rest.head?).1.masked c) = true := by
            rw [kind]
            rcases first with comment | ⟨code, blank⟩
            · rw [comment, Kind.masked_of_ne rfl feed]
              rfl
            · rw [code, Kind.masked_of_isKept rfl]
              by_contra other
              rw [kind, code, Kind.masked_of_isKept rfl, List.dropWhile_cons_of_neg other] at ends
              have among := ends c rfl
              simp only [List.mem_cons, feed, List.not_mem_nil, or_false, false_or] at among
              rcases among with rfl | rfl <;> exact absurd blank (by decide)
          rw [List.dropWhile_cons_of_pos space] at ends
          rw [idles_succ] at token
          have later := ih (between.step first).1 mode' joined' ends
            (fun m lt => idles_succ.mp (idle (m + 1) (Nat.succ_lt_succ lt))) token
          refine later.imp id fun ⟨m, lt, here⟩ => ⟨m + 1, Nat.succ_lt_succ lt, here⟩

/-- A dollar sign of code that is not in code opens an interpolation. -/
lemma inCode_or_opens (code : (st.step '$' next).1 = .code) :
    st.InCode ∨ st.joined = some .code ∨ (st.step '$' next).2.joined = some .code := by
  cases alone : st.joined with
  | some kind =>
      simp only [step, alone] at code
      exact .inr (.inl (by rw [code]))
  | none =>
    cases inside : st.mode with
    | code => exact .inl ⟨inside, alone⟩
    | template =>
        simp only [step, alone, inside, stepTemplate] at code ⊢
        split_ifs at code ⊢
        exact .inr (.inr rfl)
    | lineComment | blockComment | string quote | regex inClass =>
        simp only [step, alone, inside, stepString, stepRegex] at code
        split_ifs at code <;> simp_all

end State

/-- **Characters of expressions** that are not masked stand in code, and the one behind them
does so too. A dollar sign may start an interpolation instead. -/
lemma inCode_of_mask (stands : (mask t)[i]? = some c)
    (plain : isName c = true ∨ c ∈ ['.', '+', '-']) (apart : (mask t)[i + 1]? ≠ some '{') :
    (stateAt t i).InCode ∧ (stateAt t (i + 1)).InCode := by
  have solid : isBlank c = false := by
    rcases plain with name | mark
    · by_contra blank
      rw [isName_of_isBlank (by simpa using blank)] at name
      cases name
    · simp only [List.mem_cons, List.not_mem_nil, or_false] at mark
      rcases mark with rfl | rfl | rfl <;> rfl
  obtain ⟨here, kept⟩ := kept_of_mask stands solid
  have other : ∀ b ∈ ['{', '\x27', '\x22', '\x60'], c ≠ b := by
    rintro b among rfl
    simp only [List.mem_cons, List.not_mem_nil, or_false] at among
    rcases among with rfl | rfl | rfl | rfl <;> exact absurd plain (by decide)
  have inCode : (stateAt t i).InCode := by
    have brace : (stateAt t i).joined ≠ some .code := fun joined =>
      other '{' (by simp) (Option.some.inj
        (here.symm.trans (brace_of_joined joined (List.getElem?_eq_some_iff.mp here).1)))
    cases kind : ((stateAt t i).step c t[i + 1]?).1 with
    | code =>
        rcases State.inCode_or_of_code kind with inCode | joined | rfl | rfl
        · exact inCode
        · exact absurd joined brace
        · rcases State.inCode_or_opens kind with inCode | joined | opens
          · exact inCode
          · exact absurd joined brace
          · have next : t[i + 1]? = some '{' := State.next_of_joined opens
            rw [← stateAt_succ here] at opens
            refine absurd ?_ apart
            rw [getElem?_mask, next, Option.map_some, State.step, opens]
            rfl
        · cases solid
    | delimiter =>
        rcases State.quoted_of_delimiter (tidy_stateAt t i) (consistent_stateAt t i) kind with
          same | same | same <;> exact absurd same (other _ (by simp))
    | string | comment | regex | template =>
        rw [kind] at kept
        cases kept
  refine ⟨inCode, ?_⟩
  rw [stateAt_succ here]
  rcases plain with name | mark
  · rw [inCode.step_name name]
    exact ⟨inCode.mode, inCode.alone⟩
  · simp only [List.mem_cons, List.not_mem_nil, or_false] at mark
    rcases mark with rfl | rfl | rfl <;>
      exact ⟨by rw [inCode.step_plain (by decide)]; simp [inCode.mode],
        by rw [inCode.step_plain (by decide)]; simp [inCode.alone]⟩

/-! ### Blanks of the masked text -/

namespace State

variable {st : State}

/-- The scanner is in code, in a comment or in a regular expression. -/
structure Slashed (st : State) : Prop where
  mode : st.mode = .code ∨ st.mode.isSlashed = true
  joined : st.joined = none ∨ st.joined = some .comment ∨ st.joined = some .regex

lemma InCode.slashed (h : st.InCode) : st.Slashed := ⟨.inl h.mode, .inl h.alone⟩

/-- From there, what is masked as a blank is a blank, or a character of a comment or of a
regular expression, and leads to no other literal. -/
lemma Slashed.step (h : st.Slashed) (blank : isBlank ((st.step c next).1.masked c) = true) :
    (((st.step c next).1 = .comment ∨ (st.step c next).1 = .code ∧ isBlank c = true) ∨
        (st.step c next).1 = .regex) ∧ (st.step c next).2.Slashed := by
  rcases h.joined with alone | belongs | belongs
  · rcases h.mode with inside | slashed
    · have inCode : st.InCode := ⟨inside, alone⟩
      by_cases idle : isBlank c = true
      · rw [inCode.step_blank idle]
        exact ⟨.inl (.inr ⟨rfl, idle⟩), inCode.forget.slashed⟩
      by_cases slash : c = '/'
      · -- a slash that divides is not masked
        subst slash
        rw [inCode.step_eq, stepCode_eq] at blank ⊢
        split_ifs at blank ⊢
        · exact ⟨.inl (.inl rfl), .inr rfl, .inr (.inl rfl)⟩
        · exact ⟨.inl (.inl rfl), .inr rfl, .inr (.inl rfl)⟩
        · exact ⟨.inr rfl, .inr rfl, .inl alone⟩
        all_goals exact absurd (show isBlank '/' = true from blank) (by decide)
      · rw [Kind.masked_of_isKept (inCode.isKept_step slash)] at blank
        exact absurd blank idle
    · cases inside : st.mode with
      | lineComment | blockComment | regex inClass =>
          clear blank
          simp only [State.step, alone, inside, stepRegex]
          split_ifs with feed
          all_goals
            refine ⟨?_, ?_, ?_⟩ <;> simp_all [Mode.isSlashed, isBlank]
      | code | string quote | template =>
          rw [inside] at slashed
          cases slashed
  · rw [State.step, belongs]
    exact ⟨.inl (.inl rfl), h.mode, .inl rfl⟩
  · rw [State.step, belongs]
    exact ⟨.inr rfl, h.mode, .inl rfl⟩

end State

variable {j : Nat}

/-- Blanks lead from code to code. -/
lemma inCode_of_blanks (inCode : (stateAt t i).InCode) (le : i ≤ j)
    (blank : ∀ m, i ≤ m → m < j → t[m]?.any isBlank = true) : (stateAt t j).InCode := by
  induction j, le using Nat.le_induction with
  | base => exact inCode
  | succ j le ih =>
      have before := ih fun m low high => blank m low (Nat.lt_succ_of_lt high)
      obtain ⟨c, here, idle⟩ := (Option.any_eq_true ..).mp (blank j le (Nat.lt_succ_self j))
      rw [stateAt_succ here, before.step_blank idle]
      exact before.forget

/-- Blanks of the masked text lead from code to no literal but a regular expression. -/
lemma slashed_of_mask (inCode : (stateAt t i).InCode) (le : i ≤ j)
    (blank : ∀ m, i ≤ m → m < j → (mask t)[m]?.any isBlank = true) : (stateAt t j).Slashed := by
  induction j, le using Nat.le_induction with
  | base => exact inCode.slashed
  | succ j le ih =>
      have before := ih fun m low high => blank m low (Nat.lt_succ_of_lt high)
      have masked := blank j le (Nat.lt_succ_self j)
      rw [getElem?_mask, Option.any_map, Option.any_eq_true] at masked
      obtain ⟨c, here, masked⟩ := masked
      rw [stateAt_succ here]
      exact (before.step masked).2

/-- **Blanks of the masked text**, from an offset in code on, are blanks, or characters of
comments or of regular expressions. -/
lemma idle_or_regex_of_mask (inCode : (stateAt t i).InCode)
    (blank : ∀ m, i ≤ m → m < j → (mask t)[m]?.any isBlank = true) {m : Nat} (low : i ≤ m)
    (high : m < j) : Idle t m ∨ (kinds t)[m]? = some .regex := by
  have slashed := slashed_of_mask inCode low fun m' low' high' =>
    blank m' low' (high'.trans high)
  have masked := blank m low high
  rw [getElem?_mask, Option.any_map, Option.any_eq_true] at masked
  obtain ⟨c, here, masked⟩ := masked
  have kind := (slashed.step masked).1
  rw [Idle, getElem?_kinds, here]
  simpa using kind

/-- They are all code just if the text has blanks there as well. -/
lemma kinds_eq_code_iff (inCode : (stateAt t i).InCode)
    (blank : ∀ m, i ≤ m → m < j → (mask t)[m]?.any isBlank = true) :
    (∀ m, i ≤ m → m < j → (kinds t)[m]? = some .code) ↔
      ∀ m, i ≤ m → m < j → t[m]?.any isBlank = true := by
  refine ⟨fun code m low high => ?_, fun idle m low high => ?_⟩
  · rcases idle_or_regex_of_mask inCode blank low high with (comment | ⟨-, idle⟩) | regex
    · cases (code m low high).symm.trans comment
    · exact idle
    · cases (code m low high).symm.trans regex
  · obtain ⟨c, here, idle'⟩ := (Option.any_eq_true ..).mp (idle m low high)
    have before := inCode_of_blanks inCode low fun m' low' high' => idle m' low' (high'.trans high)
    rw [getElem?_kinds, here, Option.map_some, before.step_blank idle']

end LintRepair.Lexical
