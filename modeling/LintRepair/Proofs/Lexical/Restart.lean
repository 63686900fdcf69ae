/-
The scanner started anew in the middle of a text.

* `length_parens`, `opened_le`: what the scanner has open is open in the masked text;
* `State.PastWord`: the word last read makes no difference any more;
* `mask_drop_colon`: behind a colon in no bracket, a text is masked as one of its own;
* `exists_mask_trim`: so is a text between blanks.
-/
import LintRepair.Proofs.Code.Scope
import LintRepair.Proofs.Lexical.Blank
import LintRepair.Proofs.Lexical.Brace
import LintRepair.Proofs.Lexical.Paren
import LintRepair.Proofs.Text.Cut

namespace LintRepair.Lexical

open Text Code

variable {t u v : Text} {i k : Nat}

/-! ### What is open -/

/-- While no parenthesis closes that has not been opened, the scanner remembers those that
are open in the masked text. -/
lemma length_parens (within : i ≤ t.length)
    (opens : ∀ j ≤ i, 0 ≤ height '(' ')' ((mask t).take j)) :
    ((stateAt t i).parens.length : Int) = height '(' ')' ((mask t).take i) := by
  induction i with
  | zero => rw [stateAt_zero, List.take_zero]; rfl
  | succ i ih =>
      have before := ih (by omega) fun j le => opens j (Nat.le_succ_of_le le)
      obtain ⟨c, here⟩ : ∃ c, (mask t)[i]? = some c :=
        ⟨_, List.getElem?_eq_getElem (by rwa [length_mask])⟩
      have level := opens (i + 1) (Nat.le_refl _)
      rw [height_take_succ here] at level ⊢
      rw [parens_succ here]
      split_ifs with opening closing
      · rw [opening, height_up (by decide), List.length_cons]
        omega
      · rw [closing, height_down (by decide)] at level ⊢
        rw [List.length_tail]
        omega
      · rw [height_other opening closing, before, Int.add_zero]

/-- How many braces more are open behind a character of some kind than before it. -/
def Kind.braces (kind : Kind) (c : Char) : Int := if kind = .code then braceCount c else 0

namespace State

variable {st : State} {c : Char} {next : Option Char}

/-- How many braces are open from the outermost of some interpolations on, that of each of
them included. -/
def bracesIn : List Int → Int
  | [] => 0
  | n :: outer => n + 1 + bracesIn outer

/-- How many braces are open from the outermost interpolation on. That of an interpolation
is counted when its dollar sign has been read. -/
def opened (st : State) : Int :=
  bracesIn st.interpolations - if st.joined = some .code then 1 else 0

/-- No count of braces is negative. -/
def Counts (st : State) : Prop := ∀ n ∈ st.interpolations, 0 ≤ n

lemma length_le_bracesIn {ns : List Int} (counts : ∀ n ∈ ns, 0 ≤ n) :
    (ns.length : Int) ≤ bracesIn ns := by
  induction ns with
  | nil => exact Int.le_refl 0
  | cons n outer ih =>
      have first := counts n List.mem_cons_self
      have others := ih fun k inner => counts k (List.mem_cons_of_mem n inner)
      rw [List.length_cons, bracesIn]
      omega

lemma opened_of_nil (none' : st.interpolations = []) : st.opened ≤ 0 := by
  rw [opened, none', bracesIn]
  split_ifs <;> decide

/-- What opens and closes neither an interpolation nor a brace in one changes nothing. -/
lemma opened_of_same {p : Prop} {st' : State} {kind : Kind} (counts : st.Counts) (alone : st.joined = none)
    (same : st'.interpolations = st.interpolations) (alone' : st'.joined ≠ some .code)
    (level : kind.braces c = 0) :
    st'.Counts ∧ (p ∨ st'.opened = st.opened + kind.braces c) := by
  refine ⟨by rwa [Counts, same], .inr ?_⟩
  rw [level, opened, opened, same, alone, if_neg alone', if_neg (by simp), Int.add_zero]

/-- One character of code is read outside of all interpolations, or is counted as one of
the braces that it opens or closes. -/
lemma InCode.opened_step (h : st.InCode) (counts : st.Counts) :
    (st.step c next).2.Counts ∧
      ((st.InCode ∧ st.interpolations = []) ∧ (st.step c next).2.interpolations = [] ∨
        (st.step c next).2.opened = st.opened + (st.step c next).1.braces c) := by
  have alone : st.joined ≠ some .code := by simp [h.alone]
  rw [h.step_eq, stepCode_eq]
  split_ifs with line block regex quote tick last
  · exact opened_of_same counts h.alone rfl (by simp) rfl
  · exact opened_of_same counts h.alone rfl (by simp) rfl
  · exact opened_of_same counts h.alone rfl alone rfl
  · exact opened_of_same counts h.alone rfl alone rfl
  · exact opened_of_same counts h.alone rfl alone rfl
  · obtain ⟨rfl, zero⟩ := last
    obtain ⟨outer, among⟩ := List.head?_eq_some_iff.mp zero
    rw [Counts, among] at counts
    refine ⟨fun n inner => counts n (List.mem_cons_of_mem 0 (by simpa [among] using inner)), .inr ?_⟩
    simp only [opened, h.alone, among, List.tail_cons, bracesIn, Kind.braces, braceCount,
      reduceCtorEq, Char.reduceEq, if_true, if_false]
    omega
  · have interpolations : (st.plain c).interpolations =
        st.interpolations.modifyHead (· + braceCount c) := by
      rw [State.plain, interpolations_codeChar]
    have alone : (st.plain c).joined = none := by rw [State.plain, joined_codeChar, h.alone]
    cases among : st.interpolations with
    | nil =>
        rw [among, List.modifyHead_nil] at interpolations
        exact ⟨by simp [Counts, interpolations], .inl ⟨⟨h, rfl⟩, interpolations⟩⟩
    | cons n outer =>
        rw [among, List.modifyHead_cons] at interpolations
        rw [Counts, among] at counts
        refine ⟨?_, .inr ?_⟩
        · rw [Counts, interpolations]
          rintro k (_ | ⟨_, inner⟩)
          · have first := counts n List.mem_cons_self
            by_cases closing : c = '}'
            · have : n ≠ 0 := fun zero => last ⟨closing, by rw [among, zero]; rfl⟩
              have one : braceCount c = -1 := by rw [closing]; rfl
              omega
            · rw [braceCount, if_neg closing]
              split_ifs <;> omega
          · exact counts k (List.mem_cons_of_mem n inner)
        · simp only [opened, h.alone, alone, among, interpolations, bracesIn, Kind.braces,
            reduceCtorEq, if_true, if_false]
          omega

/-- So is one that belongs to another one, or to a literal or a comment. -/
lemma opened_step (counts : st.Counts) (brace : st.joined = some .code → c = '{') :
    (st.step c next).2.Counts ∧
      ((st.InCode ∧ st.interpolations = []) ∧ (st.step c next).2.interpolations = [] ∨
        (st.step c next).2.opened = st.opened + (st.step c next).1.braces c) := by
  cases joined : st.joined with
  | some kind =>
      simp only [step, joined]
      refine ⟨counts, .inr ?_⟩
      by_cases code : kind = .code
      · obtain rfl := brace (by rw [joined, code])
        simp [opened, joined, code, Kind.braces, braceCount]
      · simp [opened, joined, code, Kind.braces]
  | none =>
    have alone : st.joined ≠ some .code := by simp [joined]
    have feed : c = '\n' → Kind.code.braces c = 0 := by
      rintro rfl
      rfl
    cases inside : st.mode with
    | code => exact InCode.opened_step ⟨inside, joined⟩ counts
    | lineComment =>
        simp only [step, joined, inside]
        split_ifs with stop
        · exact opened_of_same counts joined rfl (by simp) (feed (by simpa using stop))
        · exact opened_of_same counts joined rfl alone rfl
    | blockComment =>
        simp only [step, joined, inside]
        split_ifs
        · exact opened_of_same counts joined rfl (by simp) rfl
        · exact opened_of_same counts joined rfl alone rfl
    | string quote =>
        simp only [step, joined, inside, stepString]
        split_ifs with escapes ends stop
        · exact opened_of_same counts joined rfl (by simp) rfl
        · exact opened_of_same counts joined rfl (by simp) rfl
        · exact opened_of_same counts joined rfl (by simp) (feed (by simpa using stop))
        · exact opened_of_same counts joined rfl alone rfl
    | regex inClass =>
        simp only [step, joined, inside, stepRegex]
        split_ifs with escapes stop
        · exact opened_of_same counts joined rfl (by simp) rfl
        · exact opened_of_same counts joined rfl (by simp) (feed (by simpa using stop))
        · exact opened_of_same counts joined rfl (by simp) rfl
        · exact opened_of_same counts joined rfl (by simp) rfl
        · exact opened_of_same counts joined rfl (by simp) rfl
        · exact opened_of_same counts joined rfl alone rfl
    | template =>
        simp only [step, joined, inside, stepTemplate]
        split_ifs with escapes ends opens
        · exact opened_of_same counts joined rfl (by simp) rfl
        · exact opened_of_same counts joined rfl (by simp) rfl
        · refine ⟨by simpa [Counts] using counts, .inr ?_⟩
          obtain ⟨rfl, -⟩ : c = '$' ∧ next = some '{' := by simpa using opens
          simp only [opened, joined, bracesIn, Kind.braces, braceCount, reduceCtorEq,
            Char.reduceEq, if_true, if_false]
          omega
        · exact opened_of_same counts joined rfl alone rfl

end State

/-- Braces that are not masked are braces of the masked text, and there are no others. -/
lemma height_masked {st : State} {c : Char} {next : Option Char} (tidy : st.Tidy)
    (consistent : st.Consistent) :
    height '{' '}' [(st.step c next).1.masked c] = (st.step c next).1.braces c := by
  have filled : ∀ b, isBlank b = true → height '{' '}' [b] = 0 := fun b blank =>
    height_other (ne_of_isBlank blank (by decide)) (ne_of_isBlank blank (by decide))
  cases kind : (st.step c next).1 with
  | code =>
      rw [Kind.masked_of_isKept rfl, Kind.braces, if_pos rfl, braceCount]
      split_ifs with opening closing
      · rw [opening, height_up (by decide)]
      · rw [closing, height_down (by decide)]
      · exact height_other opening closing
  | delimiter =>
      rw [Kind.masked_of_isKept rfl]
      rcases State.quoted_of_delimiter tidy consistent kind with rfl | rfl | rfl <;> rfl
  | string | comment | regex | template => exact filled _ (Kind.isBlank_masked rfl)

/-- While no brace closes that has not been opened, no more of them are open in
interpolations than in the masked text. -/
lemma opened_le (within : i ≤ t.length)
    (opens : ∀ j ≤ i, 0 ≤ height '{' '}' ((mask t).take j)) :
    (stateAt t i).Counts ∧ (stateAt t i).opened ≤ height '{' '}' ((mask t).take i) := by
  induction i with
  | zero =>
      rw [stateAt_zero, List.take_zero]
      exact ⟨by simp [State.Counts], State.opened_of_nil rfl⟩
  | succ i ih =>
      obtain ⟨counts, before⟩ := ih (by omega) fun j le => opens j (Nat.le_succ_of_le le)
      have here : t[i]? = some t[i] := List.getElem?_eq_getElem within
      have masked := getElem?_mask t i
      rw [here, Option.map_some] at masked
      have level := opens (i + 1) (Nat.le_refl _)
      rw [height_take_succ masked, height_masked (tidy_stateAt t i) (consistent_stateAt t i)]
        at level ⊢
      rw [stateAt_succ here]
      obtain ⟨counts', ⟨-, outside⟩ | once⟩ := State.opened_step counts fun joined => by
        simpa [here] using brace_of_joined joined within
      · exact ⟨counts', Int.le_trans (State.opened_of_nil outside) level⟩
      · exact ⟨counts', by omega⟩

/-! ### Behind a colon -/

namespace State

variable {st : State} {c : Char} {next : Option Char}

/-- The state with another word last read. -/
def withWord (st : State) (w : Text) : State := { st with word := w }

/-- Something else has been read since the last word. -/
structure PastWord (st : State) : Prop where
  inWord : st.inWord = false
  afterWord : st.afterWord = false

/-- Then a character of no word leaves the last one as it is. -/
lemma PastWord.plain (h : st.PastWord) (other : isName c = false) (w : Text) :
    (st.withWord w).plain c = (st.plain c).withWord w ∧ (st.plain c).PastWord := by
  have noWord : (isAlnum c || c == '_' || c == '$') = false := other
  obtain ⟨apart, past⟩ := h
  simp only [State.plain, codeChar, noWord, withWord, past, Bool.false_and, Bool.false_eq_true,
    if_false]
  split_ifs
  all_goals exact ⟨rfl, rfl, rfl⟩

/-- A new word starts whatever the last one was, -/
lemma PastWord.step_name (h : st.PastWord) (inCode : st.InCode) (name : isName c = true)
    (w : Text) : (st.withWord w).step c next = st.step c next := by
  have inCode' : (st.withWord w).InCode := ⟨inCode.mode, inCode.alone⟩
  have fresh : (st.withWord w).spelled = [] := by simp [spelled, withWord, h.inWord]
  have fresh' : st.spelled = [] := by simp [spelled, h.inWord]
  rw [inCode'.step_name name, inCode.step_name name, fresh, fresh']
  rfl

/-- and any other character is read without regard to it. -/
lemma PastWord.step_other (h : st.PastWord) (other : st.InCode → isName c = false) (w : Text) :
    (st.withWord w).step c next = ((st.step c next).1, (st.step c next).2.withWord w) ∧
      (st.step c next).2.PastWord := by
  have plain := fun other => h.plain (c := c) other w
  obtain ⟨mode, joined, depth, opened, allowed, word, inWord, afterWord, parens⟩ := st
  obtain ⟨apart, past⟩ := h
  obtain rfl : inWord = false := apart
  obtain rfl : afterWord = false := past
  cases joined with
  | some kind => exact ⟨rfl, rfl, rfl⟩
  | none =>
    cases mode with
    | code =>
        obtain ⟨same, past⟩ := plain (other ⟨rfl, rfl⟩)
        rw [InCode.step_eq ⟨rfl, rfl⟩, InCode.step_eq ⟨rfl, rfl⟩, stepCode_eq, stepCode_eq, same]
        constructor
        · change _ = Prod.map id (withWord · w) _
          simp only [apply_ite (Prod.map id (withWord · w))]
          rfl
        · split_ifs
          all_goals first | exact past | exact ⟨rfl, rfl⟩
    | lineComment | blockComment =>
        simp only [step, withWord]
        split_ifs <;> exact ⟨rfl, rfl, rfl⟩
    | string quote =>
        simp only [step, withWord, stepString]
        split_ifs <;> exact ⟨rfl, rfl, rfl⟩
    | regex inClass =>
        simp only [step, withWord, stepRegex]
        split_ifs <;> exact ⟨rfl, rfl, rfl⟩
    | template =>
        simp only [step, withWord, stepTemplate]
        split_ifs <;> exact ⟨rfl, rfl, rfl⟩

/-- So the kinds of what follows are the same. -/
lemma PastWord.kinds_withWord (h : st.PastWord) (w t : Text) :
    (st.withWord w).kinds t = st.kinds t := by
  induction t generalizing st with
  | nil => rfl
  | cons c rest ih =>
      by_cases word : st.InCode ∧ isName c = true
      · rw [kinds, kinds, h.step_name word.1 word.2]
      · have other : st.InCode → isName c = false := fun inCode => by simpa [inCode] using word
        obtain ⟨step, later⟩ : (st.withWord w).step c rest.head? = _ ∧ _ := h.step_other other w
        rw [kinds, kinds, step, ih later]

lemma drop_kinds (st : State) (t : Text) (n : Nat) :
    (st.kinds t).drop n = (st.after t n).kinds (t.drop n) := by
  induction t generalizing st n with
  | nil => simp [kinds]
  | cons c rest ih =>
      cases n with
      | zero => rfl
      | succ n => exact ih _ n

/-- Behind a colon in no bracket, the scanner has nothing in mind but the word last read. -/
lemma InCode.step_colon (h : st.InCode) (consistent : st.Consistent)
    (parens : st.parens = []) (opened : st.interpolations = []) :
    st.step ':' next = (.code, withWord {} st.word) := by
  obtain ⟨mode, joined, depth, interpolations, allowed, word, inWord, afterWord, heads⟩ := st
  obtain ⟨rfl, rfl⟩ := h
  obtain rfl : heads = [] := parens
  obtain rfl : interpolations = [] := opened
  obtain rfl : depth = 0 := consistent.depth
  rw [InCode.step_plain ⟨rfl, rfl⟩ (by decide)]
  rfl

end State

/-- **Behind a colon in no bracket** a text is masked as one of its own. -/
theorem mask_drop_colon (colon : (mask t)[k]? = some ':')
    (parens : Closed '(' ')' ((mask t).take k)) (braces : Closed '{' '}' ((mask t).take k)) :
    mask (t.drop (k + 1)) = (mask t).drop (k + 1) := by
  have stands : CodeAt t k ':' := codeAt_of_mask colon (by decide) (by decide)
  have within : k ≤ t.length := Nat.le_of_lt (List.getElem?_eq_some_iff.mp stands.2).1
  have opens : ∀ up down, Closed up down ((mask t).take k) →
      ∀ j ≤ k, 0 ≤ height up down ((mask t).take j) := by
    intro up down closed j le
    have := closed.2 j
    rwa [List.take_take, Nat.min_eq_left le] at this
  have noParens : (stateAt t k).parens = [] := by
    have count := length_parens within (opens _ _ parens)
    rw [parens.1] at count
    exact List.length_eq_zero_iff.mp (by omega)
  have noBraces : (stateAt t k).interpolations = [] := by
    obtain ⟨counts, le⟩ := opened_le within (opens _ _ braces)
    have few := State.length_le_bracesIn counts
    rw [braces.1, State.opened, stands.1.alone] at le
    simp only [reduceCtorEq, if_false] at le
    exact List.length_eq_zero_iff.mp (by omega)
  have behind : stateAt t (k + 1) = State.withWord {} (stateAt t k).word := by
    rw [stateAt_succ stands.2,
      stands.1.step_colon (consistent_stateAt t k) noParens noBraces]
  have same : Lexical.kinds (t.drop (k + 1)) = (Lexical.kinds t).drop (k + 1) := by
    rw [Lexical.kinds, Lexical.kinds, State.drop_kinds]
    change _ = (stateAt t (k + 1)).kinds _
    rw [behind, State.PastWord.kinds_withWord ⟨rfl, rfl⟩]
  rw [mask, mask, same, List.drop_zipWith]

/-! ### Between blanks -/

/-- A text masked from a state on. -/
def State.masks (st : State) (t : Text) : Text :=
  List.zipWith (fun c kind => kind.masked c) t (st.kinds t)

/-- What is read, masked, with what follows it. -/
lemma masks_of_reads {st st' : State} {ms : Marks} (read : Reads v st ms st') :
    st.masks (ms.map Prod.fst ++ v) = ms.map (fun read => read.2.masked read.1) ++ st'.masks v := by
  rw [State.masks, read.kinds_append, List.zipWith_append (by simp), State.masks,
    List.zipWith_map, List.zipWith_self]

/-- Blanks are masked as blanks. -/
lemma isBlank_masks {st : State} (blank : ∀ c ∈ t, isBlank c = true) :
    ∀ b ∈ st.masks t, isBlank b = true := by
  intro b among
  obtain ⟨i, here⟩ := List.mem_iff_getElem?.mp among
  obtain ⟨c, kind, stands, -, rfl⟩ := List.getElem?_zipWith_eq_some.mp here
  exact kind.isBlank_masked_of_isBlank (blank c (List.mem_of_getElem? stands))

/-- **Between blanks** a text is masked as one of its own. -/
lemma exists_mask_trim (t : Text) : ∃ front back, mask t = front ++ (mask (trim t) ++ back) ∧
    (∀ c ∈ front, isBlank c = true) ∧ ∀ c ∈ back, isBlank c = true := by
  obtain ⟨u, v, parts, blank, blank', -⟩ := exists_trim t
  obtain ⟨ms, st, leading, rfl⟩ := exists_reads (trim t ++ v) u {}
  obtain ⟨ms', st', read, text⟩ := exists_reads v (trim t) {}
  -- Blanks do not lead away from the start.
  obtain rfl : st = {} := by
    have reached := leading.after_append
    have stays : State.after {} (ms.map Prod.fst ++ (trim t ++ v)) (ms.map Prod.fst).length = {} :=
      State.InCode.after_blanks_of_inWord ⟨rfl, rfl⟩ rfl blank
    rw [List.length_map] at stays
    exact reached.symm.trans stays
  -- Those behind the text do not tell how its last character is read.
  have neutral : Neutral v.head? := by
    cases v with
    | nil => exact neutral_none
    | cons c v => exact neutral_of_isBlank (blank' c List.mem_cons_self)
  have alone : Reads [] {} ms' st' :=
    read.alike fun c _ st => State.step_neutral neutral neutral_none
  have front : mask t = ms.map (fun read => read.2.masked read.1) ++
      State.masks {} (trim t ++ v) := by
    conv_lhs => rw [parts]
    exact masks_of_reads leading
  have middle : State.masks {} (trim t ++ v) = mask (trim t) ++ st'.masks v := by
    have whole := masks_of_reads alone
    rw [List.append_nil, text] at whole
    rw [← text, masks_of_reads read, text]
    congr 1
    exact (whole.trans (List.append_nil _)).symm
  refine ⟨_, _, front.trans (by rw [middle]), ?_, isBlank_masks blank'⟩
  intro b among
  obtain ⟨read, inside, rfl⟩ := List.mem_map.mp among
  exact read.2.isBlank_masked_of_isBlank (blank _ (List.mem_map_of_mem inside))

end LintRepair.Lexical
