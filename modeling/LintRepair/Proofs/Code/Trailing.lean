/-
A comma in front of the bracket that closes a list.

* `exists_reads_idle`: blanks and comments are read alike from any two places in code;
* `exists_marks_comma`: so a comma of code before them changes nothing up to the bracket;
* `Calm`: nothing but blanks and comments stands before the bracket;
* `Calm.exists_listAt_insert`, `Calm.exists_listAt_remove`: where a comma put in or taken out
  leaves as many elements.
-/
import Mathlib.Data.Bool.AllAny
import LintRepair.Proofs.Code.Elements
import LintRepair.Proofs.Lexical.Excised

namespace LintRepair.Code

open Text Lexical Check

variable {code b rest R : Text} {A : Marks} {st : State} {next : Option Char} {k : Char} {i c : Nat}

/-! ### With and without a comma -/

/-- **Blanks and comments** are read alike from any place that is inside of the same. -/
lemma exists_reads_idle (between : st.Between) (idle : ∀ m < b.length, st.Idles (b ++ rest) m) :
    ∃ ms s, ms.map Prod.fst = b ∧ (∀ x ∈ ms, isIdle x = true) ∧ Reads rest st ms s ∧ s.Between ∧
      ∀ st' : State, st'.mode = st.mode → st'.joined = st.joined →
        ∃ s', Reads rest st' ms s' ∧ s'.mode = s.mode ∧ s'.joined = s.joined := by
  induction b generalizing st with
  | nil =>
      exact ⟨[], st, rfl, by simp, .nil st, between, fun st' mode joined =>
        ⟨st', .nil st', mode, joined⟩⟩
  | cons c b ih =>
      have idle : ∀ m < b.length + 1, st.Idles (c :: (b ++ rest)) m := idle
      have first := State.idles_zero.mp (idle 0 (Nat.succ_pos _))
      obtain ⟨ms, s, rfl, idles, read, between', alike⟩ := ih (between.step first).1 fun m low =>
        State.idles_succ.mp (idle (m + 1) (Nat.succ_lt_succ low))
      refine ⟨(c, (st.step c (ms.map Prod.fst ++ rest).head?).1) :: ms, s, rfl, ?_,
        .cons rfl read, between', fun st' mode joined => ?_⟩
      · rintro x (_ | ⟨_, among⟩)
        · exact isIdle_iff.mpr first
        · exact idles x among
      · obtain ⟨kind, mode', joined'⟩ := State.step_idle between mode joined first
        obtain ⟨s', read', same⟩ :=
          alike (st'.step c (ms.map Prod.fst ++ rest).head?).2 mode' joined'
        exact ⟨s', .cons (by rw [← kind]) read', same⟩

lemma isBlank_of_isCloser (closes : isCloser k = true) : isBlank k = false := by
  simp only [isCloser, Bool.or_eq_true, beq_iff_eq] at closes
  rcases closes with (rfl | rfl) | rfl <;> rfl

/-- A closing bracket opens no comment and no literal, and closes none. -/
lemma notMem_of_isCloser (closes : isCloser k = true) : k ∉ ['/', '\x27', '\x22', '\x60'] := by
  intro among
  have noCloser : ∀ k ∈ ['/', '\x27', '\x22', '\x60'], isCloser k = false :=
    List.all_iff_forall_prop.mp (by decide)
  rw [noCloser k among] at closes
  cases closes

/-- A closing bracket in code is one of code. -/
lemma step_closer (inCode : st.InCode) (closes : isCloser k = true) :
    (st.step k next).1 = .code := by
  have other := notMem_of_isCloser closes
  simp only [List.mem_cons, List.not_mem_nil, or_false, not_or] at other
  rw [inCode.step_eq, State.stepCode_eq]
  simp only [other, false_and, or_self, if_false]
  split_ifs <;> rfl

/-- **A comma more.** In front of blanks, comments and the bracket that closes a list, a comma of
code is all that is read otherwise up to that bracket. -/
theorem exists_marks_comma {s₀ : State} (bare : Reads (b ++ k :: R) {} A st)
    (ended : Reads (',' :: (b ++ k :: R)) {} A st) (inCode : st.InCode) (start : s₀.InCode)
    (idle : ∀ m < b.length, s₀.Idles (b ++ k :: R) m) (token : ¬ s₀.Idles (b ++ k :: R) b.length)
    (closes : isCloser k = true) :
    ∃ B R₁ R₂, B.length = b.length ∧ (∀ x ∈ B, isIdle x = true) ∧
      (A.map Prod.fst ++ (b ++ k :: R)).zip (kinds (A.map Prod.fst ++ (b ++ k :: R))) =
        A ++ (B ++ (k, .code) :: R₁) ∧
      (A.map Prod.fst ++ ',' :: (b ++ k :: R)).zip
          (kinds (A.map Prod.fst ++ ',' :: (b ++ k :: R))) =
        A ++ (',', .code) :: (B ++ (k, .code) :: R₂) := by
  obtain ⟨B, s, rfl, idles, read, between, alike⟩ := exists_reads_idle start.between idle
  -- The bracket stands in code.
  have inCode' : s.InCode := by
    have kinds : s₀.kinds (B.map Prod.fst ++ k :: R) = B.map Prod.snd ++ s.kinds (k :: R) :=
      read.kinds_append
    have solid : ¬ ((s.step k R.head?).1 = .comment ∨
        (s.step k R.head?).1 = .code ∧ isBlank k = true) := by
      refine fun idle' => token ?_
      rw [State.Idles, kinds, List.getElem?_append_right (by simp),
        List.getElem?_append_right (by simp)]
      simpa [State.kinds] using idle'
    exact (State.inCode_of_token between solid).1
  have reads : ∀ st' : State, st'.InCode →
      ∃ s', Reads R st' (B ++ [(k, .code)]) s' := by
    intro st' start'
    obtain ⟨s', read', mode, joined⟩ := alike st' (start'.mode.trans start.mode.symm)
      (start'.alone.trans start.alone.symm)
    have inCode'' : s'.InCode := ⟨mode.trans inCode'.mode, joined.trans inCode'.alone⟩
    exact ⟨_, read'.append (.cons (Prod.ext (step_closer inCode'' closes) rfl) (.nil _))⟩
  obtain ⟨s₁, bare'⟩ := reads st inCode
  obtain ⟨s₂, ended'⟩ := reads (st.codeChar ',')
    ⟨by simp [inCode.mode], by simp [inCode.alone]⟩
  have comma : ∀ next, st.step ',' next = (.code, st.codeChar ',') :=
    fun next => inCode.step_plain (by decide)
  have whole : Reads R {} (A ++ (B ++ [(k, .code)])) s₁ := Reads.append (by simpa using bare) bare'
  have whole' : Reads R {} (A ++ (',', .code) :: (B ++ [(k, .code)])) s₂ :=
    Reads.append (by simpa using ended) (.cons (comma _) ended')
  refine ⟨B, R.zip (s₁.kinds R), R.zip (s₂.kinds R), by simp, idles, ?_, ?_⟩
  · simpa [Lexical.kinds] using whole.zip_kinds
  · simpa [Lexical.kinds] using whole'.zip_kinds

/-! ### Before a closing bracket -/

/-- What is read up to an offset. -/
lemma exists_reads_take (le : i ≤ code.length) :
    ∃ A : Marks, A.length = i ∧ A.map Prod.fst = code.take i ∧
      Reads (code.drop i) {} A (stateAt code i) := by
  obtain ⟨A, text, -, read⟩ := exists_reads_slice code (Nat.zero_le i) le
  rw [stateAt_zero] at read
  have length := congrArg List.length text
  rw [List.length_map, length_slice (Nat.zero_le i) le, Nat.sub_zero] at length
  exact ⟨A, length, text, read⟩

/-- Blanks and comments of a text, as they are read from where they start. -/
lemma idles_iff (le : i ≤ code.length) (m : Nat) :
    (stateAt code i).Idles (code.drop i) m ↔ Idle code (i + m) := by
  have whole := State.idle_append_add (code.take i) (code.drop i) m
  rw [List.take_append_drop, List.length_take_of_le le] at whole
  exact whole.symm

/-- A closing bracket of code behind an offset, with nothing but blanks and comments before
it. -/
structure Calm (code : Text) (i c : Nat) (k : Char) : Prop where
  le : i ≤ c
  bracket : BracketAt code c k
  closes : isCloser k = true
  idle : ∀ m, i ≤ m → m < c → Idle code m

namespace Calm

lemma lt (h : Calm code i c k) : c < code.length := (List.getElem?_eq_some_iff.mp h.bracket.here).1

/-- What stands before the bracket, read from where it starts. -/
lemma idles (h : Calm code i c k) :
    let b := slice code i c
    let rest := k :: code.drop (c + 1)
    (∀ m < b.length, (stateAt code i).Idles (b ++ rest) m) ∧
      ¬ (stateAt code i).Idles (b ++ rest) b.length := by
  intro b rest
  have le := h.le
  have lt := h.lt
  have length : (slice code i c).length = c - i := length_slice h.le (Nat.le_of_lt h.lt)
  rw [← drop_eq_slice_cons h.le h.bracket.here, length]
  refine ⟨fun m low => ?_, fun idle => ?_⟩
  · exact (idles_iff (by omega) m).mpr (h.idle _ (by omega) (by omega))
  · rw [idles_iff (by omega), Nat.add_sub_cancel' le, Idle, h.bracket.code, h.bracket.here] at idle
    simp [isBlank_of_isCloser h.closes] at idle

/-- **A comma put in** before it. -/
theorem exists_listAt_insert (h : Calm code i c k) (inCode : (stateAt code i).InCode)
    (fits : WellNested (bracketsIn (code.take i ++ ',' :: code.drop i))) :
    ∃ o, ListAt code o c ∧ ListAt (code.take i ++ ',' :: code.drop i) o (c + 1) ∧
      (elementCount (code.take i ++ ',' :: code.drop i) o (c + 1) = elementCount code o c ↔
        EndsElement code i) := by
  have low := h.le
  have lt := h.lt
  have shape := drop_eq_slice_cons h.le h.bracket.here
  obtain ⟨A, length, text, read⟩ := @exists_reads_take code i (by omega)
  obtain ⟨idle, token⟩ := h.idles
  have ended : Reads (',' :: code.drop i) {} A (stateAt code i) :=
    read.exchange_of_next inCode fun _ => by simp
  rw [shape] at read ended
  obtain ⟨B, R₁, R₂, length', idles, bare, comma⟩ :=
    exists_marks_comma read ended inCode inCode idle token h.closes
  rw [← shape, text] at bare comma
  rw [List.take_append_drop] at bare
  rw [bracketsIn, comma, bracketsOf_comma, bracketsOf_closed idles h.closes] at fits
  obtain ⟨o, list, list', count⟩ := exists_listAt_of_comma idles bare comma h.closes fits
  have place : A.length + B.length = c := by
    rw [length, length', length_slice h.le (Nat.le_of_lt h.lt)]
    omega
  rw [place] at list list' count
  rw [length] at count
  exact ⟨o, list, list', count⟩

/-- **A comma taken out** before it. -/
theorem exists_listAt_remove (h : Calm code (i + 1) c k) (comma : CodeAt code i ',')
    (slash : ∀ j, j + 1 = i → ¬ CodeAt code j '/')
    (fits : WellNested (bracketsIn (code.eraseIdx i))) :
    ∃ o, ListAt code o c ∧ ListAt (code.eraseIdx i) o (c - 1) ∧
      (elementCount (code.eraseIdx i) o (c - 1) = elementCount code o c ↔ EndsElement code i) := by
  have low := h.le
  have lt := h.lt
  have shape := drop_eq_slice_cons h.le h.bracket.here
  obtain ⟨inCode, here⟩ := comma
  obtain ⟨A, length, text, read⟩ := @exists_reads_take code i (by omega)
  obtain ⟨idle, token⟩ := h.idles
  have bare : Reads (code.drop (i + 1)) {} A (stateAt code i) :=
    read.exchange inCode (notMem_of_slash slash (by omega) text read)
  have first : code.drop i = ',' :: code.drop (i + 1) := by
    obtain ⟨within, here⟩ := List.getElem?_eq_some_iff.mp here
    rw [List.drop_eq_getElem_cons within, here]
  have start : (stateAt code (i + 1)).InCode := by
    rw [stateAt_succ here, inCode.step_plain (by decide)]
    exact ⟨by simp [inCode.mode], by simp [inCode.alone]⟩
  have erased : code.eraseIdx i = code.take i ++ code.drop (i + 1) :=
    List.eraseIdx_eq_take_drop_succ ..
  rw [first, shape] at read
  rw [shape] at bare
  obtain ⟨B, R₁, R₂, length', idles, bare, ended⟩ :=
    exists_marks_comma bare read inCode start idle token h.closes
  rw [← shape, text] at bare ended
  rw [← first, List.take_append_drop] at ended
  rw [← erased] at bare
  rw [bracketsIn, bare, bracketsOf_closed idles h.closes] at fits
  obtain ⟨o, list, list', count⟩ := exists_listAt_of_comma idles bare ended h.closes fits
  have place : A.length + B.length = c - 1 := by
    rw [length, length', length_slice h.le (Nat.le_of_lt h.lt)]
    omega
  have place' : A.length + B.length + 1 = c := by omega
  rw [place] at list
  rw [place'] at list'
  rw [place', place, length] at count
  refine ⟨o, list', list, eq_comm.trans (count.trans (endsElement_congr ?_))⟩
  rw [bare, ended, ← length, List.take_left, List.take_left]

end Calm

end LintRepair.Code
