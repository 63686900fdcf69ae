/-
A part of a text put out of the way.

* `Reads.exchange`, `Reads.exchange_of_next`: what leads to code is read alike whatever stands
  behind it, but for a slash;
* `Silent`: a text that is read as blanks and comments, in front of another one;
* `Detached`: a part of a text on which nothing else depends; `Detached.masks`: what stands
  behind it is read alike from where the scanner is before it;
* `Detached.exists_mask`: so in its place a silent text leaves the masked text around it as it
  is.
-/
import LintRepair.Proofs.Lexical.Afresh
import LintRepair.Proofs.Lexical.Comment

namespace LintRepair.Lexical

open Text Code

variable {st st' : State} {c : Char} {next next' : Option Char} {t x y rest rest' : Text}
  {i j : Nat}

/-! ### Before the part -/

/-- Where a character leads to code, what follows has no say in it, but for a slash of code. -/
lemma State.step_of_inCode (behind : (st.step c next).2.InCode)
    (slash : c = '/' → (st.step c next).1 ≠ .code) : st.step c next' = st.step c next := by
  obtain ⟨mode, alone⟩ := behind
  cases joined : st.joined with
  | some kind => simp only [State.step, joined]
  | none =>
    cases inside : st.mode with
    | code =>
        have start : st.InCode := ⟨inside, joined⟩
        rw [start.step_eq, stepCode_eq] at mode slash ⊢
        rw [start.step_eq, stepCode_eq]
        by_cases first : c = '/'
        · -- A slash opens what is no code, or is code.
          subst first
          split_ifs at mode slash
          exact absurd rfl (slash rfl)
        · simp only [first, false_and, if_false]
    | blockComment =>
        -- A star and a slash end one, but the slash belongs to it.
        rw [State.step] at mode alone
        simp only [joined, inside] at mode alone
        split_ifs at mode alone
        cases mode.symm.trans inside
    | lineComment | string quote | regex inClass => simp only [State.step, joined, inside]
    | template =>
        have other : ¬ (c = '$' ∧ next = some '{') := by
          rintro ⟨rfl, rfl⟩
          simp [State.step, joined, inside, stepTemplate] at alone
        by_cases dollar : c = '$'
        · have text : next ≠ some '{' := fun brace => other ⟨dollar, brace⟩
          simp [State.step, joined, inside, stepTemplate, dollar, text] at mode
        · simp [State.step, joined, inside, stepTemplate, dollar]

/-- **What leads to code** is read alike whatever stands behind it, but for a slash of code. -/
lemma Reads.exchange {ms : Marks} (read : Reads rest st ms st') (inCode : st'.InCode)
    (slash : ('/', Kind.code) ∉ ms.getLast?) : Reads rest' st ms st' := by
  induction read with
  | nil st => exact .nil st
  | @cons st st' st'' c kind ms now later ih =>
      cases later with
      | nil =>
          refine .cons ?_ (.nil _)
          rw [List.map_nil, List.nil_append] at now ⊢
          rw [← now]
          refine State.step_of_inCode (by rw [now]; exact inCode) ?_
          rintro rfl code
          rw [now] at code
          exact slash (by rw [show kind = .code from code]; rfl)
      | cons next later => exact .cons now (ih inCode (by simpa using slash))

/-- A slash of code is read alike, unless it opens a comment with what follows. -/
lemma State.step_slash (code : (st.step '/' next).1 = .code) (line : next' ≠ some '/')
    (block : next' ≠ some '*') : st.step '/' next' = st.step '/' next := by
  rcases inCode_or_of_code code with inCode | joined | dollar | feed
  · obtain ⟨line', block', -⟩ := inCode.of_slash code
    rw [inCode.step_eq, inCode.step_eq, stepCode_eq, stepCode_eq]
    simp only [line, block, line', block', and_false, if_false]
  · simp only [step, joined]
  · exact absurd dollar (by decide)
  · exact absurd feed (by decide)

/-- **What leads to code** is read alike whatever stands behind it, unless that makes a comment
of a slash. -/
lemma Reads.exchange_of_next {ms : Marks} (read : Reads rest st ms st') (inCode : st'.InCode)
    (slash : ('/', Kind.code) ∈ ms.getLast? → rest'.head? ≠ some '/' ∧ rest'.head? ≠ some '*') :
    Reads rest' st ms st' := by
  by_cases last : ('/', Kind.code) ∈ ms.getLast?
  · induction read with
    | nil => cases last
    | @cons st st' st'' c kind ms now later ih =>
        cases later with
        | nil =>
            obtain ⟨rfl, rfl⟩ : c = '/' ∧ kind = .code := by simpa using last
            obtain ⟨line, block⟩ := slash last
            rw [List.map_nil, List.nil_append] at now
            exact .cons ((State.step_slash (by rw [now]) line block).trans now) (.nil _)
        | cons now' later =>
            exact .cons now (ih inCode (by simpa using slash) (by simpa using last))
  · exact read.exchange inCode last

/-! ### In its place -/

/-- A text that is read as blanks and comments in front of another one: in the masked text it
is blank, and behind it the scanner is as before, but in no word. -/
def Silent (x rest : Text) : Prop :=
  ∀ st : State, st.InCode → ∃ (ms : Marks) (st' : State), Reads rest st ms st' ∧
    ms.map Prod.fst = x ∧ (∀ b ∈ ms.masked, isBlank b = true) ∧
    (st' = st ∨ st' = st.forget ∨ rest = [])

lemma Silent.append (h : Silent x (y ++ rest)) (h' : Silent y rest) : Silent (x ++ y) rest := by
  intro st inCode
  obtain ⟨ms, st', read, rfl, blank, same⟩ := h st inCode
  by_cases last : y ++ rest = []
  · obtain ⟨rfl, rfl⟩ := List.append_eq_nil_iff.mp last
    exact ⟨ms, st', read, by simp, blank, .inr (.inr rfl)⟩
  have inCode' : st'.InCode := by
    rcases same with rfl | rfl | none'
    · exact inCode
    · exact inCode.forget
    · exact absurd none' last
  obtain ⟨ms', st'', read', rfl, blank', same'⟩ := h' st' inCode'
  refine ⟨ms ++ ms', st'', .append read read', List.map_append, fun b among => ?_, ?_⟩
  · rw [Marks.masked, List.map_append] at among
    exact (List.mem_append.mp among).elim (blank b) (blank' b)
  · rcases same with rfl | rfl | none'
    · exact same'
    · rcases same' with rfl | rfl | none'
      · exact .inr (.inl rfl)
      · exact .inr (.inl rfl)
      · exact .inr (.inr none')
    · exact absurd none' last

lemma silent_nil (rest : Text) : Silent [] rest :=
  fun st _ => ⟨[], st, .nil st, rfl, by simp [Marks.masked], .inl rfl⟩

lemma silent_blank (blank : isBlank c = true) (rest : Text) : Silent [c] rest :=
  fun st inCode => ⟨[(c, .code)], st.forget, .cons (inCode.step_blank blank) (.nil _), rfl,
    by simpa [Marks.masked, @Kind.masked_of_isKept .code c rfl] using blank, .inr (.inl rfl)⟩

lemma silent_blanks (blank : ∀ c ∈ x, isBlank c = true) (rest : Text) : Silent x rest := by
  induction x with
  | nil => exact silent_nil rest
  | cons c x ih =>
      exact Silent.append (x := [c]) (silent_blank (blank c List.mem_cons_self) _)
        (ih fun c among => blank c (List.mem_cons_of_mem _ among))

/-- What is read as a comment is blank in the masked text. -/
lemma isBlank_masked_comment (x : Text) :
    ∀ b ∈ Marks.masked (marked .comment x), isBlank b = true := by
  intro b among
  obtain ⟨mark, inside, rfl⟩ := List.mem_map.mp among
  obtain ⟨c, -, rfl⟩ := List.mem_map.mp inside
  rw [Kind.masked]
  split_ifs with feed
  · obtain rfl : c = '\n' := by simpa [Kind.isKept] using feed
    rfl
  · rfl

lemma silent_blockComment (body : BlockBody) (rest : Text) :
    Silent ('/' :: '*' :: (body.1 ++ ['*', '/'])) rest :=
  fun st inCode => ⟨_, st, reads_blockComment inCode body rest, map_fst_marked _ _,
    isBlank_masked_comment _, .inl rfl⟩

/-- A comment up to the end of its line is silent with the line feed, and at the end of the
text. -/
lemma silent_lineComment (body : LineBody) :
    (∀ rest, Silent ('/' :: '/' :: (body.1 ++ ['\n'])) rest) ∧
      Silent ('/' :: '/' :: body.1) [] := by
  have said (st : State) (inCode : st.InCode) (rest : Text) :
      Reads rest st (marked .comment ('/' :: '/' :: body.1)) { st with mode := .lineComment } :=
    have alone : { st with mode := .lineComment : State }.joined = none := inCode.alone
    .append (reads_opening inCode _ (.inl ⟨rfl, rfl⟩)) (reads_line alone rfl rest body.2)
  refine ⟨fun rest st inCode => ⟨_, st, .append (said st inCode _)
    (.cons (step_lineFeed inCode _) (.nil st)), ?_, ?_, .inl rfl⟩,
    fun st inCode => ⟨_, _, said st inCode [], map_fst_marked _ _, isBlank_masked_comment _,
      .inr (.inr rfl)⟩⟩
  · rw [List.map_append, map_fst_marked]
    rfl
  intro b among
  rw [Marks.masked, List.map_append] at among
  rcases List.mem_append.mp among with inside | last
  · exact isBlank_masked_comment _ b inside
  · obtain rfl : b = '\n' := by simpa [Kind.masked] using last
    rfl

/-! ### A part on which nothing else depends -/

/-- What is blank in the masked text leads into no word. -/
lemma State.inWord_of_blank (apart : st.inWord = false)
    (blank : isBlank ((st.step c next).1.masked c) = true) : (st.step c next).2.inWord = false := by
  by_cases name : st.InCode ∧ isName c = true
  · rw [name.1.step_name name.2, @Kind.masked_of_isKept .code c rfl] at blank
    rw [isName_of_isBlank blank] at name
    cases name.2
  · have other : st.InCode → isName c = false := fun inCode => by simpa [inCode] using name
    have same : st.forget = st := by rw [forget, ← apart]
    have step := @step_forget st c next other
    rw [same] at step
    rw [step]
    rfl

lemma inWord_of_mask (apart : (stateAt t i).inWord = false) (le : i ≤ j)
    (blank : ∀ m, i ≤ m → m < j → (mask t)[m]?.any isBlank = true) :
    (stateAt t j).inWord = false := by
  induction j, le using Nat.le_induction with
  | base => exact apart
  | succ j le ih =>
      have before := ih fun m low high => blank m low (Nat.lt_succ_of_lt high)
      have masked := blank j le (Nat.lt_succ_self j)
      rw [getElem?_mask, Option.any_map, Option.any_eq_true] at masked
      obtain ⟨c, here, masked⟩ := masked
      rw [stateAt_succ here]
      exact State.inWord_of_blank before masked

lemma State.kinds_forget_of_goesOn (apart : st.goesOn t = false) :
    st.forget.kinds t = st.kinds t := by
  induction t generalizing st with
  | nil => rfl
  | cons c t ih =>
      rw [goesOn] at apart
      split at apart
      · have same : st.forget = st := by rw [forget, ← apart]
        rw [same]
      · next other =>
        have solid : st.InCode → isName c = false := by
          intro inCode
          rw [Bool.eq_false_iff]
          exact fun name => other ⟨inCode, name⟩
        rw [kinds, kinds, step_forget solid, ih apart]

/-- A part of a text on which nothing else depends: it starts and ends in code, and closes the
braces that it opens; no slash before it could open a comment with what stands behind it; and
what stands behind it does not go on a word before it, and starts with a token that is read
without regard to what stands before. -/
structure Detached (t : Text) (i j : Nat) : Prop where
  starts : (stateAt t i).InCode
  ends : j ≤ t.length → (stateAt t j).InCode
  braces : Closed '{' '}' (slice (mask t) i j)
  slash : ∀ k, k + 1 = i → ¬ CodeAt t k '/'
  apart : (stateAt t i).goesOn (t.drop j) = false
  heedless : ∃ p, NextToken t j p ∧ ∀ c ∈ t[p]?,
    (stateAt t j).Heedless (stateAt t i).regexAllowed (stateAt t i).word (stateAt t i).afterWord c

/-- **What stands behind** such a part is read alike from where the scanner is before it. -/
lemma Detached.kinds (h : Detached t i j) (low : i ≤ j)
    (parens : Closed '(' ')' (slice (mask t) i j))
    (apart : j ≤ t.length → (stateAt t j).inWord = false) :
    (stateAt t i).forget.kinds (t.drop j) = (stateAt t j).kinds (t.drop j) := by
  by_cases within : t.length < j
  · rw [List.drop_eq_nil_of_le (Nat.le_of_lt within)]
    rfl
  have high : j ≤ t.length := Nat.le_of_not_lt within
  have ends := h.ends high
  obtain ⟨open', opened⟩ := open_of_slice low high h.starts parens h.braces
    (by rw [ends.alone]; exact nofun)
  have depth : (stateAt t i).templateDepth = (stateAt t j).templateDepth := by
    rw [(consistent_stateAt t i).depth, (consistent_stateAt t j).depth, h.starts.mode, ends.mode,
      opened]
  -- So the two states differ in what the scanner has in mind only.
  have same : (stateAt t i).forget = (stateAt t j).retold (stateAt t i).regexAllowed
      (stateAt t i).word (stateAt t i).afterWord := by
    have mode := h.starts.mode.trans ends.mode.symm
    have alone := h.starts.alone.trans ends.alone.symm
    rw [State.forget, State.retold, open', opened, ← depth, ← mode, ← alone, apart high]
  obtain ⟨p, token, heedless⟩ := h.heedless
  have parts : t = t.take j ++ t.drop j := (List.take_append_drop j t).symm
  have length : (t.take j).length = j := List.length_take_of_le high
  have idles : ∀ m, Idle t (j + m) ↔ (stateAt t j).Idles (t.drop j) m := by
    intro m
    have idle := State.idle_append_add (t.take j) (t.drop j) m
    rwa [length, ← parts] at idle
  rw [same]
  refine State.kinds_retold ends.between (apart high) (fun m before => (idles m).mp ?_)
    (mt (idles (p - j)).mpr ?_) fun c stands => ?_
  · exact token.idle (j + m) (by omega) (by omega)
  · rw [Nat.add_sub_cancel' token.le]
    exact token.token
  · refine heedless c ?_
    rwa [List.getElem?_drop, Nat.add_sub_cancel' token.le] at stands

/-- Where no slash of code stands before an offset, none is the last character read up to it. -/
lemma notMem_of_slash {ms : Marks} (slash : ∀ k, k + 1 = i → ¬ CodeAt t k '/')
    (within : i ≤ t.length) (text : ms.map Prod.fst = t.take i) (read : Reads (t.drop i) {} ms st) :
    ('/', Kind.code) ∉ ms.getLast? := by
  intro last
  obtain ⟨front, rfl⟩ := List.getLast?_eq_some_iff.mp last
  have parts : t = (front ++ [('/', Kind.code)]).map Prod.fst ++ t.drop i := by
    rw [text, List.take_append_drop]
  have kinds : Lexical.kinds t =
      (front ++ [('/', Kind.code)]).map Prod.snd ++ st.kinds (t.drop i) := by
    rw [Lexical.kinds, ← read.kinds_append, ← parts]
  have length : front.length + 1 = i := by
    simpa [List.length_take_of_le within] using congrArg List.length text
  have stands : t[front.length]? = some '/' := by
    rw [parts]
    simp
  refine slash front.length length ⟨inCode_of_slash stands ?_, stands⟩
  rw [kinds]
  simp

/-- **In the place** of a part on which nothing else depends, a silent text leaves the masked
text around it as it is. -/
theorem Detached.exists_mask (h : Detached t i j) (low : i ≤ j) (within : i ≤ t.length)
    (parens : Closed '(' ')' (slice (mask t) i j))
    (apart : j ≤ t.length → (stateAt t j).inWord = false) (silent : Silent x (t.drop j)) :
    ∃ blanks : Text, (∀ b ∈ blanks, isBlank b = true) ∧
      mask (t.take i ++ (x ++ t.drop j)) = (mask t).take i ++ (blanks ++ (mask t).drop j) := by
  obtain ⟨ms, st, read, text⟩ := exists_reads (t.drop i) (t.take i) {}
  have length : (ms.map Prod.fst).length = i := by rw [text, List.length_take_of_le within]
  have reached : stateAt t i = st := by
    have reached := read.stateAt
    rwa [length, text, List.take_append_drop] at reached
  have read' : Reads (x ++ t.drop j) {} ms st :=
    read.exchange (reached ▸ h.starts) (notMem_of_slash h.slash within text read)
  obtain ⟨ms', st', between, rfl, blank, same⟩ := silent st (reached ▸ h.starts)
  -- Behind the silent text, what follows is read as it was.
  have later : st'.masks (t.drop j) = (mask t).drop j := by
    rw [drop_mask]
    have kinds := h.kinds low parens apart
    rcases same with rfl | rfl | none'
    · rw [State.masks, State.masks, ← kinds, ← reached, State.kinds_forget_of_goesOn h.apart]
    · rw [State.masks, State.masks, ← kinds, reached]
    · rw [none']
      rfl
  have front := masks_of_reads read
  rw [text, List.take_append_drop] at front
  have masked : mask (t.take i ++ (ms'.map Prod.fst ++ t.drop j)) =
      ms.map (fun read => read.2.masked read.1) ++ (ms'.masked ++ (mask t).drop j) := by
    rw [← later, Marks.masked, ← masks_of_reads between, ← masks_of_reads read', text]
    rfl
  refine ⟨ms'.masked, blank, ?_⟩
  rw [masked, show mask t = ({} : State).masks t from rfl, front, List.take_left']
  simpa using length

end LintRepair.Lexical
