/-
A text read where another one stands before it.

* `State.retold`: a state with other things in mind of the text before;
* `State.Alike`: states that differ in such things only, where they make no difference, with
  `State.Alike.step`: so they do behind a character;
* `State.Heedless`: a token is read without regard to them; `State.step_retold`: it leads to
  such states;
* `State.kinds_retold`: so what stands behind one is read alike;
* `State.Starts`: the scanner is where a text can be read as one of its own;
  `exists_reads_of_starts`: it is read so there, if its brackets are closed.
-/
import LintRepair.Proofs.Lexical.Closed

namespace LintRepair.Lexical

open Text Code

namespace State

variable {st st' : State} {c : Char} {next : Option Char} {a f : Bool} {w t rest : Text}

/-! ### Other things in mind -/

/-- The state with other things in mind of the text before: whether an operand may follow,
the word last read, and whether nothing followed that. -/
def retold (st : State) (a : Bool) (w : Text) (f : Bool) : State :=
  { st with regexAllowed := a, word := w, afterWord := f }

/-- A state, and one with other things in mind that make no difference: a parenthesis opens a
head in both or in neither, and an operand may follow in both or in neither, or a template is to
end first, behind which none may. -/
inductive Alike : State → State → Prop
  | refl (st : State) : Alike st st
  | told {st : State} {a f : Bool} {w : Text} (apart : st.inWord = false)
      (head : (st.retold a w f).expectsHead = st.expectsHead)
      (operand : a = st.regexAllowed ∨ st.mode = .template) : Alike st (st.retold a w f)

lemma PastWord.expectsHead (h : st.PastWord) (w : Text) : (st.withWord w).expectsHead = false := by
  have noWord : (st.withWord w).afterWord = false := h.afterWord
  rw [State.expectsHead, noWord, Bool.false_and]

/-- Behind anything but a word, it makes no difference which one was the last. -/
lemma PastWord.alike (h : st.PastWord) (w : Text) : Alike st (st.withWord w) := by
  have same : (st.withWord w).expectsHead = st.expectsHead := by
    rw [h.expectsHead]
    exact (h.expectsHead st.word).symm
  exact .told h.inWord same (.inl rfl)

/-- A token is read without regard to what the scanner has in mind: a slash, or the quote of a
string that a line may end, if an operand may follow in both or in neither; a parenthesis, or a
brace that may close an interpolation, if a parenthesis opens a head in both or in neither. -/
structure Heedless (st : State) (a : Bool) (w : Text) (f : Bool) (c : Char) : Prop where
  operand : c ∈ ['/', '\x27', '\x22'] → a = st.regexAllowed
  head : c = '(' ∨ c = '}' → (st.retold a w f).expectsHead = st.expectsHead

/-- Plain code other than words and blanks leaves nothing in mind but the word. -/
lemma plain_retold (other : isName c = false) (solid : isBlank c = false)
    (head : c = '(' → (st.retold a w f).expectsHead = st.expectsHead) :
    (st.retold a w f).plain c = (st.plain c).withWord w ∧ (st.plain c).PastWord := by
  have noWord : (isAlnum c || c == '_' || c == '$') = false := other
  simp only [State.plain, codeChar, noWord, solid, Bool.false_eq_true, if_false]
  split_ifs with opening closing
  · have same := head (by simpa using opening)
    simp only [expectsHead, retold] at same
    refine ⟨?_, rfl, rfl⟩
    simp only [retold, withWord, same]
  · exact ⟨rfl, rfl, rfl⟩
  · exact ⟨rfl, rfl, rfl⟩

/-- **A token** that is read without regard to what the scanner has in mind is read alike. -/
lemma step_retold (inCode : st.InCode) (solid : isBlank c = false) (apart : st.inWord = false)
    (heedless : st.Heedless a w f c) (token : (st.step c next).1 ≠ .comment) :
    ((st.retold a w f).step c next).1 = (st.step c next).1 ∧
      Alike (st.step c next).2 ((st.retold a w f).step c next).2 := by
  have inCode' : (st.retold a w f).InCode := ⟨inCode.mode, inCode.alone⟩
  by_cases name : isName c = true
  · have fresh : (st.retold a w f).spelled = [] := by simp [spelled, retold, apart]
    have fresh' : st.spelled = [] := by simp [spelled, apart]
    rw [inCode'.step_name name, inCode.step_name name, fresh, fresh']
    exact ⟨rfl, .refl _⟩
  obtain ⟨plain, past⟩ := @plain_retold st c a f w (by simpa using name) solid
    fun opening => heedless.head (.inl opening)
  have opened : (st.retold a w f).interpolations = st.interpolations := rfl
  rw [inCode.step_eq, stepCode_eq] at token
  rw [inCode'.step_eq, inCode.step_eq, stepCode_eq, stepCode_eq, plain, opened]
  by_cases operand : c ∈ ['/', '\x27', '\x22']
  · obtain rfl := heedless.operand operand
    have allowed : (st.retold st.regexAllowed w f).regexAllowed = st.regexAllowed := rfl
    have word : ∀ st' : State, st'.PastWord → Alike st' (st'.withWord w) :=
      fun _ past => past.alike w
    rw [allowed]
    split_ifs at token ⊢ with line block regex quote tick last
    · exact absurd rfl token
    · exact absurd rfl token
    · exact ⟨rfl, word { st with mode := .regex false, afterWord := false } ⟨apart, rfl⟩⟩
    · exact ⟨rfl,
        word { st with mode := .string c, inWord := false, afterWord := false } ⟨rfl, rfl⟩⟩
    · simp [tick] at operand
    · simp [last.1] at operand
    · exact ⟨rfl, past.alike w⟩
  · simp only [List.mem_cons, List.not_mem_nil, or_false, not_or] at operand
    obtain ⟨slash, single, double⟩ := operand
    simp only [slash, single, double, false_and, or_self, if_false]
    split_ifs with tick last
    · -- A template opens, behind which no operand follows in either.
      exact ⟨rfl, @Alike.told { st with
          mode := .template, templateDepth := st.templateDepth + 1
          inWord := false, afterWord := false } a false w rfl rfl (.inr rfl)⟩
    · exact ⟨rfl, @Alike.told { st with
          mode := .template, interpolations := st.interpolations.tail } a f w apart
        (heedless.head (.inr last.1)) (.inr rfl)⟩
    · exact ⟨rfl, past.alike w⟩

/-- **Before the token** nothing changes what the scanner has in mind. -/
lemma step_retold_idle (between : st.Between) (apart : st.inWord = false)
    (idle : (st.step c next).1 = .comment ∨ (st.step c next).1 = .code ∧ isBlank c = true) :
    (st.retold a w f).step c next = ((st.step c next).1, (st.step c next).2.retold a w f) ∧
      (st.step c next).2.inWord = false := by
  rcases between.joined with alone | belongs
  · rcases between.mode with inside | inside | inside
    · have inCode : st.InCode := ⟨inside, alone⟩
      have inCode' : (st.retold a w f).InCode := ⟨inside, alone⟩
      by_cases blank : isBlank c = true
      · rw [inCode.step_blank blank, inCode'.step_blank blank]
        exact ⟨rfl, rfl⟩
      · have comment : (st.step c next).1 = .comment := by simpa [blank] using idle
        rw [inCode.step_eq, stepCode_eq] at comment
        rw [inCode.step_eq, inCode'.step_eq, stepCode_eq, stepCode_eq]
        split_ifs at comment ⊢
        · exact ⟨rfl, apart⟩
        · exact ⟨rfl, apart⟩
    all_goals
      have alone' : (st.retold a w f).joined = none := alone
      have inside' : (st.retold a w f).mode = st.mode := rfl
      simp only [step, alone, alone', inside, inside']
      split_ifs <;> exact ⟨rfl, apart⟩
  · have belongs' : (st.retold a w f).joined = some .comment := belongs
    simp only [step, belongs, belongs']
    exact ⟨rfl, apart⟩

/-- A blank or a comment leaves it as it is. -/
lemma inMind_of_idle (between : st.Between) (apart : st.inWord = false)
    (idle : (st.step c next).1 = .comment ∨ (st.step c next).1 = .code ∧ isBlank c = true) :
    (st.step c next).2.regexAllowed = st.regexAllowed ∧
      (st.step c next).2.expectsHead = st.expectsHead := by
  have same : st.retold st.regexAllowed st.word st.afterWord = st := rfl
  obtain ⟨step, -⟩ := step_retold_idle (a := st.regexAllowed) (w := st.word) (f := st.afterWord)
    between apart idle
  rw [same] at step
  have behind := congrArg Prod.snd step
  rw [behind]
  exact ⟨rfl, rfl⟩

/-- In a literal or a comment a character is read alike. -/
lemma step_retold_inside (inside : ¬ st.InCode) (apart : st.inWord = false)
    (head : (st.retold a w f).expectsHead = st.expectsHead)
    (operand : a = st.regexAllowed ∨ st.mode = .template) :
    ((st.retold a w f).step c next).1 = (st.step c next).1 ∧
      Alike (st.step c next).2 ((st.retold a w f).step c next).2 := by
  have told : ∀ (st' : State) (b : Bool), st'.inWord = false →
      (st'.retold b w f).expectsHead = st'.expectsHead →
      (b = st'.regexAllowed ∨ st'.mode = .template) → Alike st' (st'.retold b w f) :=
    fun st' b apart head operand => .told apart head operand
  obtain ⟨mode, joined, depth, opened, allowed, word, inWord, afterWord, parens⟩ := st
  cases joined with
  | some kind => exact ⟨rfl, told _ a apart head operand⟩
  | none =>
    cases mode with
    | code => exact absurd ⟨rfl, rfl⟩ inside
    | lineComment | blockComment | string quote =>
        obtain rfl := operand.resolve_right (by rintro ⟨⟩)
        simp only [step, retold, stepString]
        split_ifs <;> exact ⟨rfl, told _ _ apart head (.inl rfl)⟩
    | regex inClass =>
        obtain rfl := operand.resolve_right (by rintro ⟨⟩)
        simp only [step, retold, stepRegex]
        split_ifs with escape feed inside opening last
        on_goal 5 => exact ⟨rfl, told _ false rfl head (.inl rfl)⟩
        all_goals exact ⟨rfl, told _ _ apart head (.inl rfl)⟩
    | template =>
        simp only [step, retold, stepTemplate]
        split_ifs with escape tick dollar
        · exact ⟨rfl, told _ a apart head (.inr rfl)⟩
        · exact ⟨rfl, told _ false apart head (.inl rfl)⟩
        · exact ⟨rfl, told _ true rfl head (.inl rfl)⟩
        · exact ⟨rfl, told _ a apart head (.inr rfl)⟩

/-- Such states read a character alike, and are such states behind it. -/
lemma Alike.step (h : Alike st st') (c : Char) (next : Option Char) :
    (st'.step c next).1 = (st.step c next).1 ∧ Alike (st.step c next).2 (st'.step c next).2 := by
  cases h with
  | refl => exact ⟨rfl, .refl _⟩
  | @told a f w apart head operand =>
      by_cases inCode : st.InCode
      · obtain rfl := operand.resolve_right (by rw [inCode.mode]; exact nofun)
        by_cases idle : (st.step c next).1 = .comment ∨
            (st.step c next).1 = .code ∧ isBlank c = true
        · obtain ⟨step, apart'⟩ := step_retold_idle (a := st.regexAllowed) (w := w) (f := f)
            inCode.between apart idle
          obtain ⟨allowed, same⟩ := inMind_of_idle inCode.between apart idle
          rw [step]
          exact ⟨rfl, .told apart' (head.trans same.symm) (.inl allowed.symm)⟩
        · obtain ⟨-, solid⟩ := inCode_of_token inCode.between idle
          exact step_retold inCode solid apart ⟨fun _ => rfl, fun _ => head⟩
            fun comment => idle (.inl comment)
      · exact step_retold_inside inCode apart head operand

/-- They are inside of the same. -/
lemma Alike.same (h : Alike st st') : st'.mode = st.mode ∧ st'.joined = st.joined ∧
    (st.mode ≠ .template → st'.regexAllowed = st.regexAllowed) := by
  cases h with
  | refl => exact ⟨rfl, rfl, fun _ => rfl⟩
  | told _ _ operand => exact ⟨rfl, rfl, fun outside => operand.resolve_right outside⟩

/-- So they do a text. -/
lemma Alike.kinds (h : Alike st st') (t : Text) : st'.kinds t = st.kinds t := by
  induction t generalizing st st' with
  | nil => rfl
  | cons c rest ih =>
      obtain ⟨same, alike⟩ := h.step c rest.head?
      rw [State.kinds, State.kinds, same, ih alike]

lemma Alike.reads {ms : Marks} {s : State} (h : Alike st st') (read : Reads rest st ms s) :
    ∃ s', Reads rest st' ms s' ∧ Alike s s' := by
  induction read generalizing st' with
  | nil => exact ⟨st', .nil st', h⟩
  | @cons st st₁ s c kind ms now later ih =>
      obtain ⟨same, alike⟩ := h.step c (ms.map Prod.fst ++ rest).head?
      simp only [now] at same alike
      obtain ⟨s', later', alike'⟩ := ih alike
      exact ⟨s', .cons (Prod.ext same rfl) later', alike'⟩

/-- **What the scanner has in mind** makes no difference, if the next token is read without
regard to it. -/
lemma kinds_retold {n : Nat} (between : st.Between) (apart : st.inWord = false)
    (idle : ∀ m < n, st.Idles t m) (token : ¬ st.Idles t n)
    (heedless : ∀ c ∈ t[n]?, st.Heedless a w f c) :
    (st.retold a w f).kinds t = st.kinds t := by
  induction t generalizing st n with
  | nil => rfl
  | cons c rest ih =>
      cases n with
      | zero =>
          rw [idles_zero] at token
          obtain ⟨inCode, solid⟩ := inCode_of_token between token
          obtain ⟨same, alike⟩ := step_retold inCode solid apart
            (heedless c rfl) fun comment => token (.inl comment)
          rw [kinds, kinds, same, alike.kinds]
      | succ n =>
          have first := idles_zero.mp (idle 0 (Nat.succ_pos n))
          obtain ⟨step, apart'⟩ := step_retold_idle between apart first
          rw [kinds, kinds, step, ih (between.step first).1 apart'
            (fun m low => idles_succ.mp (idle (m + 1) (Nat.succ_lt_succ low)))
            (mt idles_succ.mpr token) fun b stands => ?_]
          obtain ⟨allowed, same⟩ := inMind_of_idle between apart first
          obtain ⟨operand, head⟩ := heedless b stands
          exact ⟨fun special => (operand special).trans allowed.symm,
            fun special => (head special).trans same.symm⟩

/-! ### A text of its own -/

/-- The scanner is where a text can be read as one of its own: it is in no word that the text
could go on, and either nothing tells it that no operand may follow, or the first token of the
text is read without regard to that. -/
structure Starts (st : State) (t : Text) : Prop where
  inCode : st.InCode
  apart : st.inWord = false ∨ startsIn isBlank t = true
  counts : st.Counts
  fresh : st.regexAllowed = true ∧ st.afterWord = false ∨
    ∃ c, (trimLeft t).head? = some c ∧ c ∉ ['/', '\x27', '\x22', '\x60', '}', '(']

lemma starts_empty (t : Text) : Starts {} t :=
  ⟨⟨rfl, rfl⟩, .inl rfl, by simp [Counts], .inl ⟨rfl, rfl⟩⟩

/-- Behind a blank it can be read as before it. -/
lemma Starts.tail (h : st.Starts (c :: t)) (blank : isBlank c = true) : st.forget.Starts t where
  inCode := h.inCode.forget
  apart := .inl rfl
  counts := h.counts
  fresh := by
    have fresh := h.fresh
    rwa [trimLeft, List.dropWhile_cons_of_pos blank] at fresh

lemma Starts.bare_eq (h : st.Starts t) (apart : st.inWord = false) :
    st.bare = ({} : State).retold st.regexAllowed st.word st.afterWord := by
  have mode := h.inCode.mode
  have alone := h.inCode.alone
  cases st
  simp_all [State.bare, retold]

/-- Where nothing tells that no operand may follow, a text is read as at the start of one, but
for what is open. -/
lemma Starts.reads_operand {ms : Marks} {s : State} (h : st.Starts t) (apart : st.inWord = false)
    (operand : st.regexAllowed = true ∧ st.afterWord = false) (read : Reads rest {} ms s) :
    ∃ s', Reads rest st.bare ms s' ∧ Alike s s' := by
  have word : st.bare = ({} : State).withWord st.word := by
    rw [h.bare_eq apart, operand.1, operand.2]
    rfl
  rw [word]
  exact (PastWord.alike ⟨rfl, rfl⟩ st.word).reads read

/-- So is one that starts with a token that is read without regard to that. -/
lemma Starts.reads_token {ms : Marks} {s : State} (h : st.Starts t) (apart : st.inWord = false)
    (solid : isBlank c = false) (plain : c ∉ ['/', '\x27', '\x22', '\x60', '}', '('])
    {kind : Kind} (read : Reads rest {} ((c, kind) :: ms) s) :
    ∃ s', Reads rest st.bare ((c, kind) :: ms) s' ∧ Alike s s' := by
  have inCode : ({} : State).InCode := ⟨rfl, rfl⟩
  simp only [List.mem_cons, List.not_mem_nil, or_false, not_or] at plain
  cases read with
  | @cons _ st₁ _ _ _ _ now later =>
      have token : (({} : State).step c (ms.map Prod.fst ++ rest).head?).1 ≠ .comment := by
        rw [inCode.step_eq, stepCode_eq]
        simp only [plain.1, false_and, if_false]
        split_ifs <;> exact nofun
      obtain ⟨same, alike⟩ := step_retold (a := st.regexAllowed) (w := st.word)
        (f := st.afterWord) inCode solid rfl
        ⟨fun special => by simp [plain] at special, fun special => by simp [plain] at special⟩ token
      simp only [← h.bare_eq apart, now] at same alike
      obtain ⟨s', later', alike'⟩ := alike.reads later
      exact ⟨s', .cons (Prod.ext same rfl) later', alike'⟩

/-- **A text of its own** is read as at the start of one, but for what is open. -/
lemma Starts.reads_bare {ms : Marks} {s : State} (h : st.Starts (ms.map Prod.fst))
    (read : Reads rest {} ms s) : ∃ s', Reads rest st.bare ms s' ∧ Alike s s' := by
  induction ms generalizing st with
  | nil =>
      rcases h.fresh with operand | ⟨c, first, -⟩
      · exact h.reads_operand (h.apart.resolve_right nofun) operand read
      · cases first
  | cons mark ms ih =>
      obtain ⟨c, kind⟩ := mark
      by_cases blank : isBlank c = true
      · -- A blank changes nothing but that the scanner is in no word.
        cases read with
        | @cons _ st₁ _ _ _ _ now later =>
            rw [InCode.step_blank ⟨rfl, rfl⟩ blank] at now
            obtain ⟨rfl, rfl⟩ := Prod.mk.inj now
            obtain ⟨s', later', alike⟩ := ih (h.tail blank) later
            exact ⟨s', .cons (h.inCode.bare.step_blank blank) later', alike⟩
      · have apart : st.inWord = false := h.apart.resolve_right (by simp [startsIn, blank])
        rcases h.fresh with operand | ⟨c', first, plain⟩
        · exact h.reads_operand apart operand read
        · obtain rfl : c = c' := by simpa [trimLeft, blank] using first
          exact h.reads_token apart (by simpa using blank) plain read

end State

open State

variable {st s : State} {t rest : Text}

/-- What the scanner is inside of at the end of a text, and what is open there. -/
structure State.Leaves (st s s' : State) : Prop where
  mode : s'.mode = s.mode
  joined : s'.joined = s.joined
  allowed : s.mode ≠ .template → s'.regexAllowed = s.regexAllowed
  parens : s'.parens = st.parens
  interpolations : s'.interpolations = st.interpolations

lemma State.Leaves.inCode {s' : State} (h : st.Leaves s s') (inCode : s.InCode) : s'.InCode :=
  ⟨h.mode.trans inCode.mode, h.joined.trans inCode.alone⟩

/-- At the end of a text no brace is awaited. -/
lemma joined_stateAt_length (t : Text) : (stateAt t t.length).joined ≠ some .code := by
  cases last : t.length with
  | zero =>
      rw [stateAt_zero]
      exact nofun
  | succ n =>
      have here : t[n]? = some t[n] := List.getElem?_eq_getElem (by omega)
      rw [stateAt_succ here]
      intro joined
      have next := next_of_joined joined
      rw [List.getElem?_eq_none (by omega)] at next
      cases next

/-- **A text of its own.** Where a text can be read as one, it is, if its brackets are closed
and what follows it has no say in it. -/
theorem exists_reads_of_starts (starts : st.Starts t) (neutral : Neutral rest.head?)
    (parens : Closed '(' ')' (mask t)) (braces : Closed '{' '}' (mask t)) :
    ∃ ms s', ms.map Prod.fst = t ∧ ms.masked = mask t ∧ Reads rest st ms s' ∧
      st.Leaves (stateAt t t.length) s' := by
  obtain ⟨ms, s, read, rfl⟩ := exists_reads [] t {}
  have masked : ms.masked = mask (ms.map Prod.fst) := by
    have masks := masks_of_reads read
    rw [List.append_nil] at masks
    rw [Marks.masked, show mask (ms.map Prod.fst) = ({} : State).masks (ms.map Prod.fst) from rfl,
      masks]
    simp [State.masks]
  have reached : stateAt (ms.map Prod.fst) (ms.map Prod.fst).length = s := by
    simpa using read.stateAt
  have ends := joined_stateAt_length (ms.map Prod.fst)
  rw [reached] at ends
  have read' : Reads rest {} ms s := read.alike fun c _ st => step_neutral neutral_none neutral
  obtain ⟨s₁, bare, alike⟩ := starts.reads_bare read'
  have same := alike.same
  obtain ⟨noParens, noBraces, onwards⟩ := @Reads.onto_of_closed _ _ st _ _ bare rfl
    starts.inCode.bare starts.counts (masked ▸ parens) (masked ▸ braces) (same.2.1 ▸ ends)
  rw [st.bare_onto] at onwards
  refine ⟨ms, _, rfl, masked, onwards, ?_⟩
  rw [reached]
  refine ⟨same.1, same.2.1, same.2.2, ?_, ?_⟩
  · simp [onto, noParens]
  · have whole := congrArg State.interpolations st.bare_onto
    simpa [onto, noBraces, State.bare] using whole

/-- **A part of a text** that can be read as one of its own is masked as one of its own. -/
theorem slice_mask_of_starts {i j : Nat} (low : i ≤ j) (high : j ≤ t.length)
    (starts : (stateAt t i).Starts (slice t i j)) (neutral : Neutral t[j]?)
    (parens : Closed '(' ')' (mask (slice t i j))) (braces : Closed '{' '}' (mask (slice t i j))) :
    slice (mask t) i j = mask (slice t i j) ∧
      (stateAt t i).Leaves (stateAt (slice t i j) (slice t i j).length) (stateAt t j) := by
  obtain ⟨ms, s', text, masked, read, leaves⟩ :=
    @exists_reads_of_starts _ _ (t.drop j) starts (by rwa [List.head?_drop]) parens braces
  obtain ⟨reached, same⟩ := slice_of_reads low high text read
  exact ⟨same.trans masked, reached ▸ leaves⟩

end LintRepair.Lexical
