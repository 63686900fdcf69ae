/-
Texts put together in code.

* `Passes`: the scanner passes a text on the way from one state to another;
* `Standing`: a text whose brackets have their partners and that ends in code;
* `Standing.blanks_append`, `Standing.append_blanks`, `Standing.append_divider`,
  `Standing.enclosed`, `Standing.dotted`: between blanks, next to another one, in brackets
  and behind dots it is masked as it is by itself;
* `Whole`, `Piece`: no separator stands outside brackets in a masked text, and in a text that
  stands by itself.
-/
import Mathlib.Data.Bool.AllAny
import LintRepair.Proofs.Code.Binds
import LintRepair.Proofs.Code.Listed
import LintRepair.Proofs.Code.Occurs

namespace LintRepair.Code

open Text Lexical

variable {t u m n b x rest : Text} {st st' st'' : State} {c o k sep : Char}

/-! ### Ways through a text -/

/-- In front of a text, another one is read from a state on, masked and left in a state. -/
def Passes (rest : Text) (st : State) (t m : Text) (st' : State) : Prop :=
  ∃ ms : Marks, ms.map Prod.fst = t ∧ ms.masked = m ∧ Reads rest st ms st'

namespace Passes

lemma nil (rest : Text) (st : State) : Passes rest st [] [] st := ⟨[], rfl, rfl, .nil st⟩

lemma append {t' m' : Text} (first : Passes (t' ++ rest) st t m st')
    (second : Passes rest st' t' m' st'') : Passes rest st (t ++ t') (m ++ m') st'' := by
  obtain ⟨ms, rfl, rfl, read⟩ := first
  obtain ⟨ms', rfl, rfl, read'⟩ := second
  exact ⟨ms ++ ms', List.map_append, List.map_append, read.append read'⟩

/-- A character of code first. -/
lemma cons (now : st.step c (t ++ rest).head? = (.code, st')) (later : Passes rest st' t m st'') :
    Passes rest st (c :: t) (c :: m) st'' := by
  obtain ⟨ms, rfl, rfl, read⟩ := later
  exact ⟨(c, .code) :: ms, rfl, rfl, .cons now read⟩

lemma masks (h : Passes rest st t m st') : st.masks (t ++ rest) = m ++ st'.masks rest := by
  obtain ⟨ms, rfl, rfl, read⟩ := h
  exact masks_of_reads read

lemma mask (h : Passes [] {} t m st) : mask t = m := by
  have masks := h.masks
  rw [List.append_nil] at masks
  exact masks.trans (List.append_nil m)

lemma stateAt (h : Passes [] {} t m st) : stateAt t t.length = st := by
  obtain ⟨ms, rfl, -, read⟩ := h
  simpa using read.stateAt

end Passes

/-- Blanks lead from code to code. -/
lemma exists_passes_blanks (inCode : st.InCode) (blank : ∀ c ∈ b, isBlank c = true) :
    ∃ st', Passes rest st b b st' ∧ st'.InCode ∧ (st.inWord = false → st' = st) := by
  induction b generalizing st with
  | nil => exact ⟨st, .nil _ st, inCode, fun _ => rfl⟩
  | cons c b ih =>
      obtain ⟨st', later, inCode', same⟩ :=
        ih inCode.forget fun c among => blank c (List.mem_cons_of_mem _ among)
      refine ⟨st', .cons (inCode.step_blank (blank c List.mem_cons_self)) later, inCode', ?_⟩
      intro apart
      rw [same rfl, State.forget, ← apart]

/-- So do words. -/
lemma exists_passes_names (inCode : st.InCode) (names : ∀ c ∈ x, isName c = true) :
    ∃ st', Passes rest st x x st' ∧ st'.InCode := by
  induction x generalizing st with
  | nil => exact ⟨st, .nil _ st, inCode⟩
  | cons c x ih =>
      obtain ⟨st₁, now, inCode₁⟩ : ∃ st₁, st.step c (x ++ rest).head? = (.code, st₁) ∧ st₁.InCode :=
        ⟨_, inCode.step_name (names c List.mem_cons_self), inCode.mode, inCode.alone⟩
      obtain ⟨st', later, inCode'⟩ :=
        ih inCode₁ fun c among => names c (List.mem_cons_of_mem _ among)
      exact ⟨st', .cons now later, inCode'⟩

/-! ### Marks and brackets -/

/-- What may stand between two parts of a pattern: a comma, a colon or an equals sign. -/
def dividers : List Char := [',', ':', '=']

/-- The state behind a divider: an operand may follow. -/
def behindDivider (st : State) : State :=
  { st with inWord := false, afterWord := false, regexAllowed := true }

lemma step_divider (inCode : st.InCode) (divider : c ∈ dividers) (next : Option Char) :
    st.step c next = (.code, behindDivider st) := by
  simp only [dividers, List.mem_cons, List.not_mem_nil, or_false] at divider
  rcases divider with rfl | rfl | rfl <;>
  · rw [inCode.step_plain (by decide)]
    rfl

lemma starts_behindDivider (inCode : st.InCode) (outside : st.interpolations = []) :
    (behindDivider st).Starts t :=
  ⟨⟨inCode.mode, inCode.alone⟩, .inl rfl, by simp [State.Counts, behindDivider, outside],
    .inl ⟨rfl, rfl⟩⟩

/-- The brackets around a pattern. -/
def enclosures : List (Char × Char) := [('[', ']'), ('{', '}')]

lemma step_opener (pair : (o, k) ∈ enclosures) (next : Option Char) :
    ({} : State).step o next = (.code, {}) := by
  have inCode : ({} : State).InCode := ⟨rfl, rfl⟩
  simp only [enclosures, List.mem_cons, List.not_mem_nil, or_false, Prod.mk.injEq] at pair
  rcases pair with ⟨rfl, -⟩ | ⟨rfl, -⟩
  · rw [inCode.step_plain (by decide)]
    rfl
  · rw [inCode.step_openingBrace]
    rfl

lemma exists_step_closer (pair : (o, k) ∈ enclosures) (inCode : st.InCode)
    (outside : st.interpolations = []) (next : Option Char) :
    ∃ st', st.step k next = (.code, st') ∧ st'.InCode := by
  refine ⟨st.plain k, ?_, inCode.plain k⟩
  simp only [enclosures, List.mem_cons, List.not_mem_nil, or_false, Prod.mk.injEq] at pair
  rw [inCode.step_eq, State.stepCode_eq]
  rcases pair with ⟨-, rfl⟩ | ⟨-, rfl⟩ <;> simp [outside]

lemma Closed.around {up down : Char} (h : Closed up down m) (opener : up ≠ o ∧ down ≠ o)
    (closer : up ≠ k ∧ down ≠ k) : Closed up down (o :: (m ++ [k])) := by
  have first : Closed up down [o] := closed_of_notMem (by simp [opener]) (by simp [opener])
  have last : Closed up down [k] := closed_of_notMem (by simp [closer]) (by simp [closer])
  exact first.append (h.append last)

namespace Paired

lemma enclosed (h : Paired m) (pair : (o, k) ∈ enclosures) : Paired (o :: (m ++ [k])) := by
  simp only [enclosures, List.mem_cons, List.not_mem_nil, or_false, Prod.mk.injEq] at pair
  rcases pair with ⟨rfl, rfl⟩ | ⟨rfl, rfl⟩
  · exact ⟨h.parens.around (by decide) (by decide), h.squares.enclosed (by decide),
      h.braces.around (by decide) (by decide)⟩
  · exact ⟨h.parens.around (by decide) (by decide), h.squares.around (by decide) (by decide),
      h.braces.enclosed (by decide)⟩

/-- What is no bracket needs no partner. -/
lemma of_notMem (other : ∀ c ∈ m, Unbracketed c) : Paired m := by
  have none' : ∀ c, ¬ Unbracketed c → c ∉ m := fun c bracket among => bracket (other c among)
  exact ⟨closed_of_notMem (none' _ (by decide)) (none' _ (by decide)),
    closed_of_notMem (none' _ (by decide)) (none' _ (by decide)),
    closed_of_notMem (none' _ (by decide)) (none' _ (by decide))⟩

lemma append_divider (h : Paired m) (divider : c ∈ dividers) (h' : Paired n) :
    Paired (m ++ c :: n) := by
  have plain : ∀ c ∈ dividers, Unbracketed c := List.all_iff_forall_prop.mp (by decide)
  have middle : Paired [c] := .of_notMem (by simpa using plain c divider)
  exact h.append (middle.append h')

/-- More brackets are open than closed in front of any character. -/
lemma nesting_take_nonneg (h : Paired m) (i : Nat) : 0 ≤ Code.nesting (m.take i) := by
  rw [nesting_eq_height]
  exact Int.add_nonneg (Int.add_nonneg (h.parens.2 i) (h.squares.2 i)) (h.braces.2 i)

end Paired

/-! ### Texts that stand by themselves -/

/-- A text whose brackets have their partners, and that ends in code. -/
structure Standing (t : Text) : Prop where
  paired : Paired (mask t)
  ends : (stateAt t t.length).InCode

instance (t : Text) : Decidable (Standing t) :=
  decidable_of_iff (Paired (mask t) ∧ (stateAt t t.length).InCode)
    ⟨fun h => ⟨h.1, h.2⟩, fun h => ⟨h.paired, h.ends⟩⟩

lemma Passes.standing (h : Passes [] {} t m st) (paired : Paired m) (inCode : st.InCode) :
    Lexical.mask t = m ∧ Standing t :=
  ⟨h.mask, h.mask ▸ paired, h.stateAt ▸ inCode⟩

lemma standing_of_isIdentifier (identifier : isIdentifier x = true) : mask x = x ∧ Standing x := by
  have names := all_isName_of_isIdentifier identifier
  obtain ⟨st, passes, inCode⟩ := @exists_passes_names x [] {} ⟨rfl, rfl⟩ names
  refine passes.standing (.of_notMem fun c among => ?_) inCode
  have name := names c among
  constructor <;> rw [Bool.eq_false_iff] <;> intro bracket <;>
    simp only [isOpener, isCloser, Bool.or_eq_true, beq_iff_eq] at bracket <;>
    rcases bracket with (rfl | rfl) | rfl <;> exact absurd name (by decide)

namespace Standing

/-- It is passed wherever it can be read as a text of its own. -/
lemma exists_passes (h : Standing t) (starts : st.Starts t) (neutral : Neutral rest.head?) :
    ∃ st', Passes rest st t (mask t) st' ∧ st'.InCode ∧
      st'.interpolations = st.interpolations := by
  obtain ⟨ms, st', text, masked, read, leaves⟩ :=
    exists_reads_of_starts starts neutral h.paired.parens h.paired.braces
  exact ⟨st', ⟨ms, text, masked, read⟩, leaves.inCode h.ends, leaves.interpolations⟩

/-- Blanks before it. -/
lemma blanks_append (h : Standing t) (blank : ∀ c ∈ b, isBlank c = true) :
    mask (b ++ t) = b ++ mask t ∧ Standing (b ++ t) := by
  obtain ⟨st, first, -, same⟩ := @exists_passes_blanks b (t ++ []) {} ⟨rfl, rfl⟩ blank
  obtain rfl := same rfl
  obtain ⟨st, later, inCode, -⟩ := @exists_passes t [] {} h (State.starts_empty t) neutral_none
  exact (first.append later).standing ((Paired.of_blank blank).append h.paired) inCode

/-- Blanks behind it. -/
lemma append_blanks (h : Standing t) (blank : ∀ c ∈ b, isBlank c = true) :
    mask (t ++ b) = mask t ++ b ∧ Standing (t ++ b) := by
  have neutral : Neutral (b ++ []).head? := by
    cases b with
    | nil => exact neutral_none
    | cons c b => exact neutral_of_isBlank (blank c List.mem_cons_self)
  obtain ⟨st, first, inCode, -⟩ := h.exists_passes (State.starts_empty t) neutral
  obtain ⟨st', later, inCode', -⟩ := exists_passes_blanks inCode blank
  exact (first.append later).standing (h.paired.append (Paired.of_blank blank)) inCode'

/-- A divider behind it, and any text behind that. -/
lemma exists_mask_divider (h : Standing t) (divider : c ∈ dividers) (u : Text) :
    ∃ st : State, (∀ t, st.Starts t) ∧ Passes u {} (t ++ [c]) (mask t ++ [c]) st := by
  have neutral : ∀ c ∈ dividers, Neutral (some c) := List.all_iff_forall_prop.mp (by decide)
  obtain ⟨st, first, inCode, outside⟩ :=
    @exists_passes t ([c] ++ u) {} h (State.starts_empty t) (neutral c divider)
  exact ⟨behindDivider st, fun _ => starts_behindDivider inCode outside,
    first.append (.cons (step_divider inCode divider _) (.nil _ _))⟩

/-- A divider and another one behind it. -/
lemma append_divider (h : Standing t) (divider : c ∈ dividers) (h' : Standing u) :
    mask (t ++ c :: u) = mask t ++ c :: mask u ∧ Standing (t ++ c :: u) := by
  obtain ⟨st, starts, first⟩ := h.exists_mask_divider divider (u ++ [])
  obtain ⟨st', later, inCode, -⟩ := @exists_passes u [] st h' (starts u) neutral_none
  have whole := first.append later
  rw [List.append_assoc, List.append_assoc] at whole
  exact whole.standing (h.paired.append_divider divider h'.paired) inCode

/-- Brackets around it. -/
lemma enclosed (h : Standing t) (pair : (o, k) ∈ enclosures) :
    mask (o :: (t ++ [k])) = o :: (mask t ++ [k]) ∧ Standing (o :: (t ++ [k])) := by
  have neutral : ∀ pair ∈ enclosures, Neutral (some pair.2) := by decide
  obtain ⟨st, first, inCode, outside⟩ :=
    @exists_passes t [k] {} h (State.starts_empty t) (neutral _ pair)
  obtain ⟨st', last, inCode'⟩ := exists_step_closer pair inCode outside none
  have passes : Passes [] {} (o :: (t ++ [k])) (o :: (mask t ++ [k])) st' :=
    .cons (step_opener pair _) (first.append (.cons last (.nil _ _)))
  exact passes.standing (h.paired.enclosed pair) inCode'

/-- Dots before it, if it does not start with what is read in another way behind a word. -/
lemma dotted (h : Standing t)
    (first : ∃ c, (trimLeft t).head? = some c ∧ c ∉ ['/', '\x27', '\x22', '\x60', '}', '(']) :
    mask (dots ++ t) = dots ++ mask t ∧ Standing (dots ++ t) := by
  have step : ∀ (a : Bool) (next : Option Char), ({ regexAllowed := a } : State).step '.' next =
      (.code, { regexAllowed := false }) :=
    fun _ _ => State.InCode.step_plain ⟨rfl, rfl⟩ (by decide)
  have starts : ({ regexAllowed := false } : State).Starts t :=
    ⟨⟨rfl, rfl⟩, .inl rfl, by simp [State.Counts], .inr first⟩
  obtain ⟨st, later, inCode, -⟩ := @exists_passes t [] _ h starts neutral_none
  have passes : Passes [] {} (dots ++ t) (dots ++ mask t) st :=
    .cons (step _ _) (.cons (step _ _) (.cons (step _ _) later))
  have plain : Paired dots := .of_notMem (List.all_iff_forall_prop.mp (by decide))
  exact passes.standing (plain.append h.paired) inCode

end Standing

/-! ### Separators outside brackets -/

/-- What stands behind a text does not tell whether there is a separator in it. -/
lemma separates_append {i : Nat} (before : i < m.length) :
    Separates sep (m ++ n) i ↔ Separates sep m i := by
  rw [Separates, Separates, List.getElem?_append_left before,
    List.take_append_of_le_length (Nat.le_of_lt before)]

/-- From a separator on, or from the start, there is a part up to the next one. -/
lemma exists_part {i : Nat} (within : i ≤ m.length)
    (first : i = 0 ∨ 0 < i ∧ Separates sep m (i - 1)) : ∃ j, Part sep m i j := by
  by_cases more : ∃ j, i ≤ j ∧ Separates sep m j
  · obtain ⟨low, separates⟩ := Nat.find_spec more
    exact ⟨Nat.find more, low, first, .inr separates,
      fun j low before separates => Nat.find_min more before ⟨low, separates⟩⟩
  · exact ⟨m.length, within, first, .inl rfl, fun j low _ separates => more ⟨j, low, separates⟩⟩

/-- No separator stands outside brackets. -/
def Whole (sep : Char) (m : Text) : Prop := ∀ k, ¬ Separates sep m k

/-- Behind the end of a text there is none. -/
instance (sep : Char) (m : Text) : Decidable (Whole sep m) :=
  decidable_of_iff (∀ k < m.length, ¬ Separates sep m k)
    ⟨fun h k separates => h k separates.lt separates, fun h k _ => h k⟩

namespace Whole

lemma of_notMem (none' : sep ∉ m) : Whole sep m := fun _ => not_separates_of_notMem none'

lemma of_blank (solid : isBlank sep = false) (blank : ∀ c ∈ b, isBlank c = true) : Whole sep b :=
  of_notMem fun among => by
    rw [blank sep among] at solid
    cases solid

lemma append (h : Whole sep m) (level : nesting m = 0) (h' : Whole sep n) :
    Whole sep (m ++ n) := by
  intro i separates
  by_cases before : i < m.length
  · exact h i ((separates_append before).mp separates)
  · have level' : nesting ((m ++ n).take m.length) = 0 := by rw [List.take_left, level]
    have place : m.length + (i - m.length) = i := by omega
    rw [← place, ← separates_drop level', List.drop_left] at separates
    exact h' _ separates

lemma append_divider (h : Whole sep m) (level : nesting m = 0) (divider : c ∈ dividers)
    (other : sep ≠ c) (h' : Whole sep n) : Whole sep (m ++ c :: n) := by
  have plain : ∀ c ∈ dividers, bracketStep c = 0 := List.all_iff_forall_prop.mp (by decide)
  have middle : nesting [c] = 0 := by simp [plain c divider]
  exact h.append level (append (of_notMem (by simpa using other)) middle h')

/-- In brackets none is outside of them. -/
lemma enclosed (paired : Paired m) (pair : (o, k) ∈ enclosures) (divider : sep ∈ dividers) :
    Whole sep (o :: (m ++ [k])) := by
  have opens : ∀ pair ∈ enclosures, pair.1 ∉ dividers ∧ bracketStep pair.1 = 1 := by decide
  obtain ⟨other, up⟩ := opens _ pair
  rintro (_ | i) ⟨here, level⟩
  · obtain rfl : o = sep := by simpa using here
    exact other divider
  · have within : i ≤ m.length := by
      have short := (List.getElem?_eq_some_iff.mp here).1
      simp only [List.length_cons, List.length_append, List.length_nil] at short
      omega
    have inside := paired.nesting_take_nonneg i
    rw [List.take_succ_cons, nesting_cons, List.take_append_of_le_length within, up] at level
    omega

end Whole

/-- A text that stands by itself, with no separator outside brackets. -/
structure Piece (sep : Char) (t : Text) : Prop where
  standing : Standing t
  whole : Whole sep (mask t)

instance (sep : Char) (t : Text) : Decidable (Piece sep t) :=
  decidable_of_iff (Standing t ∧ Whole sep (mask t))
    ⟨fun h => ⟨h.1, h.2⟩, fun h => ⟨h.standing, h.whole⟩⟩

lemma piece_of_isIdentifier (identifier : isIdentifier x = true) (divider : sep ∈ dividers) :
    Piece sep x := by
  obtain ⟨masked, standing⟩ := standing_of_isIdentifier identifier
  have noName : ∀ c ∈ dividers, isName c = false := List.all_iff_forall_prop.mp (by decide)
  have none' : sep ∉ x := by
    intro among
    have other := noName sep divider
    rw [all_isName_of_isIdentifier identifier sep among] at other
    cases other
  refine ⟨standing, ?_⟩
  rw [masked]
  exact .of_notMem none'

/-- In brackets there is no divider outside of them. -/
lemma Standing.piece (h : Standing t) (pair : (o, k) ∈ enclosures) (divider : sep ∈ dividers) :
    Piece sep (o :: (t ++ [k])) := by
  obtain ⟨masked, standing⟩ := h.enclosed pair
  exact ⟨standing, masked ▸ .enclosed h.paired pair divider⟩

namespace Piece

lemma solid (divider : sep ∈ dividers) : isBlank sep = false := by
  have solid : ∀ c ∈ dividers, isBlank c = false := List.all_iff_forall_prop.mp (by decide)
  exact solid sep divider

lemma blanks_append (h : Piece sep t) (divider : sep ∈ dividers)
    (blank : ∀ c ∈ b, isBlank c = true) : Piece sep (b ++ t) := by
  obtain ⟨masked, standing⟩ := h.standing.blanks_append blank
  have first : Whole sep b := .of_blank (solid divider) blank
  exact ⟨standing, masked ▸ first.append (Paired.of_blank blank).nesting h.whole⟩

lemma append_blanks (h : Piece sep t) (divider : sep ∈ dividers)
    (blank : ∀ c ∈ b, isBlank c = true) : Piece sep (t ++ b) := by
  obtain ⟨masked, standing⟩ := h.standing.append_blanks blank
  have last : Whole sep b := .of_blank (solid divider) blank
  exact ⟨standing, masked ▸ h.whole.append h.standing.paired.nesting last⟩

lemma append_divider (h : Piece sep t) (divider : c ∈ dividers) (other : sep ≠ c)
    (h' : Piece sep u) : Piece sep (t ++ c :: u) := by
  obtain ⟨masked, standing⟩ := h.standing.append_divider divider h'.standing
  exact ⟨standing, masked ▸ h.whole.append_divider h.standing.paired.nesting divider other h'.whole⟩

lemma dotted (h : Piece sep t) (divider : sep ∈ dividers)
    (first : ∃ c, (trimLeft t).head? = some c ∧ c ∉ ['/', '\x27', '\x22', '\x60', '}', '(']) :
    Piece sep (dots ++ t) := by
  obtain ⟨masked, standing⟩ := h.standing.dotted first
  have noDot : ∀ c ∈ dividers, c ∉ dots := List.all_iff_forall_prop.mp (by decide)
  have first' : Whole sep dots := .of_notMem (noDot sep divider)
  exact ⟨standing, masked ▸ first'.append rfl h.whole⟩

/-- Without the blanks at its ends there is none either. -/
lemma whole_trim (h : Piece sep t) : Whole sep (mask (trim t)) := by
  obtain ⟨front, back, parts, blank, -⟩ := exists_mask_trim t
  intro i separates
  have there := separates.append (Paired.of_blank blank).nesting back
  rw [← parts] at there
  exact h.whole _ there

end Piece

end LintRepair.Code
