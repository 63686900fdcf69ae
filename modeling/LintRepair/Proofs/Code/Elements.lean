/-
The elements of a list in brackets.

* `Tally`, `elementCount`: how many elements stand between two brackets, holes counted;
* `ListAt`: a list in brackets of code;
* `EndsElement`: the last token before an offset is that of an element;
* `pending_iff_of_wellNested`: so the last element of a list is told from a hole;
* `exists_listAt_of_comma`: a comma behind the last token of a list leaves as many elements, just if
  that token is one of an element.
-/
import LintRepair.Proofs.Check.Nested
import LintRepair.Proofs.Code.Items
import LintRepair.Proofs.Lexical.Tree

namespace LintRepair.Code

open Text Lexical Check

variable {w v : Text} {A B R ms ms' : Marks} {x : Char × Kind} {o c k : Char}

/-! ### Brackets that fit -/

/-- No more brackets are opened than closed. -/
lemma nesting_of_wellNested (h : WellNested w) : nesting w = 0 := by
  induction h with
  | nil => rfl
  | @pair o c inner rest partners _ _ inside behind =>
      have up : bracketStep o = 1 := by rw [bracketStep, if_pos (isOpener_of_closerOf partners)]
      have closes := isCloser_of_closerOf partners
      have down : bracketStep c = -1 := by
        have other : isOpener c = false := by
          rw [← closerOf?_isSome, closerOf?_of_isCloser closes]
          rfl
        rw [bracketStep, other, closes]
        rfl
      rw [nesting_cons, nesting_append, nesting_cons, inside, behind, up, down]
      rfl

/-! ### Counting elements -/

/-- Whether a character is a blank of code, or one of a comment. -/
def isIdle (x : Char × Kind) : Bool := x.2 == .comment || x.2 == .code && isBlank x.1

/-- What a count of elements has come to: how many commas have been met outside brackets, how
many brackets are open, and whether there has been a token since the last such comma. -/
structure Tally where
  commas : Nat := 0
  depth : Int := 0
  pending : Bool := false
  deriving DecidableEq

/-- A count goes on by one character. -/
def Tally.add (T : Tally) (x : Char × Kind) : Tally :=
  if x.2 = .code ∧ x.1 = ',' ∧ T.depth = 0 then { T with commas := T.commas + 1, pending := false }
  else
    { T with
      depth := T.depth + if x.2 = .code then bracketStep x.1 else 0
      pending := T.pending || !isIdle x }

/-- The count over a list. -/
def tally (ms : Marks) : Tally := ms.foldl Tally.add {}

/-- How many elements there are: each comma ends one, be it a hole, and so does the end of the
list unless nothing stands behind the last comma. -/
def Tally.elements (T : Tally) : Nat := T.commas + if T.pending then 1 else 0

/-- The characters of a text between two offsets, with their kinds. -/
def between (t : Text) (i j : Nat) : Marks := ((t.zip (kinds t)).take j).drop (i + 1)

/-- How many elements a list has whose brackets stand at two offsets. -/
def elementCount (t : Text) (i j : Nat) : Nat := (tally (between t i j)).elements

/-- A list: two brackets of code that are partners, and between them brackets that fit. -/
structure ListAt (t : Text) (i j : Nat) : Prop where
  lt : i < j
  partners : ∃ o c, BracketAt t i o ∧ BracketAt t j c ∧ closerOf? o = some c
  inside : WellNested (bracketsOf (between t i j))

/-- The last token before an offset is that of an element: it opens no bracket and is no
comma. -/
def EndsElement (t : Text) (i : Nat) : Prop :=
  ∃ x, ((t.zip (kinds t)).take i).reverse.find? (!isIdle ·) = some x ∧
    ¬ (x.2 = .code ∧ (isOpener x.1 = true ∨ x.1 = ','))

lemma endsElement_congr {t u : Text} {i : Nat}
    (same : (t.zip (kinds t)).take i = (u.zip (kinds u)).take i) :
    EndsElement t i ↔ EndsElement u i := by
  rw [EndsElement, EndsElement, same]

/-! ### What a count comes to -/

lemma isIdle_iff : isIdle x = true ↔ x.2 = .comment ∨ x.2 = .code ∧ isBlank x.1 = true := by
  simp [isIdle]

/-- Of what is idle only code has a character that counts, and that is a blank. -/
lemma isBlank_of_isIdle (idle : isIdle x = true) (code : x.2 = .code) : isBlank x.1 = true := by
  simpa [isIdle, code] using idle

@[simp]
lemma tally_nil : tally [] = {} := rfl

lemma tally_append (ms ms' : Marks) : tally (ms ++ ms') = ms'.foldl Tally.add (tally ms) :=
  List.foldl_append

lemma tally_concat (ms : Marks) (x : Char × Kind) : tally (ms ++ [x]) = (tally ms).add x :=
  tally_append ms [x]

namespace Tally

variable {T : Tally}

/-- Blanks and comments do not count. -/
lemma add_idle (idle : isIdle x = true) : T.add x = T := by
  have other : ¬ (x.2 = .code ∧ x.1 = ',' ∧ T.depth = 0) := by
    rintro ⟨code, comma, -⟩
    have blank := isBlank_of_isIdle idle code
    rw [comma] at blank
    exact absurd blank (by decide)
  have step : (if x.2 = .code then bracketStep x.1 else 0) = 0 := by
    split_ifs with code
    · have blank := isBlank_of_isIdle idle code
      have plain : Unbracketed x.1 := by
        constructor <;> rw [Bool.eq_false_iff] <;> intro bracket
        · simp only [isOpener, Bool.or_eq_true, beq_iff_eq] at bracket
          rcases bracket with (same | same) | same <;> rw [same] at blank <;>
            exact absurd blank (by decide)
        · simp only [isCloser, Bool.or_eq_true, beq_iff_eq] at bracket
          rcases bracket with (same | same) | same <;> rw [same] at blank <;>
            exact absurd blank (by decide)
      exact plain.step
    · rfl
  rw [add, if_neg other, step, idle]
  simp

lemma foldl_idle (idle : ∀ x ∈ ms, isIdle x = true) : ms.foldl add T = T := by
  induction ms with
  | nil => rfl
  | cons x ms ih =>
      rw [List.foldl_cons, add_idle (idle x List.mem_cons_self)]
      exact ih fun x among => idle x (List.mem_cons_of_mem _ among)

lemma add_comma (outside : T.depth = 0) : T.add (',', .code) = ⟨T.commas + 1, 0, false⟩ := by
  rw [add, if_pos ⟨rfl, rfl, outside⟩, outside]

/-- The brackets that are open are those of code. -/
lemma depth_add : (T.add x).depth = T.depth + nesting (bracketsOf [x]) := by
  obtain ⟨c, kind⟩ := x
  by_cases code : kind = .code
  · subst code
    by_cases comma : c = ','
    · subst comma
      rw [add]
      split_ifs <;> simp [bracketsOf, isOpener, isCloser, bracketStep]
    · rw [add, if_neg (fun h => comma h.2.1)]
      by_cases bracket : (isOpener c || isCloser c) = true
      · simp [bracketsOf, bracket]
      · have plain : Unbracketed c := by simpa [Unbracketed] using bracket
        simp [bracketsOf, plain.1, plain.2, plain.step]
  · simp [add, code, bracketsOf]

end Tally

lemma bracketsOf_append (ms ms' : Marks) :
    bracketsOf (ms ++ ms') = bracketsOf ms ++ bracketsOf ms' := by
  rw [bracketsOf, List.filter_append, List.map_append]
  rfl

lemma depth_tally (ms : Marks) : (tally ms).depth = nesting (bracketsOf ms) := by
  induction ms using List.reverseRecOn with
  | nil => rfl
  | append_singleton ms x ih =>
      rw [tally_concat, Tally.depth_add, ih, bracketsOf_append, nesting_append]

/-- Something stands behind the last comma if the last token is another one. -/
lemma pending_tally (ms : Marks) : (tally ms).pending = true ↔
    ∃ x, ms.reverse.find? (!isIdle ·) = some x ∧
      ¬ (x.2 = .code ∧ x.1 = ',' ∧ (tally ms).depth = 0) := by
  induction ms using List.reverseRecOn with
  | nil => simp
  | append_singleton ms x ih =>
      rw [tally_concat, List.reverse_concat, List.find?_cons]
      by_cases idle : isIdle x = true
      · rw [Tally.add_idle idle, idle]
        exact ih
      · have token : (!isIdle x) = true := by simpa using idle
        simp only [token, Option.some_inj, exists_eq_left']
        by_cases comma : x.2 = .code ∧ x.1 = ',' ∧ (tally ms).depth = 0
        · rw [Tally.add, if_pos comma]
          simp [comma]
        · rw [Tally.add, if_neg comma]
          simp only [token, Bool.or_true, true_iff]
          rintro ⟨code, comma', level⟩
          refine comma ⟨code, comma', ?_⟩
          rw [comma'] at level
          simpa [bracketStep, isOpener, isCloser] using level

/-! ### A comma behind the last token -/

lemma bracketsOf_idle (idle : ∀ x ∈ ms, isIdle x = true) : bracketsOf ms = [] := by
  rw [bracketsOf, List.map_eq_nil_iff, List.filter_eq_nil_iff]
  intro x among bracket
  have same := congrArg Tally.depth (Tally.add_idle (T := {}) (idle x among))
  obtain ⟨c, kind⟩ := x
  simp only [Bool.and_eq_true, beq_iff_eq, Bool.or_eq_true] at bracket
  obtain ⟨rfl, opens | closes⟩ := bracket
  · simp [Tally.depth_add, bracketsOf, opens, bracketStep] at same
  · have other : isOpener c = false := by
      rw [← closerOf?_isSome, closerOf?_of_isCloser closes]
      rfl
    simp [Tally.depth_add, bracketsOf, closes, other, bracketStep] at same

/-- What the last token is, and what stands around it. -/
lemma eq_append_of_find? (found : ms.reverse.find? (!isIdle ·) = some x) :
    ∃ front back, ms = front ++ x :: back ∧ ∀ y ∈ back, isIdle y = true := by
  obtain ⟨-, before, after, parts, idle⟩ := List.find?_eq_some_iff_append.mp found
  refine ⟨after.reverse, before.reverse, ?_, fun y among => ?_⟩
  · simpa using congrArg List.reverse parts
  · simpa using idle y (List.mem_reverse.mp among)

/-- **An element or a hole.** In brackets that fit, something stands behind the last comma just
if the last token behind the opening bracket is that of an element. -/
lemma pending_iff_of_wellNested (opens : isOpener o = true) (fits : WellNested (bracketsOf ms)) :
    (tally ms).pending = true ↔
      ∃ x, (A ++ (o, .code) :: ms).reverse.find? (!isIdle ·) = some x ∧
        ¬ (x.2 = .code ∧ (isOpener x.1 = true ∨ x.1 = ',')) := by
  have level : (tally ms).depth = 0 := by rw [depth_tally, nesting_of_wellNested fits]
  rw [pending_tally, List.reverse_append, List.reverse_cons, List.append_assoc, List.find?_append]
  cases found : ms.reverse.find? (!isIdle ·) with
  | none =>
      have token : (!isIdle (o, .code)) = true := by
        rw [Bool.not_eq_true', Bool.eq_false_iff]
        intro idle
        have none' : bracketsOf [(o, .code)] = [] := bracketsOf_idle (by simpa using idle)
        simp [bracketsOf, opens] at none'
      simp [token, opens]
  | some x =>
      simp only [Option.some_or, Option.some_inj, exists_eq_left', level, and_true]
      refine not_congr ⟨fun h => ⟨h.1, .inr h.2⟩, ?_⟩
      rintro ⟨code, opener | comma⟩
      · -- No bracket is opened last.
        obtain ⟨front, back, rfl, idle⟩ := eq_append_of_find? found
        obtain ⟨b, kind⟩ := x
        obtain rfl : kind = .code := code
        obtain ⟨c, partners⟩ := Option.isSome_iff_exists.mp (closerOf?_isSome.trans opener)
        rw [← List.singleton_append, bracketsOf_append, bracketsOf_append, bracketsOf_idle idle,
          List.append_nil] at fits
        have last := fits.closerOf?_getLast b (by simp [bracketsOf, opener])
        cases last.symm.trans partners
      · exact ⟨code, comma⟩

/-- The bracket of code, as it stands in brackets that fit up to the one that it closes. -/
lemma exists_opener_of_marks {k : Char} (closes : isCloser k = true)
    (fits : WellNested (bracketsOf A ++ k :: v)) :
    ∃ front o inside, A = front ++ (o, .code) :: inside ∧ closerOf? o = some k ∧
      WellNested (bracketsOf inside) := by
  obtain ⟨before, o, inside, parts, partners, fits'⟩ := fits.exists_opener closes
  rw [bracketsOf, List.map_eq_append_iff] at parts
  obtain ⟨front, back, split, rfl, parts⟩ := parts
  obtain ⟨x, rest, rfl, rfl, rfl⟩ := List.map_eq_cons_iff.mp parts
  obtain ⟨front', back', rfl, rfl, parts⟩ := List.filter_eq_append_iff.mp split
  obtain ⟨idle, inside, rfl, none', bracket, rfl⟩ := List.filter_eq_cons_iff.mp parts
  obtain ⟨o, kind⟩ := x
  simp only [Bool.and_eq_true, beq_iff_eq] at bracket
  obtain ⟨rfl, -⟩ := bracket
  exact ⟨front' ++ idle, o, inside, by simp, partners, fits'⟩

/-- Up to a bracket behind blanks and comments, the brackets are those before these. -/
lemma bracketsOf_closed (idle : ∀ x ∈ B, isIdle x = true) (closes : isCloser k = true) :
    bracketsOf (A ++ (B ++ (k, .code) :: R)) = bracketsOf A ++ k :: bracketsOf R := by
  rw [← List.singleton_append, bracketsOf_append, bracketsOf_append, bracketsOf_append,
    bracketsOf_idle idle]
  simp [bracketsOf, closes]

lemma bracketsOf_comma (A ms : Marks) :
    bracketsOf (A ++ (',', .code) :: ms) = bracketsOf (A ++ ms) := by
  rw [← List.singleton_append, bracketsOf_append, bracketsOf_append, bracketsOf_append]
  rfl

lemma bracketAt_of_zip {t : Text} {i : Nat} (stands : (t.zip (kinds t))[i]? = some (c, .code))
    (bracket : isOpener c = true ∨ isCloser c = true) : BracketAt t i c :=
  have ⟨here, code⟩ := List.getElem?_zip_eq_some.mp stands
  ⟨here, code, bracket⟩

/-- A list whose brackets stand in a text. -/
lemma listAt_of_zip {t : Text} {front inside rest : Marks}
    (shape : t.zip (kinds t) = front ++ (o, .code) :: (inside ++ (c, .code) :: rest))
    (partners : closerOf? o = some c) (fits : WellNested (bracketsOf inside)) :
    ListAt t front.length (front.length + (inside.length + 1)) ∧
      between t front.length (front.length + (inside.length + 1)) = inside := by
  have inner : between t front.length (front.length + (inside.length + 1)) = inside := by
    have parts : t.zip (kinds t) = (front ++ (o, .code) :: inside) ++ (c, .code) :: rest := by
      rw [shape]
      simp
    have length : (front ++ (o, .code) :: inside).length = front.length + (inside.length + 1) := by
      rw [List.length_append, List.length_cons]
    have parts' : front ++ (o, .code) :: inside = (front ++ [(o, .code)]) ++ inside := by simp
    rw [between, parts, ← length, List.take_left, parts']
    exact List.drop_left' (by simp)
  refine ⟨⟨by omega, ⟨o, c, ?_, ?_, partners⟩, by rwa [inner]⟩, inner⟩
  · refine bracketAt_of_zip ?_ (.inl (isOpener_of_closerOf partners))
    rw [shape, List.getElem?_append_right (Nat.le_refl _), Nat.sub_self]
    rfl
  · refine bracketAt_of_zip ?_ (.inr (isCloser_of_closerOf partners))
    rw [shape, List.getElem?_append_right (Nat.le_add_right _ _), Nat.add_sub_cancel_left,
      List.getElem?_cons_succ, List.getElem?_append_right (Nat.le_refl _), Nat.sub_self]
    rfl

/-- **A comma behind the last token** of a list, with nothing but blanks and comments up to the
bracket that closes it: the list has as many elements as without it, just if that token is one
of an element. -/
theorem exists_listAt_of_comma {t u : Text} {R' : Marks} (idle : ∀ x ∈ B, isIdle x = true)
    (bare : t.zip (kinds t) = A ++ (B ++ (k, .code) :: R))
    (ended : u.zip (kinds u) = A ++ (',', .code) :: (B ++ (k, .code) :: R'))
    (closes : isCloser k = true) (fits : WellNested (bracketsOf A ++ k :: v)) :
    ∃ i, ListAt t i (A.length + B.length) ∧ ListAt u i (A.length + B.length + 1) ∧
      (elementCount u i (A.length + B.length + 1) = elementCount t i (A.length + B.length) ↔
        EndsElement t A.length) := by
  have take : (t.zip (kinds t)).take A.length = A := by rw [bare, List.take_left]
  obtain ⟨front, o, inside, rfl, partners, fits'⟩ := exists_opener_of_marks closes fits
  have level : (tally inside).depth = 0 := by rw [depth_tally, nesting_of_wellNested fits']
  have opens := isOpener_of_closerOf partners
  have fits₁ : WellNested (bracketsOf (inside ++ B)) := by
    rwa [bracketsOf_append, bracketsOf_idle idle, List.append_nil]
  have fits₂ : WellNested (bracketsOf (inside ++ (',', .code) :: B)) := by
    rw [bracketsOf_append, ← List.singleton_append, bracketsOf_append, bracketsOf_idle idle]
    simpa [bracketsOf, isOpener, isCloser] using fits'
  have shape : t.zip (kinds t) = front ++ (o, .code) :: (inside ++ B ++ (k, .code) :: R) := by
    rw [bare]
    simp
  have shape' : u.zip (kinds u) =
      front ++ (o, .code) :: (inside ++ (',', .code) :: B ++ (k, .code) :: R') := by
    rw [ended]
    simp
  obtain ⟨list, inner⟩ := listAt_of_zip shape partners fits₁
  obtain ⟨list', inner'⟩ := listAt_of_zip shape' partners fits₂
  have place : front.length + ((inside ++ B).length + 1) =
      (front ++ (o, .code) :: inside).length + B.length := by simp; omega
  have place' : front.length + ((inside ++ (',', .code) :: B).length + 1) =
      (front ++ (o, .code) :: inside).length + B.length + 1 := by simp; omega
  rw [place] at list inner
  rw [place'] at list' inner'
  refine ⟨front.length, list, list', ?_⟩
  -- The comma is counted, and what is behind it is not.
  have count : (tally (inside ++ B)).elements = (tally inside).elements := by
    rw [tally_append, Tally.foldl_idle idle]
  have count' : (tally (inside ++ (',', .code) :: B)).elements = (tally inside).commas + 1 := by
    rw [tally_append, List.foldl_cons, Tally.add_comma level, Tally.foldl_idle idle]
    rfl
  rw [elementCount, elementCount, inner, inner', count, count', EndsElement, take,
    ← pending_iff_of_wellNested opens fits', Tally.elements]
  cases (tally inside).pending <;> simp

end LintRepair.Code
