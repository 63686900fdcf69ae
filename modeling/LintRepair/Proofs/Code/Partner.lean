/-
Brackets and their partners.

* `closed_of_wellNested`: where the brackets fit, each bracket of one pair has its partner
  among those of that pair;
* `closed_masked`: so it has in the masked text, in which no other brackets are left than those
  of code;
* `ListAt.exists_masked`: what stands between partners in the masked text;
* `partners_of_bracketFaults`: where no fault is found each bracket has a partner, and the two
  searches lead from the one to the other.
-/
import LintRepair.Proofs.Code.Elements
import LintRepair.Proofs.Code.Scope
import LintRepair.Proofs.Lexical.Literal

namespace LintRepair.Code

open Text Lexical Check

variable {t w : Text} {A B ms : Marks} {x : Char × Kind} {o c k up down : Char} {i j : Nat}

/-! ### What closes a bracket -/

lemma solid_of_mem_bracketsOf : ∀ b ∈ bracketsOf ms, isOpener b = true ∨ isCloser b = true := by
  intro b among
  obtain ⟨x, filtered, rfl⟩ := List.mem_map.mp among
  have bracket := (List.mem_filter.mp filtered).2
  simp only [Bool.and_eq_true, Bool.or_eq_true] at bracket
  exact bracket.2

/-- The bracket of code that closes one, as it stands in brackets that fit. -/
lemma exists_closer_of_marks (partners : closerOf? o = some c)
    (fits : WellNested (bracketsOf A ++ o :: bracketsOf B)) :
    ∃ inside back, B = inside ++ (c, .code) :: back ∧ WellNested (bracketsOf inside) := by
  obtain ⟨inside, rest, parts, fits'⟩ := fits.exists_closer solid_of_mem_bracketsOf partners
  rw [bracketsOf, List.map_eq_append_iff] at parts
  obtain ⟨front, back, split, rfl, parts⟩ := parts
  obtain ⟨x, rest, rfl, rfl, rfl⟩ := List.map_eq_cons_iff.mp parts
  obtain ⟨inner, behind, rfl, rfl, parts⟩ := List.filter_eq_append_iff.mp split
  obtain ⟨idle, back, rfl, none', bracket, rfl⟩ := List.filter_eq_cons_iff.mp parts
  obtain ⟨c, kind⟩ := x
  simp only [Bool.and_eq_true, beq_iff_eq] at bracket
  obtain ⟨rfl, -⟩ := bracket
  refine ⟨inner ++ idle, back, by simp, ?_⟩
  have unbracketed : bracketsOf idle = [] := by
    rw [bracketsOf, List.map_eq_nil_iff, List.filter_eq_nil_iff]
    exact none'
  rw [bracketsOf_append, unbracketed, List.append_nil]
  exact fits'

/-! ### Brackets of one pair -/

/-- No bracket is its own partner. -/
lemma ne_of_closerOf (partners : closerOf? up = some down) : up ≠ down := by
  rintro rfl
  have opens := closerOf?_of_isCloser (isCloser_of_closerOf partners)
  rw [partners] at opens
  cases opens

/-- **One pair is enough.** Where the brackets fit, those of one pair fit on their own. -/
lemma closed_of_wellNested (h : WellNested w) (partners : closerOf? up = some down) :
    Closed up down w := by
  induction h with
  | nil => exact closed_of_notMem List.not_mem_nil List.not_mem_nil
  | @pair o c inner rest partners' _ _ inside behind =>
      have shape : o :: (inner ++ c :: rest) = (o :: (inner ++ [c])) ++ rest := by simp
      rw [shape]
      refine Closed.append ?_ behind
      by_cases same : o = up
      · obtain rfl : up = o := same.symm
        obtain rfl : down = c := Option.some.inj (partners.symm.trans partners')
        exact inside.enclosed (ne_of_closerOf partners)
      · -- The brackets of another pair are passed over.
        have other : ∀ b, b = o ∨ b = c → Closed up down [b] := by
          intro b either
          refine closed_of_notMem (fun among => ?_) fun among => ?_
          · obtain rfl := List.mem_singleton.mp among
            rcases either with rfl | rfl
            · exact same rfl
            · rw [closerOf?_of_isCloser (isCloser_of_closerOf partners')] at partners
              cases partners
          · obtain rfl := List.mem_singleton.mp among
            rcases either with rfl | rfl
            · rw [closerOf?_of_isCloser (isCloser_of_closerOf partners)] at partners'
              cases partners'
            · have first := openerOf?_eq_some_iff.mpr partners
              rw [openerOf?_eq_some_iff.mpr partners'] at first
              exact same (Option.some.inj first)
        exact (other o (.inl rfl)).append (inside.append (other c (.inr rfl)))

/-! ### Brackets of the masked text -/

/-- Whether a character is a bracket. -/
def isBracket (c : Char) : Bool := isOpener c || isCloser c

lemma mask_eq_map (t : Text) : mask t = (t.zip (kinds t)).map fun x => x.2.masked x.1 := by
  rw [mask, ← List.map_uncurry_zip_eq_zipWith]
  rfl

/-- A bracket that is left in the masked text is one of code. -/
lemma isBracket_masked (among : x ∈ t.zip (kinds t)) :
    isBracket (x.2.masked x.1) = (x.2 == .code && isBracket x.1) := by
  obtain ⟨c, kind⟩ := x
  obtain ⟨i, stands⟩ := List.mem_iff_getElem?.mp among
  obtain ⟨here, read⟩ := List.getElem?_zip_eq_some.mp stands
  rw [Bool.eq_iff_iff, Bool.and_eq_true, beq_iff_eq]
  constructor
  · intro bracket
    have solid : isBlank (kind.masked c) = false ∧ kind.masked c ∉ ['\x27', '\x22', '\x60'] := by
      generalize kind.masked c = b at bracket
      simp only [isBracket, isOpener, isCloser, Bool.or_eq_true, beq_iff_eq] at bracket
      rcases bracket with ((rfl | rfl) | rfl) | ((rfl | rfl) | rfl) <;> decide
    have stays : (mask t)[i]? = some (kind.masked c) := by
      rw [mask_eq_map, List.getElem?_map, stands]
      rfl
    obtain ⟨here', code⟩ := (getElem?_mask_eq_iff solid.1 solid.2).mp stays
    rw [here, Option.some_inj] at here'
    rw [read, Option.some_inj] at code
    exact ⟨code, here' ▸ bracket⟩
  · rintro ⟨rfl, bracket⟩
    rwa [Kind.masked_of_isKept rfl]

/-- Of a part of a text, the brackets that are left in the masked text are those of code. -/
lemma filter_masked (within : ∀ x ∈ ms, x ∈ t.zip (kinds t)) :
    (ms.map fun x => x.2.masked x.1).filter isBracket = bracketsOf ms := by
  have same : ms.filter (isBracket ∘ fun x => x.2.masked x.1) =
      ms.filter fun x => x.2 == .code && isBracket x.1 :=
    List.filter_congr fun x among => isBracket_masked (within x among)
  rw [List.filter_map, same]
  refine List.map_congr_left fun x among => ?_
  have kept := (List.mem_filter.mp among).2
  rw [Bool.and_eq_true, beq_iff_eq] at kept
  exact Kind.masked_of_isKept (kept.1 ▸ rfl)

/-- As many brackets of one pair are open as of code. -/
lemma height_masked (partners : closerOf? up = some down)
    (within : ∀ x ∈ ms, x ∈ t.zip (kinds t)) :
    height up down (ms.map fun x => x.2.masked x.1) = height up down (bracketsOf ms) := by
  have up' : isBracket up = true := by simp [isBracket, isOpener_of_closerOf partners]
  have down' : isBracket down = true := by simp [isBracket, isCloser_of_closerOf partners]
  rw [← filter_masked within, height, height, List.count_filter up', List.count_filter down']

/-- So each of them has its partner in a part of the masked text, if it has among those of
code. -/
lemma closed_masked (partners : closerOf? up = some down)
    (within : ∀ x ∈ ms, x ∈ t.zip (kinds t)) (fits : Closed up down (bracketsOf ms)) :
    Closed up down (ms.map fun x => x.2.masked x.1) := by
  refine ⟨by rw [height_masked partners within, fits.1], fun j => ?_⟩
  have whole : bracketsOf ms = bracketsOf (ms.take j) ++ bracketsOf (ms.drop j) := by
    rw [← bracketsOf_append, List.take_append_drop]
  have start : (bracketsOf ms).take (bracketsOf (ms.take j)).length = bracketsOf (ms.take j) := by
    rw [whole, List.take_left]
  rw [← List.map_take, height_masked partners fun x among => within x (List.mem_of_mem_take among),
    ← start]
  exact fits.2 _

/-! ### Partners -/

/-- A bracket of code, with what stands before and behind it. -/
lemma zip_eq_of_bracketAt (h : BracketAt t i k) : t.zip (kinds t) =
    (t.zip (kinds t)).take i ++ (k, .code) :: (t.zip (kinds t)).drop (i + 1) := by
  obtain ⟨within, here⟩ := List.getElem?_eq_some_iff.mp
    (List.getElem?_zip_eq_some (z := (k, Kind.code)).mpr ⟨h.here, h.code⟩)
  rw [← here, List.cons_getElem_drop_succ, List.take_append_drop]

lemma length_take_of_bracketAt (h : BracketAt t i k) : ((t.zip (kinds t)).take i).length = i := by
  have within := (List.getElem?_eq_some_iff.mp
    (List.getElem?_zip_eq_some (z := (k, Kind.code)).mpr ⟨h.here, h.code⟩)).1
  exact List.length_take_of_le (Nat.le_of_lt within)

lemma bracketsIn_of_bracketAt (h : BracketAt t i k) : bracketsIn t =
    bracketsOf ((t.zip (kinds t)).take i) ++ k :: bracketsOf ((t.zip (kinds t)).drop (i + 1)) := by
  have alone : bracketsOf [(k, .code)] = [k] := by simp [bracketsOf, h.bracket]
  rw [bracketsIn]
  conv_lhs => rw [zip_eq_of_bracketAt h]
  rw [← List.singleton_append, bracketsOf_append, bracketsOf_append, alone]
  rfl

/-- Two partners, with what stands between them and around them. -/
lemma ListAt.exists_zip (h : ListAt t i j) :
    ∃ o c front back, t[i]? = some o ∧ closerOf? o = some c ∧
      t.zip (kinds t) = front ++ (o, .code) :: (between t i j ++ (c, .code) :: back) ∧
      front.length = i ∧ front.length + 1 + (between t i j).length = j := by
  obtain ⟨o, c, opener, closer, partners⟩ := h.partners
  have lt := h.lt
  have within := length_take_of_bracketAt closer
  have behind : (t.zip (kinds t)).take j =
      (t.zip (kinds t)).take i ++ (o, .code) :: between t i j := by
    have start := congrArg (List.take j) (zip_eq_of_bracketAt opener)
    have before : j - i = j - (i + 1) + 1 := by omega
    rw [List.take_append, length_take_of_bracketAt opener, List.take_take, Nat.min_eq_right lt.le,
      before, List.take_succ_cons, ← List.drop_take] at start
    exact start
  have whole := zip_eq_of_bracketAt closer
  rw [behind, List.append_assoc, List.cons_append] at whole
  refine ⟨o, c, _, _, opener.here, partners, whole, length_take_of_bracketAt opener, ?_⟩
  rw [behind, List.length_append, List.length_cons] at within
  omega

/-- What stands in the masked text between a bracket and its partner is closed, for brackets of
every pair. -/
lemma ListAt.exists_masked (h : ListAt t i j) :
    ∃ o c before mid rest, t[i]? = some o ∧ closerOf? o = some c ∧
      mask t = before ++ o :: (mid ++ c :: rest) ∧
      before.length = i ∧ before.length + 1 + mid.length = j ∧
      ∀ {up down}, closerOf? up = some down → Closed up down mid := by
  obtain ⟨o, c, front, back, opener, partners, shape, first, last⟩ := h.exists_zip
  refine ⟨o, c, front.map fun x => x.2.masked x.1, (between t i j).map fun x => x.2.masked x.1,
    back.map fun x => x.2.masked x.1, opener, partners, ?_, ?_, ?_, fun partners' => ?_⟩
  · conv_lhs => rw [mask_eq_map, shape]
    simp only [List.map_append, List.map_cons]
    have kept : ∀ b, Kind.code.masked b = b := fun b => Kind.masked_of_isKept rfl
    rw [kept, kept]
  · rw [List.length_map, first]
  · rw [List.length_map, List.length_map, last]
  · refine closed_masked (t := t) partners' (fun x among => ?_)
      (closed_of_wellNested h.inside partners')
    exact List.mem_of_mem_take (List.mem_of_mem_drop among)

lemma ListAt.findMatching (h : ListAt t i j) : findMatching (mask t) i = some j := by
  obtain ⟨o, c, before, mid, rest, -, partners, shape, rfl, rfl, closed⟩ := h.exists_masked
  have found : balanceAt? o c 1 (mid ++ c :: rest) = some mid.length :=
    (balanceAt?_eq_some_iff (ne_of_closerOf partners)).mpr ⟨mid, rest, rfl, rfl, closed partners⟩
  rw [shape, findMatching_append partners, found]
  rfl

lemma ListAt.findMatchingBackward (h : ListAt t i j) :
    findMatchingBackward (mask t) j = some i := by
  obtain ⟨o, c, before, mid, rest, -, partners, shape, rfl, rfl, closed⟩ := h.exists_masked
  rw [shape]
  exact findMatchingBackward_append (openerOf?_eq_some_iff.mpr partners) (ne_of_closerOf partners)
    (closed partners) rest

/-- Where the brackets fit, one that opens has a partner, -/
lemma exists_listAt_of_opener (fits : WellNested (bracketsIn t)) (stands : BracketAt t i o)
    (opens : isOpener o = true) : ∃ j, ListAt t i j := by
  obtain ⟨c, partners⟩ := Option.isSome_iff_exists.mp (closerOf?_isSome.trans opens)
  rw [bracketsIn_of_bracketAt stands] at fits
  obtain ⟨inside, back, parts, fits'⟩ := exists_closer_of_marks partners fits
  have shape := zip_eq_of_bracketAt stands
  rw [parts] at shape
  have list := (listAt_of_zip shape partners fits').1
  rw [length_take_of_bracketAt stands] at list
  exact ⟨_, list⟩

/-- and so has one that closes. -/
lemma exists_listAt_of_closer (fits : WellNested (bracketsIn t)) (stands : BracketAt t j c)
    (closes : isCloser c = true) : ∃ i, ListAt t i j := by
  rw [bracketsIn_of_bracketAt stands] at fits
  obtain ⟨front, o, inside, parts, partners, fits'⟩ := exists_opener_of_marks closes fits
  have shape := zip_eq_of_bracketAt stands
  have place := length_take_of_bracketAt stands
  rw [parts] at shape place
  rw [List.append_assoc, List.cons_append] at shape
  have list := (listAt_of_zip shape partners fits').1
  rw [List.length_append, List.length_cons] at place
  exact ⟨front.length, place ▸ list⟩

/-- **Partners.** In a text in which no fault is found, every bracket of code has a partner: an
opening one behind it, a closing one before it, with brackets in between that fit. Whatever the
other pairs do in between, the search forward leads from the one to the other, and the search
backward leads back; so no bracket has two partners. -/
theorem partners_of_bracketFaults (fit : bracketFaults t = []) :
    (∀ i o, BracketAt t i o → isOpener o = true → ∃ j, ListAt t i j) ∧
      (∀ j c, BracketAt t j c → isCloser c = true → ∃ i, ListAt t i j) ∧
      ∀ i j, ListAt t i j →
        findMatching (mask t) i = some j ∧ findMatchingBackward (mask t) j = some i := by
  have fits := bracketFaults_eq_nil_iff.mp fit
  exact ⟨fun i o stands opens => exists_listAt_of_opener fits stands opens,
    fun j c stands closes => exists_listAt_of_closer fits stands closes,
    fun i j list => ⟨list.findMatching, list.findMatchingBackward⟩⟩

/-- A call, with brackets in an interpolation, in a string and in a comment. -/
def nested : Text := "f([\x60$\x7b \x7b\x7d \x7d\x60], ')') // (".toList

theorem partners_of_nested :
    bracketFaults nested = [] ∧ (BracketAt nested 5 '{' ∧ isOpener '{' = true) ∧
      (BracketAt nested 18 ')' ∧ isCloser ')' = true) ∧
      (∃ j, ListAt nested 5 j ∧ findMatching (mask nested) 5 = some j ∧
        findMatchingBackward (mask nested) j = some 5) ∧
      ∃ i, ListAt nested i 18 ∧ findMatching (mask nested) i = some 18 ∧
        findMatchingBackward (mask nested) 18 = some i := by
  have fit : bracketFaults nested = [] := by decide +kernel
  have brace : BracketAt nested 5 '{' := ⟨by decide, by decide +kernel, .inl rfl⟩
  have paren : BracketAt nested 18 ')' := ⟨by decide, by decide +kernel, .inr rfl⟩
  obtain ⟨closers, openers, agree⟩ := partners_of_bracketFaults fit
  obtain ⟨j, list⟩ := closers 5 '{' brace rfl
  obtain ⟨i, list'⟩ := openers 18 ')' paren rfl
  exact ⟨fit, ⟨brace, rfl⟩, ⟨paren, rfl⟩, ⟨j, list, agree 5 j list⟩, i, list', agree i 18 list'⟩

end LintRepair.Code
