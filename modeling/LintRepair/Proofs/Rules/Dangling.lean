/-
The comma behind the last element of a list.

* `exists_of_insertion?`, `exists_of_dangling?`: where a comma is put in, and which one is taken
  out;
* `endsElement_of_mask`, `inCode_of_insert`: what stands before the one that is put in;
* `elements_of_fix`: when a list has as many elements as before.
-/
import LintRepair.Grammar.Statement
import LintRepair.Proofs.Code.Trailing
import LintRepair.Proofs.Lexical.Edit
import LintRepair.Proofs.Rules.Above

namespace LintRepair.Rules

open Text Lexical Code Check Repair

variable {accepts : Acceptor} {o : Options} {f : Fixer} {r : FixResult} {code : Text}
  {d : Diagnostic} {st : State} {next : Option Char} {k : Char} {i c : Nat}

/-! ### Where the comma is -/

/-- A closing bracket of code behind an offset, with nothing but blanks in the masked text before
it. -/
structure ClosesBehind (code : Text) (i c : Nat) (k : Char) : Prop where
  le : i ≤ c
  bracket : BracketAt code c k
  closes : isCloser k = true
  blank : ∀ m, i ≤ m → m < c → (mask code)[m]?.any isBlank = true

lemma bracketAt_of_mask (stands : (mask code)[c]? = some k) (closes : isCloser k = true) :
    BracketAt code c k := by
  have other : k ∉ ['\x27', '\x22', '\x60'] :=
    fun quote => notMem_of_isCloser closes (List.mem_cons_of_mem _ quote)
  obtain ⟨here, code⟩ := (getElem?_mask_eq_iff (isBlank_of_isCloser closes) other).mp stands
  exact ⟨here, code, .inr closes⟩

/-- The bracket that closes around a position is one that closes. -/
lemma isCloser_of_enclosingCloser? {t : Text} {depth n : Nat}
    (found : Comma.enclosingCloser? depth t = some n) :
    ∃ k, t[n]? = some k ∧ isCloser k = true := by
  induction t generalizing depth n with
  | nil => cases found
  | cons c rest ih =>
      rw [Comma.enclosingCloser?] at found
      split_ifs at found with opens closes last
      · obtain ⟨n', found', rfl⟩ := Option.map_eq_some_iff.mp found
        exact ih found'
      · cases found
        exact ⟨c, rfl, closes⟩
      · obtain ⟨n', found', rfl⟩ := Option.map_eq_some_iff.mp found
        exact ih found'
      · obtain ⟨n', found', rfl⟩ := Option.map_eq_some_iff.mp found
        exact ih found'

/-- A comma is put in behind a token that is neither an opening bracket nor a comma. -/
lemma exists_of_insertion? (found : Comma.insertion? code d = some i) :
    ∃ c k j x, i = j + 1 ∧ ClosesBehind code i c k ∧ (mask code)[j]? = some x ∧
      isBlank x = false ∧ isOpener x = false ∧ x ≠ ',' := by
  simp only [Comma.insertion?] at found
  split at found
  · cases found
  next start _ =>
  split at found
  · cases found
  next n closer =>
  obtain ⟨k, here, closes⟩ := isCloser_of_enclosingCloser? closer
  rw [List.getElem?_drop] at here
  obtain ⟨v, parts, blank, last⟩ := exists_dropEndWhile isBlank ((mask code).take (start + n))
  rw [trimRight] at found
  generalize dropEndWhile isBlank ((mask code).take (start + n)) = items at parts last found
  split_ifs at found with none'
  cases found
  have within := (List.getElem?_eq_some_iff.mp here).1
  have length := congrArg List.length parts
  rw [List.length_take_of_le (Nat.le_of_lt within), List.length_append] at length
  have stands : ∀ m < start + n, (mask code)[m]? = (items ++ v)[m]? := by
    intro m low
    rw [← parts, List.getElem?_take_of_lt low]
  simp only [Bool.or_eq_true, not_or, Bool.not_eq_true, List.isEmpty_eq_false_iff] at none'
  obtain ⟨some', ends⟩ := none'
  obtain ⟨front, x, rfl⟩ := (List.eq_nil_or_concat' items).resolve_left some'
  rw [List.length_append, List.length_singleton] at length ⊢
  have solid : isBlank x = false := last x (by simp)
  rw [endsIn, List.getLast?_concat, Option.any_some, Bool.or_eq_false_iff,
    beq_eq_false_iff_ne] at ends
  refine ⟨start + n, k, front.length, x, rfl,
    ⟨by omega, bracketAt_of_mask here closes, closes, fun m low high => ?_⟩, ?_, solid,
    ends.1, ends.2⟩
  · rw [stands m high, List.getElem?_append_right (by simpa using low)]
    have inside : m - (front ++ [x]).length < v.length := by
      rw [List.length_append, List.length_singleton]
      omega
    rw [List.getElem?_eq_getElem inside]
    exact blank _ (List.getElem_mem inside)
  · rw [stands _ (by omega)]
    simp

/-- A comma is taken out in front of a closing bracket. -/
lemma exists_of_dangling? (found : Comma.dangling? code d = some i) :
    ∃ c k, CodeAt code i ',' ∧ ClosesBehind code (i + 1) c k := by
  simp only [Comma.dangling?] at found
  obtain ⟨n, nearest, rfl⟩ := Option.map_eq_some_iff.mp found
  have here := List.find?_some nearest
  rw [Bool.and_eq_true, beq_iff_eq] at here
  obtain ⟨comma, follows⟩ := here
  have stands : (mask code)[lineStartOf code d + n]? = some ',' := by
    obtain ⟨rest, parts⟩ := List.takeWhile_prefix (p := (· != '\n'))
      (l := (mask code).drop (lineStart code d.line.value))
    have within := (List.getElem?_eq_some_iff.mp comma).1
    rw [lineStartOf, ← List.getElem?_drop, ← parts]
    exact (List.getElem?_append_left within).trans comma
  generalize lineStartOf code d + n = i at stands follows ⊢
  have split := @List.takeWhile_append_dropWhile _ isBlank ((mask code).drop (i + 1))
  rw [trimLeft] at follows
  cases rest : ((mask code).drop (i + 1)).dropWhile isBlank with
  | nil =>
      rw [rest] at follows
      cases follows
  | cons k rest' =>
      rw [rest] at follows split
      have blank : ∀ b ∈ ((mask code).drop (i + 1)).takeWhile isBlank, isBlank b = true :=
        fun b among => List.mem_takeWhile_imp among
      generalize ((mask code).drop (i + 1)).takeWhile isBlank = blanks at split blank
      have behind : ∀ m, (mask code)[i + 1 + m]? = (blanks ++ k :: rest')[m]? := by
        intro m
        rw [← List.getElem?_drop, ← split]
      refine ⟨i + 1 + blanks.length, k, codeAt_of_mask stands (by decide) (by decide),
        Nat.le_add_right _ _, bracketAt_of_mask ?_ follows, follows, fun m low high => ?_⟩
      · rw [behind, List.getElem?_append_right (Nat.le_refl _), Nat.sub_self]
        rfl
      · obtain ⟨j, rfl⟩ := Nat.exists_eq_add_of_le low
        have inside : j < blanks.length := by omega
        rw [behind, List.getElem?_append_left inside, List.getElem?_eq_getElem inside]
        exact blank _ (List.getElem_mem inside)

/-! ### The token before the comma -/

/-- What is left of the masked text stands in code, but for the ends of literals and what an
interpolation starts with. -/
lemma behind_kept {c : Char} (kept : (st.step c next).1.isKept = true) (solid : isBlank c = false)
    (consistent : st.Consistent) :
    (st.step c next).2.InCode ∨
      (st.step c next).2.joined = none ∧ (c = '\x27' ∨ c = '\x22') ∧
        (st.step c next).2.mode = .string c ∨
      (st.step c next).2.joined = none ∧ (st.step c next).2.mode = .template ∨
      (st.step c next).2.joined = some .code := by
  cases joined : st.joined with
  | some kind =>
      have goes := consistent.joined kind joined
      simp only [State.step, joined] at kept ⊢
      cases kind with
      | code => exact .inl ⟨goes, rfl⟩
      | delimiter => exact goes.elim
      | string | comment | regex | template => cases kept
  | none =>
    cases inside : st.mode with
    | code =>
        rw [State.InCode.step_eq ⟨inside, joined⟩, State.stepCode_eq] at kept ⊢
        split_ifs at kept ⊢ with line block regex quote tick last
        · cases kept
        · cases kept
        · cases kept
        · exact .inr (.inl ⟨joined, quote, rfl⟩)
        · exact .inr (.inr (.inl ⟨joined, rfl⟩))
        · exact .inr (.inr (.inl ⟨joined, rfl⟩))
        · exact .inl ⟨by simp [State.plain, inside], by simp [State.plain, joined]⟩
    | lineComment =>
        simp only [State.step, joined, inside] at kept
        split_ifs at kept with feed
        · obtain rfl : c = '\n' := by simpa using feed
          cases solid
        · cases kept
    | blockComment =>
        simp only [State.step, joined, inside] at kept
        split_ifs at kept <;> cases kept
    | string quote =>
        simp only [State.step, joined, inside, State.stepString] at kept ⊢
        split_ifs at kept ⊢ with escape closing feed
        · cases kept
        · exact .inl ⟨rfl, rfl⟩
        · obtain rfl : c = '\n' := by simpa using feed
          cases solid
        · cases kept
    | regex inClass =>
        simp only [State.step, joined, inside, State.stepRegex] at kept
        split_ifs at kept with escape feed
        · cases kept
        · obtain rfl : c = '\n' := by simpa using feed
          cases solid
        all_goals cases kept
    | template =>
        simp only [State.step, joined, inside, State.stepTemplate] at kept ⊢
        split_ifs at kept ⊢ with escape tick dollar
        · cases kept
        · exact .inl ⟨rfl, rfl⟩
        · exact .inr (.inr (.inr rfl))
        · cases kept

/-- Such a token is that of an element, if it is no bracket and no comma. -/
lemma endsElement_of_mask {j : Nat} {x : Char} (stands : (mask code)[j]? = some x)
    (solid : isBlank x = false) (opens : isOpener x = false) (comma : x ≠ ',') :
    EndsElement code (j + 1) := by
  obtain ⟨here, kept⟩ := kept_of_mask stands solid
  have zipped : (code.zip (kinds code))[j]? =
      some (x, ((stateAt code j).step x code[j + 1]?).1) := by
    rw [List.getElem?_zip_eq_some, getElem?_kinds, here]
    exact ⟨rfl, rfl⟩
  refine ⟨(x, ((stateAt code j).step x code[j + 1]?).1), ?_, fun ⟨_, bracket⟩ => ?_⟩
  · rw [List.take_add_one, zipped, Option.toList_some, List.reverse_append, List.reverse_singleton,
      List.singleton_append, List.find?_cons_of_pos]
    rw [Bool.not_eq_true', Bool.eq_false_iff]
    intro idle
    rcases isIdle_iff.mp idle with comment | ⟨-, blank⟩
    · simp only at comment
      rw [comment] at kept
      cases kept
    · exact absurd (solid.symm.trans blank) (by decide)
  · rcases bracket with opener | same
    · exact absurd (opens.symm.trans opener) (by decide)
    · exact comma same

/-- What stands next to the token is idle, or the bracket. -/
lemma exists_next (calm : Calm code i c k) :
    ∃ y, code[i]? = some y ∧ ((kinds code)[i]? = some .comment ∨
      (kinds code)[i]? = some .code ∧ (isBlank y = true ∨ isCloser y = true)) := by
  rcases Nat.eq_or_lt_of_le calm.le with rfl | later
  · exact ⟨k, calm.bracket.here, .inr ⟨calm.bracket.code, .inr calm.closes⟩⟩
  · have idle := calm.idle i (Nat.le_refl _) later
    have there := List.getElem?_eq_getElem idle.lt
    refine ⟨_, there, idle.imp id fun ⟨code, blank⟩ => ⟨code, .inl ?_⟩⟩
    simpa [there] using blank

/-- In a string a comma does not count. -/
lemma codeCount_insert_of_string {j : Nat} {x : Char} (here : code[j]? = some x)
    (quoted : x = '\x27' ∨ x = '\x22') (alone : (stateAt code (j + 1)).joined = none)
    (inside : (stateAt code (j + 1)).mode = .string x) :
    codeCount ',' (code.take (j + 1) ++ ',' :: code.drop (j + 1)) = codeCount ',' code := by
  have last : (code.take (j + 1)).getLast? = some x := by simp [List.take_add_one, here]
  have apart : x ∉ ['/', '*', '$'] := by rcases quoted with rfl | rfl <;> decide
  have other : ',' ≠ x := by rcases quoted with rfl | rfl <;> decide
  have alike : ∀ b ∈ (code.take (j + 1)).getLast?, ∀ st : State,
      st.step b (code.drop (j + 1)).head? = st.step b (',' :: code.drop (j + 1)).head? := by
    rw [last]
    rintro _ ⟨⟩ st
    exact State.step_solid apart _ _
  obtain ⟨front, st, length, masked, masked', reached, -⟩ := exists_mask_append _ alike
  have within : j + 1 ≤ code.length := (List.getElem?_eq_some_iff.mp here).1
  rw [List.take_append_drop] at masked reached
  rw [List.length_take_of_le within] at reached
  subst reached
  have read : ∀ next, (stateAt code (j + 1)).step ',' next = (.string, stateAt code (j + 1)) := by
    intro next
    simp [State.step, alone, inside, State.stepString, other]
  rw [codeCount, codeCount, masked, masked', State.masks_cons, read]
  simp [Kind.masked, Kind.isKept]

/-- **A comma that counts** is put in where the scanner is in code. -/
lemma inCode_of_insert {j : Nat} {x : Char} (calm : Calm code (j + 1) c k)
    (stands : (mask code)[j]? = some x) (solid : isBlank x = false)
    (counts : codeCount ',' (code.take (j + 1) ++ ',' :: code.drop (j + 1)) ≠ codeCount ',' code) :
    (stateAt code (j + 1)).InCode := by
  obtain ⟨here, kept⟩ := kept_of_mask stands solid
  obtain ⟨y, there, idle⟩ := exists_next calm
  rw [getElem?_kinds, there, Option.map_some, Option.some_inj, Option.some_inj] at idle
  have cases := behind_kept kept solid (consistent_stateAt code j)
  rw [← stateAt_succ here] at cases
  rcases cases with inCode | ⟨alone, quoted, inside⟩ | ⟨alone, inside⟩ | joined
  · exact inCode
  · exact absurd (codeCount_insert_of_string here quoted alone inside) counts
  · simp only [State.step, alone, inside, State.stepTemplate] at idle
    split_ifs at idle with escape tick dollar
    · simp at idle
    · simp at idle
    · rw [Bool.and_eq_true, beq_iff_eq] at dollar
      obtain ⟨rfl, -⟩ := dollar
      rcases idle with comment | ⟨-, plain⟩
      · cases comment
      · exact absurd plain (by decide)
    · simp at idle
  · have brace := brace_of_joined joined (List.getElem?_eq_some_iff.mp there).1
    obtain rfl : y = '{' := Option.some.inj (there.symm.trans brace)
    rw [State.step, joined] at idle
    rcases idle with comment | ⟨-, plain⟩
    · cases comment
    · exact absurd plain (by decide)

/-! ### The repair -/

/-- A program's brackets fit. -/
lemma wellNested_of_isProgram {after : Text} (program : isProgram accepts after = true) :
    WellNested (bracketsIn after) := by
  rw [← bracketFaults_eq_nil_iff]
  rw [isProgram, syntaxFault?] at program
  split at program
  · cases program
  · assumption

/-- **As many elements.** A repair by the built-in fixer of `comma-dangle` puts a comma in behind
the last token of an element, or takes one out, in front of a closing bracket in the masked text.
Where nothing but blanks and comments stands before the bracket, it closes a list, before and
after; a comma put in leaves as many elements, and one taken out just if it stands behind the
last token of an element. -/
theorem elements_of_fix (builtin : builtin? accepts o "comma-dangle" = some f)
    (fix : f.fix code d = .ok r) (success : r.isSuccess = true) :
    ∃ i c k,
      Comma.isWanted d.message = true ∧ r.code = code.take i ++ ',' :: code.drop i ∧
        ClosesBehind code i c k ∧ EndsElement code i ∧
        (Calm code i c k → ∃ b, ListAt code b c ∧ ListAt r.code b (c + 1) ∧
          elementCount r.code b (c + 1) = elementCount code b c) ∨
      Comma.isWanted d.message = false ∧ r.code = code.eraseIdx i ∧
        CodeAt code i ',' ∧ ClosesBehind code (i + 1) c k ∧
        (Calm code (i + 1) c k → (∀ j, j + 1 = i → ¬ CodeAt code j '/') →
          ∃ b, ListAt code b c ∧ ListAt r.code b (c - 1) ∧
            (elementCount r.code b (c - 1) = elementCount code b c ↔ EndsElement code i)) := by
  cases builtin
  obtain ⟨-, edit, valid⟩ := edit_of_fixer fix success
  obtain ⟨-, program, keeps⟩ := validates_iff.mp valid
  have fits := wellNested_of_isProgram program
  cases wanted : Comma.isWanted d.message with
  | true =>
      simp only [Comma.commaDangle, wanted, if_true] at edit
      split at edit
      · cases edit
      next i found =>
      obtain ⟨c, k, j, x, rfl, closes, stands, solid, opens, comma⟩ := exists_of_insertion? found
      have text : r.code = code.take (j + 1) ++ ',' :: code.drop (j + 1) := by
        rw [← Except.ok.inj edit, splice, List.append_assoc, List.singleton_append]
      have ends := endsElement_of_mask stands solid opens comma
      refine ⟨j + 1, c, k, .inl ⟨rfl, text, closes, ends, fun calm => ?_⟩⟩
      rw [text] at fits keeps ⊢
      have counts : codeCount ',' (code.take (j + 1) ++ ',' :: code.drop (j + 1)) ≠
          codeCount ',' code := by
        intro same
        simp [Comma.commaDangle, same, distance] at keeps
      obtain ⟨b, list, list', count⟩ :=
        calm.exists_listAt_insert (inCode_of_insert calm stands solid counts) fits
      exact ⟨b, list, list', count.mpr ends⟩
  | false =>
      simp only [Comma.commaDangle, wanted, Bool.false_eq_true, if_false] at edit
      split at edit
      · cases edit
      next i found =>
      obtain ⟨c, k, comma, closes⟩ := exists_of_dangling? found
      have text : r.code = code.eraseIdx i := by
        rw [← Except.ok.inj edit, splice, List.append_nil, List.eraseIdx_eq_take_drop_succ]
      refine ⟨i, c, k, .inr ⟨rfl, text, comma, closes, fun calm slash => ?_⟩⟩
      rw [text] at fits ⊢
      exact calm.exists_listAt_remove comma slash fits

/-- A list over two lines, the last element with a comment behind it. -/
def commented : Diagnostic :=
  { rule := some "comma-dangle", message := "Missing trailing comma.", line := 2, column := 4 }

theorem elements_of_fix_commented :
    let code := "f([a,\n  b /* c */\n]);".toList
    ∃ f r b, builtin? Grammar.accepts {} "comma-dangle" = some f ∧ f.fix code commented = .ok r ∧
      r.isSuccess = true ∧ r.code = "f([a,\n  b, /* c */\n]);".toList ∧ ListAt code b 18 ∧
      ListAt r.code b 19 ∧ elementCount r.code b 19 = elementCount code b 18 := by
  intro code
  let f := simple Grammar.accepts "CommaDangleFixer" "comma-dangle"
    "Add or remove trailing commas" Comma.commaDangle
  have builtin : builtin? Grammar.accepts {} "comma-dangle" = some f := rfl
  have fix : f.fix code commented = .ok { code := "f([a,\n  b, /* c */\n]);".toList } := by
    decide +kernel
  obtain ⟨i, c, k, ⟨-, text, closes, -, counts⟩ | ⟨other, -⟩⟩ := elements_of_fix builtin fix rfl
  · have within : c < 21 := (List.getElem?_eq_some_iff.mp closes.bracket.here).1
    have behind : ∀ i < 21, "f([a,\n  b, /* c */\n]);".toList = code.take i ++ ',' :: code.drop i →
        i = 9 := by decide
    obtain rfl : i = 9 := behind i (by have := closes.le; omega) text
    have closers : ∀ c < 21, code[c]?.any isCloser = true → c = 18 ∨ c = 19 := by decide
    obtain rfl | rfl := closers c within (by rw [closes.bracket.here]; exact closes.closes)
    · have idle : ∀ m < 18, 9 ≤ m → Idle code m := by decide +kernel
      obtain ⟨b, list, list', count⟩ := counts
        ⟨closes.le, closes.bracket, closes.closes, fun m low high => idle m high low⟩
      exact ⟨f, _, b, builtin, fix, rfl, rfl, list, list', count⟩
    · have solid : (mask code)[18]?.any isBlank = false := by decide +kernel
      exact absurd (closes.blank 18 (by decide) (by decide)) (by rw [solid]; decide)
  · exact absurd other (by decide)

/-- A hole at the end of a list. -/
theorem elements_of_fix_not : ¬ ∀ (code : Text) (d : Diagnostic) (f : Fixer) (r : FixResult),
    builtin? Grammar.accepts {} "comma-dangle" = some f → f.fix code d = .ok r →
      r.isSuccess = true → Comma.isWanted d.message = false →
      ∃ i, CodeAt code i ',' ∧ r.code = code.eraseIdx i ∧ EndsElement code i := by
  intro always
  let code := "x = [1, ,];".toList
  let d : Diagnostic :=
    { rule := some "comma-dangle", message := "Unexpected trailing comma.", line := 1, column := 9 }
  obtain ⟨i, comma, text, x, last, other⟩ := always code d _ { code := "x = [1, ];".toList } rfl
    (by decide +kernel) rfl (by decide)
  have within : i < 11 := (List.getElem?_eq_some_iff.mp comma.2).1
  have behind : ∀ i < 11, "x = [1, ];".toList = code.eraseIdx i → i = 8 := by decide
  obtain rfl := behind i within text
  have comma' : ((code.zip (kinds code)).take 8).reverse.find? (!isIdle ·) = some (',', .code) := by
    decide +kernel
  obtain rfl := Option.some.inj (comma'.symm.trans last)
  exact other ⟨rfl, .inr rfl⟩

end LintRepair.Rules
