/-
Declarations in the text around them.

* `DeclarationAt`: the keyword of a declaration, with what follows it as it is or exchanged;
* `StatementEnds`: what a statement can end at;
* `listAt`: the text of the declarators; `DeclarationAt.mask_list`: it is masked as a text of its
  own, and `DeclarationAt.not_breaks`: no statement ends in it;
* `parseDeclaration_eq`: what is read at a keyword that is in no head of a loop.
-/
import LintRepair.Proofs.Code.Binds
import LintRepair.Proofs.Code.Listed
import LintRepair.Proofs.Lexical.Edit
import LintRepair.Proofs.Text.Around

namespace LintRepair.Code

open Text Lexical

variable {code m word p : Text} {i k start : Nat}

/-! ### The keyword -/

/-- The keywords of declarations. -/
def declarationWords : List Text := ["var", "let", "const"].map String.toList

/-- A keyword of a declaration stands at an offset of a masked text, with a blank behind it. -/
structure DeclarationAt (m word : Text) (k : Nat) : Prop where
  among : word ∈ declarationWords
  here : word <+: m.drop k
  blank : startsIn isBlank (m.drop (k + word.length)) = true

namespace DeclarationAt

lemma letters (h : DeclarationAt m word k) :
    word ≠ [] ∧ ∀ c ∈ word, ('a' ≤ c && c ≤ 'z') = true ∧ isName c = true ∧ isBlank c = false ∧
      c ∉ ['/', '*', '$'] := by
  have all : declarationWords.all (fun word => !word.isEmpty && word.all fun c =>
      'a' ≤ c && c ≤ 'z' && isName c && !isBlank c && !(['/', '*', '$'].contains c)) = true := by
    decide
  simpa [and_assoc] using List.all_eq_true.mp all word h.among

/-- The keyword and what follows it. -/
lemma drop_eq (h : DeclarationAt m word k) : m.drop k = word ++ m.drop (k + word.length) := by
  obtain ⟨rest, parts⟩ := h.here
  rw [← List.drop_drop, ← parts, List.drop_left]

lemma le_length (h : DeclarationAt m word k) : k + word.length ≤ m.length := by
  have short := h.here.length_le
  have some' := List.length_pos_of_ne_nil h.letters.1
  rw [List.length_drop] at short
  omega

/-- It is read up to the blank behind it. -/
lemma takeWhile_eq (h : DeclarationAt m word k) :
    ((m.drop k).takeWhile fun c => 'a' ≤ c && c ≤ 'z') = word := by
  have blank := h.blank
  rw [h.drop_eq, List.takeWhile_append_of_pos fun c among => (h.letters.2 c among).1]
  cases rest : m.drop (k + word.length) with
  | nil => simp
  | cons c rest' =>
      rw [rest] at blank
      have other : ('a' ≤ c && c ≤ 'z') = false := by
        have low : ∀ n ∈ blankCodes, ¬ (97 ≤ n ∧ n ≤ 122) := by decide
        have code := low c.toNat (toNat_mem_blankCodes (by simpa [startsIn] using blank))
        by_contra letter
        rw [Bool.not_eq_false, Bool.and_eq_true, decide_eq_true_eq, decide_eq_true_eq] at letter
        exact code letter
      rw [List.takeWhile_cons_of_neg (by simp [other]), List.append_nil]

lemma getElem?_eq (h : DeclarationAt m word k) (within : i < word.length) :
    m[k + i]? = word[i]? := by
  rw [← List.getElem?_drop, h.drop_eq, List.getElem?_append_left within]

/-- It stands in the text as in the masked text. -/
lemma slice_eq (h : DeclarationAt (mask code) word k) : slice code k (k + word.length) = word := by
  have long := h.le_length
  rw [length_mask] at long
  refine List.ext_getElem (by rw [length_slice (Nat.le_add_right _ _) long]; omega) ?_
  intro i low high
  have stands := h.getElem?_eq high
  rw [List.getElem?_eq_getElem high] at stands
  have solid := (h.letters.2 _ (List.getElem_mem high)).2.2.1
  have kept := (kept_of_mask stands solid).1
  have place := @getElem?_slice code k (k + word.length) (k + i) (Nat.le_add_right _ _) (by omega)
  rw [Nat.add_sub_cancel_left, kept, List.getElem?_eq_getElem low] at place
  exact Option.some.inj place

/-- The scanner is in code behind it. -/
lemma inCode (h : DeclarationAt (mask code) word k) : (stateAt code (k + word.length)).InCode := by
  have blank := h.blank
  have some' := List.length_pos_of_ne_nil h.letters.1
  have last : word.length - 1 < word.length := by omega
  have stands := h.getElem?_eq last
  rw [List.getElem?_eq_getElem last] at stands
  have name := (h.letters.2 _ (List.getElem_mem last)).2.1
  have place : k + (word.length - 1) + 1 = k + word.length := by omega
  have apart : (mask code)[k + (word.length - 1) + 1]? ≠ some '{' := by
    rw [place]
    intro brace
    rw [startsIn, List.head?_drop, brace] at blank
    cases blank
  have behind := (inCode_of_mask stands (.inl name) apart).2
  rwa [place] at behind

/-- The text up to the end of the keyword. -/
lemma take_eq (h : DeclarationAt (mask code) word k) :
    code.take (k + word.length) = code.take k ++ word := by
  have same := h.slice_eq
  rw [slice, Nat.add_sub_cancel_left] at same
  rw [List.take_add, same]

/-- Whatever follows it, the text is masked as before up to there, and the scanner is led to
the same state. -/
lemma mask_append (h : DeclarationAt (mask code) word k) (rest : Text) :
    mask (code.take (k + word.length) ++ rest) =
      (mask code).take (k + word.length) ++ (stateAt code (k + word.length)).masks rest := by
  have within : k + word.length ≤ code.length := length_mask code ▸ h.le_length
  have alike : ∀ c ∈ (code.take (k + word.length)).getLast?, ∀ st : State,
      st.step c (code.drop (k + word.length)).head? = st.step c rest.head? := by
    intro c last st
    rw [h.take_eq, List.getLast?_append_of_ne_nil _ h.letters.1] at last
    exact State.step_solid (h.letters.2 c (List.mem_of_mem_getLast? last)).2.2.2 _ _
  obtain ⟨front, st, length, masked, masked', place, -⟩ := exists_mask_append _ alike
  rw [List.take_append_drop] at masked place
  rw [List.length_take_of_le within] at place length
  rw [masked', masked, ← length, List.take_left, ← place, length]

end DeclarationAt

/-! ### Where the declaration ends -/

/-- What a statement ends at that starts at an offset of a text. -/
inductive StatementEnds (code : Text) (start stop : Nat) : Prop
  | text (last : stop = code.length)
  | semicolon (some' : start < stop) (behind : code[stop - 1]? = some ';')
  | closer {c : Char} (here : code[stop]? = some c) (closes : isCloser c = true)
  | feed (here : code[stop]? = some '\n')
      (before : startsIn continuesBefore (trimLeft ((mask code).drop (stop + 1))) = false)

lemma of_isCloser {c : Char} (closes : isCloser c = true) :
    isBlank c = false ∧ Neutral (some c) ∧ c ≠ ';' ∧ c ≠ '/' := by
  simp only [isCloser, Bool.or_eq_true, beq_iff_eq] at closes
  rcases closes with (rfl | rfl) | rfl <;> decide

lemma statementEnd_eq (within : start ≤ m.length) :
    statementEnd m start = start + statementLength [] 0 (m.drop start) ∧
      statementEnd m start ≤ m.length := by
  have short := (statementLength_cases (t := m.drop start) rfl).1
  rw [List.length_drop] at short
  rw [statementEnd]
  omega

lemma statementEnd_le (within : start ≤ code.length) :
    start ≤ statementEnd (mask code) start ∧ statementEnd (mask code) start ≤ code.length := by
  obtain ⟨stop_eq, high⟩ := @statementEnd_eq (mask code) start (by rwa [length_mask])
  rw [length_mask] at high
  exact ⟨by omega, high⟩

lemma statementEnds (within : start ≤ code.length) :
    StatementEnds code start (statementEnd (mask code) start) := by
  have within' : start ≤ (mask code).length := by rwa [length_mask]
  obtain ⟨stop_eq, last⟩ := @statementEnd_eq (mask code) start within'
  obtain ⟨-, -, ends⟩ := statementLength_cases (t := (mask code).drop start) rfl
  generalize statementLength [] 0 ((mask code).drop start) = n at stop_eq ends
  rw [List.length_drop, length_mask] at ends
  rw [length_mask] at last
  rw [stop_eq] at last ⊢
  by_cases more : n < code.length - start
  swap
  · exact .text (by omega)
  rcases ends more with ⟨stops, other⟩ | ⟨i, semicolon, rfl⟩
  · rw [List.getElem?_drop] at other
    cases stops with
    | semicolon here => exact absurd (List.getElem?_drop ▸ here) other
    | closer here closes =>
        rw [List.getElem?_drop] at here
        exact .closer (kept_of_mask here (of_isCloser closes).1).1 closes
    | feed here level behind before =>
        rw [List.getElem?_drop] at here
        rw [List.drop_drop] at before
        exact .feed (getElem?_mask_eq_newline_iff.mp here) before
  · rw [List.getElem?_drop] at semicolon
    exact .semicolon (by omega) (kept_of_mask semicolon (by decide)).1

/-! ### The list in the masked text -/

/-- The text of a list of declarators that starts at an offset and ends where the statement
does. -/
def listAt (code : Text) (start : Nat) : Text :=
  dropEndWhile (· == ';') (trimRight (slice code start (statementEnd (mask code) start)))

/-- It is followed by semicolons and blanks. -/
lemma exists_listAt (code : Text) (start : Nat) :
    ∃ v, slice code start (statementEnd (mask code) start) = listAt code start ++ v ∧
      (∀ c ∈ v, c = ';' ∨ isBlank c = true) ∧ ∀ c ∈ (listAt code start).getLast?, c ≠ ';' := by
  obtain ⟨blanks, parts, blank, -⟩ :=
    exists_dropEndWhile isBlank (slice code start (statementEnd (mask code) start))
  obtain ⟨semicolons, parts', semicolon, last⟩ := exists_dropEndWhile (· == ';')
    (trimRight (slice code start (statementEnd (mask code) start)))
  refine ⟨semicolons ++ blanks, ?_, ?_, fun c here => by simpa using last c here⟩
  · rw [← List.append_assoc, listAt, ← parts']
    exact parts
  · intro c among
    rcases List.mem_append.mp among with h | h
    · exact .inl (by simpa using semicolon c h)
    · exact .inr (blank c h)

lemma slice_listAt (within : start ≤ code.length) :
    slice code start (start + (listAt code start).length) = listAt code start ∧
      start + (listAt code start).length ≤ statementEnd (mask code) start := by
  obtain ⟨low, high⟩ := statementEnd_le within
  obtain ⟨v, parts, -⟩ := exists_listAt code start
  have long := congrArg List.length parts
  rw [length_slice low high, List.length_append] at long
  have first : slice code start (start + (listAt code start).length) =
      (slice code start (statementEnd (mask code) start)).take (listAt code start).length := by
    rw [slice, slice, List.take_take, Nat.add_sub_cancel_left, Nat.min_eq_left (by omega)]
  exact ⟨by rw [first, parts, List.take_left], by omega⟩

/-- What follows it has no say in how it is read. -/
lemma neutral_behind_list (within : start ≤ code.length) :
    Neutral code[start + (listAt code start).length]? := by
  obtain ⟨v, parts, behind, last⟩ := exists_listAt code start
  have ends := statementEnds within
  obtain ⟨low, high⟩ := statementEnd_le within
  generalize statementEnd (mask code) start = stop at parts ends low high
  generalize listAt code start = list at parts last
  have whole : code.drop start = list ++ (v ++ code.drop stop) := by
    rw [drop_eq_slice_append low, parts, List.append_assoc]
  rw [← List.getElem?_drop, whole, List.getElem?_append_right (Nat.le_refl _), Nat.sub_self]
  cases v with
  | cons c v =>
      rcases behind c List.mem_cons_self with rfl | blank
      · exact show Neutral (some ';') by decide
      · exact neutral_of_isBlank blank
  | nil =>
      rw [List.nil_append, ← List.head?_eq_getElem?, List.head?_drop]
      cases ends with
      | text last =>
          rw [last, List.getElem?_eq_none (Nat.le_refl _)]
          exact neutral_none
      | closer here closes =>
          rw [here]
          exact (of_isCloser closes).2.1
      | feed here =>
          rw [here]
          decide
      | semicolon some' here =>
          -- The semicolon would be taken off.
          refine absurd rfl (last ';' ?_)
          rw [List.append_nil] at parts
          rw [← parts, List.getLast?_eq_getElem?, length_slice low high, Option.mem_def, ← here,
            ← @getElem?_slice code start stop (stop - 1) (by omega) (by omega)]
          congr 1
          omega

/-- Whether a text starts as the target of a declarator does. -/
def startsTarget (t : Text) : Bool := startsIn (fun c => isNameStart c || c == '[' || c == '{') t

lemma of_startsTarget {t : Text} (starts : startsTarget t = true) : ∃ c rest, t = c :: rest ∧
    isBlank c = false ∧ c ∉ ['/', '\x27', '\x22', '\x60', '}', '('] := by
  cases t with
  | nil => cases starts
  | cons c rest =>
      refine ⟨c, rest, rfl, ?_⟩
      simp only [startsTarget, startsIn, List.head?_cons, Option.any_some, Bool.or_eq_true,
        beq_iff_eq] at starts
      rcases starts with (start | rfl) | rfl
      · have name := isName_of_isNameStart start
        refine ⟨?_, ?_⟩
        · by_contra blank
          rw [isName_of_isBlank (by simpa using blank)] at name
          cases name
        · simp only [List.mem_cons, List.not_mem_nil, or_false, not_or]
          refine ⟨?_, ?_, ?_, ?_, ?_, ?_⟩ <;> rintro rfl <;> exact absurd start (by decide)
      · decide
      · decide

/-- Behind the keyword, a list of declarators can be read as a text of its own. -/
lemma DeclarationAt.starts {t : Text} (h : DeclarationAt (mask code) word k)
    (blank : startsIn isBlank t = true) (first : startsTarget (trimLeft t) = true) :
    (stateAt code (k + word.length)).Starts t := by
  obtain ⟨c, rest, shape, -, plain⟩ := of_startsTarget first
  have within : k + word.length ≤ code.length := length_mask code ▸ h.le_length
  exact ⟨h.inCode, .inr blank, counts_stateAt within, .inr ⟨c, by rw [shape]; rfl, plain⟩⟩

/-- So the list is masked as one. -/
lemma DeclarationAt.mask_list (h : DeclarationAt (mask code) word k)
    (blank : startsIn isBlank (listAt code (k + word.length)) = true)
    (first : startsTarget (trimLeft (listAt code (k + word.length))) = true)
    (paired : Paired (mask (listAt code (k + word.length)))) :
    ∃ behind,
      (mask code).drop (k + word.length) = mask (listAt code (k + word.length)) ++ behind := by
  have within : k + word.length ≤ code.length := length_mask code ▸ h.le_length
  have starts := h.starts blank first
  have neutral := neutral_behind_list within
  obtain ⟨list_eq, high⟩ := slice_listAt within
  have high' := Nat.le_trans high (statementEnd_le within).2
  have same := (slice_mask_of_starts (Nat.le_add_right _ _) high' (list_eq.symm ▸ starts) neutral
    (list_eq.symm ▸ paired.parens) (list_eq.symm ▸ paired.braces)).1
  rw [list_eq] at same
  exact ⟨(mask code).drop (k + word.length + (listAt code (k + word.length)).length), by
    rw [← same, ← drop_eq_slice_append (Nat.le_add_right _ _)]⟩

/-- The declaration does not break off in one of its declarators. -/
lemma DeclarationAt.not_breaks (h : DeclarationAt (mask code) word k)
    (blank : startsIn isBlank (listAt code (k + word.length)) = true)
    (first : startsTarget (trimLeft (listAt code (k + word.length))) = true)
    (paired : Paired (mask (listAt code (k + word.length))))
    (among : p ∈ (splitTopLevel ',' (listAt code (k + word.length))).map trim)
    (paired' : Paired (mask p)) (i : Nat) : ¬ Breaks (mask p) i := by
  intro breaks
  have within : k + word.length ≤ code.length := length_mask code ▸ h.le_length
  obtain ⟨behind, shape⟩ := h.mask_list blank first paired
  obtain ⟨pre, post, parts, level, -⟩ := exists_of_mem_items among paired'
  have stops := breaks.stopsAt level (post ++ behind)
  have low := breaks.stops.lt
  rw [← List.append_assoc (mask p), ← List.append_assoc, ← parts, ← shape] at stops
  have long := congrArg List.length parts
  rw [length_mask, List.length_append, List.length_append] at long
  have inside := (slice_listAt within).2
  obtain ⟨stop_eq, -⟩ := @statementEnd_eq (mask code) (k + word.length) (by rwa [length_mask])
  obtain ⟨-, goesOn, -⟩ := statementLength_cases (t := (mask code).drop (k + word.length)) rfl
  obtain ⟨semicolon, last⟩ := goesOn _ (by omega) stops
  -- A semicolon there would be the last character of the list.
  have whole : (listAt code (k + word.length)).length = pre.length + i + 1 := by omega
  rw [List.getElem?_drop] at semicolon
  have here := (kept_of_mask semicolon (by decide)).1
  have place := @getElem?_slice code (k + word.length)
    (k + word.length + (listAt code (k + word.length)).length) (k + word.length + (pre.length + i))
    (by omega) (by omega)
  obtain ⟨-, -, -, other⟩ := exists_listAt code (k + word.length)
  rw [(slice_listAt within).1, Nat.add_sub_cancel_left, here] at place
  refine other ';' ?_ rfl
  rw [List.getLast?_eq_getElem?, whole]
  exact place

/-! ### What is read -/

/-- A declaration that is in no head of a loop. -/
lemma parseDeclaration_eq (h : DeclarationAt (mask code) word k)
    (plain : endsWithForHead ((mask code).take k) = false) :
    let decl := parseDeclaration code (mask code) k
    decl.keyword = word ∧ decl.bodyStart = k + word.length ∧
      decl.stop = Code.statementEnd (mask code) (k + word.length) ∧
      decl.body code = listAt code (k + word.length) ∧
      decl.declarators = ((splitTopLevel ',' (listAt code (k + word.length))).map trim).filter
        (! ·.isEmpty) ∧
      decl.names = decl.declarators.flatMap bindingNames := by
  have bodyStart := bodyStart_parseDeclaration code (mask code) k
  have stop := stop_parseDeclaration code (mask code) k
  rw [h.takeWhile_eq] at bodyStart
  rw [bodyStart] at stop
  have body : (parseDeclaration code (mask code) k).body code = listAt code (k + word.length) := by
    rw [Declaration.body, bodyStart, stop, listAt]
  refine ⟨?_, bodyStart, stop, body, ?_, ?_⟩ <;>
    simp only [parseDeclaration, h.takeWhile_eq, plain, listAt, Bool.false_eq_true, if_false]

lemma plain_of_forKind (none' : (parseDeclaration code (mask code) k).forKind = none) :
    endsWithForHead ((mask code).take k) = false := by
  by_contra inHead
  rw [Bool.not_eq_false] at inHead
  simp only [parseDeclaration, inHead, if_true] at none'
  split at none' <;> cases none'

/-- The keyword stands as before where other blanks and texts follow it. -/
lemma DeclarationAt.append {rest : Text} (h : DeclarationAt (mask code) word k)
    (blank : startsIn isBlank rest = true) :
    DeclarationAt (mask (code.take (k + word.length) ++ rest)) word k := by
  have start : ((mask code).take (k + word.length)).length = k + word.length :=
    List.length_take_of_le h.le_length
  rw [h.mask_append]
  refine ⟨h.among, ?_, ?_⟩
  · rw [List.drop_append_of_le_length (by rw [start]; exact Nat.le_add_right _ _), List.drop_take,
      Nat.add_sub_cancel_left, h.drop_eq, List.take_left]
    exact List.prefix_append _ _
  · rw [List.drop_left' start]
    cases rest with
    | nil => cases blank
    | cons c rest =>
        rw [State.masks_cons]
        exact Kind.isBlank_masked_of_isBlank _ (by simpa [startsIn] using blank)

end LintRepair.Code
