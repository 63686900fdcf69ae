/-
What `no-console` leaves of the code around a call.

* `IsCall`, `Swallows`: the call of a console method in a masked text, and where it ends with a
  semicolon that is taken with it;
* `Filled`, `cutEnd`, `reach`: whether a call fills its lines, and what of the text goes with it;
* `silent_commentLines`: lines are silent as comments;
* `silence_of_fix`: where nothing else depends on what goes, the masked text but for its blanks
  is as it was without the call.
-/
import LintRepair.Proofs.Lexical.Edit
import LintRepair.Proofs.Lexical.Excised
import LintRepair.Proofs.Rules.Braced
import LintRepair.Proofs.Rules.Requote
import LintRepair.Proofs.Rules.Search
import LintRepair.Proofs.Rules.Whole

namespace LintRepair.Rules

open Text Lexical Code Check Repair Console

variable {code after m t : Text} {d : Diagnostic} {start stop cut : Nat}

/-! ### A call -/

/-- The call of a console method in a masked text. -/
inductive IsCall (m : Text) (start : Nat) : Nat → Prop
  | intro {head mid rest : Text} (word : "console".toList <+: head)
      (apart : ∀ c ∈ head, c ≠ '(' ∧ c ≠ ')') (paired : Closed '(' ')' mid)
      (shape : m.drop start = head ++ ('(' :: (mid ++ [')'])) ++ rest) :
      IsCall m start (start + (head.length + (mid.length + 2)))

/-- What a call starts with, up to its opening parenthesis. -/
lemma exists_of_callLength? {n : Nat} (found : callLength? t = some n) :
    ∃ head rest, t = head ++ '(' :: rest ∧ n = head.length + 1 ∧ "console".toList <+: head ∧
      ∀ c ∈ head, c ≠ '(' ∧ c ≠ ')' := by
  have cutLeft : ∀ u : Text, u = leadingBlanks u ++ trimLeft u := fun u =>
    List.takeWhile_append_dropWhile.symm
  have blanks : ∀ u : Text, ∀ c ∈ leadingBlanks u, c ≠ '(' ∧ c ≠ ')' := fun u c among => by
    have blank : isBlank c = true := by simpa using List.mem_takeWhile_imp among
    exact ⟨ne_of_isBlank blank (by decide), ne_of_isBlank blank (by decide)⟩
  have word : ∀ c ∈ "console".toList, c ≠ '(' ∧ c ≠ ')' := by simp
  have names : ∀ w ∈ methods, ∀ c ∈ w, c ≠ '(' ∧ c ≠ ')' := by
    have all : methods.all (fun w => w.all fun c => c != '(' && c != ')') = true := by decide
    simpa using all
  rw [callLength?] at found
  dsimp only at found
  split_ifs at found with starts
  have starts : "console".toList <+: t := by simpa [startsWith] using starts
  obtain ⟨t₁, rfl⟩ := starts
  rw [List.drop_left] at found
  split at found
  · next u dot =>
    obtain ⟨w, among, found⟩ := List.exists_of_findSome?_eq_some found
    split_ifs at found with spelled
    obtain ⟨t₂, parts⟩ : w <+: trimLeft u := List.isPrefixOf_iff_prefix.mp spelled
    rw [← parts, List.drop_left] at found
    split at found
    · next behind paren =>
      -- Between the words and signs of the head stand blanks.
      have shape : t₁ = leadingBlanks t₁ ++ '.' :: (leadingBlanks u ++ (w ++ (leadingBlanks t₂ ++
          '(' :: behind))) := by
        conv_lhs => rw [cutLeft t₁, dot, cutLeft u, ← parts, cutLeft t₂, paren]
      refine ⟨"console".toList ++ (leadingBlanks t₁ ++ '.' :: (leadingBlanks u ++ (w ++
        leadingBlanks t₂))), behind, ?_, ?_, List.prefix_append _ _, ?_⟩
      · conv_lhs => rw [shape]
        simp
      · cases found
        have length := congrArg List.length shape
        simp only [List.length_append, List.length_cons] at length ⊢
        omega
      · simp only [List.forall_mem_append, List.forall_mem_cons]
        exact ⟨word, blanks t₁, by decide, blanks u, names w among, blanks t₂⟩
    · cases found
  · cases found

/-- Each call that is found stands in the text. -/
lemma exists_of_mem_callsFrom {prev : Option Char} {offset skipped : Nat} {call : Nat × Nat}
    (found : call ∈ callsFrom prev offset skipped t) :
    ∃ k n, callLength? (t.drop k) = some n ∧ call = (offset + k, offset + k + n - 1) := by
  induction t generalizing prev offset skipped with
  | nil => cases found
  | cons c rest ih =>
      have later : ∀ {prev skipped}, call ∈ callsFrom prev (offset + 1) skipped rest →
          ∃ k n, callLength? ((c :: rest).drop k) = some n ∧
            call = (offset + k, offset + k + n - 1) := by
        intro prev skipped found
        obtain ⟨k, n, length, same⟩ := ih found
        exact ⟨k + 1, n, length, by rw [same, Nat.add_assoc, Nat.add_comm 1 k]⟩
      cases skipped with
      | succ n => exact later found
      | zero =>
          rw [callsFrom] at found
          split at found
          · next n here =>
            rcases List.mem_cons.mp found with rfl | among
            · refine ⟨0, n, ?_, rfl⟩
              split_ifs at here
              exact here
            · exact later among
          · exact later found

/-- **The call** that a diagnostic points at. -/
lemma isCall_of_call? (found : call? code d = some (start, stop)) :
    IsCall (mask code) start stop := by
  simp only [call?, Option.bind_eq_bind, Option.bind_eq_some_iff, Option.pure_def,
    Option.some.injEq] at found
  obtain ⟨⟨start', paren⟩, nearest, close, matching, same⟩ := found
  cases same
  obtain ⟨k, n, length, call⟩ := exists_of_mem_callsFrom (mem_of_nearest? nearest)
  obtain ⟨head, rest, shape, rfl, word, apart⟩ := exists_of_callLength? length
  obtain ⟨rfl, rfl⟩ := Prod.mk.inj call
  rw [drop_slice] at shape
  generalize lineStartOf code d + k = start at shape matching
  generalize lineStartOf code d + (maskedLineOf code d).length = hi at shape
  -- Behind the part that is searched the masked text goes on.
  obtain ⟨more, whole⟩ : ∃ more, (mask code).drop start = head ++ ('(' :: (rest ++ more)) := by
    rw [slice] at shape
    refine ⟨((mask code).drop start).drop (hi - start), ?_⟩
    conv_lhs => rw [← List.take_append_drop (hi - start) ((mask code).drop start), shape]
    simp
  have paren : start + (head.length + 1) - 1 = start + head.length := by omega
  dsimp only at matching ⊢
  rw [paren] at matching
  have opening : (mask code)[start + head.length]? = some '(' := by
    rw [← List.getElem?_drop, whole, List.getElem?_append_right (Nat.le_refl _)]
    simp
  obtain ⟨mid, behind, inside, rfl, paired⟩ :=
    exists_of_findMatching rfl (by decide) opening matching
  have length : start + (head.length + (mid.length + 2)) =
      start + head.length + 1 + mid.length + 1 := by
    omega
  rw [← length]
  refine @IsCall.intro _ _ _ _ behind word apart paired ?_
  rw [← List.drop_drop, whole, List.drop_left] at inside
  rw [whole, inside]
  simp

namespace IsCall

/-- Where a call starts and ends. -/
lemma bounds (h : IsCall m start stop) : start < stop ∧ stop ≤ m.length ∧
    m[start]? = some 'c' ∧ m[stop - 1]? = some ')' := by
  cases h with
  | @intro head mid rest word apart paired shape =>
      obtain ⟨more, rfl⟩ := word
      have length := congrArg List.length shape
      simp only [List.length_append, List.length_cons, List.length_drop, List.length_nil]
        at length ⊢
      refine ⟨by omega, by omega, ?_, ?_⟩
      · have first := congrArg List.head? shape
        rw [List.head?_drop] at first
        rw [first]
        rfl
      · have last := congrArg (·[("console".toList ++ more).length + (mid.length + 1)]?) shape
        simp only [List.getElem?_drop] at last
        rw [show start + ("console".toList.length + more.length + (mid.length + 2)) - 1 =
          start + (("console".toList ++ more).length + (mid.length + 1)) by
            simp only [List.length_append]; omega, last, List.append_assoc,
          List.getElem?_append_right (Nat.le_add_right _ _)]
        simp

/-- Its parentheses have their partners. -/
lemma paired (h : IsCall m start stop) : Closed '(' ')' (slice m start stop) := by
  cases h with
  | @intro head mid rest word apart paired shape =>
      have part : slice m start (start + (head.length + (mid.length + 2))) =
          head ++ '(' :: (mid ++ [')']) := by
        rw [slice, shape, List.take_left']
        simp
      rw [part]
      exact (closed_of_notMem (fun among => (apart _ among).1 rfl) fun among =>
        (apart _ among).2 rfl).append (paired.enclosed (by decide))

/-- It starts in code. -/
lemma inCode (h : IsCall (mask code) start stop) : (stateAt code start).InCode :=
  (codeAt_of_mask h.bounds.2.2.1 (by decide) (by decide)).1

/-- It ends in code, in no word. -/
lemma ends (h : IsCall (mask code) start stop) :
    (stateAt code stop).InCode ∧ (stateAt code stop).inWord = false := by
  obtain ⟨low, -, -, last⟩ := h.bounds
  obtain ⟨inCode, here⟩ := codeAt_of_mask last (by decide) (by decide)
  have behind := stateAt_succ here
  rw [Nat.sub_add_cancel (Nat.one_le_of_lt low), inCode.step_closing] at behind
  rw [behind]
  exact ⟨⟨inCode.mode, inCode.alone⟩, rfl⟩

end IsCall

/-- A call ends, or it does with a semicolon behind it, in the same line. -/
inductive Swallows (m : Text) (stop : Nat) : Nat → Prop
  | bare : Swallows m stop stop
  | semicolon {blanks : Text} (blank : ∀ c ∈ blanks, isSpaceOrTab c = true)
      (here : blanks ++ [';'] <+: m.drop stop) : Swallows m stop (stop + (blanks.length + 1))

namespace Swallows

lemma bounds (h : Swallows m stop cut) (high : stop ≤ m.length) : stop ≤ cut ∧ cut ≤ m.length := by
  cases h with
  | bare => exact ⟨Nat.le_refl _, high⟩
  | semicolon blank here =>
      have length := here.length_le
      simp only [List.length_append, List.length_cons, List.length_nil, List.length_drop] at length
      omega

lemma slice_eq {blanks : Text} (here : blanks ++ [';'] <+: m.drop stop) :
    slice m stop (stop + (blanks.length + 1)) = blanks ++ [';'] := by
  obtain ⟨rest, shape⟩ := here
  rw [slice, ← shape, List.take_left']
  simp

/-- No bracket stands between. -/
lemma closed {up down : Char} (h : Swallows m stop cut) (pair : up ≠ ';' ∧ down ≠ ';')
    (solid : isBlank up = false ∧ isBlank down = false) : Closed up down (slice m stop cut) := by
  cases h with
  | bare => exact closed_of_notMem (by simp [slice]) (by simp [slice])
  | @semicolon blanks blank here =>
      have other : ∀ b, b ≠ ';' → isBlank b = false → b ∉ blanks ++ [';'] := by
        intro b semicolon solid among
        rcases List.mem_append.mp among with inside | last
        · exact ne_of_isBlank (isBlank_of_isSpaceOrTab (blank b inside)) solid rfl
        · exact semicolon (List.mem_singleton.mp last)
      rw [slice_eq here]
      exact closed_of_notMem (other up pair.1 solid.1) (other down pair.2 solid.2)

/-- What is taken with the call ends in code, in no word. -/
lemma ends (h : Swallows (mask code) stop cut)
    (behind : (stateAt code stop).InCode ∧ (stateAt code stop).inWord = false) :
    (stateAt code cut).InCode ∧ (stateAt code cut).inWord = false := by
  cases h with
  | bare => exact behind
  | @semicolon blanks blank here =>
      have last : (mask code)[stop + blanks.length]? = some ';' := by
        obtain ⟨rest, shape⟩ := here
        rw [← List.getElem?_drop, ← shape]
        simp
      obtain ⟨inCode, here⟩ := codeAt_of_mask last (by decide) (by decide)
      rw [← Nat.add_assoc, stateAt_succ here, inCode.step_plain (by decide)]
      exact ⟨⟨inCode.mode, by simpa using inCode.alone⟩, rfl⟩

end Swallows

/-! ### What goes with a call -/

/-- Where the statement of a call ends: behind its semicolon, if it has one. -/
def statementEnd (m : Text) (stop : Nat) : Nat :=
  let blanks := ((m.drop stop).takeWhile isSpaceOrTab).length
  if m[stop + blanks]? = some ';' then stop + blanks + 1 else stop

/-- Whether a call fills its lines, and is no body of a control statement. -/
def fillsLines (code : Text) (start stop : Nat) : Bool :=
  let m := mask code
  (trim (slice m (lineStartAt code start) start)).isEmpty &&
    (slice m (statementEnd m stop) (lineEndAt code (statementEnd m stop))).all isBlank &&
    !isControlBody m (lineStartAt code start)

/-- Whether no statement before a call needs its semicolon. -/
def startsStatement (code : Text) (start : Nat) : Bool :=
  let lead := trim (slice (mask code) (lineStartAt code start) start)
  endsIn (fun c => c == ';' || c == '{' || c == '}') lead ||
    lead.isEmpty && !isControlBody (mask code) (lineStartAt code start)

/-- Where a call is cut: behind its statement, or before a semicolon that the code around it
needs. -/
def cutEnd (code : Text) (start stop : Nat) : Nat :=
  if startsStatement code start then statementEnd (mask code) stop else stop

/-- What goes with a call: its lines, with the line feed, or just what is cut. -/
def reach (code : Text) (start stop : Nat) : Nat × Nat :=
  if fillsLines code start stop then
    (lineStartAt code start, lineEndAt code (statementEnd (mask code) stop) + 1)
  else (start, cutEnd code start stop)

/-- **What a repair does**: it replaces the lines of a call, or what is cut. -/
lemma withoutCall_eq (mode : Console.Mode) (code : Text) (start stop : Nat) :
    withoutCall mode code start stop =
      if fillsLines code start stop then
        let lo := lineStartAt code start
        let hi := lineEndAt code (statementEnd (mask code) stop)
        match mode with
        | .remove => .ok (deleteLines code lo hi)
        | .comment => .ok (splice code lo hi (unlines (commentLines (lines (slice code lo hi)))))
      else
        let text := slice code start (cutEnd code start stop)
        match mode with
        | .remove => .ok (splice code start (cutEnd code start stop) [])
        | .comment =>
          if contains text ['*', '/'] then decline "call contains a block comment terminator"
          else .ok (splice code start (cutEnd code start stop)
            (['/', '*', ' '] ++ text ++ [' ', '*', '/'])) := by
  have once : ∀ e a b : Bool, (e && a && !(e && b)) = (e && a && !b) := by decide
  have either : ∀ e a b : Bool, (a || !(!e || e && b)) = (a || e && !b) := by decide
  unfold withoutCall
  simp only [fillsLines, cutEnd, startsStatement, statementEnd, once, either]
  cases mode <;> rfl

lemma cutEnd_of_fillsLines (fills : fillsLines code start stop = true) :
    cutEnd code start stop = statementEnd (mask code) stop := by
  simp only [fillsLines, Bool.and_eq_true] at fills
  rw [cutEnd, startsStatement, if_pos]
  simp [fills]

lemma swallows_statementEnd (m : Text) (stop : Nat) : Swallows m stop (statementEnd m stop) := by
  rw [statementEnd]
  split_ifs with semicolon
  · have blank : ∀ c ∈ (m.drop stop).takeWhile isSpaceOrTab, isSpaceOrTab c = true :=
      fun c among => by simpa using List.mem_takeWhile_imp among
    refine .semicolon blank ?_
    obtain ⟨rest, parts⟩ := List.takeWhile_prefix (l := m.drop stop) isSpaceOrTab
    generalize (m.drop stop).takeWhile isSpaceOrTab = blanks at semicolon parts
    rw [← List.getElem?_drop, ← parts, List.getElem?_append_right (Nat.le_refl _), Nat.sub_self,
      ← List.head?_eq_getElem?, List.head?_eq_some_iff] at semicolon
    obtain ⟨rest, rfl⟩ := semicolon
    exact ⟨rest, by rw [← parts, List.append_assoc, List.singleton_append]⟩
  · exact .bare

/-- What is cut is the call, or it with its semicolon. -/
lemma swallows_cutEnd (code : Text) (start stop : Nat) :
    Swallows (mask code) stop (cutEnd code start stop) := by
  rw [cutEnd]
  split_ifs
  · exact swallows_statementEnd _ _
  · exact .bare

/-! ### Lines as comments -/

/-- A line that is a comment, behind blanks. -/
def IsCommentLine (l : Text) : Prop :=
  ∃ blanks body : Text, (∀ c ∈ blanks, isBlank c = true) ∧ '\n' ∉ body ∧
    l = blanks ++ '/' :: '/' :: body

lemma IsCommentLine.silent {l : Text} (h : IsCommentLine l) :
    (∀ rest, Silent (l ++ ['\n']) rest) ∧ Silent l [] := by
  obtain ⟨blanks, body, blank, feed, rfl⟩ := h
  obtain ⟨onwards, last⟩ := silent_lineComment ⟨body, feed⟩
  refine ⟨fun rest => ?_, (silent_blanks blank _).append last⟩
  have line := (silent_blanks blank _).append (onwards rest)
  simpa using line

/-- Such lines are silent with the line feed behind them, and at the end of the text. -/
lemma silent_unlines {ls : List Text} (some' : ls ≠ []) (each : ∀ l ∈ ls, IsCommentLine l) :
    (∀ rest, Silent (unlines ls ++ ['\n']) rest) ∧ Silent (unlines ls) [] := by
  induction ls with
  | nil => exact absurd rfl some'
  | cons l ls ih =>
      obtain ⟨onwards, last⟩ := (each l List.mem_cons_self).silent
      by_cases single : ls = []
      · rw [single]
        exact ⟨onwards, last⟩
      · obtain ⟨onwards', last'⟩ := ih single fun l among => each l (List.mem_cons_of_mem _ among)
        rw [unlines_cons l single]
        constructor
        · intro rest
          simpa using (onwards _).append (onwards' rest)
        · simpa using (onwards _).append last'

lemma isCommentLine_of_mem {ls : List Text} (feeds : ∀ l ∈ ls, '\n' ∉ l) :
    ∀ l ∈ commentLines ls, IsCommentLine l := by
  intro l among
  cases ls with
  | nil => cases among
  | cons first others =>
      rcases List.mem_cons.mp among with rfl | later
      · refine ⟨leadingBlanks first, ' ' :: trimLeft first, fun c among => ?_, ?_, by simp⟩
        · simpa using List.mem_takeWhile_imp among
        · have kept : '\n' ∉ trimLeft first := fun among =>
            feeds first List.mem_cons_self ((List.dropWhile_suffix _).subset among)
          simpa using kept
      · obtain ⟨l, inside, rfl⟩ := List.mem_map.mp later
        exact ⟨[], ' ' :: l, by simp, by simpa using feeds l (List.mem_cons_of_mem _ inside), rfl⟩

/-- **Lines are silent as comments.** -/
lemma silent_commentLines (t : Text) :
    (∀ rest, Silent (unlines (commentLines (lines t)) ++ ['\n']) rest) ∧
      Silent (unlines (commentLines (lines t))) [] := by
  refine silent_unlines ?_ (isCommentLine_of_mem newline_notMem_of_mem_lines)
  obtain ⟨first, others, shape⟩ := List.exists_cons_of_ne_nil (lines_ne_nil t)
  rw [shape]
  exact List.cons_ne_nil _ _

/-- A cut is silent as a block comment that it does not end. -/
lemma silent_block (ends : contains t ['*', '/'] = false) (rest : Text) :
    Silent (['/', '*', ' '] ++ t ++ [' ', '*', '/']) rest := by
  have body : ¬ ['*', '/'] <:+: ' ' :: (t ++ [' ']) := by
    rw [← Bool.not_eq_true, contains_iff] at ends
    rw [List.infix_cons_iff, List.infix_concat_iff]
    rintro (first | ⟨u, last⟩ | inside)
    · exact absurd (List.cons_prefix_cons.mp first).1 (by decide)
    · have same := congrArg List.getLast? last
      simp at same
    · exact ends inside
  have silent := silent_blockComment ⟨_, body⟩ rest
  simpa using silent

/-! ### The repair -/

variable {i j : Nat} {x : Text}

/-- A silent text in the place of a part on which nothing else depends. -/
lemma without_mask_of_detached (h : Detached code i j) (low : i ≤ j) (within : i ≤ code.length)
    (parens : Closed '(' ')' (slice (mask code) i j))
    (apart : j ≤ code.length → (stateAt code j).inWord = false) (silent : Silent x (code.drop j)) :
    without isBlank (mask (code.take i ++ (x ++ code.drop j))) =
      without isBlank ((mask code).take i ++ (mask code).drop j) := by
  obtain ⟨blanks, blank, masked⟩ := h.exists_mask low within parens apart silent
  rw [masked, without_append, without_append, without_append, without_eq_nil_iff.mpr blank,
    List.nil_append]

/-- What is cut in a line. -/
lemma without_mask_of_cut {mode : Console.Mode} (call : IsCall (mask code) start stop)
    (fills : fillsLines code start stop = false)
    (edit : withoutCall mode code start stop = .ok after)
    (detached : Detached code start (cutEnd code start stop)) :
    without isBlank (mask after) =
      without isBlank ((mask code).take start ++ (mask code).drop (cutEnd code start stop)) := by
  have swallows := swallows_cutEnd code start stop
  obtain ⟨low, high, -⟩ := call.bounds
  obtain ⟨low', -⟩ := swallows.bounds high
  rw [length_mask] at high
  have parens : Closed '(' ')' (slice (mask code) start (cutEnd code start stop)) := by
    rw [slice_append_slice (Nat.le_of_lt low) low']
    exact call.paired.append (swallows.closed (by decide) (by decide))
  have apart := (swallows.ends call.ends).2
  rw [withoutCall_eq, fills, if_neg Bool.false_ne_true] at edit
  cases mode with
  | remove =>
      obtain rfl := Except.ok.inj edit
      rw [splice, List.append_assoc]
      exact without_mask_of_detached detached (by omega) (by omega) parens (fun _ => apart)
        (silent_nil _)
  | comment =>
      dsimp only at edit
      split_ifs at edit with ends
      · cases edit
      · obtain rfl := Except.ok.inj edit
        rw [splice, List.append_assoc]
        exact without_mask_of_detached detached (by omega) (by omega) parens (fun _ => apart)
          (silent_block (by simpa using ends) _)

/-- Around a call that fills its lines nothing but blanks is left in the masked text. -/
lemma blanks_of_fillsLines (within : stop ≤ code.length)
    (fills : fillsLines code start stop = true) :
    let stop' := statementEnd (mask code) stop
    (∀ b ∈ slice (mask code) (lineStartAt code start) start, isBlank b = true) ∧
      ∀ b ∈ slice (mask code) stop' (lineEndAt code stop' + 1), isBlank b = true := by
  intro stop'
  simp only [fillsLines, Bool.and_eq_true, List.isEmpty_iff, List.all_eq_true] at fills
  obtain ⟨⟨lead, behind⟩, -⟩ := fills
  have high : stop' ≤ code.length := by
    have bounds := (swallows_statementEnd (mask code) stop).bounds (by rwa [length_mask])
    rw [length_mask] at bounds
    exact bounds.2
  obtain ⟨low, ends⟩ := lineEndAt_cases high
  refine ⟨fun b among => ?_, fun b among => ?_⟩
  · obtain ⟨u, v, parts, blank, blank', -⟩ :=
      exists_trim (slice (mask code) (lineStartAt code start) start)
    rw [parts, lead, List.nil_append] at among
    exact (List.mem_append.mp among).elim (blank b) (blank' b)
  · rw [slice_append_slice low (Nat.le_add_right _ 1)] at among
    rcases List.mem_append.mp among with inside | last
    · exact behind b inside
    · obtain ⟨k, here⟩ := List.mem_iff_getElem?.mp last
      rw [slice, Nat.add_sub_cancel_left, List.getElem?_take] at here
      split_ifs at here with first
      obtain rfl := Nat.lt_one_iff.mp first
      rw [List.getElem?_drop, Nat.add_zero] at here
      rcases ends with whole | feed
      · rw [List.getElem?_eq_none (by rw [length_mask]; omega)] at here
        cases here
      · rw [getElem?_mask_eq_newline_iff.mpr feed] at here
        cases here
        rfl

/-- What is left of a text that ends with the line before the last. -/
lemma without_mask_take {lo : Nat} (starts : lo = 0 ∨ 0 < lo ∧ code[lo - 1]? = some '\n') :
    without isBlank (mask (code.take (lo - 1))) = without isBlank ((mask code).take lo) := by
  rcases starts with rfl | ⟨some', feed⟩
  · rfl
  have within : lo - 1 < code.length := (List.getElem?_eq_some_iff.mp feed).1
  have next : (code.drop (lo - 1)).head? = some '\n' := by rw [List.head?_drop, feed]
  obtain ⟨front, st, length, whole, taken, -⟩ :=
    @exists_mask_append (code.drop (lo - 1)) [] (code.take (lo - 1)) fun c _ st =>
      State.step_neutral (next ▸ neutral_of_isBlank rfl) neutral_none
  rw [List.take_append_drop] at whole
  have length : front.length = lo - 1 := by
    rw [length, List.length_take_of_le (Nat.le_of_lt within)]
  have last : (mask code).take lo = front ++ ['\n'] := by
    obtain ⟨n, rfl⟩ := Nat.exists_eq_add_of_lt some'
    rw [show 0 + n + 1 - 1 = n by omega] at *
    rw [Nat.zero_add, List.take_add_one, getElem?_mask_eq_newline_iff.mpr feed, whole,
      List.take_left' length]
    rfl
  rw [List.append_nil] at taken
  rw [taken, last, without_append, without_append]
  rfl

/-- Of the lines that a call fills, the parentheses have their partners, no word goes on behind
them, and nothing but blanks goes with the call. -/
lemma lines_of_fillsLines (call : IsCall (mask code) start stop)
    (fills : fillsLines code start stop = true) :
    let lo := lineStartAt code start
    let cut := statementEnd (mask code) stop
    let hi := lineEndAt code cut + 1
    Closed '(' ')' (slice (mask code) lo hi) ∧
      (hi ≤ code.length → (stateAt code hi).inWord = false) ∧
      without isBlank ((mask code).take start ++ (mask code).drop cut) =
        without isBlank ((mask code).take lo ++ (mask code).drop hi) := by
  intro lo cut hi
  obtain ⟨low, high, -⟩ := call.bounds
  have swallows : Swallows (mask code) stop cut := swallows_statementEnd _ _
  obtain ⟨low', high'⟩ := swallows.bounds high
  rw [length_mask] at high high'
  obtain ⟨front, back⟩ := blanks_of_fillsLines high fills
  have before : lo ≤ start := Nat.sub_le _ _
  have next : cut ≤ hi := Nat.le_succ_of_le (lineEndAt_cases high').1
  have other : ∀ {t : Text}, (∀ b ∈ t, isBlank b = true) → Closed '(' ')' t := fun blank =>
    closed_of_notMem (fun among => ne_of_isBlank (blank _ among) (by decide) rfl)
      fun among => ne_of_isBlank (blank _ among) (by decide) rfl
  refine ⟨?_, fun within => ?_, ?_⟩
  · have closed := @Swallows.closed _ _ _ '(' ')' swallows (by decide) (by decide)
    rw [slice_append_slice before (show start ≤ hi by omega),
      slice_append_slice (Nat.le_of_lt low) (show stop ≤ hi by omega),
      slice_append_slice low' next]
    exact (other front).append (call.paired.append (closed.append (other back)))
  · refine inWord_of_mask (swallows.ends call.ends).2 next fun k first last => ?_
    obtain ⟨b, here⟩ : ∃ b, (mask code)[k]? = some b :=
      ⟨_, List.getElem?_eq_getElem (by rw [length_mask]; omega)⟩
    rw [here, Option.any_some]
    refine back _ (List.mem_iff_getElem?.mpr ⟨k - cut, ?_⟩)
    rw [getElem?_slice first last, here]
  · have front' : without isBlank (slice (mask code) lo start) = [] :=
      without_eq_nil_iff.mpr front
    have back' : without isBlank (slice (mask code) cut hi) = [] := without_eq_nil_iff.mpr back
    rw [take_eq_take_append_slice before, drop_eq_slice_append next]
    simp only [without_append, front', back', List.append_nil, List.nil_append]

/-- What is cut with the lines of a call. -/
lemma without_mask_of_lines {mode : Console.Mode} (call : IsCall (mask code) start stop)
    (fills : fillsLines code start stop = true)
    (edit : withoutCall mode code start stop = .ok after)
    (detached : Detached code (lineStartAt code start)
      (lineEndAt code (statementEnd (mask code) stop) + 1)) :
    without isBlank (mask after) = without isBlank ((mask code).take start ++
      (mask code).drop (statementEnd (mask code) stop)) := by
  obtain ⟨low, high, -⟩ := call.bounds
  obtain ⟨low', high'⟩ := (swallows_statementEnd (mask code) stop).bounds high
  rw [length_mask] at high high'
  obtain ⟨parens, apart, spared⟩ := lines_of_fillsLines call fills
  obtain ⟨next, ends⟩ := lineEndAt_cases high'
  have before : lineStartAt code start ≤ start := Nat.sub_le _ _
  have starts := @lineStartAt_cases code start (by omega)
  rw [withoutCall_eq, fills, if_pos rfl] at edit
  rw [spared]
  dsimp only at edit
  generalize statementEnd (mask code) stop = cut at *
  generalize lineStartAt code start = lo at *
  generalize lineEndAt code cut = hi at *
  have conclude := fun {x : Text} => @without_mask_of_detached code lo (hi + 1) x detached
    (by omega) (by omega) parens apart
  -- If there is a line below, it is spared as well.
  rcases Nat.lt_or_ge hi code.length with below | whole
  · have feed : code[hi]? = some '\n' := ends.resolve_left (Nat.ne_of_lt below)
    have rest : code.drop hi = '\n' :: code.drop (hi + 1) := by
      obtain ⟨within, here⟩ := List.getElem?_eq_some_iff.mp feed
      rw [List.drop_eq_getElem_cons within, here]
    cases mode with
    | remove =>
        obtain rfl := Except.ok.inj edit
        rw [deleteLines, if_pos below]
        exact conclude (silent_nil _)
    | comment =>
        obtain rfl := Except.ok.inj edit
        rw [splice, rest, List.append_assoc, ← List.singleton_append, ← List.append_assoc _ ['\n']]
        exact conclude ((silent_commentLines _).1 _)
  · have none' : code.drop (hi + 1) = [] := List.drop_eq_nil_of_le (by omega)
    cases mode with
    | remove =>
        obtain rfl := Except.ok.inj edit
        rw [deleteLines, if_neg (Nat.not_lt_of_ge whole), without_mask_take starts,
          List.drop_eq_nil_of_le (by rw [length_mask]; omega), List.append_nil]
    | comment =>
        obtain rfl := Except.ok.inj edit
        rw [splice, List.drop_eq_nil_of_le whole, ← none', List.append_assoc]
        refine conclude ?_
        rw [none']
        exact (silent_commentLines _).2

/-- **Nothing but the call goes.** Where the built-in fixer of `no-console` succeeds, it has found
the call of a console method, and cuts it there or behind a semicolon; and if nothing else
depends on what goes with it, the masked text but for its blanks is what stood around it. -/
theorem silence_of_fix {accepts : Acceptor} {o : Options} {f : Fixer} {r : FixResult}
    (builtin : builtin? accepts o "no-console" = some f) (fix : f.fix code d = .ok r)
    (success : r.isSuccess = true) :
    ∃ start stop, Console.call? code d = some (start, stop) ∧ IsCall (mask code) start stop ∧
      Swallows (mask code) stop (cutEnd code start stop) ∧
      (Detached code (reach code start stop).1 (reach code start stop).2 →
        without isBlank (mask r.code) =
          without isBlank ((mask code).take start ++ (mask code).drop (cutEnd code start stop))) := by
  cases builtin
  obtain ⟨-, edit, -⟩ := edit_of_fixer fix success
  rw [Console.noConsole] at edit
  dsimp only at edit
  split at edit
  · cases edit
  next start stop found =>
  have call := isCall_of_call? found
  refine ⟨start, stop, found, call, swallows_cutEnd code start stop, fun detached => ?_⟩
  cases fills : fillsLines code start stop with
  | true =>
      rw [reach, fills, if_pos rfl] at detached
      rw [cutEnd_of_fillsLines fills]
      exact without_mask_of_lines call fills edit detached
  | false =>
      rw [reach, fills, if_neg Bool.false_ne_true] at detached
      exact without_mask_of_cut call fills edit detached

/-- A call on the third line. -/
def logged : Diagnostic :=
  { rule := some "no-console", message := "Unexpected console statement.", line := 3, column := 3 }

theorem silence_of_fix_lines :
    let code :=
      "f(\x7b\n  if (x) \x7b y(); \x7d\n  console.log(\x60$\x7bx\x7d\n/*\x60); // a\n\x7d);".toList
    let after :=
      "f(\x7b\n  if (x) \x7b y(); \x7d\n  // console.log(\x60$\x7bx\x7d\n// /*\x60); // a\n\x7d);".toList
    ∃ f r, builtin? Grammar.accepts {} "no-console" = some f ∧ f.fix code logged = .ok r ∧
      r.isSuccess = true ∧ r.code = after ∧
      without isBlank (mask after) = "f(\x7bif(x)\x7by();\x7d\x7d);".toList := by
  intro code after
  let f := simple Grammar.accepts "NoConsoleFixer" "no-console"
    "Comment out or remove console calls" (noConsole .comment)
  have builtin : builtin? Grammar.accepts {} "no-console" = some f := rfl
  have fix : f.fix code logged = .ok { code := after } := by decide +kernel
  obtain ⟨start, stop, found, -, -, spared⟩ := silence_of_fix builtin fix rfl
  have here : Console.call? code logged = some (24, 46) := by decide +kernel
  obtain ⟨rfl, rfl⟩ := Prod.mk.inj (Option.some.inj (found.symm.trans here))
  have reached : reach code 24 46 = (22, 53) := by decide +kernel
  have detached : Detached code 22 53 := by
    refine ⟨by decide +kernel, fun _ => by decide +kernel, by decide +kernel, fun k last => ?_,
      by decide +kernel, 53, ⟨Nat.le_refl _, fun m low high => by omega, by decide +kernel⟩,
      fun c closing => ?_⟩
    · obtain rfl : k = 21 := Nat.succ.inj last
      decide +kernel
    · obtain rfl : '}' = c := Option.some.inj closing
      exact ⟨by decide, fun _ => by decide +kernel⟩
  refine ⟨f, _, builtin, fix, rfl, rfl, (spared (by rwa [reached])).trans ?_⟩
  decide +kernel

/-- The line of a call is the start of a comment as well, and takes it along. -/
theorem silence_of_fix_not : ¬ ∀ (code : Text) (d : Diagnostic) (f : Fixer) (r : FixResult)
    (start stop : Nat),
      builtin? Grammar.accepts {} "no-console" = some f → f.fix code d = .ok r →
      r.isSuccess = true → Console.call? code d = some (start, stop) →
      ∃ cut, Swallows (mask code) stop cut ∧ without isBlank (mask r.code) =
        without isBlank ((mask code).take start ++ (mask code).drop cut) := by
  intro always
  let code := "console.log(1); /* a\nb(); // */".toList
  obtain ⟨cut, -, same⟩ := always code { logged with line := 1, column := 1 } _
    { code := "// console.log(1); /* a\nb(); // */".toList } 0 14 rfl (by decide +kernel) rfl
    (by decide +kernel)
  -- What was in the comment is code now.
  have fresh : 'b' ∈ without isBlank (mask "// console.log(1); /* a\nb(); // */".toList) := by
    decide +kernel
  rw [same] at fresh
  have old : 'b' ∈ mask code := List.mem_of_mem_drop (List.mem_of_mem_filter fresh)
  exact absurd old (by decide +kernel)

end LintRepair.Rules
