/-
Declarators taken from a declaration and put together again.

* `Concludes`: a declaration ends behind a declarator as well as where it ended;
* `Rejoins`: declarators of a declaration that are read each by itself;
* `rejoined`: the text with these put together in its place, with `Rejoins.mask_eq` for how it
  is masked, `Rejoins.statementEnd` for where the declaration ends and `Rejoins.listAt_rejoined`
  for its list;
* `Rejoins.parseDeclaration`: just these declarators are read again.
-/
import LintRepair.Proofs.Code.Declared

namespace LintRepair.Code

open Text Lexical

variable {code m word p : Text} {ps : List Text} {decl : Declaration} {i k start : Nat}

/-! ### Behind the last declarator -/

/-- Whether a declaration ends with a semicolon. -/
def terminated (code : Text) (decl : Declaration) : Bool :=
  endsIn (· == ';') (trimRight (slice code decl.start decl.stop))

/-- What is put behind the declarators that remain. -/
def closing (code : Text) (decl : Declaration) : Text := if terminated code decl then [';'] else []

/-- A declaration ends behind a declarator as well as where it ended. -/
structure Concludes (code : Text) (decl : Declaration) (p : Text) : Prop where
  /-- No line ends in comments behind the last token of the declarator. -/
  calm : '\n' ∉ leadingBlanks (mask p).reverse
  whole : endsIn (· == ';') p = false
  /-- It ends in code, or in a comment that the line ends with. -/
  ends : (stateAt p p.length).InCode ∨
    (stateAt p p.length).mode = .lineComment ∧ (stateAt p p.length).joined = none ∧
      terminated code decl = false ∧ ∀ c ∈ code[decl.stop]?, c = '\n'
  /-- If the declaration ends with the line, it does not go on behind the declarator, and what
  the next line starts with is read as before. -/
  feed : terminated code decl = false → code[decl.stop]? = some '\n' →
    startsIn (fun c => !continuesBehind c) (trimLeft (mask p).reverse) = true ∧
      (stateAt code (decl.stop + 1)).InCode ∧
      (stateAt code (decl.stop + 1)).regexAllowed = (stateAt p p.length).regexAllowed

lemma terminated_of_semicolon (low : decl.start < decl.stop) (high : decl.stop ≤ code.length)
    (semicolon : code[decl.stop - 1]? = some ';') : terminated code decl = true := by
  have last : (slice code decl.start decl.stop).getLast? = some ';' := by
    rw [List.getLast?_eq_getElem?, length_slice (Nat.le_of_lt low) high, ← semicolon,
      ← @getElem?_slice code decl.start decl.stop (decl.stop - 1) (by omega) (by omega)]
    congr 1
    omega
  obtain ⟨front, parts⟩ := List.getLast?_eq_some_iff.mp last
  rw [terminated, parts, trimRight_append_singleton _ (by decide), endsIn_append (by simp)]
  rfl

lemma continues_eq_false {pre m : Text}
    (ends : startsIn (fun c => !continuesBehind c) (trimLeft m.reverse) = true) :
    startsIn continuesBehind (trimLeft (pre ++ m).reverse) = false := by
  rw [List.reverse_append, startsIn_trimLeft_append]
  cases first : trimLeft m.reverse with
  | nil =>
      rw [first] at ends
      cases ends
  | cons c rest =>
      have some' : m.reverse.all isBlank = false := by
        by_contra blank
        rw [Bool.not_eq_false, List.all_eq_true] at blank
        rw [trimLeft, List.dropWhile_eq_nil_iff.mpr blank] at first
        cases first
      rw [first] at ends
      rw [if_neg (by simp [some']), startsIn]
      simpa [startsIn] using ends

/-- The line feed behind it leads to code, in which a slash is read as in the text. -/
lemma Concludes.near {st s : State} (h : Concludes code decl p)
    (leaves : st.Leaves (stateAt p p.length) s) (semicolon : terminated code decl = false)
    (feed : code[decl.stop]? = some '\n') (next : Option Char) :
    (stateAt code (decl.stop + 1)).Near (s.step '\n' next).2 := by
  obtain ⟨-, inCode, allowed⟩ := h.feed semicolon feed
  rcases h.ends with code' | ⟨comment, alone, -⟩
  · have there := leaves.inCode code'
    rw [there.step_blank (by decide)]
    exact ⟨there.mode.trans inCode.mode.symm, there.alone.trans inCode.alone.symm,
      (leaves.allowed (by rw [code'.mode]; rintro ⟨⟩)).trans allowed.symm⟩
  · have mode := leaves.mode.trans comment
    have joined := leaves.joined.trans alone
    simp only [State.step, joined, mode, beq_self_eq_true, if_true]
    exact ⟨inCode.mode.symm, inCode.alone.symm,
      (leaves.allowed (by rw [comment]; rintro ⟨⟩)).trans allowed.symm⟩

/-- **Behind the last declarator** the declaration ends. -/
lemma Concludes.statementLength {pre : Text} {st s : State} (h : Concludes code decl p)
    (leaves : st.Leaves (stateAt p p.length) s) (level : nesting (pre ++ mask p) = 0)
    (low : decl.start ≤ start) (high : decl.stop ≤ code.length)
    (ends : StatementEnds code start decl.stop) :
    Code.statementLength (pre ++ mask p).reverse 0
        (s.masks (closing code decl ++ code.drop decl.stop)) = (closing code decl).length := by
  cases semicolon : terminated code decl with
  | true =>
      have inCode : s.InCode := leaves.inCode
        (h.ends.resolve_right fun comment => by simp [semicolon] at comment)
      rw [closing, semicolon, if_pos rfl, List.singleton_append, State.masks_cons,
        inCode.step_plain (by decide), @Kind.masked_of_isKept .code ';' rfl,
        statementLength_of_ends level (.inl rfl)]
      rfl
  | false =>
      rw [closing, semicolon, if_neg Bool.false_ne_true, List.nil_append, List.length_nil]
      cases ends with
      | text last =>
          rw [last, List.drop_length]
          rfl
      | semicolon some' behind =>
          rw [terminated_of_semicolon (by omega) high behind] at semicolon
          cases semicolon
      | @closer c here closes =>
          have inCode : s.InCode := leaves.inCode (h.ends.resolve_right fun comment => by
            rw [comment.2.2.2 c here] at closes
            cases closes)
          obtain ⟨-, -, other, slash⟩ := of_isCloser closes
          obtain ⟨within, here⟩ := List.getElem?_eq_some_iff.mp here
          rw [List.drop_eq_getElem_cons within, here, State.masks_cons,
            Kind.masked_of_isKept (inCode.isKept_step slash),
            statementLength_of_ends level (.inr (.inl closes)), if_neg other]
      | feed here before =>
          obtain ⟨behind, -⟩ := h.feed semicolon here
          have near := h.near leaves semicolon here (code.drop (decl.stop + 1)).head?
          obtain ⟨within, here⟩ := List.getElem?_eq_some_iff.mp here
          rw [drop_mask, ← near.startsIn_masks] at before
          rw [List.drop_eq_getElem_cons within, here, State.masks_cons, Kind.masked_lineFeed,
            statementLength_of_ends level (.inr (.inr ⟨rfl, continues_eq_false behind, before⟩))]
          rfl

/-! ### The declarators put together -/

/-- Declarators of a declaration that are read each by itself, in the declaration and put
together again. -/
structure Rejoins (code : Text) (decl : Declaration) (ps : List Text) : Prop where
  /-- Behind the keyword stand blanks and then a target. -/
  blank : startsIn isBlank (decl.body code) = true
  first : startsTarget (trimLeft (decl.body code)) = true
  /-- All brackets have their partners in the list, and in each of the declarators. -/
  list : Paired (mask (decl.body code))
  each : ∀ p ∈ ps, Paired (mask p)
  starts : ∀ p ∈ ps.head?, startsTarget p = true
  /-- No comment goes on to the next one. -/
  ends : ∀ p ∈ ps.dropLast, (stateAt p p.length).InCode
  last : ∀ p ∈ ps.getLast?, Concludes code decl p

lemma mask_blank_cons (p : Text) : mask (' ' :: p) = ' ' :: mask p := rfl

/-- What is put behind the declarators has no say in how they are read. -/
lemma neutral_closing (low : decl.start ≤ start) (high : decl.stop ≤ code.length)
    (ends : StatementEnds code start decl.stop) :
    Neutral (closing code decl ++ code.drop decl.stop).head? := by
  cases semicolon : terminated code decl with
  | true =>
      rw [closing, semicolon, if_pos rfl]
      exact show Neutral (some ';') by decide
  | false =>
      rw [closing, semicolon, if_neg Bool.false_ne_true, List.nil_append, List.head?_drop]
      cases ends with
      | text last =>
          rw [last, List.getElem?_eq_none (Nat.le_refl _)]
          exact neutral_none
      | semicolon some' behind =>
          rw [terminated_of_semicolon (by omega) high behind] at semicolon
          cases semicolon
      | closer here closes =>
          rw [here]
          exact (of_isCloser closes).2.1
      | feed here =>
          rw [here]
          decide

/-- The list of a declaration, put together again. -/
def listing (ps : List Text) : Text := [','].intercalate (ps.map (' ' :: ·))

lemma Rejoins.paired_items (rejoins : Rejoins code decl ps) :
    ∀ q ∈ ps.map (' ' :: ·), Paired (mask q) := by
  intro q among
  obtain ⟨q, inside, rfl⟩ := List.mem_map.mp among
  exact (Paired.of_blank (List.forall_mem_singleton.mpr rfl)).append (rejoins.each q inside)

lemma Rejoins.ends_items (rejoins : Rejoins code decl ps) :
    ∀ q ∈ (ps.map (' ' :: ·)).dropLast, (stateAt q q.length).InCode := by
  intro q among
  rw [← List.map_dropLast] at among
  obtain ⟨q, inside, rfl⟩ := List.mem_map.mp among
  exact rejoins.ends q inside

/-- It is masked item by item. -/
lemma Rejoins.mask_listing (rejoins : Rejoins code decl ps) (some' : ps ≠ []) :
    mask (listing ps) = listing (ps.map mask) := by
  rw [listing, mask_items (by simpa using some') rejoins.paired_items rejoins.ends_items, listing,
    List.map_map, List.map_map]
  rfl

/-- It stands in the masked text as it is masked by itself, and what follows is read behind its
last declarator. -/
lemma Rejoins.mask_eq (rejoins : Rejoins code decl ps) (h : DeclarationAt (mask code) word k)
    (some' : ps ≠ []) (low : decl.start ≤ k + word.length) (high : decl.stop ≤ code.length)
    (ends : StatementEnds code (k + word.length) decl.stop) :
    ∃ s l, ps.getLast? = some l ∧
      (stateAt code (k + word.length)).Leaves (stateAt l l.length) s ∧
      mask (code.take (k + word.length) ++
          (listing ps ++ (closing code decl ++ code.drop decl.stop))) =
        (mask code).take (k + word.length) ++ (listing (ps.map mask) ++
          s.masks (closing code decl ++ code.drop decl.stop)) := by
  obtain ⟨p, qs, rfl⟩ := List.exists_cons_of_ne_nil some'
  have starts : (stateAt code (k + word.length)).Starts (' ' :: p) := by
    refine h.starts rfl ?_
    obtain ⟨c, rest, rfl, solid, -⟩ := of_startsTarget (rejoins.starts p rfl)
    have same : trimLeft ([' '] ++ c :: rest) = c :: rest :=
      trimLeft_append (List.forall_mem_singleton.mpr rfl) (by simpa [startsIn] using solid)
    rw [← List.singleton_append, same]
    exact rejoins.starts _ rfl
  obtain ⟨ms, s, text, masked, read, l, last, leaves⟩ :=
    exists_reads_items starts (neutral_closing low high ends) rejoins.paired_items
      rejoins.ends_items
  have last' : ((p :: qs).map (' ' :: ·)).getLast? = some l := last
  rw [List.getLast?_map] at last'
  obtain ⟨p', ends'', rfl⟩ := Option.map_eq_some_iff.mp last'
  refine ⟨s, p', ends'', leaves, ?_⟩
  have masks := masks_of_reads read
  rw [text] at masks
  have listed : ms.masked = listing ((p :: qs).map mask) := by
    rw [masked, listing, ← List.map_cons, List.map_map, List.map_map]
    rfl
  rw [h.mask_append, listing, List.map_cons, masks, ← listed]
  rfl

/-- A blank before a declarator does not break a statement off either. -/
lemma not_breaks_blank_cons (whole : ∀ i, ¬ Breaks m i) (i : Nat) : ¬ Breaks (' ' :: m) i := by
  intro breaks
  cases i with
  | zero =>
      cases breaks.stops with
      | semicolon here | feed here => cases here
      | closer here closes =>
          cases here
          cases closes
  | succ i =>
      obtain ⟨a, c, b, rfl, rfl⟩ := exists_parts (Nat.lt_of_succ_lt_succ breaks.stops.lt)
      refine whole a.length (breaks_append.mpr ?_)
      have parts : ' ' :: (a ++ c :: b) = (' ' :: a) ++ c :: b := rfl
      rw [parts, show a.length + 1 = (' ' :: a).length from rfl, breaks_append, List.reverse_cons,
        startsIn_trimLeft_append] at breaks
      obtain ⟨level, kind, amid⟩ := breaks
      have level' : nesting a = 0 := by simpa [bracketStep, isOpener, isCloser] using level
      have amid' : c = '\n' → a.all isBlank = false ∧ b.all isBlank = false := fun feed => by
        simpa [isBlank] using amid feed
      refine ⟨level', kind.imp_right (.imp_right fun ends => ?_), amid'⟩
      obtain ⟨feed, behind, before⟩ := ends
      rw [List.all_reverse, if_neg (by simp [(amid' feed).1])] at behind
      exact ⟨feed, behind, before⟩

/-- The first character of a target is not masked. -/
lemma feed_notMem_of_startsTarget (starts : startsTarget p = true) :
    '\n' ∉ leadingBlanks (' ' :: mask p) := by
  obtain ⟨c, rest, rfl, solid, plain⟩ := of_startsTarget starts
  have inCode : ({} : State).InCode := ⟨rfl, rfl⟩
  have kept : (({} : State).step c rest.head?).1.isKept = true :=
    inCode.isKept_step fun slash => plain (by simp [slash])
  rw [show mask (c :: rest) = ({} : State).masks (c :: rest) from rfl, State.masks_cons,
    Kind.masked_of_isKept kept, leadingBlanks, List.takeWhile_cons_of_pos (by decide),
    List.takeWhile_cons_of_neg (by simp [solid])]
  decide

lemma feed_notMem_reverse {l : Text} (calm : '\n' ∉ leadingBlanks l.reverse) :
    '\n' ∉ leadingBlanks (' ' :: l).reverse := by
  rw [List.reverse_cons, leadingBlanks, List.takeWhile_append]
  split_ifs with whole
  · intro feed
    rcases List.mem_append.mp feed with inside | blank
    · rw [← (List.takeWhile_sublist isBlank).eq_of_length whole] at inside
      exact calm inside
    · exact absurd ((List.takeWhile_sublist _).mem blank) (by decide)
  · exact calm

/-- Nothing ends a statement in the list. -/
lemma Rejoins.statementLength (rejoins : Rejoins code decl ps) (some' : ps ≠ [])
    (whole : ∀ p ∈ ps, ∀ i, ¬ Breaks (mask p) i) (rest : Text) :
    Code.statementLength [] 0 (listing (ps.map mask) ++ rest) =
      (listing (ps.map mask)).length +
        Code.statementLength (listing (ps.map mask)).reverse 0 rest := by
  obtain ⟨p, qs, rfl⟩ := List.exists_cons_of_ne_nil some'
  have listed : listing ((p :: qs).map mask) =
      [','].intercalate ((' ' :: mask p) :: (qs.map mask).map (' ' :: ·)) := rfl
  have each : ∀ m ∈ (' ' :: mask p) :: (qs.map mask).map (' ' :: ·),
      ∃ q ∈ p :: qs, m = ' ' :: mask q := by
    rintro m among
    rw [← List.map_cons (f := (' ' :: ·)), ← List.map_cons, List.map_map] at among
    obtain ⟨q, inside, rfl⟩ := List.mem_map.mp among
    exact ⟨q, inside, rfl⟩
  rw [listed]
  refine statementLength_items nesting_nil ?_ ?_
    (.inl (feed_notMem_of_startsTarget (rejoins.starts p rfl))) ?_
  · intro m among
    obtain ⟨q, inside, rfl⟩ := each m among
    exact (Paired.of_blank (List.forall_mem_singleton.mpr rfl)).append (rejoins.each q inside)
  · intro m among
    obtain ⟨q, inside, rfl⟩ := each m among
    exact not_breaks_blank_cons (whole q inside)
  · intro l among
    rw [← List.map_cons (f := (' ' :: ·)), ← List.map_cons, List.getLast?_map,
      List.getLast?_map] at among
    cases last : (p :: qs).getLast? with
    | none =>
        rw [last] at among
        cases among
    | some q =>
        rw [last] at among
        cases among
        exact .inl (feed_notMem_reverse (rejoins.last q last).calm)

/-- The declaration that is put together ends behind its list. -/
lemma Rejoins.statementEnd (rejoins : Rejoins code decl ps) (h : DeclarationAt (mask code) word k)
    (some' : ps ≠ []) (low : decl.start ≤ k + word.length) (high : decl.stop ≤ code.length)
    (ends : StatementEnds code (k + word.length) decl.stop)
    (whole : ∀ p ∈ ps, ∀ i, ¬ Breaks (mask p) i) :
    Code.statementEnd (mask (code.take (k + word.length) ++
        (listing ps ++ (closing code decl ++ code.drop decl.stop)))) (k + word.length) =
      k + word.length + (listing ps ++ closing code decl).length := by
  obtain ⟨s, l, last, leaves, masked⟩ := rejoins.mask_eq h some' low high ends
  have start : ((mask code).take (k + word.length)).length = k + word.length :=
    List.length_take_of_le h.le_length
  have last' : ((ps.map mask).map (' ' :: ·)).getLast? = some (' ' :: mask l) := by
    rw [List.getLast?_map, List.getLast?_map, last]
    rfl
  obtain ⟨front, parts⟩ := exists_intercalate last'
  have level : nesting ((front ++ [' ']) ++ mask l) = 0 := by
    rw [List.append_assoc, List.singleton_append, ← parts]
    refine nesting_items fun m among => ?_
    simp only [List.map_map, List.mem_map, Function.comp_apply] at among
    obtain ⟨q, inside, rfl⟩ := among
    rw [nesting_cons, (rejoins.each q inside).nesting]
    rfl
  have tail := (rejoins.last l last).statementLength leaves level low high ends
  rw [List.append_assoc, List.singleton_append, ← parts, ← listing] at tail
  have through := rejoins.statementLength some' whole
    (s.masks (closing code decl ++ code.drop decl.stop))
  rw [← rejoins.mask_listing some', length_mask] at through
  rw [Code.statementEnd, length_mask, masked, List.drop_left' start,
    ← rejoins.mask_listing some', through, rejoins.mask_listing some', tail, List.length_append,
    List.length_append, List.length_append, List.length_append,
    List.length_take_of_le (length_mask code ▸ h.le_length)]
  omega

/-- The text with the declarators put together. -/
def rejoined (code : Text) (decl : Declaration) (start : Nat) (ps : List Text) : Text :=
  code.take start ++ (listing ps ++ (closing code decl ++ code.drop decl.stop))

/-- Its list is the one put together. -/
lemma Rejoins.listAt_rejoined (rejoins : Rejoins code decl ps)
    (h : DeclarationAt (mask code) word k) (some' : ps ≠ []) (low : decl.start ≤ k + word.length)
    (high : decl.stop ≤ code.length) (ends : StatementEnds code (k + word.length) decl.stop)
    (whole : ∀ p ∈ ps, ∀ i, ¬ Breaks (mask p) i) (solid : ∀ p ∈ ps, p ≠ [] ∧ trim p = p) :
    listAt (rejoined code decl (k + word.length) ps) (k + word.length) = listing ps := by
  have start : (code.take (k + word.length)).length = k + word.length :=
    List.length_take_of_le (length_mask code ▸ h.le_length)
  have part : slice (rejoined code decl (k + word.length) ps) (k + word.length)
      (k + word.length + (listing ps ++ closing code decl).length) =
        listing ps ++ closing code decl := by
    rw [slice, rejoined, List.drop_left' start, Nat.add_sub_cancel_left, ← List.append_assoc,
      List.take_left]
  obtain ⟨l, last⟩ : ∃ l, ps.getLast? = some l :=
    Option.isSome_iff_exists.mp (by simpa using some')
  obtain ⟨filled, trimmed⟩ := solid l (List.mem_of_getLast? last)
  have final : (listing ps).getLast? = l.getLast? := by
    obtain ⟨front, parts⟩ := @exists_intercalate (ps.map (' ' :: ·)) (' ' :: l)
      (by rw [List.getLast?_map, last]; rfl)
    rw [listing, parts, ← List.singleton_append, ← List.append_assoc,
      List.getLast?_append_of_ne_nil _ filled]
  have ends' : ∀ c ∈ (listing ps).getLast?, isBlank c = false ∧ (c == ';') = false := by
    intro c among
    rw [final] at among
    obtain ⟨-, -, -, -, -, other⟩ := exists_trim l
    refine ⟨other c (by rwa [trimmed]), ?_⟩
    have semicolon := (rejoins.last l last).whole
    rw [endsIn, Option.mem_def.mp among] at semicolon
    exact semicolon
  rw [listAt, rejoined, rejoins.statementEnd h some' low high ends whole, ← rejoined, part]
  cases semicolon : terminated code decl with
  | true =>
      rw [closing, semicolon, if_pos rfl, trimRight_append_singleton _ (by decide)]
      exact dropEndWhile_of_last (List.forall_mem_singleton.mpr rfl)
        fun c among => (ends' c among).2
  | false =>
      rw [closing, semicolon, if_neg Bool.false_ne_true, trimRight,
        dropEndWhile_of_last (by simp) fun c among => (ends' c among).1]
      have same := dropEndWhile_of_last (u := []) (p := (· == ';')) (by simp) fun c among =>
        (ends' c among).2
      rwa [List.append_nil] at same

/-- Before its list, the text is masked as it was. -/
lemma take_mask_rejoined (h : DeclarationAt (mask code) word k) (decl : Declaration)
    (ps : List Text) :
    (mask (rejoined code decl (k + word.length) ps)).take k = (mask code).take k := by
  rw [rejoined, h.mask_append, List.take_append_of_le_length, List.take_take, Nat.min_eq_left]
  · exact Nat.le_add_right _ _
  · rw [List.length_take_of_le h.le_length]
    exact Nat.le_add_right _ _

/-- The list is split into the declarators that it has been put together of. -/
lemma Rejoins.map_trim_splitTopLevel (rejoins : Rejoins code decl ps) (some' : ps ≠ [])
    (whole : ∀ p ∈ ps, ∀ i, ¬ Separates ',' (mask p) i) (trimmed : ∀ p ∈ ps, trim p = p) :
    (splitTopLevel ',' (listing ps)).map trim = ps := by
  have single : ∀ q ∈ ps.map (' ' :: ·), ∀ i, ¬ Separates ',' (mask q) i := by
    intro q among i separates
    obtain ⟨p, inside, rfl⟩ := List.mem_map.mp among
    cases i with
    | zero => exact absurd separates.1 (by rw [mask_blank_cons]; simp)
    | succ i =>
        rw [mask_blank_cons, Nat.add_comm, ← separates_drop (by rfl)] at separates
        exact whole p inside i separates
  rw [listing, splitTopLevel_items (by simpa using some') rejoins.paired_items rejoins.ends_items
    single, List.map_map]
  exact (List.map_congr_left trimmed).trans (List.map_id ps)

/-- **Put together again**, the declaration declares just the declarators that remain. -/
theorem Rejoins.parseDeclaration (h : DeclarationAt (mask code) word k)
    (plain : (parseDeclaration code (mask code) k).forKind = none)
    (rejoins : Rejoins code (parseDeclaration code (mask code) k) ps) (some' : ps ≠ [])
    (among : ∀ p ∈ ps, p ∈ (Code.parseDeclaration code (mask code) k).declarators) :
    let after := rejoined code (Code.parseDeclaration code (mask code) k) (k + word.length) ps
    (Code.parseDeclaration after (mask after) k).keyword = word ∧
      (Code.parseDeclaration after (mask after) k).declarators = ps ∧
      (Code.parseDeclaration after (mask after) k).names = ps.flatMap bindingNames := by
  have headless := plain_of_forKind plain
  obtain ⟨-, -, stop, body, declarators, -⟩ := parseDeclaration_eq h headless
  have start := start_parseDeclaration code (mask code) k
  generalize Code.parseDeclaration code (mask code) k = decl at *
  have within : k + word.length ≤ code.length := length_mask code ▸ h.le_length
  have ends := statementEnds within
  have high := (statementEnd_le within).2
  rw [← stop] at ends high
  have each : ∀ p ∈ ps, p ∈ (splitTopLevel ',' (listAt code (k + word.length))).map trim ∧
      p ≠ [] ∧ trim p = p := by
    intro p inside
    have listed := among p inside
    rw [declarators, List.mem_filter] at listed
    obtain ⟨q, -, rfl⟩ := List.mem_map.mp listed.1
    exact ⟨listed.1, by simpa using listed.2, trim_trim q⟩
  have blank := body ▸ rejoins.blank
  have first := body ▸ rejoins.first
  have list := body ▸ rejoins.list
  have whole : ∀ p ∈ ps, ∀ i, ¬ Breaks (mask p) i := fun p inside =>
    h.not_breaks blank first list (each p inside).1 (rejoins.each p inside)
  have listed := rejoins.listAt_rejoined h some' (by omega) high ends whole
    fun p inside => (each p inside).2
  have starts :
      startsIn isBlank (listing ps ++ (closing code decl ++ code.drop decl.stop)) = true := by
    obtain ⟨p, qs, rfl⟩ := List.exists_cons_of_ne_nil some'
    cases qs <;> rfl
  have again : DeclarationAt (mask (rejoined code decl (k + word.length) ps)) word k :=
    h.append starts
  obtain ⟨keyword, -, -, -, declarators', names⟩ :=
    parseDeclaration_eq again (take_mask_rejoined h decl ps ▸ headless)
  have single : ∀ p ∈ ps, ∀ i, ¬ Separates ',' (mask p) i := fun p inside => by
    obtain ⟨-, -, -, -, single⟩ := exists_of_mem_items (each p inside).1 (rejoins.each p inside)
    exact single
  have split := rejoins.map_trim_splitTopLevel some' single fun p inside => (each p inside).2.2
  have same : (Code.parseDeclaration (rejoined code decl (k + word.length) ps)
      (mask (rejoined code decl (k + word.length) ps)) k).declarators = ps := by
    rw [declarators', listed, split]
    exact List.filter_eq_self.mpr fun p inside => by simpa using (each p inside).2.1
  exact ⟨keyword, same, names.trans (by rw [same])⟩

end LintRepair.Code
