/-
The elements that the body of a counting loop reads.

* `Named`: the index of a loop is an identifier and the collection a chain of names, with
  `named_of_header?`;
* `OpensAt`, `ClosesAt`: the brackets of an element, and `ElementAt`: the index reads an
  element at an offset, between the brackets behind the collection;
* `Elements`: what the reads of a body are, with `elements_of_elementAccesses`: they are
  found, each use of the index is one of them, and none lies in another or is written;
* `counting?_spec`, `edit_preferForOf`: the loop that is found, and what its repair does.
-/
import LintRepair.Proofs.Code.Scope
import LintRepair.Proofs.Lexical.Word
import LintRepair.Proofs.Rules.Search

namespace LintRepair.Rules

open Text Lexical Code Check Repair

variable {t m : Text} {h : Loop.Header} {s s' : Span} {lo hi p p' n k : Nat}

/-! ### Names in the head of a loop -/

/-- A text is a chain of names with dots between them. -/
def Chain (t : Text) : Prop := (∀ c ∈ t, isName c = true ∨ c = '.') ∧ endsIn isName t = true

/-- The index of a loop is an identifier, and the collection a chain of names. -/
structure Named (h : Loop.Header) : Prop where
  index : isIdentifier h.index = true
  collection : Chain h.collection

/-- An identifier that a text starts with. -/
lemma take_identifierLength (some' : Operator.identifierLength t ≠ 0) :
    startsIn isNameStart t = true ∧
      t.take (Operator.identifierLength t) = t.takeWhile isName := by
  rw [Operator.identifierLength] at some' ⊢
  split_ifs at some' ⊢ with start
  · exact ⟨start, List.prefix_iff_eq_take.mp (List.takeWhile_prefix isName) |>.symm⟩
  · exact absurd rfl some'

lemma isIdentifier_take (some' : Operator.identifierLength t ≠ 0) :
    isIdentifier (t.take (Operator.identifierLength t)) = true := by
  obtain ⟨start, word⟩ := take_identifierLength some'
  rw [word]
  cases t with
  | nil => cases start
  | cons c rest =>
      have first : isNameStart c = true := start
      rw [List.takeWhile_cons_of_pos (isName_of_isNameStart first), isIdentifier, first,
        Bool.true_and, List.all_eq_true]
      exact fun d among => List.mem_takeWhile_imp among

lemma isIdentifier_of_identifier? {word rest : Text}
    (found : Loop.identifier? t = some (word, rest)) : isIdentifier word = true := by
  rw [Loop.identifier?] at found
  split_ifs at found with none'
  cases found
  exact isIdentifier_take none'

lemma chain_of_isIdentifier (identifier : isIdentifier t = true) : Chain t := by
  have names := all_isName_of_isIdentifier identifier
  refine ⟨fun c among => .inl (names c among), ?_⟩
  rw [endsIn, List.getLast?_eq_some_getLast (ne_nil_of_isIdentifier identifier), Option.any_some]
  exact names _ (List.getLast_mem _)

lemma Chain.ne_nil (chain : Chain t) : t ≠ [] := by
  rintro rfl
  cases chain.2

/-- What ends in a name does not end in a blank. -/
lemma endsIn_isBlank (name : endsIn isName t = true) : endsIn isBlank t = false := by
  rw [endsIn] at name ⊢
  cases last : t.getLast? with
  | none => rfl
  | some c =>
      rw [last, Option.any_some] at name
      rw [Option.any_some, Bool.eq_false_iff]
      intro blank
      rw [isName_of_isBlank blank] at name
      cases name

/-- A member of a chain is one. -/
lemma Chain.append (first : Chain t) {u : Text} (identifier : isIdentifier u = true) :
    Chain (t ++ '.' :: u) := by
  have later := chain_of_isIdentifier identifier
  refine ⟨fun c among => ?_, ?_⟩
  · rcases List.mem_append.mp among with among | among
    · exact first.1 c among
    · rcases List.mem_cons.mp among with rfl | among
      · exact .inr rfl
      · exact later.1 c among
  · have split : t ++ '.' :: u = (t ++ ['.']) ++ u := by simp
    rw [split, endsIn_append (ne_nil_of_isIdentifier identifier)]
    exact later.2

/-- Each of the lengths is that of a chain. -/
lemma chain_of_mem_chainLengths {fuel : Nat} (first : Chain (t.take n))
    (among : k ∈ Loop.chainLengths fuel n (t.drop n)) : Chain (t.take k) := by
  induction fuel generalizing n with
  | zero => cases among
  | succ fuel ih =>
      simp only [Loop.chainLengths, List.mem_cons] at among
      rcases among with rfl | later
      · exact first
      · split at later
        · next rest dot =>
          split_ifs at later with none'
          · cases later
          · have further : t.drop (n + 1) = rest := by
              rw [← List.drop_drop, dot]
              rfl
            have whole : t.take (n + 1 + Operator.identifierLength rest) =
                t.take n ++ '.' :: rest.take (Operator.identifierLength rest) := by
              rw [List.take_add, further, List.take_add, dot]
              simp
            refine ih ?_ (by rwa [← List.drop_drop, further])
            rw [whole]
            exact first.append (isIdentifier_take none')
        · cases later

lemma chain_of_bound? {collection rest : Text} (found : Loop.bound? t = some (collection, rest)) :
    Chain collection := by
  rw [Loop.bound?] at found
  split_ifs at found with none'
  obtain ⟨k, among, found⟩ := List.exists_of_findSome?_eq_some found
  simp only [Option.bind_eq_bind, Option.bind_eq_some_iff, Option.pure_def, Option.some.injEq]
    at found
  obtain ⟨_, -, _, -, _, -, same⟩ := found
  cases same
  exact chain_of_mem_chainLengths (chain_of_isIdentifier (isIdentifier_take none'))
    (List.mem_reverse.mp among)

/-- What the head of a loop names. -/
lemma named_of_header? (found : Loop.header? t = some h) : Named h := by
  simp only [Loop.header?, Option.bind_eq_bind, Option.bind_eq_some_iff] at found
  obtain ⟨⟨keyword, _⟩, -, ⟨index, _⟩, named, _, -, _, -, _, -, _, -, _, -, ⟨collection, _⟩,
    bound, found⟩ := found
  split_ifs at found
  cases found
  exact ⟨isIdentifier_of_identifier? named, chain_of_bound? bound⟩

/-! ### Elements -/

/-- A collection before the opening bracket that a part of a text ends with. -/
def OpensAt (m collection : Text) (n p : Nat) : Prop :=
  endsIn (fun c => isName c || c == '.') (m.take n) = false ∧
    ∃ gap gap', (∀ c ∈ gap ++ gap', isBlank c = true) ∧
      slice m n p = collection ++ gap ++ '[' :: gap'

/-- What is found before a bracket is the collection. -/
lemma opensAt_of_accessStart? (low : lo ≤ p) (within : p ≤ m.length)
    (found : Loop.accessStart? m t lo p = some n) : lo ≤ n ∧ OpensAt m t n p := by
  rw [Loop.accessStart?] at found
  split at found
  · next rest bracket =>
    dsimp only at found
    rw [Option.ite_none_right_eq_some, Option.ite_none_left_eq_some, Option.some.injEq] at found
    obtain ⟨named, barred, rfl⟩ := found
    obtain ⟨r, shape⟩ := List.isPrefixOf_iff_prefix.mp named
    have before := List.takeWhile_append_dropWhile (p := isBlank) (l := (slice m lo p).reverse)
    have between := List.takeWhile_append_dropWhile (p := isBlank) (l := rest)
    rw [← shape] at between
    rw [bracket, ← between] at before
    let gap := (rest.takeWhile isBlank).reverse
    let gap' := ((slice m lo p).reverse.takeWhile isBlank).reverse
    have whole : slice m lo p = r.reverse ++ (t ++ gap ++ '[' :: gap') := by
      have back := congrArg List.reverse before
      rw [List.reverse_reverse] at back
      exact back.symm.trans (by simp [gap, gap'])
    have place : lo + (rest.dropWhile isBlank).length - t.length = lo + r.reverse.length := by
      rw [← shape, List.length_append, List.length_reverse, List.length_reverse]
      omega
    have short : lo + r.reverse.length ≤ m.length := by
      have := congrArg List.length whole
      rw [length_slice low within, List.length_append] at this
      omega
    rw [place] at barred ⊢
    refine ⟨Nat.le_add_right _ _, ?_, gap, gap', fun c among => ?_, ?_⟩
    · rw [endsIn, getLast?_take_of_le short]
      simpa using barred
    · rcases List.mem_append.mp among with among | among
      · exact List.mem_takeWhile_imp (List.mem_reverse.mp among)
      · exact List.mem_takeWhile_imp (List.mem_reverse.mp among)
    · rw [← drop_slice, whole, List.drop_left]
  · cases found

lemma OpensAt.lt (h : OpensAt m t n p) : n < p := by
  obtain ⟨-, gap, gap', -, shape⟩ := h
  exact lt_of_slice_ne_nil (by rw [shape]; simp)

/-- A collection that stands before a bracket is found. -/
lemma OpensAt.accessStart? (h : OpensAt m t n p) (chain : Chain t) (low : lo ≤ n)
    (within : p ≤ m.length) : Loop.accessStart? m t lo p = some n := by
  have last := h.lt
  obtain ⟨apart, gap, gap', blank, shape⟩ := h
  have blank' : ∀ c ∈ gap'.reverse, isBlank c = true :=
    fun c among => blank c (List.mem_append_right _ (List.mem_reverse.mp among))
  have blank'' : ∀ c ∈ gap.reverse, isBlank c = true :=
    fun c among => blank c (List.mem_append_left _ (List.mem_reverse.mp among))
  have reversed : (slice m lo p).reverse = gap'.reverse ++
      '[' :: (gap.reverse ++ (t.reverse ++ (slice m lo n).reverse)) := by
    rw [slice_append_slice low (Nat.le_of_lt last), shape]
    simp
  have solid : (t.reverse ++ (slice m lo n).reverse).dropWhile isBlank =
      t.reverse ++ (slice m lo n).reverse := by
    refine trimLeft_of_solid ?_
    rw [startsIn_append (by simpa using chain.ne_nil), startsIn, List.head?_reverse]
    exact endsIn_isBlank chain.2
  have lengths : lo + (t.reverse ++ (slice m lo n).reverse).length - t.length = n := by
    rw [List.length_append, List.length_reverse, List.length_reverse, length_slice low (by omega)]
    omega
  have named : startsWith (t.reverse ++ (slice m lo n).reverse) t.reverse = true := by
    simp [startsWith]
  rw [Loop.accessStart?, reversed, List.dropWhile_append_of_pos blank',
    List.dropWhile_cons_of_neg (by decide)]
  simp only [List.dropWhile_append_of_pos blank'', solid, named, if_true, lengths]
  rw [← getLast?_take_of_le (by omega), ← endsIn, apart, if_neg Bool.false_ne_true]

/-- A closing bracket behind the index. -/
def ClosesAt (m index : Text) (p n : Nat) : Prop :=
  ∃ gap, (∀ c ∈ gap, isBlank c = true) ∧ slice m p n = index ++ gap ++ [']']

lemma ClosesAt.lt {index : Text} (h : ClosesAt m index p n) : p < n := by
  obtain ⟨gap, -, shape⟩ := h
  exact lt_of_slice_ne_nil (by rw [shape]; simp)

lemma ClosesAt.length_le {index : Text} (h : ClosesAt m index p n) : p + index.length ≤ n := by
  have last := h.lt
  obtain ⟨gap, -, shape⟩ := h
  have short := congrArg List.length shape
  rw [slice, List.length_take, List.length_drop, List.length_append, List.length_append] at short
  omega

/-- What goes on at the index and behind the bracket. -/
lemma ClosesAt.drop_eq {index : Text} (h : ClosesAt m index p n) :
    ∃ gap, (∀ c ∈ gap, isBlank c = true) ∧ m.drop p = index ++ (gap ++ ']' :: m.drop n) := by
  obtain ⟨gap, blank, shape⟩ := h
  have last := lt_of_slice_ne_nil (t := m) (i := p) (j := n) (by rw [shape]; simp)
  refine ⟨gap, blank, ?_⟩
  rw [drop_eq_slice_append (Nat.le_of_lt last), shape]
  simp

lemma ClosesAt.trimLeft_eq {index : Text} (h : ClosesAt m index p n) :
    trimLeft (m.drop (p + index.length)) = ']' :: m.drop n := by
  obtain ⟨gap, blank, shape⟩ := h.drop_eq
  rw [← List.drop_drop, shape, List.drop_left, trimLeft_append blank rfl]

/-- A bracket behind the index closes there. -/
lemma closesAt_of_trimLeft {index rest : Text} (here : index <+: m.drop p)
    (close : trimLeft (m.drop (p + index.length)) = ']' :: rest) :
    ClosesAt m index p (m.length - rest.length) ∧ m.drop (m.length - rest.length) = rest := by
  obtain ⟨behind, shape⟩ := here
  have gap := List.takeWhile_append_dropWhile (p := isBlank) (l := behind)
  rw [← List.drop_drop, ← shape, List.drop_left, trimLeft] at close
  rw [close] at gap
  have whole : m.drop p = (index ++ behind.takeWhile isBlank ++ [']']) ++ rest := by
    rw [← shape]
    conv_lhs => rw [← gap]
    simp
  have lengths := congrArg List.length whole
  rw [List.length_drop, List.length_append] at lengths
  have inside : p + (index ++ behind.takeWhile isBlank ++ [']']).length =
      m.length - rest.length := by
    have some' : 0 < (index ++ behind.takeWhile isBlank ++ [']']).length :=
      List.length_pos_iff.mpr (by simp)
    omega
  rw [← inside]
  refine ⟨⟨behind.takeWhile isBlank, fun c among => List.mem_takeWhile_imp among, ?_⟩, ?_⟩
  · rw [slice, Nat.add_sub_cancel_left, whole, List.take_left]
  · rw [← List.drop_drop, whole, List.drop_left]

/-- The index at an offset reads the element in a span: the collection and an opening bracket
stand before it, and a closing one behind it, with nothing but blanks between them. -/
structure ElementAt (m : Text) (h : Loop.Header) (s : Span) (p : Nat) : Prop where
  opens : OpensAt m h.collection s.start p
  closes : ClosesAt m h.index p s.stop

/-- The index occurs there. -/
lemma ElementAt.occursAt (e : ElementAt m h s p) : OccursAt m h.index p := by
  obtain ⟨gap, blank, behind⟩ := e.closes.drop_eq
  obtain ⟨-, first, gap', blank', shape⟩ := e.opens
  have before : m.take p = (m.take s.start ++ (h.collection ++ first)) ++ '[' :: gap' := by
    rw [← List.take_append_drop s.start (m.take p), List.take_take,
      Nat.min_eq_left (Nat.le_of_lt e.opens.lt), List.drop_take, ← slice, shape]
    simp
  have blank'' : ∀ c ∈ gap', isBlank c = true := fun c among => blank' c (by simp [among])
  refine ⟨⟨_, behind.symm⟩, ?_, ?_, ?_⟩
  · rw [before, endsIn_append (List.cons_ne_nil _ _)]
    rcases List.eq_nil_or_concat' gap' with rfl | ⟨others, c, rfl⟩
    · rfl
    · have split : '[' :: (others ++ [c]) = ('[' :: others) ++ [c] := rfl
      rw [split, endsIn_append (List.cons_ne_nil _ _)]
      exact isName_of_isBlank (blank'' c (by simp))
  · rw [← List.drop_drop, behind, List.drop_left]
    cases gap with
    | nil => rfl
    | cons c others => exact isName_of_isBlank (blank c List.mem_cons_self)
  · rintro ⟨dot, -⟩
    have split : (m.take s.start ++ (h.collection ++ first)) ++ '[' :: gap' =
        ((m.take s.start ++ (h.collection ++ first)) ++ ['[']) ++ gap' := by simp
    rw [before, split, trimRight_append _ blank'', trimRight_append_singleton _ rfl, endsWith,
      List.isSuffixOf_iff_suffix] at dot
    obtain ⟨others, same⟩ := dot
    have last := congrArg List.getLast? same
    simp at last

/-- It reads no other element. -/
lemma ElementAt.eq (named : Named h) (e : ElementAt m h s p) (e' : ElementAt m h s' p)
    (within : s.stop ≤ m.length) (within' : s'.stop ≤ m.length) : s = s' := by
  have inside := Nat.le_trans (Nat.le_of_lt e.closes.lt) within
  have start : some s.start = some s'.start := by
    rw [← e.opens.accessStart? named.collection (Nat.zero_le _) inside,
      e'.opens.accessStart? named.collection (Nat.zero_le _) inside]
  have stop := e.closes.trimLeft_eq.symm.trans e'.closes.trimLeft_eq
  have lengths := congrArg List.length stop
  rw [List.length_cons, List.length_cons, List.length_drop, List.length_drop] at lengths
  cases s
  cases s'
  simp only [Option.some_inj] at start lengths within within'
  simp only [Span.mk.injEq]
  omega

/-- From an index up to the bracket behind it, just the characters of the index are those
of a name. -/
lemma ClosesAt.isName_iff {index : Text} (h : ClosesAt m index p n)
    (identifier : isIdentifier index = true) (low : p ≤ k) (high : k < n) :
    m[k]?.any isName = true ↔ k < p + index.length := by
  obtain ⟨gap, blank, shape⟩ := h
  have others : ∀ c ∈ gap ++ [']'], isName c = false := by
    intro c among
    rcases List.mem_append.mp among with among | among
    · exact isName_of_isBlank (blank c among)
    · rw [List.mem_singleton.mp among]
      rfl
  rw [← getElem?_slice low high, shape, List.append_assoc]
  by_cases inside : k < p + index.length
  · rw [List.getElem?_append_left (by omega), List.getElem?_eq_getElem (by omega)]
    simp [inside, all_isName_of_isIdentifier identifier _ (List.getElem_mem _)]
  · rw [List.getElem?_append_right (by omega)]
    simp only [inside, iff_false, Bool.not_eq_true]
    cases here : (gap ++ [']'])[k - p - index.length]? with
    | none => rfl
    | some c => exact others c (List.mem_of_getElem? here)

lemma ClosesAt.getElem?_eq {index : Text} (h : ClosesAt m index p n) (within : n ≤ m.length) :
    m[n - 1]? = some ']' := by
  have last := h.lt
  obtain ⟨gap, blank, shape⟩ := h
  have length := length_slice (Nat.le_of_lt last) within
  rw [shape, List.length_append, List.length_singleton] at length
  rw [← getElem?_slice (i := p) (j := n) (by omega) (by omega), shape,
    List.getElem?_append_right (by omega)]
  have place : n - 1 - p - (index ++ gap).length = 0 := by omega
  rw [place]
  rfl

/-- No bracket closes before the index that reads an element. -/
lemma OpensAt.notMem (h : OpensAt m t n p) (chain : Chain t) : ']' ∉ slice m n p := by
  obtain ⟨-, gap, gap', blank, shape⟩ := h
  intro among
  rw [shape, List.mem_append, List.mem_append] at among
  rcases among with (among | among) | among
  · rcases chain.1 _ among with name | dot
    · cases name
    · cases dot
  · exact ne_of_isBlank (blank _ (List.mem_append_left _ among)) rfl rfl
  · rcases List.mem_cons.mp among with same | among
    · cases same
    · exact ne_of_isBlank (blank _ (List.mem_append_right _ among)) rfl rfl

/-- Of two elements, the one whose index stands first ends before the other starts. -/
lemma ElementAt.stop_le (named : Named h) (e : ElementAt m h s p) (e' : ElementAt m h s' p')
    (within : s.stop ≤ m.length) (first : p < p') : s.stop ≤ s'.start := by
  have occurs := e'.occursAt
  have some' := ne_nil_of_isIdentifier named.index
  have apart : s.stop ≤ p' := by
    by_contra inside
    have letter : m[p']?.any isName = true := by
      obtain ⟨c, cs, shape⟩ := List.exists_cons_of_ne_nil some'
      obtain ⟨behind, here⟩ := occurs.here
      have at' : m[p']? = some c := by
        have := congrArg List.head? here
        rw [shape, List.head?_drop] at this
        exact this.symm
      rw [at', Option.any_some]
      exact all_isName_of_isIdentifier named.index c (by rw [shape]; exact List.mem_cons_self)
    have before := occurs.apart
    rw [endsIn, getLast?_take_of_le (by omega), if_neg (by omega)] at before
    have here := (e.closes.isName_iff named.index (by omega) (by omega)).mp letter
    have there := (e.closes.isName_iff (k := p' - 1) named.index (by omega) (by omega)).mpr (by omega)
    rw [there] at before
    cases before
  by_contra beyond
  have last := e.closes.lt
  have bracket := e.closes.getElem?_eq within
  rw [← getElem?_slice (i := s'.start) (j := p') (by omega) (by omega)] at bracket
  exact e'.opens.notMem named.collection (List.mem_of_getElem? bracket)

/-! ### All elements of a body -/

/-- An operator behind an element, or a step before it, is taken for one that writes it. -/
def WritesAt (m : Text) (s : Span) : Prop :=
  Loop.writesBehind (m.drop s.stop) = true ∨
    endsWith (trimRight (m.take s.start)) ['+', '+'] = true ∨
      endsWith (trimRight (m.take s.start)) ['-', '-'] = true

/-- What is read at a use of the index is an element that is not written. -/
lemma elementAt_of_elementAccess (here : h.index <+: m.drop p) (low : lo ≤ p)
    (within : p ≤ m.length) (found : Loop.elementAccess m h lo p = .ok s) :
    lo ≤ s.start ∧ s.stop ≤ m.length ∧ ElementAt m h s p ∧ ¬ WritesAt m s := by
  rw [Loop.elementAccess] at found
  dsimp only at found
  split at found
  · next start rest opens closes =>
    split_ifs at found with written
    · cases found
    · cases found
      obtain ⟨first, opens⟩ := opensAt_of_accessStart? low within opens
      obtain ⟨closes, behind⟩ := closesAt_of_trimLeft here closes
      refine ⟨first, Nat.sub_le _ _, ⟨opens, closes⟩, fun writes => written ?_⟩
      rw [WritesAt, behind] at writes
      simpa only [Bool.or_eq_true] using writes
  · cases found

/-- What the reads of a body are: just the elements in it, none of which is written. Each
use of the index reads one of them, and each ends before the next one starts. -/
structure Elements (m : Text) (h : Loop.Header) (lo hi : Nat) (spans : List Span) : Prop where
  mem_iff : ∀ s, s ∈ spans ↔ lo ≤ s.start ∧ s.stop ≤ hi ∧ ∃ p, ElementAt m h s p
  covers : ∀ p, lo ≤ p → p + h.index.length ≤ hi → OccursAt m h.index p →
    ∃ s ∈ spans, ElementAt m h s p
  ordered : spans.Pairwise fun s s' => s.stop ≤ s'.start
  unwritten : ∀ s ∈ spans, ¬ WritesAt m s

/-- A use of the index stands in the body. -/
lemma use_of_mem (some' : h.index ≠ []) (among : p ∈ wordOffsetsBetween h.index m lo hi) :
    lo ≤ p ∧ p + h.index.length ≤ hi ∧ h.index <+: m.drop p ∧ p ≤ m.length := by
  have low := offset_le_of_mem_wordOffsetsFrom among
  have here := prefix_of_mem_wordOffsetsFrom among
  rw [List.drop_drop, Nat.add_sub_cancel' low, List.drop_take] at here
  have short := here.length_le
  have longer := List.length_pos_iff.mpr some'
  rw [List.length_take, List.length_drop] at short
  exact ⟨low, by omega, here.trans (List.take_prefix _ _), by omega⟩

/-- An element whose index stands in a body ends in it. -/
lemma ClosesAt.le_of_brace {index : Text} (closes : ClosesAt m index p n)
    (brace : m[hi]? = some '}') (high : p + index.length ≤ hi) : n ≤ hi := by
  obtain ⟨gap, blank, shape⟩ := closes
  by_contra beyond
  rw [← getElem?_slice (i := p) (j := n) (by omega) (by omega), shape, List.append_assoc,
    List.getElem?_append_right (by omega)] at brace
  rcases List.mem_append.mp (List.mem_of_getElem? brace) with among | among
  · exact absurd (blank _ among) (by decide)
  · cases List.mem_singleton.mp among

/-- Each use of the index reads an element, and the elements are found in that order. -/
lemma reads_of_elementAccesses {spans : List Span} (named : Named h)
    (brace : m[hi]? = some '}') (found : Loop.elementAccesses m h lo hi = .ok spans) :
    List.Forall₂ (fun p s => lo ≤ s.start ∧ s.stop ≤ hi ∧ ElementAt m h s p ∧ ¬ WritesAt m s)
      ((wordOffsetsBetween h.index m lo hi).filter (! isPropertyAccess m ·)) spans := by
  rw [Loop.elementAccesses] at found
  obtain ⟨spans, mapped, found⟩ := exists_of_bind_eq_ok found
  split at found
  · cases found
  cases found
  refine List.Forall₂.imp (fun p s both => ?_)
    ((List.forall₂_and_left _ _).mpr ⟨fun p use => use, forall₂_of_mapM mapped⟩)
  obtain ⟨use, access⟩ := both
  obtain ⟨low, high, here, within⟩ :=
    use_of_mem (ne_nil_of_isIdentifier named.index) (List.mem_filter.mp use).1
  obtain ⟨first, -, element, unwritten⟩ := elementAt_of_elementAccess here low within access
  exact ⟨first, element.closes.le_of_brace brace high, element, unwritten⟩

/-- **All elements of a body** are found, and none of them is written. -/
lemma elements_of_elementAccesses {spans : List Span} (named : Named h)
    (brace : m[hi]? = some '}') (found : Loop.elementAccesses m h lo hi = .ok spans) :
    Elements m h lo hi spans := by
  have end' : hi < m.length := (List.getElem?_eq_some_iff.mp brace).1
  have reads := reads_of_elementAccesses named brace found
  have covers : ∀ p, lo ≤ p → p + h.index.length ≤ hi → OccursAt m h.index p →
      ∃ s ∈ spans, s.stop ≤ hi ∧ ElementAt m h s p := by
    intro p low high occurs
    have use : p ∈ (wordOffsetsBetween h.index m lo hi).filter (! isPropertyAccess m ·) := by
      refine List.mem_filter.mpr ⟨occurs.mem_wordOffsetsBetween named.index low high, ?_⟩
      rw [Bool.not_eq_true', ← Bool.not_eq_true]
      exact fun member => occurs.free (followsDot_of_isPropertyAccess member)
    obtain ⟨s, among, -, last, element, -⟩ := exists_of_forall₂' reads p use
    exact ⟨s, among, last, element⟩
  refine ⟨fun s => ⟨fun among => ?_, ?_⟩, fun p low high occurs => ?_, ?_, fun s among => ?_⟩
  · obtain ⟨p, -, first, last, element, -⟩ := exists_of_forall₂ reads s among
    exact ⟨first, last, p, element⟩
  · rintro ⟨first, last, p, element⟩
    have before := element.opens.lt
    have behind := element.closes.length_le
    obtain ⟨s', among, last', element'⟩ := covers p (by omega) (by omega) element.occursAt
    rwa [element.eq named element' (by omega) (by omega)]
  · obtain ⟨s, among, -, element⟩ := covers p low high occurs
    exact ⟨s, among, element⟩
  · refine pairwise_of_forall₂ reads (fun p p' s s' read read' order => ?_)
      (pairwise_wordOffsetsFrom.filter _)
    exact read.2.2.1.stop_le named read'.2.2.1 (by omega) order
  · obtain ⟨p, -, -, -, -, unwritten⟩ := exists_of_forall₂ reads s among
    exact unwritten

/-! ### The rewritten loop -/

/-- A loop that is found: its head names an index and a collection, and its body ends with a
brace. -/
lemma counting?_spec {code : Text} {d : Diagnostic} {c : Loop.Counting}
    (counted : Loop.counting? code d = some c) :
    Named c.header ∧ (mask code)[c.bodyClose]? = some '}' ∧ c.paren ≤ c.close ∧
      c.close < c.bodyOpen ∧ c.bodyOpen ≤ c.bodyClose := by
  simp only [Loop.counting?, Option.bind_eq_bind, Option.bind_eq_some_iff] at counted
  obtain ⟨paren, -, close, matching, header, head, rest⟩ := counted
  split at rest
  · cases rest
  next brace =>
  rw [Option.bind_eq_some_iff] at rest
  obtain ⟨bodyClose, closes, same⟩ := rest
  cases same
  exact ⟨named_of_header? head, getElem?_of_findMatching (not_not.mp brace) closes,
    le_findMatching matching, by dsimp only; omega, le_findMatching closes⟩

/-- An edit of `prefer-for-of` is one of the loop that is found: its elements are not
written, the collection is not changed, and there is a name for the element. -/
lemma edit_preferForOf {code after : Text} {d : Diagnostic} {c : Loop.Counting}
    (counted : Loop.counting? code d = some c) (edit : Loop.preferForOf.edit code d = .ok after) :
    ∃ spans element, Elements (mask code) c.header (c.bodyOpen + 1) c.bodyClose spans ∧
      Loop.mutates c.header.collection none
        (slice (mask code) (c.bodyOpen + 1) c.bodyClose) = false ∧
      Loop.elementName? (mask code) c = some element ∧
      after = splice (Loop.replaceSpans code element spans) c.paren (c.close + 1)
        ("(const ".toList ++ element ++ " of ".toList ++ c.header.collection ++ [')']) := by
  obtain ⟨named, brace, -⟩ := counting?_spec counted
  simp only [Loop.preferForOf, counted] at edit
  rw [Loop.throughElements] at edit
  obtain ⟨spans, accesses, edit⟩ := exists_of_bind_eq_ok edit
  split at edit
  · cases edit
  next unchanged =>
  split at edit
  · cases edit
  split at edit
  · cases edit
  next element chosen =>
  cases edit
  exact ⟨spans, element, elements_of_elementAccesses named brace accesses,
    by simpa using unchanged, chosen, rfl⟩

end LintRepair.Rules
