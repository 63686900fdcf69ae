/-
Where a name is assigned.

* `Written`: an operator behind a name assigns to it, one before it steps it, or a loop
  assigns to it;
* `Written.isReassignment`: such an occurrence is told from a reference;
* `Outside`: an occurrence is not one of the names that a declaration binds, and
  `Outside.isDeclaredTarget`: it is not taken for one.
-/
import LintRepair.Proofs.Code.Items
import LintRepair.Proofs.Code.Occurs

namespace LintRepair.Code

open Text Lexical

variable {m name word : Text} {o k : Nat} {depth : Int} {d : Declaration}

/-! ### Assignments -/

/-- The operators that assign to what stands before them. -/
def assignOperators : List Text :=
  ["++", "--", "=", "+=", "-=", "*=", "/=", "%=", "**=", "<<=", ">>=", ">>>=", "&=", "|=", "^=",
    "&&=", "||=", "??="].map String.toList

/-- The operators that step what stands behind them. -/
def stepOperators : List Text := ["++", "--"].map String.toList

/-- The keywords between the target and the collection in the head of a loop. -/
def passageWords : List Text := ["of", "in"].map String.toList

/-- What stands between two texts is assigned: by an operator behind it, which is not
the start of a comparison or an arrow, by a step before it, or as the target in the
head of a loop. -/
inductive Written (before behind : Text) : Prop
  | operator {op rest : Text} (among : op ∈ assignOperators) (here : trimLeft behind = op ++ rest)
      (alone : op = ['='] → startsIn (fun c => c == '=' || c == '>') rest = false)
  | step {op rest : Text} (among : op ∈ stepOperators) (here : trimRight before = rest ++ op)
  | loop {start gap gap' gap'' word rest : Text} (among : word ∈ passageWords)
      (head : before = start ++ "for".toList ++ gap ++ '(' :: gap')
      (here : behind = gap'' ++ (word ++ rest)) (some' : gap'' ≠ [])
      (blank : ∀ c ∈ gap ++ gap' ++ gap'', isBlank c = true) (ends : startsIn isName rest = false)

/-- The keyword of a passage is seen. -/
lemma isSome_passageKeyword? (among : word ∈ passageWords) {rest : Text}
    (ends : startsIn isName rest = false) : (passageKeyword? (word ++ rest)).isSome = true := by
  have ends' := isWord_of_isName ends
  simp only [passageWords, List.map_cons, List.map_nil, List.mem_cons, List.not_mem_nil, or_false]
    at among
  rcases among with rfl | rfl
  · change (if startsIn isWord rest = true then none else some ForKind.of).isSome = true
    rw [ends', if_neg Bool.false_ne_true]
    rfl
  · change (if startsIn isWord rest = true then none else some ForKind.in).isSome = true
    rw [ends', if_neg Bool.false_ne_true]
    rfl

/-- An operator behind a name is seen. -/
lemma isSome_reassignmentBehind? {op rest behind : Text} (among : op ∈ assignOperators)
    (here : trimLeft behind = op ++ rest)
    (alone : op = ['='] → startsIn (fun c => c == '=' || c == '>') rest = false) :
    (reassignmentBehind? behind).isSome = true := by
  simp only [assignOperators, List.map_cons, List.map_nil, List.mem_cons, List.not_mem_nil, or_false]
    at among
  rw [reassignmentBehind?, here]
  rcases among with rfl | rfl | rfl | rfl | rfl | rfl | rfl | rfl | rfl | rfl | rfl | rfl |
    rfl | rfl | rfl | rfl | rfl | rfl
  case inr.inr.inl =>
    change (if startsIn (fun c => c == '=' || c == '>') rest = true then none
      else some Reassignment.assign).isSome = true
    rw [alone rfl, if_neg Bool.false_ne_true]
    rfl
  all_goals rfl

/-- A step before a name is seen. -/
lemma isSome_reassignmentBefore? {op rest before : Text} (among : op ∈ stepOperators)
    (here : trimRight before = rest ++ op) : (reassignmentBefore? before).isSome = true := by
  have reversed : before.reverse.dropWhile isBlank = op.reverse ++ rest.reverse := by
    rw [← List.reverse_append, ← here, trimRight, dropEndWhile, List.reverse_reverse]
  simp only [stepOperators, List.map_cons, List.map_nil, List.mem_cons, List.not_mem_nil, or_false]
    at among
  rw [reassignmentBefore?, reversed]
  rcases among with rfl | rfl <;> rfl

lemma ne_nil_of_passageWords : ∀ word ∈ passageWords, word ≠ [] := by decide

lemma solid_of_passageWords (among : word ∈ passageWords) (rest : Text) :
    startsIn isBlank (word ++ rest) = false := by
  have solid : ∀ word ∈ passageWords, startsIn isBlank word = false := by decide
  rw [startsIn_append (ne_nil_of_passageWords word among), solid word among]

/-- The head of a loop is seen. -/
lemma endsWithForHead_append {start gap gap' : Text}
    (blank : ∀ c ∈ gap ++ gap', isBlank c = true) :
    endsWithForHead (start ++ "for".toList ++ gap ++ '(' :: gap') = true := by
  have outer : ∀ c ∈ gap.reverse, isBlank c = true := by
    intro c among
    exact blank c (List.mem_append_left _ (List.mem_reverse.mp among))
  have inner : ∀ c ∈ gap'.reverse, isBlank c = true := by
    intro c among
    exact blank c (List.mem_append_right _ (List.mem_reverse.mp among))
  have reversed : (start ++ "for".toList ++ gap ++ '(' :: gap').reverse =
      gap'.reverse ++ ('(' :: (gap.reverse ++ ('r' :: 'o' :: 'f' :: start.reverse))) := by
    simp
  rw [endsWithForHead, reversed, ← trimLeft, trimLeft_append inner rfl]
  change startsWith (trimLeft (gap.reverse ++ _)) ['r', 'o', 'f'] = true
  rw [trimLeft_append outer rfl]
  rfl

/-- The target in the head of a loop is followed by the keyword of the passage. -/
lemma startsWithPassage_append {gap rest : Text} (among : word ∈ passageWords) (some' : gap ≠ [])
    (blank : ∀ c ∈ gap, isBlank c = true) (ends : startsIn isName rest = false) :
    startsWithPassage (gap ++ (word ++ rest)) = true := by
  obtain ⟨c, cs, rfl⟩ := List.exists_cons_of_ne_nil some'
  rw [startsWithPassage, trimLeft_append blank (solid_of_passageWords among rest),
    isSome_passageKeyword? among ends, Bool.and_true]
  exact blank c List.mem_cons_self

/-- What is assigned is told from a reference. -/
lemma Written.isReassignment (h : Written (m.take o) (m.drop (o + name.length))) :
    (classifyOccurrence m name o).isReassignment = true := by
  rw [classifyOccurrence]
  cases h with
  | operator among here alone =>
      obtain ⟨how, found⟩ :=
        Option.isSome_iff_exists.mp (isSome_reassignmentBehind? among here alone)
      simp [found, Occurrence.isReassignment]
  | step among here =>
      obtain ⟨how, found⟩ := Option.isSome_iff_exists.mp (isSome_reassignmentBefore? among here)
      cases reassignmentBehind? (m.drop (o + name.length)) <;>
        simp [found, Occurrence.isReassignment]
  | loop among head here some' blank ends =>
      have head' : endsWithForHead (m.take o) = true := by
        rw [head]
        exact endsWithForHead_append fun c hc => blank c (List.mem_append_left _ hc)
      have passage : startsWithPassage (m.drop (o + name.length)) = true := by
        rw [here]
        exact startsWithPassage_append among some'
          (fun c hc => blank c (List.mem_append_right _ hc)) ends
      cases reassignmentBehind? (m.drop (o + name.length)) <;>
        cases reassignmentBefore? (m.take o) <;>
          simp [head', passage, Occurrence.isReassignment]

/-- What is assigned is no key. -/
lemma Written.not_keyAt (h : Written (m.take o) (m.drop (o + name.length))) :
    ¬ KeyAt m name o := by
  rintro ⟨colon, brace⟩
  cases h with
  | @operator op rest among here =>
      have other : ∀ op ∈ assignOperators, op ≠ [] ∧ startsIn (· == ':') op = false := by decide
      rw [here, startsIn_append (other op among).1, (other op among).2] at colon
      cases colon
  | @step op rest among here =>
      have other : ∀ op ∈ stepOperators,
          op ≠ [] ∧ endsIn (fun c => c == '{' || c == ',') op = false := by decide
      rw [here, endsIn_append (other op among).1, (other op among).2] at brace
      cases brace
  | @loop start gap gap' gap'' word rest among head here some' blank ends =>
      have other : ∀ word ∈ passageWords, startsIn (· == ':') word = false := by decide
      rw [here, trimLeft_append (fun c hc => blank c (List.mem_append_right _ hc))
        (solid_of_passageWords among _), startsIn_append (ne_nil_of_passageWords word among),
        other word among] at colon
      cases colon

/-! ### The names that a declaration binds -/

lemma endsInValue_cons {prev : Option Char} {c : Char} {inValue : Bool} {rest : Text} :
    endsInValue prev depth inValue (c :: rest) =
      endsInValue (some c) (depth + bracketStep c)
        (if c = ',' ∧ depth = 0 then false
          else if c = '=' ∧ depth = 0 ∧ assigns prev rest.head? = true then true else inValue)
        rest := by
  rw [endsInValue, bracketStep]
  by_cases comma : c = ','
  · subst comma
    by_cases level : depth = 0 <;> simp [isOpener, isCloser, level]
  · by_cases equals : c = '='
    · subst equals
      by_cases level : depth = 0 <;> cases value : assigns prev rest.head? <;>
        simp [isOpener, isCloser, level]
    · simp only [comma, equals, false_and, if_false, beq_eq_false_iff_ne.mpr comma,
        beq_eq_false_iff_ne.mpr equals, Bool.false_and, Bool.false_eq_true]
      split_ifs <;> simp [Int.sub_eq_add_neg]

/-- What has been read of a segment tells on the rest by its last character, its nesting
and whether a value has started. -/
lemma exists_endsInValue_append (before rest : Text) :
    ∀ (prev : Option Char) (depth : Int) (inValue : Bool), ∃ inValue',
      endsInValue prev depth inValue (before ++ rest) =
        endsInValue (before.getLast?.or prev) (depth + nesting before) inValue' rest := by
  induction before with
  | nil =>
      intro prev depth inValue
      exact ⟨inValue, by simp⟩
  | cons c before ih =>
      intro prev depth inValue
      rw [List.cons_append, endsInValue_cons]
      obtain ⟨inValue', same⟩ := ih (some c) (depth + bracketStep c) _
      refine ⟨inValue', same.trans ?_⟩
      rw [List.getLast?_cons, nesting_cons, Int.add_assoc]
      cases before.getLast? <;> rfl

/-- A value goes on up to the next comma outside brackets. -/
lemma endsInValue_true {rest : Text} : ∀ (prev : Option Char) (depth : Int),
    (∀ i, rest[i]? = some ',' → depth + nesting (rest.take i) ≠ 0) →
      endsInValue prev depth true rest = true := by
  induction rest with
  | nil => intro prev depth own; rfl
  | cons c rest ih =>
      intro prev depth own
      have here : ¬ (c = ',' ∧ depth = 0) := by
        rintro ⟨rfl, rfl⟩
        exact own 0 rfl rfl
      rw [endsInValue_cons, if_neg here, ite_self]
      refine ih _ _ fun i comma => ?_
      have := own (i + 1) comma
      rwa [List.take_succ_cons, nesting_cons, ← Int.add_assoc] at this

lemma assigns_none {prev next : Option Char} (here : assigns prev next = true) :
    assigns prev none = true := by
  simp only [assigns, Bool.not_eq_true', Bool.or_eq_false_iff] at here ⊢
  simp [here]

/-- The start of a text ends in a value, behind an equals sign and no comma. -/
lemma endsInValue_of_assignsAt {segment rest : Text} (value : AssignsAt (segment ++ rest) k)
    (before : k < segment.length)
    (own : ∀ i, k < i → i < segment.length → ¬ Separates ',' (segment ++ rest) i) :
    endsInValue none 0 false segment = true := by
  obtain ⟨equals, level, operator⟩ := value
  rw [List.take_append_of_le_length (Nat.le_of_lt before)] at level operator
  rw [List.getElem?_append_left before] at equals
  obtain ⟨_, here⟩ := List.getElem?_eq_some_iff.mp equals
  have shape : segment = segment.take k ++ '=' :: segment.drop (k + 1) := by
    rw [← here, ← List.drop_eq_getElem_cons before, List.take_append_drop]
  have operator' : assigns (segment.take k).getLast? (segment.drop (k + 1)).head? = true := by
    rw [List.head?_drop]
    by_cases more : k + 1 < segment.length
    · rwa [List.getElem?_append_left more] at operator
    · rw [List.getElem?_eq_none (Nat.not_lt.mp more)]
      exact assigns_none operator
  obtain ⟨inValue, passed⟩ :=
    exists_endsInValue_append (segment.take k) ('=' :: segment.drop (k + 1)) none 0 false
  rw [← shape, level, Option.or_none, Int.zero_add, endsInValue_cons, if_neg (by decide),
    if_pos ⟨rfl, rfl, operator'⟩] at passed
  rw [passed]
  refine endsInValue_true _ _ fun i comma zero => ?_
  rw [List.getElem?_drop] at comma
  obtain ⟨within, -⟩ := List.getElem?_eq_some_iff.mp comma
  refine own (k + 1 + i) (by omega) within ⟨?_, ?_⟩
  · rwa [List.getElem?_append_left within]
  · rw [List.take_append_of_le_length (Nat.le_of_lt within), List.take_add, nesting_append,
      List.take_add_one, equals, nesting_append, level]
    simpa using zero

/-- The keyword of a passage stands in a text. -/
lemma holdsPassageKeyword_append {behind : Text} (among : word ∈ passageWords)
    (ends : startsIn isName behind = false) (before : Text) :
    ∀ prev : Option Char, (before.getLast?.or prev).any isWord = false →
      holdsPassageKeyword prev (before ++ (word ++ behind)) = true := by
  induction before with
  | nil =>
      intro prev apart
      obtain ⟨c, cs, shape⟩ := List.exists_cons_of_ne_nil (ne_nil_of_passageWords word among)
      have found := isSome_passageKeyword? among ends
      rw [shape, List.cons_append] at found
      rw [shape, List.nil_append, List.cons_append, holdsPassageKeyword, found]
      have apart' : prev.any isWord = false := apart
      rw [apart']
      rfl
  | cons c before ih =>
      intro prev apart
      rw [List.cons_append, holdsPassageKeyword, ih (some c), Bool.or_true]
      rw [List.getLast?_cons] at apart
      cases last : before.getLast? <;> simpa [last] using apart

/-- An occurrence is not one of the names that a declaration binds: it stands before or
behind the declaration, in a value of it, or in the collection that a loop runs over. -/
inductive Outside (m : Text) (d : Declaration) (o : Nat) : Prop
  | before (early : o < d.start)
  | behind (late : d.stop ≤ o)
  | value {k : Nat} (value : AssignsAt (m.drop d.start) k) (before : d.start + k < o)
      (own : ∀ i, k < i → d.start + i < o → ¬ Separates ',' (m.drop d.start) i)
  | collection {word : Text} {k : Nat} (kind : d.forKind = some .of ∨ d.forKind = some .in)
      (among : word ∈ passageWords) (here : OccursAt (m.drop d.start) word k)
      (first : d.keyword.length ≤ k) (before : d.start + k < o)

/-- Behind the first letter of such a keyword no name starts. -/
lemma endsIn_of_passageWord {start : Nat} (among : word ∈ passageWords)
    (here : OccursAt (m.drop start) word k) : endsIn isName (m.take (start + k + 1)) = true := by
  have letters : ∀ word ∈ passageWords, word.all isNameStart = true := by decide
  obtain ⟨c, cs, rfl⟩ := List.exists_cons_of_ne_nil (ne_nil_of_passageWords word among)
  obtain ⟨rest, shape⟩ := here.here
  rw [List.drop_drop] at shape
  rw [List.take_add, ← shape, List.cons_append, List.take_succ_cons, List.take_zero,
    endsIn_append (List.cons_ne_nil c [])]
  exact isName_of_isNameStart (List.all_eq_true.mp (letters _ among) c List.mem_cons_self)

/-- It is not taken for one. -/
lemma Outside.isDeclaredTarget (h : Outside m d o) (occurs : OccursAt m name o)
    (some' : name ≠ []) (first : d.start ≤ o) (last : o < d.stop) : isDeclaredTarget m name o d = false := by
  have within : o ≤ m.length := Nat.le_trans (Nat.le_add_right _ _) (occurs.le_length some')
  have length : (slice m d.start o).length = o - d.start := length_slice first within
  rw [Code.isDeclaredTarget]
  cases h with
  | before early => omega
  | behind late => omega
  | @value k value before own =>
      have inValue : endsInValue none 0 false (slice m d.start o) = true := by
        rw [drop_eq_slice_append first] at value own
        refine endsInValue_of_assignsAt value (by omega) fun i later within => ?_
        exact own i later (by omega)
      simp [inValue]
  | @collection word k kind among here later before =>
      have held : holdsPassageKeyword none ((slice m d.start o).drop d.keyword.length) = true := by
        have whole : k + word.length ≤ o - d.start := by
          have short : ∀ word ∈ passageWords, word.length = 2 := by decide
          have two := short word among
          rcases Nat.lt_or_ge (d.start + k + 1) o with behind | at'
          · omega
          · obtain rfl : o = d.start + k + 1 := by omega
            exact absurd occurs.apart (by rw [endsIn_of_passageWord among here]; decide)
        obtain ⟨behind, cut, ends, apart⟩ :=
          here.between (ne_nil_of_passageWords word among) later whole
        rw [slice, cut]
        refine holdsPassageKeyword_append among ends _ _ ?_
        cases last : (slice (m.drop d.start) d.keyword.length k).getLast? with
        | none => rfl
        | some c =>
            rw [last, Option.some_or, Option.any_some, isName, Bool.or_eq_false_iff] at apart
            exact apart.1
      rcases kind with kind | kind <;> simp [kind, held]

end LintRepair.Code
