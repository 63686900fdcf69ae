/-
A name that `prefer-for-of` chooses for an element captures nothing.

* `exchanged`: a text with one word in place of some of its parts, and `replaceSpans_eq`:
  parts that are replaced from the last to the first are exchanged for it;
* `hygienic_of_fix`: the name is no reserved word and occurs nowhere in the function, the
  index occurs only where it reads an element, and just the head and the elements change;
* `hygienic_of_fix_not`: an index in what is taken for a regular expression is overlooked.
-/
import LintRepair.Grammar.Statement
import LintRepair.Proofs.Lexical.Division
import LintRepair.Proofs.Rules.Element
import LintRepair.Proofs.Rules.Mutation
import LintRepair.Proofs.Rules.Whole

namespace LintRepair.Rules

open Text Lexical Code Check Repair

variable {code m t word element : Text} {d : Diagnostic} {c : Loop.Counting} {lo i : Nat}
  {spans : List Span}

/-! ### Parts of a text exchanged -/

/-- A text from an offset on, with a word in place of each of the spans. -/
def exchanged (t word : Text) : Nat → List Span → Text
  | lo, [] => t.drop lo
  | lo, s :: rest => slice t lo s.start ++ word ++ exchanged t word s.stop rest

/-- Spans in their order, each in the text and behind an offset. -/
structure Apart (t : Text) (lo : Nat) (spans : List Span) : Prop where
  ordered : spans.Pairwise fun s s' => s.stop ≤ s'.start
  proper : ∀ s ∈ spans, lo ≤ s.start ∧ s.start ≤ s.stop ∧ s.stop ≤ t.length

/-- What is replaced from the last span to the first is exchanged in each of them. -/
lemma replaceSpans_eq (h : Apart t lo spans) :
    Loop.replaceSpans t word spans = t.take lo ++ exchanged t word lo spans := by
  induction spans generalizing lo with
  | nil => exact (List.take_append_drop lo t).symm
  | cons s rest ih =>
      obtain ⟨first, proper, within⟩ := h.proper s List.mem_cons_self
      obtain ⟨before, ordered⟩ := List.pairwise_cons.mp h.ordered
      have later : Apart t s.stop rest := by
        refine ⟨ordered, fun s' among => ⟨before s' among, ?_⟩⟩
        exact (h.proper s' (List.mem_cons_of_mem s among)).2
      have length : (t.take s.stop).length = s.stop := List.length_take_of_le within
      have start : t.take s.start = t.take lo ++ slice t lo s.start := by
        rw [slice, ← List.take_add, Nat.add_sub_cancel' first]
      change splice (Loop.replaceSpans t word rest) s.start s.stop word = _
      rw [ih later, splice, List.take_append_of_le_length (by omega), List.take_take,
        Nat.min_eq_left proper, List.drop_left' length, start, exchanged]
      simp

/-- Spans in a text are replaced, and then a part before all of them. -/
lemma splice_replaceSpans {paren : Nat} {head : Text} (h : Apart t lo spans)
    (before : paren ≤ lo) (within : lo ≤ t.length) :
    splice (Loop.replaceSpans t word spans) paren lo head =
      t.take paren ++ head ++ exchanged t word lo spans := by
  have length : (t.take lo).length = lo := List.length_take_of_le within
  rw [replaceSpans_eq h, splice, List.take_append_of_le_length (by omega), List.take_take,
    Nat.min_eq_left before, List.drop_left' length]

/-! ### The name of an element -/

/-- What is not used between two offsets does not occur there. -/
lemma not_occursAt_of_isUsed {hi : Nat} (identifier : isIdentifier word = true)
    (unused : Loop.isUsed m word lo hi = false) (low : lo ≤ i) (high : i + word.length ≤ hi) :
    ¬ OccursAt m word i := by
  intro occurs
  have found := List.any_eq_false.mp unused i (occurs.mem_wordOffsetsBetween identifier low high)
  rw [Bool.not_eq_true, Bool.not_eq_false'] at found
  exact occurs.free (followsDot_of_isPropertyAccess found)

/-- A name that captures nothing: no reserved word, other than the names in the head of the
loop, and free in the function around. -/
structure Hygienic (m : Text) (c : Loop.Counting) (element : Text) : Prop where
  identifier : isIdentifier element = true
  unreserved : element ∉ Loop.reservedWords
  index : element ≠ c.header.index
  root : element ≠ c.header.collection.takeWhile (· != '.')
  free : ∀ i, (functionScope m c.paren).start ≤ i →
    i + element.length ≤ (functionScope m c.paren).stop → ¬ OccursAt m element i

/-- Such a name is chosen. -/
lemma hygienic_of_elementName? (chosen : Loop.elementName? m c = some element) :
    Hygienic m c element := by
  have passes := List.find?_some chosen
  simp only [Bool.and_eq_true, Bool.not_eq_true', bne_iff_ne, List.contains_eq_mem,
    decide_eq_false_iff_not] at passes
  obtain ⟨⟨⟨⟨⟨-, unreserved⟩, root⟩, index⟩, identifier⟩, unused⟩ := passes
  exact ⟨identifier, unreserved, index, root, fun i low high =>
    not_occursAt_of_isUsed identifier unused low high⟩

/-! ### The rewritten loop -/

/-- The elements of a body stand in their order behind the head of the loop. -/
lemma Elements.apart {h : Loop.Header} {hi : Nat} (elements : Elements m h lo hi spans)
    (before : i ≤ lo) (within : hi ≤ t.length) : Apart t i spans := by
  refine ⟨elements.ordered, fun s among => ?_⟩
  obtain ⟨first, last, p, reads⟩ := (elements.mem_iff s).mp among
  have start := reads.opens.lt
  have stop := reads.closes.lt
  omega

/-- **Elements get a name that captures nothing.** Where the built-in fixer of
`prefer-for-of` rewrites the loop that is found, it chooses a name that is neither reserved
nor in the head of the loop, nor occurs anywhere in the function around; the index occurs
in the body only where it reads an element; and the text changes just in the head of the
loop and in these elements, for which the name stands. -/
theorem hygienic_of_fix {accepts : Acceptor} {o : Options} {f : Fixer} {r : FixResult}
    (builtin : builtin? accepts o "prefer-for-of" = some f) (fix : f.fix code d = .ok r)
    (success : r.isSuccess = true) (counted : Loop.counting? code d = some c) :
    ∃ element spans, Hygienic (mask code) c element ∧
      Elements (mask code) c.header (c.bodyOpen + 1) c.bodyClose spans ∧
      r.code = code.take c.paren ++
        ("(const ".toList ++ element ++ " of ".toList ++ c.header.collection ++ [')']) ++
        exchanged code element (c.close + 1) spans := by
  cases builtin
  obtain ⟨-, edit, -⟩ := edit_of_fixer fix success
  obtain ⟨spans, element, elements, -, chosen, rewritten⟩ := edit_preferForOf counted edit
  obtain ⟨-, brace, head, body, ends⟩ := counting?_spec counted
  have within := (List.getElem?_eq_some_iff.mp brace).1
  rw [length_mask] at within
  refine ⟨element, spans, hygienic_of_elementName? chosen, elements, ?_⟩
  rw [rewritten, splice_replaceSpans (elements.apart (by omega) (by omega)) (by omega) (by omega)]

theorem hygienic_of_fix_member :
    let code := "for (let i = 0; i < as.length; i++) \x7b\n  f(as[i], as.a);\n\x7d".toList
    let c : Loop.Counting := ⟨4, 34, 36, 56, overAs⟩
    ∃ f r, builtin? Grammar.accepts {} "prefer-for-of" = some f ∧ f.fix code counter = .ok r ∧
      r.isSuccess = true ∧ Loop.counting? code counter = some c ∧
      r.code = "for (const a of as) \x7b\n  f(a, as.a);\n\x7d".toList ∧
      ∃ element spans, Hygienic (mask code) c element ∧
        Elements (mask code) overAs 37 56 spans ∧
        r.code = code.take 4 ++
          ("(const ".toList ++ element ++ " of ".toList ++ "as".toList ++ [')']) ++
          exchanged code element 35 spans := by
  intro code c
  let f := complex Grammar.accepts "PreferForOfFixer" "prefer-for-of"
    "Convert counted loops over arrays to for...of" Loop.preferForOf
  have builtin : builtin? Grammar.accepts {} "prefer-for-of" = some f := rfl
  have fix : f.fix code counter =
      .ok { code := "for (const a of as) \x7b\n  f(a, as.a);\n\x7d".toList } := by
    decide +kernel
  have counted : Loop.counting? code counter = some c := by decide +kernel
  exact ⟨f, _, builtin, fix, rfl, counted, rfl, hygienic_of_fix builtin fix rfl counted⟩

/-- An index that a number is divided by, behind a step. -/
theorem hygienic_of_fix_not : ¬ ∀ (code : Text) (d : Diagnostic) (f : Fixer) (r : FixResult)
    (c : Loop.Counting) (p q : Nat),
      builtin? Grammar.accepts {} "prefer-for-of" = some f → f.fix code d = .ok r →
      r.isSuccess = true → Loop.counting? code d = some c →
      Lexical.EndsOperand code p → Behind code p q → code[q]? = some '/' →
      (kinds code)[q]? ≠ some .comment → StandsAt isName code c.header.index (q + 1) →
      c.bodyOpen < q → q + 1 + c.header.index.length ≤ c.bodyClose →
      ∃ s, ElementAt code c.header s (q + 1) := by
  intro always
  let code := "for (let i = 0; i < as.length; i++) \x7b\n  f(as[i]); g(b++/i/2);\n\x7d".toList
  have word : WordAt code 52 52 := by
    refine ⟨Nat.le_refl _, fun m low high => ?_, fun m before => ?_⟩
    · obtain rfl : m = 52 := by omega
      decide +kernel
    · obtain rfl : m = 51 := by omega
      decide +kernel
  have operand : Lexical.EndsOperand code 52 := .word word (.inl (by decide +kernel))
  have ends : Lexical.EndsOperand code 54 :=
    .update operand (p := 53) (c := '+') (by decide +kernel) (fun m low high => by omega)
      (.inl rfl) (by decide +kernel) (by decide +kernel)
  have stands : StandsAt isName code overAs.index 56 :=
    ⟨by decide +kernel, by decide +kernel, by decide +kernel⟩
  obtain ⟨s, element⟩ := always code counter _
    { code := "for (const a of as) \x7b\n  f(a); g(b++/i/2);\n\x7d".toList }
    ⟨4, 34, 36, 62, overAs⟩ 54 55 rfl (by decide +kernel) rfl (by decide +kernel) ends
    (by decide +kernel) (by decide +kernel) (by decide +kernel) stands (by decide) (by decide)
  have found : Loop.accessStart? code overAs.collection 0 56 = some s.start :=
    element.opens.accessStart? (chain_of_isIdentifier (by decide +kernel)) (Nat.zero_le _)
      (by decide +kernel)
  have none' : Loop.accessStart? code overAs.collection 0 56 = none := by decide +kernel
  exact absurd (none'.symm.trans found) (by simp)

end LintRepair.Rules
