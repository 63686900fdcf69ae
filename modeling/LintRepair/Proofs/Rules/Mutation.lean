/-
What `prefer-for-of` goes through is not stored to.

* `Stored`: what stands between two texts is assigned whatever its value is, or stepped;
* `unstored_of_fix`: no element that is read through the index of a rewritten loop is stored
  to, and no value is assigned to the collection itself;
* `unstored_of_fix_not`: an assignment that depends on the value is overlooked.
-/
import LintRepair.Grammar.Statement
import LintRepair.Proofs.Code.Written
import LintRepair.Proofs.Rules.Element
import LintRepair.Proofs.Rules.Whole

namespace LintRepair.Rules

open Text Lexical Code Check Repair

variable {code m t before behind : Text} {d : Diagnostic} {c : Loop.Counting} {s : Span}
  {lo hi o p : Nat}

/-! ### Elements -/

/-- The operators that assign only to what has no value yet, or only to what has one. -/
def logicalOperators : List Text := ["&&=", "||=", "??="].map String.toList

/-- What stands between two texts is stored to: by an operator behind it that assigns in
any case, or by a step before it. -/
inductive Stored (before behind : Text) : Prop
  | operator {op rest : Text} (among : op ∈ assignOperators) (always : op ∉ logicalOperators)
      (here : trimLeft behind = op ++ rest)
      (alone : op = ['='] → startsIn (fun c => c == '=' || c == '>') rest = false)
  | step {op rest : Text} (among : op ∈ stepOperators) (here : trimRight before = rest ++ op)

/-- An operator that assigns in any case is seen. -/
lemma writesBehind_of_operator {op rest : Text} (among : op ∈ assignOperators)
    (always : op ∉ logicalOperators) (here : trimLeft behind = op ++ rest)
    (alone : op = ['='] → startsIn (fun c => c == '=' || c == '>') rest = false) :
    Loop.writesBehind behind = true := by
  simp only [assignOperators, List.map_cons, List.map_nil, List.mem_cons, List.not_mem_nil,
    or_false] at among
  rw [Loop.writesBehind, here]
  rcases among with rfl | rfl | rfl | rfl | rfl | rfl | rfl | rfl | rfl | rfl | rfl | rfl |
    rfl | rfl | rfl | rfl | rfl | rfl
  case inr.inr.inl =>
    change (!startsIn (fun c => c == '=' || c == '>') rest) = true
    rw [alone rfl]
    rfl
  all_goals first | rfl | exact absurd (by decide) always

/-- What is stored to is taken for written. -/
lemma Stored.writesAt (h : Stored (m.take s.start) (m.drop s.stop)) : WritesAt m s := by
  cases h with
  | operator among always here alone =>
      exact .inl (writesBehind_of_operator among always here alone)
  | @step op rest among here =>
      have ends : endsWith (trimRight (m.take s.start)) op = true := by simp [here, endsWith]
      simp only [stepOperators, List.map_cons, List.map_nil, List.mem_cons, List.not_mem_nil,
        or_false] at among
      rcases among with rfl | rfl
      · exact .inr (.inl ends)
      · exact .inr (.inr ends)

/-! ### The collection -/

/-- A value is assigned to what stands before a text. -/
def Assigns (behind : Text) : Prop :=
  ∃ rest, trimLeft behind = '=' :: rest ∧ startsIn (fun c => c == '=' || c == '>') rest = false

/-- A change of the collection is found. -/
lemma mutates_append (some' : t ≠ []) (changes : Loop.mutatesHere behind = true) :
    ∀ prev : Option Char, (before.getLast?.or prev).any (fun c => isName c || c == '.') = false →
      Loop.mutates t prev (before ++ (t ++ behind)) = true := by
  induction before with
  | nil =>
      intro prev apart
      obtain ⟨c, rest, shape⟩ := List.exists_cons_of_ne_nil some'
      have here : startsWith (t ++ behind) t = true := by simp [startsWith]
      have change : (t ++ behind).drop t.length = behind := List.drop_left
      rw [shape, List.cons_append] at here change
      rw [shape, List.nil_append, List.cons_append, Loop.mutates, here, change, changes]
      have apart' : prev.any (fun c => isName c || c == '.') = false := apart
      rw [apart']
      rfl
  | cons c before ih =>
      intro prev apart
      rw [List.cons_append, Loop.mutates, ih (some c), Bool.or_true]
      rw [List.getLast?_cons] at apart
      cases last : before.getLast? <;> simpa [last] using apart

/-- So it is if the text is cut before a brace behind it. -/
lemma Assigns.mutatesHere (h : Assigns (m.drop o)) (brace : m[hi]? = some '}') (before : o ≤ hi) :
    Loop.mutatesHere (slice m o hi) = true := by
  obtain ⟨rest, equals, alone⟩ := h
  have whole := List.takeWhile_append_dropWhile (p := isBlank) (l := m.drop o)
  rw [← trimLeft, equals] at whole
  have blank : ∀ c ∈ (m.drop o).takeWhile isBlank, isBlank c = true :=
    fun c among => List.mem_takeWhile_imp among
  generalize (m.drop o).takeWhile isBlank = gap at whole blank
  have inside : gap.length < hi - o := by
    by_contra beyond
    have there : (gap ++ '=' :: rest)[hi - o]? = some '}' := by
      rw [whole, List.getElem?_drop, Nat.add_sub_cancel' before, brace]
    rcases Nat.lt_or_ge (hi - o) gap.length with among | past
    · rw [List.getElem?_append_left among] at there
      exact absurd (blank _ (List.mem_of_getElem? there)) (by decide)
    · have same : hi - o = gap.length := by omega
      rw [same, List.getElem?_append_right (Nat.le_refl _), Nat.sub_self] at there
      cases there
  obtain ⟨k, length⟩ : ∃ k, hi - o = gap.length + (k + 1) := ⟨hi - o - gap.length - 1, by omega⟩
  have cut : slice m o hi = gap ++ '=' :: rest.take k := by
    rw [slice, ← whole, length, List.take_length_add_append, List.take_succ_cons]
  have alone' : startsIn (fun c => c == '=' || c == '>') (rest.take k) = false := by
    cases k with
    | zero => rfl
    | succ k => cases rest <;> exact alone
  rw [Loop.mutatesHere, cut, trimLeft_append blank rfl]
  simp [alone']

/-- A collection that nothing changes between two offsets is not assigned there. -/
lemma not_assigns_of_mutates (some' : t ≠ []) (brace : m[hi]? = some '}')
    (unchanged : Loop.mutates t none (slice m lo hi) = false)
    (stands : StandsAt (fun c => isName c || c == '.') m t o) (low : lo ≤ o)
    (high : o + t.length ≤ hi) : ¬ Assigns (m.drop (o + t.length)) := by
  intro assigns
  have apart : ((slice m lo o).getLast?.or none).any (fun c => isName c || c == '.') = false := by
    obtain ⟨-, -, -, apart⟩ := stands.between some' low high
    cases last : (slice m lo o).getLast? with
    | none => rfl
    | some c =>
        rw [last] at apart
        exact apart
  have found := mutates_append some' (assigns.mutatesHere brace high) none apart
  rw [← stands.cut some' low high, List.drop_take, ← slice, unchanged] at found
  cases found

/-- **What is gone through is not stored to.** Where the built-in fixer of `prefer-for-of`
rewrites the loop that is found, no element that is read through the index in the body is
assigned by an operator other than the logical ones, or stepped, and no value is assigned
to the collection itself. -/
theorem unstored_of_fix {accepts : Acceptor} {o : Options} {f : Fixer} {r : FixResult}
    (builtin : builtin? accepts o "prefer-for-of" = some f) (fix : f.fix code d = .ok r)
    (success : r.isSuccess = true) (counted : Loop.counting? code d = some c) :
    (∀ s p, ElementAt (mask code) c.header s p → c.bodyOpen < s.start → s.stop ≤ c.bodyClose →
      ¬ Stored ((mask code).take s.start) ((mask code).drop s.stop)) ∧
    (∀ i, StandsAt (fun c => isName c || c == '.') (mask code) c.header.collection i →
      c.bodyOpen < i → i + c.header.collection.length ≤ c.bodyClose →
      ¬ Assigns ((mask code).drop (i + c.header.collection.length))) := by
  cases builtin
  obtain ⟨-, edit, -⟩ := edit_of_fixer fix success
  obtain ⟨spans, element, elements, unchanged, -, -⟩ := edit_preferForOf counted edit
  obtain ⟨named, brace, -⟩ := counting?_spec counted
  refine ⟨fun s p reads low high stored => ?_, fun i stands low high => ?_⟩
  · have among : s ∈ spans := (elements.mem_iff s).mpr ⟨low, high, p, reads⟩
    exact elements.unwritten s among stored.writesAt
  · exact not_assigns_of_mutates named.collection.ne_nil brace unchanged stands low high

/-- A loop that counts through the elements of an array. -/
def counter : Diagnostic :=
  { rule := some "prefer-for-of"
    message := "Expected a `for-of` loop instead of a `for` loop with this simple iteration."
    line := 1, column := 1 }

/-- The elements of `as`, counted by `i`. -/
def overAs : Loop.Header := ⟨"let".toList, "i".toList, "as".toList⟩

theorem unstored_of_fix_equal :
    let code := "for (let i = 0; i < as.length; i++) \x7b\n  f(as[i] == 1);\n\x7d".toList
    let c : Loop.Counting := ⟨4, 34, 36, 55, overAs⟩
    ∃ f r, builtin? Grammar.accepts {} "prefer-for-of" = some f ∧ f.fix code counter = .ok r ∧
      r.isSuccess = true ∧ Loop.counting? code counter = some c ∧
      r.code = "for (const a of as) \x7b\n  f(a == 1);\n\x7d".toList ∧
      ElementAt (mask code) overAs ⟨42, 47⟩ 45 ∧
      ¬ Stored ((mask code).take 42) ((mask code).drop 47) ∧
      StandsAt (fun c => isName c || c == '.') (mask code) "as".toList 42 ∧
      ¬ Assigns ((mask code).drop 44) := by
  intro code c
  let f := complex Grammar.accepts "PreferForOfFixer" "prefer-for-of"
    "Convert counted loops over arrays to for...of" Loop.preferForOf
  have builtin : builtin? Grammar.accepts {} "prefer-for-of" = some f := rfl
  have fix : f.fix code counter =
      .ok { code := "for (const a of as) \x7b\n  f(a == 1);\n\x7d".toList } := by
    decide +kernel
  have counted : Loop.counting? code counter = some c := by decide +kernel
  have element : ElementAt (mask code) overAs ⟨42, 47⟩ 45 :=
    ⟨⟨by decide +kernel, [], [], by simp, by decide +kernel⟩, [], by simp, by decide +kernel⟩
  have stands : StandsAt (fun c => isName c || c == '.') (mask code) "as".toList 42 :=
    ⟨by decide +kernel, by decide +kernel, by decide +kernel⟩
  obtain ⟨unstored, unassigned⟩ := unstored_of_fix builtin fix rfl counted
  exact ⟨f, _, builtin, fix, rfl, counted, rfl, element,
    unstored _ _ element (by decide) (by decide), stands,
    unassigned 42 stands (by decide) (by decide)⟩

/-- An element that is assigned if it has no value yet. -/
theorem unstored_of_fix_not : ¬ ∀ (code : Text) (d : Diagnostic) (f : Fixer) (r : FixResult)
    (c : Loop.Counting) (s : Span) (p : Nat),
      builtin? Grammar.accepts {} "prefer-for-of" = some f → f.fix code d = .ok r →
      r.isSuccess = true → Loop.counting? code d = some c →
      ElementAt (mask code) c.header s p → c.bodyOpen < s.start → s.stop ≤ c.bodyClose →
      ¬ Written ((mask code).take s.start) ((mask code).drop s.stop) := by
  intro always
  let code := "for (let i = 0; i < as.length; i++) \x7b\n  as[i] ||= 1;\n\x7d".toList
  have element : ElementAt (mask code) overAs ⟨40, 45⟩ 43 :=
    ⟨⟨by decide +kernel, [], [], by simp, by decide +kernel⟩, [], by simp, by decide +kernel⟩
  have behind : trimLeft ((mask code).drop 45) = "||=".toList ++ " 1;\n\x7d".toList := by
    decide +kernel
  exact always code counter _ { code := "for (const a of as) \x7b\n  a ||= 1;\n\x7d".toList }
    ⟨4, 34, 36, 53, overAs⟩ ⟨40, 45⟩ 43 rfl (by decide +kernel) rfl (by decide +kernel) element
    (by decide) (by decide)
    (.operator (by decide) behind fun same => absurd same (by decide))

end LintRepair.Rules
