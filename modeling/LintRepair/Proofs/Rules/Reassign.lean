/-
What `prefer-const` makes constant is not assigned.

* `constant_of_fix`: no name that the rewritten declaration binds is written in its scope,
  apart from where it is bound;
* `Assigned`: what is assigned, by itself, in parentheses or in a pattern, and
  `constant_of_fix_not`: what is assigned in a pattern is overlooked.
-/
import LintRepair.Grammar.Statement
import LintRepair.Proofs.Code.Written
import LintRepair.Proofs.Rules.Search
import LintRepair.Proofs.Rules.Whole

namespace LintRepair.Rules

open Text Lexical Code Check Repair

variable {code m name after : Text} {d : Diagnostic} {decl : Declaration} {e i : Nat}

/-- An edit of `prefer-const` is one of the declaration that is found, none of whose
names is changed in its scope. -/
lemma edit_preferConst (located : Binding.located? "let".toList code d = some (m, decl))
    (edit : Binding.preferConst.edit code d = .ok after) :
    after = Binding.withKeyword code decl "const".toList ∧
      (analyzeUsage m decl (declarationScope m decl)).reassigned = [] := by
  simp only [Binding.preferConst, located] at edit
  split_ifs at edit with counter uninitialized reassigned
  · cases edit
  · cases edit
  · cases edit
  · cases edit
    exact ⟨rfl, by simpa using reassigned⟩

/-- A name that is changed at a place of its scope is told so. -/
lemma reassigned_ne_nil (declared : name ∈ decl.names)
    (found : ∃ o ∈ findOccurrences m name (declarationScope m decl) (some decl),
      o.isReassignment = true) :
    (analyzeUsage m decl (declarationScope m decl)).reassigned ≠ [] := by
  obtain ⟨o, among, changes⟩ := found
  refine List.ne_nil_of_mem (List.mem_filter.mpr ⟨declared, ?_⟩)
  exact List.any_eq_true.mpr ⟨o, among, changes⟩

/-- **What becomes constant is not assigned.** Where the built-in fixer of
`prefer-const` repairs, it makes the declaration that is found one of constants, and
no name that this binds is written anywhere in its scope, apart from where it is
bound: not by `=` or an operator with it, not by a step, and not by a loop. -/
theorem constant_of_fix {accepts : Acceptor} {o : Options} {f : Fixer} {r : FixResult}
    (builtin : builtin? accepts o "prefer-const" = some f) (fix : f.fix code d = .ok r)
    (success : r.isSuccess = true)
    (located : Binding.located? "let".toList code d = some (m, decl))
    (binds : BindsAt code decl name e) (identifier : isIdentifier name = true)
    (low : (declarationScope m decl).start ≤ i)
    (high : i + name.length ≤ (declarationScope m decl).stop) (occurs : OccursAt m name i)
    (outside : Outside m decl i) :
    r.code = Binding.withKeyword code decl "const".toList ∧
      ¬ Written (m.take i) (m.drop (i + name.length)) := by
  cases builtin
  obtain ⟨-, edit, -⟩ := edit_of_fixer fix success
  obtain ⟨rewritten, unchanged⟩ := edit_preferConst located edit
  refine ⟨rewritten, fun written => ?_⟩
  obtain ⟨rfl, parsed, -⟩ := eq_parseDeclaration_of_located located
  have declared : name ∈ decl.names := by
    rw [parsed] at binds ⊢
    exact binds.mem_names identifier
  have used := outside.isDeclaredTarget occurs (ne_nil_of_isIdentifier identifier)
  have among := occurs.mem_findOccurrences (declarationScope (mask code) decl) identifier low high
    written.not_keyAt used
  exact reassigned_ne_nil declared ⟨_, among, written.isReassignment⟩ unchanged


/-- A variable that is only read. -/
def readOnly : Diagnostic :=
  { rule := some "prefer-const", message := "'a' is never reassigned. Use 'const' instead."
    line := 1, column := 1 }

/-- An element of a pattern, behind a key and with values on both levels. -/
lemma binds_element : Binds "a".toList "\x7b k: [a] = b \x7d = o".toList := by
  have name : Binds "a".toList "a".toList :=
    .itself (.bare (by decide) fun k => not_assignsAt_of_notMem (by decide))
  have element : Binds "a".toList "[a] = b".toList := by
    have target : Target "[a] = b".toList ('[' :: ("a".toList ++ [']'])) :=
      .valued (k := 4) (by decide) (by decide) (by decide)
    exact .element target ⟨0, 1, part_of_none fun k => not_separates_of_notMem (by decide), rfl⟩ name
  have target : Target "\x7b k: [a] = b \x7d = o".toList ('\x7b' :: (" k: [a] = b ".toList ++ ['\x7d'])) :=
    .valued (k := 15) (by decide) (by decide) (by decide)
  have key : Part ':' (mask "k: [a] = b".toList) 0 1 :=
    ⟨by decide, .inl rfl, .inr (by decide), by decide⟩
  have property : Part ':' (mask "k: [a] = b".toList) 2 10 :=
    ⟨by decide, .inr (by decide), .inl (by decide), by decide⟩
  exact .property target ⟨0, 12, part_of_none fun k => not_separates_of_notMem (by decide), rfl⟩
    (.keyed (by decide) key property) element

theorem constant_of_fix_element :
    let code := "let \x7b k: [a] = b \x7d = o;\nf(a === 1);".toList
    let decl := parseDeclaration code (mask code) 0
    ∃ f r, builtin? Grammar.accepts {} "prefer-const" = some f ∧ f.fix code readOnly = .ok r ∧
      r.isSuccess = true ∧
      Binding.located? "let".toList code readOnly = some (mask code, decl) ∧
      BindsAt code decl "a".toList 22 ∧ isIdentifier "a".toList = true ∧
      (declarationScope (mask code) decl).start ≤ 26 ∧
      26 + "a".toList.length ≤ (declarationScope (mask code) decl).stop ∧
      OccursAt (mask code) "a".toList 26 ∧ Outside (mask code) decl 26 ∧
      r.code = "const \x7b k: [a] = b \x7d = o;\nf(a === 1);".toList ∧
      ¬ Written ((mask code).take 26) ((mask code).drop 27) := by
  intro code decl
  let f := complex Grammar.accepts "PreferConstFixer" "prefer-const"
    "Declare never-reassigned bindings with const" Binding.preferConst
  have builtin : builtin? Grammar.accepts {} "prefer-const" = some f := rfl
  have fix : f.fix code readOnly =
      .ok { code := "const \x7b k: [a] = b \x7d = o;\nf(a === 1);".toList } := by
    decide +kernel
  have located : Binding.located? "let".toList code readOnly = some (mask code, decl) := by
    decide +kernel
  have binds : BindsAt code decl "a".toList 22 := by
    have body : decl.body code = " \x7b k: [a] = b \x7d = o".toList := by decide +kernel
    exact bindsAt_of_single (by decide +kernel) body (by decide) binds_element
  have low : (declarationScope (mask code) decl).start ≤ 26 := by decide +kernel
  have high : 26 + "a".toList.length ≤ (declarationScope (mask code) decl).stop := by
    decide +kernel
  have occurs : OccursAt (mask code) "a".toList 26 :=
    ⟨by decide +kernel, by decide +kernel, by decide +kernel, by decide +kernel⟩
  have outside : Outside (mask code) decl 26 := .behind (by decide +kernel)
  obtain ⟨-, safe⟩ :=
    constant_of_fix builtin fix rfl located binds rfl low high occurs outside
  exact ⟨f, _, builtin, fix, rfl, located, binds, rfl, low, high, occurs, outside, rfl, safe⟩

/-! ### Targets in parentheses and in patterns -/

/-- What a text ends with can be called or indexed. -/
def EndsOperand (t : Text) : Prop :=
  endsIn (fun c => isName c || [')', ']', '\x7d', '\x27', '\x22', '\x60'].contains c)
    (trimRight t) = true
  deriving Decidable

/-- Items of a pattern, with the comma behind them if there are any. -/
def ItemsBefore (t : Text) : Prop := t = [] ∨ nesting t = 0 ∧ t.getLast? = some ','

/-- What goes on behind a target of a pattern: its value, and other items. -/
def ItemsBehind (t : Text) : Prop :=
  nesting t = 0 ∧
    (trimLeft t = [] ∨ startsIn (fun c => c == ',' || c == '=') (trimLeft t) = true)

/-- What stands before the target of a property: blanks, or the dots of a rest
element, or a key. -/
def KeyBefore (t : Text) : Prop :=
  (∀ c ∈ t, isBlank c = true ∨ c = '.') ∨
    ∃ gap key gap' gap'', t = gap ++ key ++ gap' ++ ':' :: gap'' ∧ isIdentifier key = true ∧
      ∀ c ∈ gap ++ gap' ++ gap'', isBlank c = true

/-- What stands between two texts is assigned: it is written itself, or the
parentheses or the pattern around it are assigned. -/
inductive Assigned : Text → Text → Prop
  | itself {before behind : Text} (written : Written before behind) : Assigned before behind
  | parenthesised {before behind gap gap' : Text} (around : Assigned before behind)
      (start : ¬ EndsOperand before) (blank : ∀ c ∈ gap ++ gap', isBlank c = true) :
      Assigned (before ++ '(' :: gap) (gap' ++ ')' :: behind)
  | element {before behind items gap rest : Text} (around : Assigned before behind)
      (start : ¬ EndsOperand before) (first : ItemsBefore items)
      (gap' : ∀ c ∈ gap, isBlank c = true ∨ c = '.') (last : ItemsBehind rest) :
      Assigned (before ++ '[' :: (items ++ gap)) (rest ++ ']' :: behind)
  | property {before behind items key rest : Text} (around : Assigned before behind)
      (start : ¬ EndsOperand before) (first : ItemsBefore items) (key' : KeyBefore key)
      (last : ItemsBehind rest) :
      Assigned (before ++ '\x7b' :: (items ++ key)) (rest ++ '\x7d' :: behind)

/-- A variable that is assigned as the element of a pattern. -/
theorem constant_of_fix_not : ¬ ∀ (code m name : Text) (d : Diagnostic) (f : Fixer)
    (r : FixResult) (decl : Declaration) (e i : Nat),
      builtin? Grammar.accepts {} "prefer-const" = some f → f.fix code d = .ok r →
      r.isSuccess = true → Binding.located? "let".toList code d = some (m, decl) →
      BindsAt code decl name e → isIdentifier name = true →
      (declarationScope m decl).start ≤ i →
      i + name.length ≤ (declarationScope m decl).stop → OccursAt m name i → Outside m decl i →
      ¬ Assigned (m.take i) (m.drop (i + name.length)) := by
  intro always
  let code := "let a = 1;\n[a] = [2];".toList
  let decl := parseDeclaration code (mask code) 0
  have binds : BindsAt code decl "a".toList 9 := by
    have body : decl.body code = " a = 1".toList := by decide +kernel
    have target : Target "a = 1".toList "a".toList :=
      .valued (k := 2) (by decide) (by decide) (by decide)
    exact bindsAt_of_single (by decide +kernel) body (by decide) (.itself target)
  have assigned : Assigned "let a = 1;\n[".toList "] = [2];".toList := by
    have among : ['='] ∈ assignOperators := by decide
    have here : trimLeft " = [2];".toList = ['='] ++ " [2];".toList := rfl
    have around : Written "let a = 1;\n".toList " = [2];".toList :=
      .operator among here fun _ => rfl
    have element : Assigned ("let a = 1;\n".toList ++ '[' :: ([] ++ []))
        ([] ++ ']' :: " = [2];".toList) :=
      .element (.itself around) (by decide) (.inl rfl)
        (fun c none' => absurd none' List.not_mem_nil) ⟨rfl, .inl rfl⟩
    exact element
  refine always code (mask code) "a".toList readOnly _
    { code := "const a = 1;\n[a] = [2];".toList } decl 9 12 rfl (by decide +kernel) rfl
    (by decide +kernel) binds rfl (by decide +kernel) (by decide +kernel) ?_
    (.behind (by decide +kernel)) ?_
  · exact ⟨by decide +kernel, by decide +kernel, by decide +kernel, by decide +kernel⟩
  · have around : (mask code).take 12 = "let a = 1;\n[".toList ∧
        (mask code).drop 13 = "] = [2];".toList := by decide +kernel
    change Assigned ((mask code).take 12) ((mask code).drop 13)
    rw [around.1, around.2]
    exact assigned

end LintRepair.Rules
