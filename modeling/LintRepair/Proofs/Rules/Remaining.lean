/-
What `no-unused-vars` leaves of a declaration.

* `declarationAt_of_declaring?`: the keyword that is found;
* `withoutTarget_eq`: the text without a declarator is that with the others put together;
* `remaining_of_fix`: just these are declared in it, if they are read each by itself.
-/
import LintRepair.Proofs.Code.Rejoined
import LintRepair.Proofs.Rules.Removal

namespace LintRepair.Rules

open Text Lexical Code Check Repair Unused

variable {code word target name : Text} {ps : List Text} {d : Diagnostic} {k : Nat}

lemma declarationAt_of_declaring? (declared : declaring? code d = some (name, k)) :
    ∃ word, DeclarationAt (mask code) word k := by
  obtain ⟨offset, -, rest⟩ := Option.bind_eq_some_iff.mp declared
  split_ifs at rest
  obtain ⟨keyword, found, pair⟩ := Option.map_eq_some_iff.mp rest
  cases pair
  rw [declarationKeyword?] at found
  split at found
  · cases found
  next keyword last =>
  dsimp only at found
  split_ifs at found
  cases found
  -- The keyword is the last of those before the name.
  have listed := List.max?_mem last
  simp only [List.mem_flatMap, List.mem_filter] at listed
  obtain ⟨word, among, found, blank⟩ := listed
  have here := prefix_of_mem_wordOffsetsFrom found
  rw [List.drop_drop, Nat.add_sub_cancel' (offset_le_of_mem_wordOffsetsFrom found),
    List.drop_take] at here
  rw [List.drop_take, ← String.length_toList] at blank
  refine ⟨word.toList, List.mem_map_of_mem among, here.trans (List.take_prefix _ _), ?_⟩
  obtain ⟨behind, parts⟩ := List.take_prefix (offset - (k + word.toList.length))
    ((mask code).drop (k + word.toList.length))
  rw [← parts, startsIn_append]
  · exact blank
  · rintro empty
    rw [empty] at blank
    cases blank

/-! ### The repair -/

/-- One declarator is taken away, if no other of a single letter is the same. -/
lemma withoutDeclarator_eq {ds : List Text} (once : target.length = 1 → ds.count target = 1) :
    withoutDeclarator target ds = ds.erase target := by
  rw [withoutDeclarator]
  split_ifs with letter
  · have count := once letter
    clear once letter
    induction ds with
    | nil => rfl
    | cons p ds ih =>
        by_cases same : p = target
        · subst same
          have none' : p ∉ ds := by
            rw [List.count_cons_self] at count
            exact List.count_eq_zero.mp (by omega)
          rw [List.erase_cons_head, List.filter_cons_of_neg (by simp)]
          exact List.filter_eq_self.mpr fun q inside => by
            rw [bne_iff_ne]
            rintro rfl
            exact none' inside
        · rw [List.count_cons_of_ne same] at count
          rw [List.erase_cons_tail (by simpa using same),
            List.filter_cons_of_pos (by simpa using same), ih count]
  · rfl

lemma listing_eq (some' : ps ≠ []) : listing ps = ' ' :: [',', ' '].intercalate ps := by
  induction ps with
  | nil => exact absurd rfl some'
  | cons p ps ih =>
      cases ps with
      | nil => simp [listing]
      | cons q ps =>
          rw [listing, List.map_cons, List.map_cons, intercalate_comma, ← List.map_cons, ← listing,
            ih (List.cons_ne_nil _ _), List.intercalate_cons_cons]
          simp

/-- The declarators that remain are put together. -/
lemma withoutTarget_eq (h : DeclarationAt (mask code) word k) {decl : Declaration}
    (start : decl.start = k) (keyword : decl.keyword = word)
    (remains : withoutDeclarator target decl.declarators = ps) (some' : ps ≠ []) :
    withoutTarget code decl target = rejoined code decl (k + word.length) ps := by
  rw [withoutTarget, remains, if_neg (by simpa using some'), splice, rejoined, listing_eq some',
    h.take_eq, closing, terminated, start, keyword]
  simp

/-- **The others remain.** Where the built-in fixer of `no-unused-vars` takes a declarator away
from a declaration of several, and those that remain are read in it each by itself, then the
declaration at the same place declares just these, in their order and as they were, and binds
just their names. -/
theorem remaining_of_fix {accepts : Acceptor} {o : Options} {f : Fixer} {r : FixResult}
    {name : Text} (builtin : builtin? accepts o "no-unused-vars" = some f)
    (fix : f.fix code d = .ok r) (success : r.isSuccess = true)
    (declared : declaring? code d = some (name, k)) :
    let decl := parseDeclaration code (mask code) k
    let decl' := parseDeclaration r.code (mask r.code) k
    ∃ target ∈ decl.declarators, bindingNames target = [name] ∧
      r.code = withoutTarget code decl target ∧
      ((target.length = 1 → decl.declarators.count target = 1) →
        decl.declarators.erase target ≠ [] → Rejoins code decl (decl.declarators.erase target) →
        decl'.keyword = decl.keyword ∧ decl'.declarators = decl.declarators.erase target ∧
          decl'.names = (decl.declarators.erase target).flatMap bindingNames) := by
  cases builtin
  obtain ⟨-, edit, -⟩ := edit_of_fixer fix success
  obtain ⟨target, removes, shape⟩ := exists_of_declaring? declared edit
  refine ⟨target, removes.among, removes.binds, shape, fun once several rejoins => ?_⟩
  obtain ⟨word, h⟩ := declarationAt_of_declaring? declared
  have keyword := (parseDeclaration_eq h (plain_of_forKind removes.plain)).1
  rw [shape, withoutTarget_eq h (start_parseDeclaration _ _ _) keyword (withoutDeclarator_eq once)
    several, keyword]
  exact Rejoins.parseDeclaration h removes.plain rejoins several
    fun p among => List.mem_of_mem_erase among

/-- The first of two variables is not used, and the second one stands with a comment. -/
def unusedBefore : Diagnostic :=
  { rule := some "no-unused-vars", message := "\x27a\x27 is assigned a value but never used.",
    line := 1, column := 5 }

theorem remaining_of_fix_lines :
    let code := "let a = 1, b = f(\x7bx: [2, 3]\x7d) /* b, */,\n  c = 4 // c\ng(b, c)".toList
    let after := "let b = f(\x7bx: [2, 3]\x7d) /* b, */, c = 4 // c\ng(b, c)".toList
    let decl := parseDeclaration after (mask after) 0
    ∃ f r, builtin? Grammar.accepts {} "no-unused-vars" = some f ∧ f.fix code unusedBefore = .ok r ∧
      r.isSuccess = true ∧ r.code = after ∧ declaring? code unusedBefore = some ("a".toList, 0) ∧
      decl.declarators = ["b = f(\x7bx: [2, 3]\x7d) /* b, */".toList, "c = 4 // c".toList] := by
  intro code after decl
  let f := complex Grammar.accepts "NoUnusedVarsFixer" "no-unused-vars"
    "Remove unused variables, parameters and functions" noUnusedVars
  have builtin : builtin? Grammar.accepts {} "no-unused-vars" = some f := rfl
  have fix : f.fix code unusedBefore = .ok { code := after } := by decide +kernel
  have declared : declaring? code unusedBefore = some ("a".toList, 0) := by decide +kernel
  have declarators : (parseDeclaration code (mask code) 0).declarators =
      ["a = 1".toList, "b = f(\x7bx: [2, 3]\x7d) /* b, */".toList, "c = 4 // c".toList] := by
    decide +kernel
  obtain ⟨target, among, binds, -, remains⟩ := remaining_of_fix builtin fix rfl declared
  rw [declarators] at among remains
  obtain rfl : target = "a = 1".toList := by
    simp only [List.mem_cons, List.not_mem_nil, or_false] at among
    rcases among with rfl | rfl | rfl
    · rfl
    · exact absurd binds (by decide +kernel)
    · exact absurd binds (by decide +kernel)
  have feed : code[(parseDeclaration code (mask code) 0).stop]? = some '\n' := by decide +kernel
  have rejoins : Rejoins code (parseDeclaration code (mask code) 0)
      ["b = f(\x7bx: [2, 3]\x7d) /* b, */".toList, "c = 4 // c".toList] := by
    refine ⟨by decide +kernel, by decide +kernel, by decide +kernel, by decide +kernel,
      by decide +kernel, by decide +kernel, ?_⟩
    rintro p ⟨rfl⟩
    exact ⟨by decide +kernel, by decide +kernel, .inr ⟨by decide +kernel, by decide +kernel,
      by decide +kernel, fun c among => Option.some.inj (among.symm.trans feed)⟩, by decide +kernel⟩
  obtain ⟨-, same, -⟩ := remains (by decide) (by decide) rejoins
  exact ⟨f, _, builtin, fix, rfl, rfl, declared, same⟩

/-- A declarator that a comment stands behind takes the next one with it. -/
theorem remaining_of_fix_not : ¬ ∀ (code name target : Text) (d : Diagnostic) (f : Fixer)
    (r : FixResult) (k : Nat),
      builtin? Grammar.accepts {} "no-unused-vars" = some f → f.fix code d = .ok r →
      r.isSuccess = true → declaring? code d = some (name, k) →
      target ∈ (parseDeclaration code (mask code) k).declarators →
      r.code = withoutTarget code (parseDeclaration code (mask code) k) target →
      (parseDeclaration r.code (mask r.code) k).names =
        ((parseDeclaration code (mask code) k).declarators.erase target).flatMap bindingNames := by
  intro always
  let code := "let a = 1, b = 2 // two\n  , c = 3;\nf(b, c);".toList
  have names := always code "a".toList "a = 1".toList unusedBefore _
    { code := "let b = 2 // two, c = 3;\nf(b, c);".toList } 0 rfl (by decide +kernel) rfl
    (by decide +kernel) (by decide +kernel) (by decide +kernel)
  revert names
  decide +kernel

end LintRepair.Rules
