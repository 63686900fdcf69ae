/-
What `no-var` binds to a block is used behind its declaration, and inside of the block.

* `placed_of_fix`: no use of a name that the rewritten declaration binds lies before the
  end of its declarator, or outside of the block, unless it lies in the declaration itself;
* `placed_of_fix_not`: a use in the declarator itself is overlooked.
-/
import LintRepair.Grammar.Statement
import LintRepair.Proofs.Code.Written
import LintRepair.Proofs.Rules.Search
import LintRepair.Proofs.Rules.Whole

namespace LintRepair.Rules

open Text Lexical Code Check Repair

variable {code m name after : Text} {d : Diagnostic} {decl : Declaration} {e i : Nat}

/-- An edit of `no-var` is one of the declaration that is found, and nothing stands in
its way. -/
lemma edit_noVar {constant : Bool}
    (located : Binding.located? "var".toList code d = some (m, decl))
    (edit : (Binding.noVar constant).edit code d = .ok after) :
    (after = Binding.withKeyword code decl "let".toList ∨
      after = Binding.withKeyword code decl "const".toList) ∧
      Binding.obstacle? m decl = none := by
  simp only [Binding.noVar, located] at edit
  split at edit
  · cases edit
  · next free =>
    rw [Except.ok.injEq] at edit
    rw [← edit]
    refine ⟨?_, free⟩
    split_ifs
    · exact .inr rfl
    · exact .inl rfl

/-- Nothing stands in the way if no check finds anything. -/
lemma checks_of_obstacle? (free : Binding.obstacle? m decl = none) :
    Binding.misplacedUse? m decl (declarationScope m decl) (functionScope m decl.start) = none ∧
      Binding.declaredTwice? m decl (functionScope m decl.start) = none ∧
      Binding.shadowsParameter? m decl (functionScope m decl.start) = none := by
  simp only [Binding.obstacle?, Option.orElse_eq_orElse, Option.orElse_eq_or,
    Option.or_eq_none_iff] at free
  exact ⟨free.1, free.2.1, free.2.2.1⟩

/-- Where nothing stands in the way, each use of a name lies behind the start of the
declaration and inside of its block. -/
lemma placed_of_obstacle? (free : Binding.obstacle? m decl = none) (declared : name ∈ decl.names)
    {o : Occurrence} (among : o ∈ findOccurrences m name (functionScope m decl.start) (some decl))
    (use : o.use ≠ .declaration) :
    decl.start ≤ o.offset ∧ (declarationScope m decl).start ≤ o.offset ∧
      o.offset < (declarationScope m decl).stop := by
  have placed := (checks_of_obstacle? free).1
  rw [Binding.misplacedUse?, List.findSome?_eq_none_iff] at placed
  have here := List.findSome?_eq_none_iff.mp (placed name declared) o among
  rw [if_neg use] at here
  split_ifs at here with early inside
  · exact ⟨Nat.not_lt.mp early, inside⟩

/-- **Uses lie behind what is bound to a block.** Where the built-in fixer of `no-var`
repairs, it makes the declaration that is found one of the block around it, and in the
function around that each use of a name that this binds, unless it lies in the
declaration itself, lies behind the declarator that binds the name and inside of the
block. -/
theorem placed_of_fix {accepts : Acceptor} {o : Options} {f : Fixer} {r : FixResult}
    (builtin : builtin? accepts o "no-var" = some f) (fix : f.fix code d = .ok r)
    (success : r.isSuccess = true)
    (located : Binding.located? "var".toList code d = some (m, decl))
    (binds : BindsAt code decl name e) (identifier : isIdentifier name = true)
    (low : (functionScope m decl.start).start ≤ i)
    (high : i + name.length ≤ (functionScope m decl.start).stop) (occurs : OccursAt m name i)
    (keyless : ¬ KeyAt m name i) (apart : i < decl.start ∨ decl.stop ≤ i) :
    (r.code = Binding.withKeyword code decl "let".toList ∨
      r.code = Binding.withKeyword code decl "const".toList) ∧
      e ≤ i ∧ (declarationScope m decl).start ≤ i ∧ i < (declarationScope m decl).stop := by
  cases builtin
  obtain ⟨-, edit, -⟩ := edit_of_fixer fix success
  obtain ⟨rewritten, free⟩ := edit_noVar located edit
  obtain ⟨rfl, parsed, -⟩ := eq_parseDeclaration_of_located located
  have declared : name ∈ decl.names := by
    rw [parsed] at binds ⊢
    exact binds.mem_names identifier
  have among := occurs.mem_findOccurrences (d := decl) (functionScope (mask code) decl.start)
    identifier low high keyless fun first last => by omega
  have used : (classifyOccurrence (mask code) name i).use ≠ .declaration := by
    rw [classifyOccurrence]
    intro same
    dsimp only at same
    split at same <;> cases same
  obtain ⟨first, inside⟩ := placed_of_obstacle? free declared among used
  have stop := binds.le_stop identifier
  change decl.start ≤ i at first
  exact ⟨rewritten, by omega, inside⟩

/-- A declaration by `var`. -/
def byVar : Diagnostic :=
  { rule := some "no-var", message := "Unexpected var, use let or const instead."
    line := 1, column := 1 }

theorem placed_of_fix_loop :
    let code := "for (var [a] of b) \x7b\n  f(a);\n\x7d".toList
    let decl := parseDeclaration code (mask code) 5
    ∃ f r, builtin? Grammar.accepts {} "no-var" = some f ∧ f.fix code byVar = .ok r ∧
      r.isSuccess = true ∧
      Binding.located? "var".toList code byVar = some (mask code, decl) ∧
      BindsAt code decl "a".toList 12 ∧ isIdentifier "a".toList = true ∧
      (functionScope (mask code) decl.start).start ≤ 25 ∧
      25 + "a".toList.length ≤ (functionScope (mask code) decl.start).stop ∧
      OccursAt (mask code) "a".toList 25 ∧ ¬ KeyAt (mask code) "a".toList 25 ∧
      (25 < decl.start ∨ decl.stop ≤ 25) ∧
      r.code = "for (const [a] of b) \x7b\n  f(a);\n\x7d".toList ∧
      12 ≤ 25 ∧ (declarationScope (mask code) decl).start ≤ 25 ∧
      25 < (declarationScope (mask code) decl).stop := by
  intro code decl
  let f := complex Grammar.accepts "NoVarFixer" "no-var" "Replace var with let or const"
    (Binding.noVar true)
  have builtin : builtin? Grammar.accepts {} "no-var" = some f := rfl
  have fix : f.fix code byVar =
      .ok { code := "for (const [a] of b) \x7b\n  f(a);\n\x7d".toList } := by
    decide +kernel
  have located : Binding.located? "var".toList code byVar = some (mask code, decl) := by
    decide +kernel
  have binds : BindsAt code decl "a".toList 12 := by
    have head : decl.passage? (mask code) = some (4, .of) := by decide +kernel
    have name : Binds "a".toList "a".toList :=
      .itself (.bare (by decide) fun k => not_assignsAt_of_notMem (by decide))
    have target : Target " [a]".toList ('[' :: ("a".toList ++ [']'])) :=
      .bare (by decide) fun k => not_assignsAt_of_notMem (by decide)
    have element : Binds "a".toList " [a]".toList :=
      .element target ⟨0, 1, part_of_none fun k => not_separates_of_notMem (by decide), rfl⟩ name
    have text : slice code decl.bodyStart (decl.bodyStart + 4) = " [a]".toList := by
      decide +kernel
    have placed : BindsAt code decl "a".toList (decl.bodyStart + 4) :=
      .passed head (by rw [text]; exact element)
    have stop : decl.bodyStart + 4 = 12 := by decide +kernel
    rwa [stop] at placed
  have low : (functionScope (mask code) decl.start).start ≤ 25 := by decide +kernel
  have high : 25 + "a".toList.length ≤ (functionScope (mask code) decl.start).stop := by
    decide +kernel
  have occurs : OccursAt (mask code) "a".toList 25 :=
    ⟨by decide +kernel, by decide +kernel, by decide +kernel, by decide +kernel⟩
  have keyless : ¬ KeyAt (mask code) "a".toList 25 := by decide +kernel
  have apart : 25 < decl.start ∨ decl.stop ≤ 25 := by decide +kernel
  obtain ⟨-, behind, inside⟩ :=
    placed_of_fix builtin fix rfl located binds rfl low high occurs keyless apart
  exact ⟨f, _, builtin, fix, rfl, located, binds, rfl, low, high, occurs, keyless, apart, rfl,
    behind, inside⟩

/-- A variable that is read for its own first value. -/
theorem placed_of_fix_not : ¬ ∀ (code m name : Text) (d : Diagnostic) (f : Fixer)
    (r : FixResult) (decl : Declaration) (e i : Nat),
      builtin? Grammar.accepts {} "no-var" = some f → f.fix code d = .ok r →
      r.isSuccess = true → Binding.located? "var".toList code d = some (m, decl) →
      BindsAt code decl name e → isIdentifier name = true →
      (functionScope m decl.start).start ≤ i →
      i + name.length ≤ (functionScope m decl.start).stop →
      functionScope m i = functionScope m decl.start → OccursAt m name i → ¬ KeyAt m name i →
      Outside m decl i → e ≤ i := by
  intro always
  let code := "var a = a || 1;".toList
  let decl := parseDeclaration code (mask code) 0
  have binds : BindsAt code decl "a".toList 14 := by
    have body : decl.body code = " a = a || 1".toList := by decide +kernel
    have target : Target "a = a || 1".toList "a".toList :=
      .valued (k := 2) (by decide) (by decide) (by decide)
    exact bindsAt_of_single (by decide +kernel) body (by decide) (.itself target)
  have own : ∀ k, 6 < k → decl.start + k < 8 → ¬ Separates ',' ((mask code).drop decl.start) k :=
    fun k _ _ => not_separates_of_notMem (by decide +kernel)
  have behind := always code (mask code) "a".toList byVar _
    { code := "const a = a || 1;".toList } decl 14 8 rfl (by decide +kernel) rfl
    (by decide +kernel) binds rfl (by decide +kernel) (by decide +kernel) (by decide +kernel)
    ⟨by decide +kernel, by decide +kernel, by decide +kernel, by decide +kernel⟩
    (by decide +kernel) (.value (k := 6) (by decide +kernel) (by decide +kernel) own)
  exact absurd behind (by decide)

end LintRepair.Rules
