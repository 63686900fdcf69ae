/-
A built-in fixer repairs a diagnostic entirely or leaves the text alone.

* `method?`: the method that the built-in fixer of a rule follows, with
  `exists_method` for the table of them;
* `Whole`: what an attempt is that does all of its method's edit or nothing;
* `Method.whole_fix`: attempts by a method are such, whatever came of its search
  and of its edit;
* `whole_of_builtin`: so are those of the built-in fixers, and only the one of
  `indent` may end in an error instead.
-/
import LintRepair.Grammar.Statement
import LintRepair.Rules.Catalog
import Mathlib.Tactic.Common

namespace LintRepair.Rules

open Text Lexical Check Repair

variable {accepts : Acceptor} {code : Text} {d : Diagnostic}

/-- The method that the built-in fixer of a rule follows. -/
def method? (o : Options) : String → Option Method
  | "semi" => some Semicolon.semi
  | "no-extra-semi" => some Semicolon.noExtraSemi
  | "no-trailing-spaces" => some Whitespace.noTrailingSpaces
  | "eol-last" => some Whitespace.eolLast
  | "quotes" => some Quote.quotes
  | "eqeqeq" => some Operator.eqeqeq
  | "comma-dangle" => some Comma.commaDangle
  | "no-console" => some (Console.noConsole o.console)
  | "space-before-blocks" => some Whitespace.spaceBeforeBlocks
  | "no-plusplus" => some Operator.noPlusplus
  | "brace-style" => some Brace.braceStyle
  | "indent" => some Whitespace.indent
  | "no-var" => some (Binding.noVar o.preferConst)
  | "prefer-const" => some Binding.preferConst
  | "prefer-for-of" => some Loop.preferForOf
  | "prefer-template" => some Template.preferTemplate
  | "no-ternary" => some Ternary.noTernary
  | "curly" => some Brace.curly
  | "no-unused-vars" => some Unused.noUnusedVars
  | _ => none

/-- A built-in fixer is one by the method of its rule, and only the search for
an indentation may end in an error. -/
lemma exists_method {o : Options} {f : Fixer} (builtin : f ∈ catalog accepts o) :
    ∃ m, method? o f.rule = some m ∧
      f = m.fixer accepts f.kind f.rule f.complexity f.description ∧
      (f.rule ≠ "indent" → ∀ code d, m.obstacle? code d = none) := by
  simp only [catalog, List.mem_cons, List.not_mem_nil, or_false] at builtin
  rcases builtin with rfl | rfl | rfl | rfl | rfl | rfl | rfl | rfl | rfl | rfl | rfl | rfl |
    rfl | rfl | rfl | rfl | rfl | rfl | rfl
  case inr.inr.inr.inr.inr.inr.inr.inr.inr.inr.inr.inl =>
    exact ⟨_, rfl, rfl, fun other => absurd rfl other⟩
  all_goals exact ⟨_, rfl, rfl, fun _ _ _ => rfl⟩

/-- An attempt of a fixer that does all of its method's edit or nothing. -/
structure Whole (accepts : Acceptor) (f : Fixer) (m : Method) (code : Text) (d : Diagnostic)
    (r : FixResult) : Prop where
  /-- Only what the fixer takes on is repaired. -/
  taken : r.isSuccess = true → f.canFix code d = .ok true
  /-- A repaired text is the edited one, not a part of it. -/
  edited : r.isSuccess = true → m.edit code d = .ok r.code
  /-- It is another text than before. -/
  differs : r.isSuccess = true → r.code ≠ code
  /-- It is a program. -/
  program : r.isSuccess = true → isProgram accepts r.code = true
  /-- It keeps what the rule promises. -/
  keeps : r.isSuccess = true → m.keeps code r.code = true
  /-- An edit of which all this is true is the repair. -/
  prevails : ∀ after, f.canFix code d = .ok true → m.edit code d = .ok after → after ≠ code →
    isProgram accepts after = true → m.keeps code after = true → r.isSuccess = true
  /-- A refusal, whatever its reason, leaves the text as it was. -/
  untouched : r.isSuccess = false → r.code = code

lemma validates_iff {m : Method} {before after : Text} :
    m.validates accepts before after = true ↔
      after ≠ before ∧ isProgram accepts after = true ∧ m.keeps before after = true := by
  rw [Method.validates, Bool.and_eq_true, Bool.and_eq_true, bne_iff_ne, and_assoc, ne_comm]

/-- A repair by a method is one of its edits, on a diagnostic that it takes on,
and may stand. -/
lemma edit_of_fix {m : Method} {rule : String}
    (success : (m.fix accepts rule code d).isSuccess = true) :
    m.canFix rule code d = true ∧ m.edit code d = .ok (m.fix accepts rule code d).code ∧
      m.validates accepts code (m.fix accepts rule code d).code = true := by
  obtain ⟨takesOn, after, edited, valid, fixed⟩ | ⟨refused, -⟩ := m.fix_cases accepts rule code d
  · rw [fixed]
    exact ⟨takesOn, edited, valid⟩
  · rw [refused] at success
    cases success

/-- So is a repair by a fixer that follows the method. -/
lemma edit_of_fixer {m : Method} {kind rule complexity description : String} {r : FixResult}
    (fix : (m.fixer accepts kind rule complexity description).fix code d = .ok r)
    (success : r.isSuccess = true) :
    m.canFix rule code d = true ∧ m.edit code d = .ok r.code ∧
      m.validates accepts code r.code = true := by
  change m.guarded rule code d (m.fix accepts rule code d) = .ok r at fix
  rw [Method.guarded] at fix
  split at fix
  · cases fix
  · cases fix
    exact edit_of_fix success

/-- An edit that is taken on and may stand is the repair. -/
lemma fix_of_validates {m : Method} {rule : String} {after : Text}
    (takesOn : m.canFix rule code d = true) (edit : m.edit code d = .ok after)
    (valid : m.validates accepts code after = true) :
    m.fix accepts rule code d = { code := after } := by
  rw [Method.fix, if_pos takesOn, edit]
  exact if_pos valid

/-- Without an error in the way, an answer is given. -/
lemma guarded_of_none {α : Type} {m : Method} {rule : String} {answer : α}
    (free : m.raised? rule code d = none) : m.guarded rule code d answer = .ok answer := by
  rw [Method.guarded, free]

/-- An error in the way is all there is. -/
lemma guarded_of_some {α : Type} {m : Method} {rule : String} {answer : α} {e : Raised}
    (obstacle : m.raised? rule code d = some e) :
    m.guarded rule code d answer = .error e := by
  rw [Method.guarded, obstacle]

/-- Without an error in the way, such an edit is the repair of the fixer. -/
lemma fixer_fix_of_validates {m : Method} {kind rule complexity description : String}
    {after : Text} (free : m.raised? rule code d = none) (takesOn : m.canFix rule code d = true)
    (edit : m.edit code d = .ok after) (valid : m.validates accepts code after = true) :
    (m.fixer accepts kind rule complexity description).fix code d = .ok { code := after } := by
  change m.guarded rule code d (m.fix accepts rule code d) = .ok { code := after }
  rw [guarded_of_none free, fix_of_validates takesOn edit valid]

/-- Attempts by a method do all of its edit or nothing. -/
lemma Method.whole_fix (m : Method) {kind rule complexity description : String}
    (free : m.raised? rule code d = none) :
    Whole accepts (m.fixer accepts kind rule complexity description) m code d
      (m.fix accepts rule code d) := by
  have canFix : (m.fixer accepts kind rule complexity description).canFix code d =
      .ok (m.canFix rule code d) := guarded_of_none free
  refine ⟨fun success => ?_, fun success => (edit_of_fix success).2.1,
    fun success => (validates_iff.mp (edit_of_fix success).2.2).1,
    fun success => (validates_iff.mp (edit_of_fix success).2.2).2.1,
    fun success => (validates_iff.mp (edit_of_fix success).2.2).2.2,
    fun after takesOn edit differs program keeps => ?_, fun refused => ?_⟩
  · rw [canFix, (edit_of_fix success).1]
  · rw [canFix, Except.ok.injEq] at takesOn
    rw [fix_of_validates takesOn edit (validates_iff.mpr ⟨differs, program, keeps⟩)]
    rfl
  · exact m.fix_code_of_refusal accepts rule code d (by rw [refused]; exact Bool.false_ne_true)

/-- **All or nothing.** An attempt of a built-in fixer, on any text, any
diagnostic and under any grammar, does all of its method's edit or leaves the
text as it was. Only the fixer of `indent` may end in an error instead, and
then it does so when asked whether it takes the diagnostic on. -/
theorem whole_of_builtin {o : Options} {f : Fixer} (builtin : f ∈ catalog accepts o) (code : Text)
    (d : Diagnostic) :
    ∃ m, method? o f.rule = some m ∧
      ((∃ r, f.fix code d = .ok r ∧ Whole accepts f m code d r) ∨
        f.rule = "indent" ∧ ∃ e, f.canFix code d = .error e ∧ f.fix code d = .error e) := by
  obtain ⟨m, follows, fixer, obstacles⟩ := exists_method builtin
  refine ⟨m, follows, ?_⟩
  cases raised : m.raised? f.rule code d with
  | none =>
      have whole : Whole accepts f m code d (m.fix accepts f.rule code d) := by
        rw [fixer]
        exact Method.whole_fix m raised
      refine .inl ⟨_, ?_, whole⟩
      rw [fixer]
      exact guarded_of_none raised
  | some e =>
      refine .inr ⟨?_, e, ?_, ?_⟩
      · by_contra other
        rw [Method.raised?, obstacles other code d, ite_self] at raised
        cases raised
      · rw [fixer]
        exact guarded_of_some raised
      · rw [fixer]
        exact guarded_of_some raised

/-- A statement without its semicolon. -/
def unended : Diagnostic :=
  { rule := some "semi", message := "Missing semicolon.", line := 1, column := 10 }

theorem whole_unended : ∃ f m r, f ∈ catalog Grammar.accepts {} ∧
    f.fix "let a = 1".toList unended = .ok r ∧ r.code = "let a = 1;".toList ∧
    Whole Grammar.accepts f m "let a = 1".toList unended r := by
  have builtin : (catalog Grammar.accepts {}).head (List.cons_ne_nil _ _) ∈
      catalog Grammar.accepts {} := List.head_mem _
  have repaired : (((catalog Grammar.accepts {}).head (List.cons_ne_nil _ _)).fix
      "let a = 1".toList unended).toOption.map (·.code) = some "let a = 1;".toList := by
    decide +kernel
  obtain ⟨m, -, ⟨r, fix, whole⟩ | ⟨indent, -⟩⟩ :=
    whole_of_builtin builtin "let a = 1".toList unended
  · rw [fix, Except.toOption, Option.map_some, Option.some.injEq] at repaired
    exact ⟨_, m, r, builtin, fix, repaired, whole⟩
  · exact absurd indent (by decide)

end LintRepair.Rules
