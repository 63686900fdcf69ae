/-
Which rules leave the lines above a diagnostic's as they are.

* `KeepsAbove`: a method whose edits are of that kind, with one lemma for each
  of them; they edit the line itself, or a part of the text that was found
  behind its start;
* `steadyRules`: the rules that follow such a method;
* `sameAbove_of_fix`: so their built-in fixers leave the lines above the
  diagnostic's as they are, whatever the grammar.
-/
import LintRepair.Proofs.Rules.Search
import LintRepair.Proofs.Rules.Whole

namespace LintRepair.Rules

open Text Lexical Code Check Repair

variable {code after : Text} {d : Diagnostic}

/-- A method whose edits leave the lines above the diagnostic's as they are. -/
def KeepsAbove (m : Method) : Prop :=
  ∀ code d after, (line? code d.line.value).isSome = true → m.edit code d = .ok after →
    SameAbove (d.line.value - 1).toNat after code

/-! ### Edits of the line -/

lemma sameAbove_setLine {new : Text} (edit : setLine code d new = .ok after) :
    SameAbove (d.line.value - 1).toNat after code := by
  rw [setLine] at edit
  cases replaced : replaceLine code d.line.value new with
  | none =>
      rw [replaced] at edit
      cases edit
  | some text =>
      rw [replaced] at edit
      cases edit
      exact sameAbove_replaceLine replaced

lemma keepsAbove_semi : KeepsAbove Semicolon.semi := by
  intro code d after _ edit
  simp only [Semicolon.semi] at edit
  split at edit
  · split at edit
    · cases edit
    · split at edit
      · cases edit
      · exact sameAbove_setLine edit
  · split at edit
    · cases edit
    · exact sameAbove_setLine edit

lemma keepsAbove_noExtraSemi : KeepsAbove Semicolon.noExtraSemi := by
  intro code d after _ edit
  simp only [Semicolon.noExtraSemi] at edit
  split at edit
  · cases edit
  · exact sameAbove_setLine edit

lemma keepsAbove_noTrailingSpaces : KeepsAbove Whitespace.noTrailingSpaces := by
  intro code d after _ edit
  exact sameAbove_setLine edit

lemma keepsAbove_spaceBeforeBlocks : KeepsAbove Whitespace.spaceBeforeBlocks := by
  intro code d after _ edit
  simp only [Whitespace.spaceBeforeBlocks] at edit
  split at edit
  · cases edit
  · split at edit
    · exact sameAbove_setLine edit
    · exact sameAbove_setLine edit

lemma keepsAbove_indent : KeepsAbove Whitespace.indent := by
  intro code d after _ edit
  simp only [Whitespace.indent] at edit
  split at edit
  · cases edit
  · exact sameAbove_setLine edit

lemma keepsAbove_eqeqeq : KeepsAbove Operator.eqeqeq := by
  intro code d after _ edit
  simp only [Operator.eqeqeq] at edit
  split at edit
  · cases edit
  · exact sameAbove_setLine edit

lemma keepsAbove_noTernary : KeepsAbove Ternary.noTernary := by
  intro code d after _ edit
  simp only [Ternary.noTernary] at edit
  split at edit
  · cases edit
  · split at edit
    · cases edit
    · exact sameAbove_setLine edit

/-! ### Edits behind the start of the line -/

lemma keepsAbove_noPlusplus : KeepsAbove Operator.noPlusplus := by
  intro code d after there edit
  simp only [Operator.noPlusplus] at edit
  split at edit
  · cases edit
  · next u found =>
    split at edit
    · cases edit
      exact sameAbove_splice there (lineStart_le_update found)
    · cases edit

lemma keepsAbove_quotes : KeepsAbove Quote.quotes := by
  intro code d after there edit
  simp only [Quote.quotes] at edit
  split at edit
  · next start stop _ bounds =>
    split at edit
    · cases edit
    · split at edit
      · cases edit
      · split at edit
        · cases edit
        · cases edit
          exact sameAbove_splice there (lineStart_le_bounds bounds)
  · cases edit

lemma keepsAbove_preferTemplate : KeepsAbove Template.preferTemplate := by
  intro code d after there edit
  simp only [Template.preferTemplate] at edit
  split at edit
  · cases edit
  · next start stop found =>
    split at edit
    · cases edit
    · split at edit
      · cases edit
      · split at edit
        · cases edit
        · split at edit
          · cases edit
          · cases edit
            exact sameAbove_splice there (lineStart_le_expression found)

lemma keepsAbove_noVar (preferConst : Bool) : KeepsAbove (Binding.noVar preferConst) := by
  intro code d after there edit
  simp only [Binding.noVar] at edit
  split at edit
  · cases edit
  · next masked decl found =>
    split at edit
    · cases edit
    · cases edit
      exact sameAbove_splice there (lineStart_le_located found)

lemma keepsAbove_preferConst : KeepsAbove Binding.preferConst := by
  intro code d after there edit
  simp only [Binding.preferConst] at edit
  split at edit
  · cases edit
  · next masked decl found =>
    split at edit
    · cases edit
    · split at edit
      · cases edit
      · split at edit
        · cases edit
        · cases edit
          exact sameAbove_splice there (lineStart_le_located found)

lemma keepsAbove_curly : KeepsAbove Brace.curly := by
  intro code d after there edit
  simp only [Brace.curly] at edit
  split at edit
  · cases edit
  · next b found =>
    split at edit
    · cases edit
    · split at edit
      · cases edit
      · split at edit
        · cases edit
        · cases edit
          exact sameAbove_splice there (lineStart_le_bare found)

/-- Spans replaced behind an offset keep the text before it. -/
lemma take_prefix_replaceSpans {i : Nat} {word : Text} {spans : List Span}
    (low : ∀ span ∈ spans, i ≤ span.start) :
    code.take i <+: Loop.replaceSpans code word spans := by
  induction spans with
  | nil => exact List.take_prefix _ _
  | cons span rest ih =>
      have later := ih fun s hs => low s (List.mem_cons_of_mem span hs)
      exact take_prefix_splice (low span List.mem_cons_self) later

lemma keepsAbove_preferForOf : KeepsAbove Loop.preferForOf := by
  intro code d after there edit
  simp only [Loop.preferForOf] at edit
  split at edit
  · cases edit
  · next c found =>
    obtain ⟨start, body⟩ := lineStart_le_counting found
    rw [Loop.throughElements] at edit
    obtain ⟨spans, reads, edit⟩ := exists_of_bind_eq_ok edit
    have inBody := le_of_mem_elementAccesses reads
    split at edit
    · cases edit
    · split at edit
      · cases edit
      · split at edit
        · cases edit
        · next element _ =>
          cases edit
          refine sameAbove_of_prefix there (take_prefix_splice start ?_)
          refine take_prefix_replaceSpans fun span member => ?_
          have low := inBody span member
          omega

/-- Lines taken out no earlier than a line starts. -/
lemma sameAbove_deleteLines {line : Int} {lo hi : Nat}
    (there : (line? code line).isSome = true) (low : lineStart code line ≤ lo) :
    SameAbove (line - 1).toNat (Console.deleteLines code lo hi) code := by
  rw [Console.deleteLines]
  split
  · exact sameAbove_of_prefix there ((List.take_prefix_take_left low).trans
      (List.prefix_append _ _))
  · exact sameAbove_take there (by omega)

lemma sameAbove_withoutCall {mode : Console.Mode} {line : Int} {start stop : Nat}
    (there : (line? code line).isSome = true) (low : lineStart code line ≤ start)
    (edit : Console.withoutCall mode code start stop = .ok after) :
    SameAbove (line - 1).toNat after code := by
  have low' := lineStart_le_lineStartAt there low
  unfold Console.withoutCall at edit
  extract_lets masked blanks statementEnd lineStart lineEnd lead controlBody at edit
  split at edit
  · cases mode with
    | remove =>
        cases edit
        exact sameAbove_deleteLines there low'
    | comment =>
        cases edit
        exact sameAbove_splice there low'
  · cases mode with
    | remove =>
        cases edit
        exact sameAbove_splice there low
    | comment =>
        dsimp only at edit
        split at edit
        · cases edit
        · cases edit
          exact sameAbove_splice there low

lemma keepsAbove_noConsole (mode : Console.Mode) : KeepsAbove (Console.noConsole mode) := by
  intro code d after there edit
  simp only [Console.noConsole] at edit
  split at edit
  · cases edit
  · next start stop found => exact sameAbove_withoutCall there (lineStart_le_call found) edit

/-! ### The built-in fixers -/

/-- The rules whose built-in fixers leave the lines above a diagnostic's as
they are. -/
def steadyRules : List String :=
  ["semi", "no-extra-semi", "no-trailing-spaces", "space-before-blocks", "indent", "eqeqeq",
    "no-plusplus", "no-ternary", "no-console", "curly", "no-var", "prefer-const",
    "prefer-for-of", "prefer-template", "quotes"]

/-- A method takes on only diagnostics whose line there is. -/
lemma line?_isSome_of_canFix {m : Method} {rule : String}
    (takesOn : m.canFix rule code d = true) : (line? code d.line.value).isSome = true := by
  simp only [Method.canFix, Method.concerns, Bool.and_eq_true] at takesOn
  obtain ⟨⟨⟨-, valid⟩, -⟩, -⟩ := takesOn
  rw [isValidPosition] at valid
  cases line : line? code d.line.value with
  | none =>
      rw [line] at valid
      cases valid
  | some text => rfl

/-- A fixer by a method that leaves the lines above as they are does so as
well. -/
lemma KeepsAbove.fixer {m : Method} (keeps : KeepsAbove m) {accepts : Acceptor}
    {kind rule complexity description : String} {r : FixResult}
    (fix : (m.fixer accepts kind rule complexity description).fix code d = .ok r)
    (success : r.isSuccess = true) : SameAbove (d.line.value - 1).toNat r.code code := by
  obtain ⟨takesOn, edited, -⟩ := edit_of_fixer fix success
  exact keeps code d _ (line?_isSome_of_canFix takesOn) edited

/-- **Repairs from below.** A repair by the built-in fixer of one of these
rules leaves the lines above the diagnostic's as they are. -/
theorem sameAbove_of_fix {accepts : Acceptor} {o : Options} {rule : String} {f : Fixer}
    {r : FixResult} (steady : rule ∈ steadyRules) (builtin : builtin? accepts o rule = some f)
    (fix : f.fix code d = .ok r) (success : r.isSuccess = true) :
    SameAbove (d.line.value - 1).toNat r.code code := by
  simp only [steadyRules, List.mem_cons, List.not_mem_nil, or_false] at steady
  rcases steady with rfl | rfl | rfl | rfl | rfl | rfl | rfl | rfl | rfl | rfl | rfl | rfl |
    rfl | rfl | rfl
  all_goals cases builtin
  · exact keepsAbove_semi.fixer fix success
  · exact keepsAbove_noExtraSemi.fixer fix success
  · exact keepsAbove_noTrailingSpaces.fixer fix success
  · exact keepsAbove_spaceBeforeBlocks.fixer fix success
  · exact keepsAbove_indent.fixer fix success
  · exact keepsAbove_eqeqeq.fixer fix success
  · exact keepsAbove_noPlusplus.fixer fix success
  · exact keepsAbove_noTernary.fixer fix success
  · exact (keepsAbove_noConsole o.console).fixer fix success
  · exact keepsAbove_curly.fixer fix success
  · exact (keepsAbove_noVar o.preferConst).fixer fix success
  · exact keepsAbove_preferConst.fixer fix success
  · exact keepsAbove_preferForOf.fixer fix success
  · exact keepsAbove_preferTemplate.fixer fix success
  · exact keepsAbove_quotes.fixer fix success

end LintRepair.Rules
