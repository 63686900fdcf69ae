/-
What the fixers that are to change nothing but blanks leave of literals.

* `layoutRules`: their rules;
* `Touches`: the blanks that such a fixer edits are inside of a literal;
* `Regular`: its edit joins no two words, and takes away the brace that it puts
  elsewhere;
* `literals_of_fix`: a regular repair changes what stands inside of literals just if it
  touches one.
-/
import LintRepair.Grammar.Statement
import LintRepair.Proofs.Rules.Above
import LintRepair.Proofs.Rules.BraceStyle

namespace LintRepair.Rules

open Text Lexical Check Repair

variable {code after : Text} {d : Diagnostic}

/-- The rules whose edits are to change nothing but blanks. -/
def layoutRules : List String := ["no-trailing-spaces", "indent", "brace-style"]

/-- The blanks that the fixer of a rule edits are inside of a literal. -/
def Touches (rule : String) (code : Text) (d : Diagnostic) : Prop :=
  if rule = "no-trailing-spaces" then EndsInLiteral code d
  else if rule = "indent" then StartsInLiteral code d
  else match Brace.misplacement? d with
    | some .openingApart | some .bodyBehindOpening => EndsInLiteral code d
    | _ => False

/-- The edit of a rule joins no word to the one before it, and the brace that it puts on
another line is the one that it takes away. -/
def Regular (rule : String) (code : Text) (d : Diagnostic) : Prop :=
  let start := lineStartOf code d
  if rule = "no-trailing-spaces" then True
  else if rule = "indent" then
    let blanks := (lineOf code d).takeWhile isSpaceOrTab
    (stateAt code start).goesOn (code.drop (start + blanks.length)) = false
  else match Brace.misplacement? d with
    | some .openingApart =>
      startsIn (· == '{') (trimLeft (lineOf code d)) = true ∧
        (stateAt code (start - 1)).mode = .code
    | some .bodyBehindOpening | some .nextApart => True
    | some .closingBehindBody | none =>
      ∀ i, Brace.closingBehindBody? (maskedLineOf code d) (columnOf d) = some i →
        (stateAt code (start + i)).goesOn (code.drop (start + i)) = false

/-- **The style of braces.** A regular edit changes what stands inside of literals just
if the line ends in blanks that are inside of one, and what follows a brace is put on
another line or the brace itself. -/
lemma literals_iff_of_braceStyle {l : Text} (there : line? code d.line.value = some l)
    (detected : Brace.braceStyle.detect code d = true)
    (edit : Brace.braceStyle.edit code d = .ok after) (regular : Regular "brace-style" code d) :
    literals after = literals code ↔ ¬ Touches "brace-style" code d := by
  have other : ¬ "brace-style" = "no-trailing-spaces" ∧ ¬ "brace-style" = "indent" := by decide
  simp only [Regular, other.1, other.2, if_false] at regular
  simp only [Touches, other.1, other.2, if_false]
  simp only [Brace.braceStyle] at detected edit
  cases said : Brace.misplacement? d with
  | none =>
      rw [said] at detected
      cases detected
  | some misplacement =>
      rw [said] at detected edit regular
      cases misplacement with
      | openingApart =>
          rw [Bool.and_eq_true, decide_eq_true_eq] at detected
          exact literals_iff_of_pullUp there detected.2 edit regular.1 regular.2
      | bodyBehindOpening => exact literals_iff_of_splitBehindOpening there edit
      | nextApart =>
          rw [Bool.and_eq_true] at detected
          exact iff_of_true (literals_eq_of_joinNext there detected.2 edit) not_false
      | closingBehindBody =>
          exact iff_of_true (literals_eq_of_splitBeforeClosing there edit regular) not_false

/-- **Edits of blanks and literals.** A regular repair by the built-in fixer of one of
these rules changes the characters inside of strings, templates and regular expressions
just if the blanks that it edits are inside of one. -/
theorem literals_of_fix {accepts : Acceptor} {o : Options} {rule : String} {f : Fixer}
    {r : FixResult} (among : rule ∈ layoutRules) (builtin : builtin? accepts o rule = some f)
    (fix : f.fix code d = .ok r) (success : r.isSuccess = true) (regular : Regular rule code d) :
    literals r.code = literals code ↔ ¬ Touches rule code d := by
  simp only [layoutRules, List.mem_cons, List.not_mem_nil, or_false] at among
  rcases among with rfl | rfl | rfl
  all_goals
    cases builtin
    obtain ⟨takesOn, edit, valid⟩ := edit_of_fixer fix success
    obtain ⟨l, there⟩ := Option.isSome_iff_exists.mp (line?_isSome_of_canFix takesOn)
  · exact literals_iff_of_noTrailingSpaces there edit (validates_iff.mp valid).1
  · exact literals_iff_of_indent there edit (validates_iff.mp valid).1 regular
  · rw [Method.canFix, Bool.and_eq_true] at takesOn
    exact literals_iff_of_braceStyle there takesOn.2 edit regular

/-- Blanks at the end of a line. -/
def trailing : Diagnostic :=
  { rule := some "no-trailing-spaces", message := "Trailing spaces not allowed."
    line := 1, column := 1 }

theorem literals_of_fix_trailing :
    let code := "f(\x60a\n\x60);  ".toList
    let d := { trailing with line := 2, column := 4 }
    ∃ f r, "no-trailing-spaces" ∈ layoutRules ∧
      builtin? Grammar.accepts {} "no-trailing-spaces" = some f ∧ f.fix code d = .ok r ∧
      r.isSuccess = true ∧ Regular "no-trailing-spaces" code d ∧
      r.code = "f(\x60a\n\x60);".toList ∧ literals r.code = literals code := by
  intro code d
  have among : "no-trailing-spaces" ∈ layoutRules := by decide
  have fix : (simple Grammar.accepts "NoTrailingSpacesFixer" "no-trailing-spaces"
      "Remove trailing whitespace" Whitespace.noTrailingSpaces).fix code d =
        .ok { code := "f(\x60a\n\x60);".toList } := by decide +kernel
  have untouched : ¬ Touches "no-trailing-spaces" code d := by
    change ¬ EndsInLiteral code d
    decide +kernel
  exact ⟨_, _, among, rfl, fix, rfl, trivial, rfl,
    (literals_of_fix among (o := {}) rfl fix rfl trivial).mpr untouched⟩

/-- A template over two lines, with blanks at the end of the first. -/
theorem literals_of_fix_not : ¬ ∀ (rule : String) (code : Text) (d : Diagnostic) (f : Fixer)
    (r : FixResult), rule ∈ layoutRules → builtin? Grammar.accepts {} rule = some f →
      f.fix code d = .ok r → r.isSuccess = true → literals r.code = literals code := by
  intro always
  have same := always "no-trailing-spaces" "const t = \x60a   \nb\x60;".toList trailing _
    { code := "const t = \x60a\nb\x60;".toList } (by decide) rfl (by decide +kernel) rfl
  exact absurd same (by decide)

end LintRepair.Rules
