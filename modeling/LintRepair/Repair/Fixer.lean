/-
Fixers: what repairs the diagnostics of one rule.

* `Method`: the parts that are specific to a rule;
* `Method.canFix`, `Method.fix`: the checks around them, the same for every
  rule, with `Method.raised?` for what stands in their way;
* `Fixer`: a fixer as the registry keeps it, built from a method or not.

A fix by a method is all or nothing (`fix_cases`): `fix_code_of_refusal` says
that a refusal leaves the text as it was, `isProgram_of_fix` that a repaired text
is a program.
-/
import LintRepair.Repair.Outcome

namespace LintRepair.Repair

open Text Lexical Check

/-- Why an edit came to nothing. -/
inductive Setback
  /-- The violation cannot be repaired safely. -/
  | declined (reason : Option String)
  /-- The edit failed. -/
  | mishap (detail : String)
  deriving DecidableEq, Repr

/-- An edit declined for a reason. -/
def decline {α : Type} (reason : String) : Except Setback α :=
  .error (.declined (some reason))

/-- The refusal that a setback leads to. -/
def Setback.refusal : Setback → Refusal
  | .declined reason => .declined reason
  | .mishap detail => .mishap detail

/-- What is said besides about a setback. -/
def Setback.warnings : Setback → List Warning
  | .declined _ => []
  | .mishap _ => mishapWarnings

/-- The parts of a fixer that are specific to its rule. -/
structure Method where
  /-- Whether the violation is there. -/
  detect : Text → Diagnostic → Bool
  /-- The text without the violation. -/
  edit : Text → Diagnostic → Except Setback Text
  /-- What an edit keeps, between the text before and the text after. -/
  keeps : Text → Text → Bool := fun _ _ => true
  /-- The error that the search for the violation ends in, if it does. -/
  obstacle? : Text → Diagnostic → Option Raised := fun _ _ => none

namespace Method

/-- Whether the violation is looked for: the diagnostic is one of the rule, and
its position may be edited. -/
def concerns (rule : String) (code : Text) (d : Diagnostic) : Bool :=
  d.rule == some rule && isValidPosition code d.line.value d.column.value &&
    (zone code d).isSafe

/-- Whether a repair would be attempted: the violation is looked for and is
there. -/
def canFix (m : Method) (rule : String) (code : Text) (d : Diagnostic) : Bool :=
  concerns rule code d && m.detect code d

/-- The error that looking for the violation ends in. -/
def raised? (m : Method) (rule : String) (code : Text) (d : Diagnostic) : Option Raised :=
  if concerns rule code d then m.obstacle? code d else none

/-- An answer about a diagnostic, unless there is an error before it. -/
def guarded {α : Type} (m : Method) (rule : String) (code : Text) (d : Diagnostic) (answer : α) :
    Except Raised α :=
  match m.raised? rule code d with
  | some e => .error e
  | none => .ok answer

/-- Whether an edited text may stand: it differs, is a program, and keeps
what the rule promises. -/
def validates (m : Method) (accepts : Acceptor) (before after : Text) : Bool :=
  before != after && isProgram accepts after && m.keeps before after

/-- Why an edited text may not stand. -/
def rejection (accepts : Acceptor) (after : Text) : Refusal :=
  match syntaxFault? accepts after with
  | some fault => .broken fault
  | none => .invariant

/-- The repair of a diagnostic: the edited text if it may stand, else the
text as it was. -/
def fix (m : Method) (accepts : Acceptor) (rule : String) (code : Text)
    (d : Diagnostic) : FixResult :=
  if m.canFix rule code d then
    match m.edit code d with
    | .error setback =>
      { code, refusal? := some setback.refusal, warnings := setback.warnings }
    | .ok after =>
      if m.validates accepts code after then { code := after }
      else { code, refusal? := some (rejection accepts after) }
  else
    match (zone code d).hazard? with
    | some hazard => { code, refusal? := some (.hazardous hazard) }
    | none => { code, refusal? := some .absent }

/-- A fix is one of the method's edits, on a diagnostic that it takes on, and may stand; or it is
refused and leaves the text as it was. -/
theorem fix_cases (m : Method) (accepts : Acceptor) (rule : String) (code : Text)
    (d : Diagnostic) :
    (m.canFix rule code d = true ∧ ∃ after, m.edit code d = .ok after ∧
      m.validates accepts code after = true ∧ m.fix accepts rule code d = { code := after }) ∨
    (m.fix accepts rule code d).isSuccess = false ∧ (m.fix accepts rule code d).code = code := by
  unfold fix
  split
  · next takesOn =>
    split
    · exact .inr ⟨rfl, rfl⟩
    · next after edited =>
      split
      · next valid => exact .inl ⟨takesOn, after, edited, valid, rfl⟩
      · exact .inr ⟨rfl, rfl⟩
  · split
    · exact .inr ⟨rfl, rfl⟩
    · exact .inr ⟨rfl, rfl⟩

/-- A refusal leaves the text as it was. -/
theorem fix_code_of_refusal (m : Method) (accepts : Acceptor) (rule : String)
    (code : Text) (d : Diagnostic) (h : ¬ (m.fix accepts rule code d).isSuccess) :
    (m.fix accepts rule code d).code = code := by
  obtain ⟨-, after, -, -, fixed⟩ | ⟨-, same⟩ := m.fix_cases accepts rule code d
  · rw [fixed] at h
    exact absurd rfl h
  · exact same

/-- A repaired text is a program. -/
theorem isProgram_of_fix (m : Method) (accepts : Acceptor) (rule : String)
    (code : Text) (d : Diagnostic) (h : (m.fix accepts rule code d).isSuccess) :
    isProgram accepts (m.fix accepts rule code d).code := by
  obtain ⟨-, after, -, valid, fixed⟩ | ⟨refused, -⟩ := m.fix_cases accepts rule code d
  · simp only [validates, Bool.and_eq_true] at valid
    rw [fixed]
    exact valid.1.2
  · rw [refused] at h
    cases h

end Method

/-- A fixer as the registry keeps it. -/
structure Fixer where
  /-- The name of the kind of fixer. -/
  kind : String
  /-- The rule whose diagnostics it repairs. -/
  rule : String
  /-- How intricate its edit is. -/
  complexity : String
  description : String
  canFix : Text → Diagnostic → Except Raised Bool
  fix : Text → Diagnostic → Except Raised FixResult
  /-- Whether an edited text may stand. -/
  validates : Text → Text → Bool

/-- The fixer that follows a method. -/
def Method.fixer (m : Method) (accepts : Acceptor)
    (kind rule complexity description : String) : Fixer where
  kind := kind
  rule := rule
  complexity := complexity
  description := description
  canFix code d := m.guarded rule code d (m.canFix rule code d)
  fix code d := m.guarded rule code d (m.fix accepts rule code d)
  validates := m.validates accepts

end LintRepair.Repair
