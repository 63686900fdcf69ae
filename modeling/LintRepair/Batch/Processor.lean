/-
The processor that runs are made on, and what it does outside of runs.

* `related`, `prune`: the diagnostics that are worth an attempt after a repair. The
  repaired one goes, and so do those of related rules on the same line;
* `Ledger`: the books of one run;
* `Processor`: fixers, archive and settings, and the books of the latest run;
* `attempt`: one diagnostic on one text, checked;
* `recover`: a usable text after a failure, by the first way that applies;
* `Processor.rollback`: the text from before a run that did not complete.
-/
import LintRepair.Batch.Note
import LintRepair.Batch.Summary
import LintRepair.Diagnostic.Basic
import LintRepair.Lexical.Cache
import LintRepair.Repair.Archive
import LintRepair.Repair.Registry

namespace LintRepair.Batch

open Text Lexical Check Repair

/-! ### Related rules -/

/-- Groups of rules whose diagnostics on one line usually go together. -/
def relatedGroups : List (List String) :=
  [["semi", "no-extra-semi"], ["quotes", "no-mixed-quotes"],
    ["indent", "no-mixed-spaces-and-tabs"], ["no-trailing-spaces", "eol-last"]]

/-- Whether two rules are the same or stand in one group. -/
def related : Option String → Option String → Bool
  | some a, some b => a == b || relatedGroups.any fun g => g.contains a && g.contains b
  | _, _ => false

/-- The diagnostics that are left after the repair of one. -/
def prune (fixed : Identity) (ds : List Diagnostic) : List Diagnostic :=
  ds.filter fun d =>
    d.identity != fixed && !(d.line.value == fixed.line && related d.rule fixed.rule)

/-! ### The books of a run -/

/-- A stage of a run. -/
inductive Phase
  | analyzing
  | fixing
  | validating
  | complete
  | error
  deriving DecidableEq, Repr

/-- The word for a phase. -/
def Phase.word : Phase → String
  | .analyzing => "analyzing"
  | .fixing => "fixing"
  | .validating => "validating"
  | .complete => "complete"
  | .error => "error"

/-- What is told to the observer of a run. -/
structure Update where
  phase : Phase
  /-- How many attempts have been started. -/
  current : Nat
  total : Nat
  /-- The rule of the attempt that starts. -/
  rule : String
  applied : Nat
  failed : Nat
  message : String
  deriving DecidableEq, Repr

/-- How a processor stands. -/
structure Status where
  running : Bool
  phase : Phase
  cancelled : Bool
  current : Nat
  total : Nat
  applied : Nat
  failed : Nat
  deriving DecidableEq, Repr

/-- What a linter is asked: about a text, with the name of its file. -/
abbrev Question := Text × String

/-- The books of one run. -/
structure Ledger where
  /-- The text before the run. -/
  start : Text
  /-- The text so far. -/
  code : Text
  total : Nat
  applied : List Summary := []
  failed : List Summary := []
  recoveries : List Recovery := []
  /-- The diagnostics that had their turn. -/
  attempted : List Identity := []
  warnings : List Change := []
  current : Nat := 0
  /-- Whether no attempt may follow. -/
  halted : Bool := false
  fault? : Option RunFault := none
  /-- What the observer was told, and how the processor stood after that. -/
  updates : List (Update × Status) := []
  /-- What linters were asked: a text, and the name of its file. -/
  questions : List Question := []
  notes : List Note := []

namespace Ledger

/-- The books with failures of one cause for diagnostics that get no turn. -/
def failAll (l : Ledger) (cause : Cause) (ds : List Diagnostic) : Ledger :=
  { l with
    attempted := l.attempted ++ ds.map Diagnostic.identity
    failed := l.failed ++ ds.map fun d => .failure d cause [] }

/-- The books with one more note. -/
def note (l : Ledger) (n : Note) : Ledger := { l with notes := l.notes ++ [n] }

/-- The books after a recovery. If another text is taken, the repairs that it
lacks become failures. -/
def adopt (l : Ledger) (r : Recovery) : Ledger :=
  let l := { l with recoveries := l.recoveries ++ [r] }
  if !r.isSuccess || r.code == l.code then l
  else
    let n := r.kept l.applied.length
    { l with
      applied := l.applied.take n
      failed := l.failed ++ (l.applied.drop n).map (·.undo r)
      code := r.code }

end Ledger

/-! ### The processor -/

/-- The name of the snapshot of the text before a run. -/
def startName : String := "batch-start"

/-- What runs are made on. -/
structure Processor where
  registry : Registry
  settings : Config.Settings
  archive : Archive
  cache : Cache
  running : Bool := false
  cancelled : Bool := false
  phase : Phase := .complete
  /-- The books of the latest run. -/
  ledger? : Option Ledger := none
  /-- How many runs there were. -/
  runs : Nat := 0

/-- A processor without a past. -/
def Processor.fresh (registry : Registry) (settings : Config.Settings) : Processor where
  registry := registry
  settings := settings
  archive := { limit := settings.historyLimit.value }
  cache := { capacity := settings.cacheSize.value }

namespace Processor

/-- Asks the run under way, if there is one, to stop. -/
def cancel (p : Processor) : Processor := { p with cancelled := p.cancelled || p.running }

/-- The processor without what its runs have left. -/
def clear (p : Processor) : Processor :=
  { p with archive := p.archive.clear, cache := p.cache.clear, ledger? := none }

/-- What is said about clearing a processor while a run is under way. -/
def clearRefusal : String := "Cannot clear while a batch is running"

/-- How the processor stands. -/
def status (p : Processor) : Status where
  running := p.running
  phase := p.phase
  cancelled := p.cancelled
  current := (p.ledger?.map (·.current)).getD 0
  total := (p.ledger?.map (·.total)).getD 0
  applied := (p.ledger?.map (·.applied.length)).getD 0
  failed := (p.ledger?.map (·.failed.length)).getD 0

/-- Whether one diagnostic has its turn before another: the one further down,
and on one line the one further right. -/
def before (a b : Diagnostic) : Bool :=
  b.line.value < a.line.value ||
    (a.line.value == b.line.value && b.column.value ≤ a.column.value)

/-- The diagnostics that a fixer is switched on for, in the order of their
turns. -/
def prepare (p : Processor) (ds : List Diagnostic) : List Diagnostic :=
  (ds.filter fun d => p.registry.isFixable d.rule).mergeSort before

end Processor

/-! ### One attempt -/

/-- What comes of one attempt. -/
inductive Attempt
  | applied (code : Text) (summary : Summary)
  | failed (summary : Summary)
  /-- A fixer made a text that is no program. -/
  | broken (summary : Summary) (code : Text)
  | raised (e : Raised)

/-- How far the text around a position goes to either side. -/
def windowRadius : Nat := 10

/-- The text around a position. -/
def window (code : Text) (d : Diagnostic) : Text :=
  let column := d.column.value - 1
  slice (getLine code d.line.value) (column - windowRadius).toNat (column + windowRadius).toNat

/-- What comes of the result of a fixer. -/
def assess (accepts : Acceptor) (f : Fixer) (code : Text) (d : Diagnostic)
    (r : FixResult) : Attempt :=
  match r.refusal? with
  | some refusal => .failed (.failure d (.refused f.rule refusal) r.warnings)
  | none =>
    match syntaxFault? accepts r.code with
    | some fault =>
      .broken (.failure d (.broken fault) (fault.warnings.map .note)) r.code
    | none =>
      .applied r.code
        { diagnostic := d
          verdict := .applied (r.message f.rule d)
          warnings := r.warnings ++ (changes code r.code).map .change
          texts? := some (window code d, window r.code d) }

/-- Attempts one diagnostic. -/
def attempt (accepts : Acceptor) (registry : Registry) (code : Text) (d : Diagnostic) :
    Attempt :=
  match (zone code d).hazard? with
  | some hazard => .failed (.failure d (.hazardous hazard) [])
  | none =>
    match registry.fixer? d.rule with
    | none => .failed (.failure d .noFixer [])
    | some f =>
      match f.canFix code d with
      | .error e => .raised e
      | .ok false => .failed (.failure d .notHandled [])
      | .ok true =>
        match f.fix code d with
        | .error e => .raised e
        | .ok r => assess accepts f code d r

/-- Attempts one diagnostic on a processor, which remembers the context of its
position. -/
def Processor.attempt (accepts : Acceptor) (p : Processor) (code : Text) (d : Diagnostic) :
    Processor × Attempt :=
  ({ p with cache := (p.cache.zone code d).1 }, Batch.attempt accepts p.registry code d)

/-! ### Recovery -/

/-- The latest snapshot of a repair, up to a number, that is a program. -/
def latestSnapshot? (accepts : Acceptor) (a : Archive) : Nat → Option (Nat × Text)
  | 0 => none
  | n + 1 =>
    match a.snapshot? (Recovery.snapshotName (n + 1)) with
    | some code => if isProgram accepts code then some (n + 1, code) else latestSnapshot? accepts a n
    | none => latestSnapshot? accepts a n

/-- The text before the run, if it is a program. -/
def startSnapshot? (accepts : Acceptor) (a : Archive) : Option Text :=
  (a.snapshot? startName).filter (isProgram accepts)

/-- A usable text after a failure. In this order: the text itself, the latest
snapshot of a repair, the text without the latest repair, and the text before
the run. -/
def recover (accepts : Acceptor) (a : Archive) (code : Text) (applied : Nat) :
    Recovery × Archive :=
  if isProgram accepts code then (.resumed code, a)
  else match latestSnapshot? accepts a applied with
    | some (n, snapshot) => (.snapshot n snapshot, a)
    | none =>
      match a.revert accepts code none with
      | .ok (code, a) => (.reverted code, a)
      | .error _ =>
        match startSnapshot? accepts a with
        | some start => (.restarted start, a)
        | none => (.lost code, a)

/-- Recovers on a processor. -/
def Processor.recover (accepts : Acceptor) (p : Processor) (code : Text) (applied : Nat) :
    Processor × Recovery :=
  let (r, archive) := Batch.recover accepts p.archive code applied
  ({ p with archive }, r)

/-! ### Going back -/

/-- Why a run cannot be taken back. -/
inductive RollbackFault
  /-- It completed. -/
  | completed
  | noSnapshot
  /-- The text before the run is no program. -/
  | broken
  deriving DecidableEq, Repr

/-- The wording of a fault. -/
def RollbackFault.message : RollbackFault → String
  | .completed => "Cannot roll back a successful batch"
  | .noSnapshot => "No batch-start snapshot available"
  | .broken => "Batch-start snapshot is not valid code"

/-- The text from before a run that did not complete. -/
def Processor.rollback (accepts : Acceptor) (p : Processor) (r : Result) :
    Except RollbackFault Text :=
  if r.isSuccess then .error .completed
  else match p.archive.snapshot? startName with
    | none => .error .noSnapshot
    | some start => if isProgram accepts start then .ok start else .error .broken

end LintRepair.Batch
