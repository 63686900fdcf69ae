/-
Runs: many diagnostics repaired on one text.

* `Surroundings`: the grammar, and who watches a run;
* `pass`: the diagnostics of a list one after another;
* `waves`: a pass for a limited number of diagnostics at a time, with a linter
  asked in between;
* `process`: a whole run, by one pass or by waves.

A run pauses after each attempt and while a linter is asked, with its books
open; meanwhile it may be cancelled. A second run on the same processor is
turned away.
-/
import LintRepair.Batch.Course
import LintRepair.Batch.Processor

namespace LintRepair.Batch

open Text Lexical Check Repair

/-! ### What a run is made in -/

/-- What an observer asks of the processor when it is told something. -/
inductive Request
  | cancel
  | clear
  deriving DecidableEq, Repr

/-- What a linter gives when it is asked. -/
inductive Report
  | fresh (ds : List Diagnostic)
  /-- It raised an error. -/
  | failed (reason : String)
  /-- It took too long. -/
  | timedOut
  /-- Its diagnostics broke off with an error while they were read. -/
  | broken (text : String)

/-- An answer of a linter, which may cancel the run besides. -/
structure Answer where
  report : Report
  cancels : Bool := false

/-- A linter, which may answer by what it was asked before in a run. -/
abbrev Linter := List Question → Question → Answer

/-- What a run is made in. -/
structure Surroundings where
  accepts : Acceptor
  observe : Update → List Request := fun _ => []
  /-- Whether the observer then raises an error, which only a note tells of. -/
  falters : Update → Bool := fun _ => false

/-- How a run goes through its diagnostics. -/
inductive Manner
  | onePass
  /-- By waves, with a linter asked in between if there is one. -/
  | inWaves (linter? : Option Linter) (fileName : Option String)

/-- What a run is asked to do. -/
structure Job where
  code : Text
  diagnostics : List Diagnostic
  manner : Manner := .onePass

/-- Runs change a processor. -/
abbrev Step := Routine Processor

/-- How a part of a run ended. -/
inductive Ending
  | through
  | cancelled
  /-- An error came from elsewhere than a fixer. -/
  | broken (text : String)
  deriving DecidableEq, Repr

/-! ### Telling the observer -/

/-- Does what an observer asks for. A processor is not cleared during a run. -/
def Processor.grant (p : Processor) : Request → Processor
  | .cancel => p.cancel
  | .clear => if p.running then p else p.clear

/-- Lays the books open to whoever looks at the processor, and pauses. -/
def recess (l : Ledger) : Step Unit := do
  Routine.change fun p => ({ p with ledger? := some l }, ())
  Routine.pause

/-- Enters a phase and tells the observer. -/
def announce (s : Surroundings) (phase : Phase) (rule message : String) (l : Ledger)
    (p : Processor) : Processor × Ledger :=
  let u : Update :=
    { phase, current := l.current, total := l.total, rule, applied := l.applied.length
      failed := l.failed.length, message }
  let p := (s.observe u).foldl Processor.grant { p with phase, ledger? := some l }
  (p, { l with
    updates := l.updates ++ [(u, p.status)]
    notes := l.notes ++ if s.falters u then [.unheard phase.word] else [] })

/-! ### One diagnostic -/

/-- The words by which an error of a fixer speaks of a broken program. -/
def alarmWords : List Text := ["syntax".toList, "validation".toList]

/-- Whether an error of a fixer ends the run. -/
def isAlarming (text : String) : Bool :=
  alarmWords.any fun w => Text.contains (lower text.toList) w

/-- Recovers, and takes the text that was found. -/
def salvage (accepts : Acceptor) (code : Text) (l : Ledger) (p : Processor) :
    Processor × Ledger :=
  let (p, r) := p.recover accepts code l.applied.length
  (p, l.adopt r)

/-- Enters the outcome of an attempt into the books. -/
def settle (accepts : Acceptor) (d : Diagnostic) (l : Ledger) (p : Processor) :
    Attempt → Processor × Ledger
  | .applied code s =>
    let l := { l with code, applied := l.applied ++ [s] }
    let (before, after) := s.texts?.getD ([], [])
    let archive := p.archive.record (p.archive.newRecord d.rule d.line d.column before after)
    ({ p with archive := archive.takeSnapshot (Recovery.snapshotName l.applied.length) code }, l)
  | .failed s => (p, { l with failed := l.failed ++ [s] })
  | .broken s code =>
    let (p, l) := salvage accepts code { l with failed := l.failed ++ [s] } p
    if p.settings.haltOnSyntaxFailure.isTrue then
      (p, { l with halted := true, fault? := some (.halted d.rule d.line) })
    else (p, l)
  | .raised e =>
    let s := Summary.failure d (.raised e) []
    let l := l.note (.raised d e)
    let (p, l) := salvage accepts l.code { l with failed := l.failed ++ [s] } p
    if isAlarming e.text then (p, { l with halted := true, fault? := some (.aborted e.text) })
    else (p, l)

/-- The turn of one diagnostic. -/
def fixOne (s : Surroundings) (d : Diagnostic) (l : Ledger) (p : Processor) :
    Processor × Ledger :=
  let l := { l with current := l.current + 1, attempted := l.attempted ++ [d.identity] }
  let (p, l) := announce s .fixing (d.rule.getD "")
    ("Fixing " ++ ruleText d.rule ++ " at line " ++ d.line.text) l p
  let (p, a) := p.attempt s.accepts l.code d
  settle s.accepts d l p a

/-! ### Passes -/

/-- Diagnostics one after another, until the run is cancelled or halted. -/
def turns (s : Surroundings) : List Diagnostic → Ledger → Step (Ledger × Ending)
  | [], l => pure (l, .through)
  | d :: rest, l => do
    let p ← Routine.look
    if p.cancelled then return (l.failAll .cancelled (d :: rest), .cancelled)
    else if l.halted then return (l.failAll .skipped (d :: rest), .through)
    else
      let l ← Routine.change (fixOne s d l)
      recess l
      turns s rest l

/-- The diagnostics that no fixer is switched on for. -/
def Processor.unfixable (p : Processor) (ds : List Diagnostic) : List Diagnostic :=
  ds.filter fun d => !p.registry.isFixable d.rule

/-- All diagnostics of a list: those without a fixer fail first. -/
def pass (s : Surroundings) (ds : List Diagnostic) (l : Ledger) : Step (Ledger × Ending) := do
  let p ← Routine.look
  turns s (p.prepare ds) (l.failAll .noFixer (p.unfixable ds))

/-! ### Waves -/

/-- How far the waves of a run have come. -/
structure Tide where
  /-- The diagnostics to attempt. -/
  pending : List Diagnostic
  /-- The diagnostics that were reported last. -/
  current : List Diagnostic
  /-- The diagnostics that were ever reported. -/
  seen : List Identity
  /-- How often a linter answered. -/
  count : Nat := 0

/-- The tide at the start of a run. -/
def Tide.start (ds : List Diagnostic) : Tide :=
  { pending := ds, current := ds, seen := ds.map Diagnostic.identity }

/-- The greatest number of waves. -/
def maxWaves : Nat := 100

/-- What is said of a limit that is too large for a clock. -/
def endlessText : String := "int too large to convert to float"

/-- What a report leads to: the books, and new diagnostics if there are any. -/
def receive (limit : Json.Quantity) (l : Ledger) :
    Report → Ledger × Except String (Option (List Diagnostic))
  | .fresh ds => (l, .ok (some ds))
  | .failed reason => (l.note (.lintFailed reason), .ok none)
  | .timedOut => (l.note (.lintTimedOut limit), .ok none)
  | .broken text => (l, .error text)

/-- Asks the linter about the text so far; none if there is nothing to learn.
It is not asked where no clock could tell that it takes too long. -/
def consult (linter : Linter) (fileName : String) (l : Ledger) :
    Step (Ledger × Except String (Option (List Diagnostic))) := do
  let limit := (← Routine.look).settings.relintTimeout
  if limit.toFloat?.isNone then return receive limit l (.failed endlessText)
  recess l
  let answer := linter l.questions (l.code, fileName)
  Routine.change fun p => (if answer.cancels then p.cancel else p, ())
  return receive limit { l with questions := l.questions ++ [(l.code, fileName)] } answer.report

/-- The tide when a linter has given diagnostics: those attempted before are
not attempted again, and those never reported before count as additional
ones. -/
def Tide.turn (t : Tide) (l : Ledger) (fresh : List Diagnostic) : Tide × Ledger :=
  let discovered := fresh.filter fun d => !t.seen.contains d.identity
  ({ pending := fresh.filter fun d => !l.attempted.contains d.identity
     current := fresh
     seen := t.seen ++ discovered.map Diagnostic.identity
     count := t.count + 1 },
    { l with total := l.total + discovered.length })

/-- The tide when nothing was learned: related diagnostics of the repairs of
the wave are given up. -/
def Tide.ebb (t : Tide) (rest : List Diagnostic) (repaired : List Summary) : Tide :=
  { t with pending := repaired.foldl (fun ds s => prune s.identity ds) rest }

/-- Asks the linter, if there is one. -/
def inquire (linter? : Option (Linter × String)) (l : Ledger) :
    Step (Ledger × Except String (Option (List Diagnostic))) :=
  match linter? with
  | some (linter, fileName) => consult linter fileName l
  | none => pure (l, .ok none)

/-- The diagnostics that a wave is about: those without a fixer, and the first
ones in order up to the size of a wave. -/
def Processor.crest (p : Processor) (ds : List Diagnostic) : List Diagnostic :=
  p.unfixable ds ++ (p.prepare ds).take p.settings.relintBatchSize.value.toNat

/-- The diagnostics that a wave leaves for later ones. -/
def Processor.leftover (p : Processor) (ds : List Diagnostic) : List Diagnostic :=
  (p.prepare ds).drop p.settings.relintBatchSize.value.toNat

/-- What follows the pass of a wave that started with the books `l`: the
waves to come, or the end. `rest` is what the wave has left. -/
def goOn (linter? : Option (Linter × String))
    (waves : Tide → Ledger → Step (Ledger × Ending × Tide)) (t : Tide)
    (rest : List Diagnostic) (l after : Ledger) (ending : Ending) :
    Step (Ledger × Ending × Tide) := do
  if ending != .through then return (after.failAll .cancelled rest, ending, t)
  if after.halted then return (after.failAll .skipped rest, .through, t)
  let (after, answer) ← inquire linter? after
  match answer with
  | .error text => return (after, .broken text, t)
  | .ok fresh? =>
    let p ← Routine.look
    if p.cancelled then return (after.failAll .cancelled rest, .cancelled, t)
    match fresh? with
    | none => waves (t.ebb rest (after.applied.drop l.applied.length)) after
    | some fresh => waves (t.turn after fresh).1 (t.turn after fresh).2

/-- Waves of attempts, a limited number of them. -/
def wavesUpTo (s : Surroundings) (linter? : Option (Linter × String)) :
    Nat → Tide → Ledger → Step (Ledger × Ending × Tide)
  | 0, t, l => pure (l.note (.wavesSpent maxWaves), .through, t)
  | n + 1, t, l => do
    if t.pending.isEmpty || l.halted then return (l, .through, t)
    let p ← Routine.look
    let (after, ending) ← pass s (p.crest t.pending) l
    goOn linter? (wavesUpTo s linter? n) t (p.leftover t.pending) l after ending

/-- What a run by waves has learned. Diagnostics that it has repaired are left
out unless a linter has confirmed the rest. -/
def Tide.info (t : Tide) (l : Ledger) : LintInfo :=
  if t.count = 0 then
    { count := 0
      current := t.current.filter fun d => !(l.applied.map Summary.identity).contains d.identity }
  else { count := t.count, current := t.current }

/-- The linter that a run by waves asks, if it asks one, with the file name
that it tells. -/
def Processor.linterFor (p : Processor) (linter? : Option Linter) (fileName : Option String) :
    Option (Linter × String) :=
  let name := match fileName with
    | none | some "" => p.settings.fileName
    | some name => name
  if p.settings.relintAfterEachFix.isTrue then linter?.map (·, name) else none

/-- All waves of a run. -/
def waves (s : Surroundings) (linter? : Option Linter) (fileName : Option String)
    (ds : List Diagnostic) (l : Ledger) : Step (Ledger × Ending × Option LintInfo) := do
  let p ← Routine.look
  let (l, ending, t) ← wavesUpTo s (p.linterFor linter? fileName) maxWaves (.start ds) l
  return (l, ending, if ending == .through then some (t.info l) else none)

/-- The part of a run that makes attempts. -/
def work (s : Surroundings) (job : Job) (l : Ledger) :
    Step (Ledger × Ending × Option LintInfo) :=
  match job.manner with
  | .onePass => do
    let (l, ending) ← pass s job.diagnostics l
    return (l, ending, none)
  | .inWaves linter? fileName => waves s linter? fileName job.diagnostics l

/-! ### Whole runs -/

/-- Checks the final text against that before the run. -/
def validate (accepts : Acceptor) (l : Ledger) (p : Processor) : Processor × Ledger :=
  if l.applied.isEmpty then (p, l)
  else match syntaxFault? accepts l.code with
    | none =>
      let found := changes l.start l.code
      (p, { l with warnings := found, notes := l.notes ++ found.map .changed })
    | some fault =>
      let (p, l) := salvage accepts l.code l p
      (p, { l with fault? := some (.invalid fault) })

/-- The end of a run as its last part ended. -/
def conclude (s : Surroundings) (ending : Ending) (l : Ledger) (p : Processor) :
    Processor × Ledger :=
  match ending with
  | .cancelled => (p, { l with fault? := some .cancelled })
  | .broken text =>
    salvage s.accepts l.code { l.note .broken with fault? := some (.unexpected text) } p
  | .through =>
    if l.halted then (p, l)
    else
      let (p, l) := announce s .validating "" "Validating final code" l p
      validate s.accepts l p

/-- Ends a run and tells the observer. -/
def close (s : Surroundings) (l : Ledger) (p : Processor) : Processor × Ledger :=
  let p := { p with running := false }
  match l.fault? with
  | none => announce s .complete "" "Done" l p
  | some fault => announce s .error "" fault.message l p

/-- Prepares a processor for a run. -/
def openRun (s : Surroundings) (job : Job) (p : Processor) : Processor × Ledger :=
  let p := { p with
    running := true, cancelled := false, runs := p.runs + 1
    archive := p.archive.clear.takeSnapshot startName job.code
    cache := p.cache.clear }
  announce s .analyzing "" "Analyzing diagnostics"
    { start := job.code, code := job.code, total := job.diagnostics.length } p

/-- The result that the books of a run show. -/
def Ledger.result (l : Ledger) (lint? : Option LintInfo) : Result where
  code := l.code
  applied := l.applied
  failed := l.failed
  total := l.total
  fault? := l.fault?
  recoveries := l.recoveries
  lint? := lint?
  warnings := l.warnings

/-- The result of a run that was turned away. -/
def Job.rejected (job : Job) : Result :=
  { code := job.code, applied := [], failed := [], total := job.diagnostics.length
    fault? := some .busy }

/-- A run, unless another one is under way: its result and its books. -/
def process (s : Surroundings) (job : Job) : Step (Result × Option Ledger) := do
  let p ← Routine.look
  if p.running then return (job.rejected, none)
  let l ← Routine.change (openRun s job)
  let (l, ending, lint?) ← work s job l
  let l ← Routine.change (conclude s ending l)
  let l ← Routine.change (close s l)
  return (l.result lint?, some l)

end LintRepair.Batch
