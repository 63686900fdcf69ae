/-
Two courses that keep step with each other.

* `Course.InStep`: two courses pause and end together, as long as others do
  related things in their pauses;
* `Stepwise`: a relation between processors that the moves of a run keep, with what
  the moves keep of the books; on related processors they make the same books;
* `turns_inStep`, `wavesUpTo_inStep`, `work_inStep`: the parts of a run keep step
  from related processors;
* `Abiding`, `process_inStep`: so do whole runs, if their openings and ends do.

Related to itself by a `Stepwise` relation, a run keeps an invariant; between two
processors, it does the same on both.
-/
import LintRepair.Proofs.Batch.Turn

namespace LintRepair.Batch

open Text Check Repair

/-! ### Courses that keep step -/

namespace Course

variable {σ α β : Type} {R : σ → σ → Prop} {E : σ → α → σ → α → Prop}

/-- Two courses keep step: they pause in related states, go on in step from
related states, and end together in states and with results that are related by
`E`. -/
inductive InStep (R : σ → σ → Prop) (E : σ → α → σ → α → Prop) :
    Course σ α → Course σ α → Prop
  | done {s t : σ} {a b : α} (ends : E s a t b) : InStep R E (done s a) (done t b)
  | paused {s t : σ} {resume resume' : σ → Course σ α} (shows : R s t)
      (later : ∀ u v, R u v → InStep R E (resume u) (resume' v)) :
      InStep R E (paused s resume) (paused t resume')

/-- Courses that follow on others in step keep step. -/
lemma InStep.bind {E' : σ → β → σ → β → Prop} {c d : Course σ α}
    {next next' : α → σ → Course σ β} (first : c.InStep R E d)
    (later : ∀ s a t b, E s a t b → (next a s).InStep R E' (next' b t)) :
    (c.bind next).InStep R E' (d.bind next') := by
  induction first with
  | done ends => exact later _ _ _ _ ends
  | paused shows _ ih => exact .paused shows ih

/-- Courses in step end together when nothing interferes with them. -/
lemma InStep.finish {c d : Course σ α} (h : c.InStep R E d) :
    E c.finish.1 c.finish.2 d.finish.1 d.finish.2 := by
  induction h with
  | done ends => exact ends
  | paused shows _ ih => exact ih _ _ shows

end Course

/-! ### The moves of a run -/

/-- A relation between processors, and a property of books, that the moves of a
run keep. Related processors look the same to a run, and the turn of a diagnostic
makes the same books on both. -/
structure Stepwise (s : Surroundings) (R : Processor → Processor → Prop) (L : Ledger → Prop) :
    Prop where
  sees {p q : Processor} : R p q →
    q.registry = p.registry ∧ q.settings = p.settings ∧ q.cancelled = p.cancelled
  showing {p q : Processor} (l : Ledger) : R p q → R (p.showing l) (q.showing l)
  cancel {p q : Processor} : R p q → R p.cancel q.cancel
  turn {p q : Processor} {l : Ledger} (d : Diagnostic) : R p q → L l →
    R (fixOne s d l p).1 (fixOne s d l q).1 ∧ (fixOne s d l q).2 = (fixOne s d l p).2 ∧
      L (fixOne s d l p).2
  entry {l m : Ledger} : Entry l m → L l → L m

/-- How the parts of a run end in step: on related processors, and with the same
result. -/
def Agree {α : Type} (R : Processor → Processor → Prop) (L : Ledger → Prop) (books : α → Ledger)
    (p : Processor) (a : α) (q : Processor) (b : α) : Prop :=
  R p q ∧ b = a ∧ L (books a)

section Moves

variable {s : Surroundings} {R : Processor → Processor → Prop} {L : Ledger → Prop}
variable {l : Ledger} {p q : Processor}

lemma turns_inStep (moves : Stepwise s R L) (ds : List Diagnostic) (same : R p q) (good : L l) :
    (turns s ds l p).InStep R (Agree R L Prod.fst) (turns s ds l q) := by
  induction ds generalizing l p q with
  | nil => exact .done ⟨same, rfl, good⟩
  | cons d ds ih =>
      obtain ⟨-, -, cancelled⟩ := moves.sees same
      by_cases stop : p.cancelled = true
      · rw [turns_cancelled stop, turns_cancelled (cancelled.trans stop)]
        exact .done ⟨same, rfl, moves.entry (.failAll l .cancelled (d :: ds)) good⟩
      have going : p.cancelled = false := by simpa using stop
      by_cases halt : l.halted = true
      · rw [turns_halted going halt, turns_halted (cancelled.trans going) halt]
        exact .done ⟨same, rfl, moves.entry (.failAll l .skipped (d :: ds)) good⟩
      have open' : l.halted = false := by simpa using halt
      rw [turns_cons going open', turns_cons (cancelled.trans going) open']
      obtain ⟨kept, books, good'⟩ := moves.turn d same good
      rw [afterTurn, afterTurn, books]
      exact .paused (moves.showing _ kept) fun u v same' => ih same' good'

lemma pass_inStep (moves : Stepwise s R L) (ds : List Diagnostic) (same : R p q) (good : L l) :
    (pass s ds l p).InStep R (Agree R L Prod.fst) (pass s ds l q) := by
  obtain ⟨registry, -⟩ := moves.sees same
  rw [pass_eq, pass_eq, Processor.prepare_congr registry, Processor.unfixable_congr registry]
  exact turns_inStep moves _ same (moves.entry (.failAll l .noFixer _) good)

/-- What a linter reports leads to notes at most. -/
lemma Stepwise.receive (moves : Stepwise s R L) (limit : Json.Quantity) (report : Report)
    (good : L l) : L (receive limit l report).1 := by
  cases report with
  | fresh ds => exact good
  | failed reason => exact moves.entry (.note l (.lintFailed reason)) good
  | timedOut => exact moves.entry (.note l (.lintTimedOut limit)) good
  | broken text => exact good

lemma inquire_inStep (moves : Stepwise s R L) (linter? : Option (Linter × String)) (same : R p q)
    (good : L l) :
    (inquire linter? l p).InStep R (Agree R L Prod.fst) (inquire linter? l q) := by
  obtain ⟨-, settings, -⟩ := moves.sees same
  cases linter? with
  | none => exact .done ⟨same, rfl, good⟩
  | some asked =>
      obtain ⟨linter, name⟩ := asked
      rw [inquire]
      by_cases endless : p.settings.relintTimeout.toFloat?.isNone = true
      · rw [consult_endless endless, consult_endless (settings ▸ endless), settings]
        exact .done ⟨same, rfl, moves.receive _ _ good⟩
      have limited : p.settings.relintTimeout.toFloat?.isNone = false :=
        Bool.eq_false_iff.mpr endless
      rw [consult_eq limited, consult_eq (settings ▸ limited), settings]
      refine .paused (moves.showing l same) fun u v same' => .done ⟨?_, rfl, ?_⟩
      · split
        · exact moves.cancel same'
        · exact same'
      · exact moves.receive _ _ (moves.entry (.ask l (l.code, name)) good)

/-- What follows the pass of a wave keeps step if further waves do. -/
lemma goOn_inStep (moves : Stepwise s R L) {linter? : Option (Linter × String)}
    {waves : Tide → Ledger → Step (Ledger × Ending × Tide)}
    (further : ∀ t l p q, R p q → L l → (waves t l p).InStep R (Agree R L (·.1)) (waves t l q))
    (t : Tide) (rest : List Diagnostic) (l : Ledger) {after : Ledger} (e : Ending)
    (same : R p q) (good : L after) :
    (goOn linter? waves t rest l after e p).InStep R (Agree R L (·.1))
      (goOn linter? waves t rest l after e q) := by
  rw [goOn]
  split
  · exact .done ⟨same, rfl, moves.entry (.failAll after .cancelled rest) good⟩
  split
  · exact .done ⟨same, rfl, moves.entry (.failAll after .skipped rest) good⟩
  rw [Routine.bind_apply, Routine.bind_apply]
  refine (inquire_inStep moves linter? same good).bind ?_
  rintro u ⟨asked, answer⟩ v _ ⟨same', rfl, good'⟩
  cases answer with
  | error text => exact .done ⟨same', rfl, good'⟩
  | ok fresh? =>
      dsimp only
      rw [Routine.bind_apply, Routine.bind_apply, Routine.look_apply, Routine.look_apply,
        Course.bind_done, Course.bind_done, (moves.sees same').2.2]
      split
      · exact .done ⟨same', rfl, moves.entry (.failAll asked .cancelled rest) good'⟩
      cases fresh? with
      | none => exact further _ asked u v same' good'
      | some fresh => exact further _ _ u v same' (moves.entry (.found asked _) good')

lemma wavesUpTo_inStep (moves : Stepwise s R L) (linter? : Option (Linter × String)) (n : Nat)
    (t : Tide) (same : R p q) (good : L l) :
    (wavesUpTo s linter? n t l p).InStep R (Agree R L (·.1)) (wavesUpTo s linter? n t l q) := by
  induction n generalizing t l p q with
  | zero => exact .done ⟨same, rfl, moves.entry (.note l (.wavesSpent maxWaves)) good⟩
  | succ n ih =>
      by_cases stop : (t.pending.isEmpty || l.halted) = true
      · rw [wavesUpTo_succ_end stop, wavesUpTo_succ_end stop]
        exact .done ⟨same, rfl, good⟩
      have going : (t.pending.isEmpty || l.halted) = false := by simpa using stop
      obtain ⟨registry, settings, -⟩ := moves.sees same
      have crest : q.crest t.pending = p.crest t.pending := by
        rw [Processor.crest, Processor.crest, settings, Processor.prepare_congr registry,
          Processor.unfixable_congr registry]
      have leftover : q.leftover t.pending = p.leftover t.pending := by
        rw [Processor.leftover, Processor.leftover, settings, Processor.prepare_congr registry]
      rw [wavesUpTo_succ going, wavesUpTo_succ going, crest, leftover]
      refine (pass_inStep moves _ same good).bind ?_
      rintro u ⟨after, e⟩ v _ ⟨same', rfl, good'⟩
      exact goOn_inStep moves (fun t l p q => ih t) _ _ l e same' good'

lemma work_inStep (moves : Stepwise s R L) (job : Job) (same : R p q) (good : L l) :
    (work s job l p).InStep R (Agree R L (·.1)) (work s job l q) := by
  cases manner : job.manner with
  | onePass =>
      rw [work_onePass manner, work_onePass manner]
      refine (pass_inStep moves _ same good).bind ?_
      rintro u ⟨after, e⟩ v _ ⟨same', rfl, good'⟩
      exact .done ⟨same', rfl, good'⟩
  | inWaves linter? name =>
      have asks : q.linterFor linter? name = p.linterFor linter? name := by
        simp only [Processor.linterFor, (moves.sees same).2.1]
      rw [work, manner]
      dsimp only
      rw [waves_eq, waves_eq, asks]
      refine (wavesUpTo_inStep moves _ _ _ same good).bind ?_
      rintro u ⟨after, e, t⟩ v _ ⟨same', rfl, good'⟩
      exact .done ⟨same', rfl, good'⟩

/-! ### Whole runs -/

/-- Relations between processors on which a run is under way, and between those
on which none is, that a run leads from the one to the other and back. -/
structure Abiding (s : Surroundings) (R I : Processor → Processor → Prop) (L : Ledger → Prop) :
    Prop extends Stepwise s R L where
  idle {p q : Processor} : I p q → p.running = false ∧ q.running = false
  opens {p q : Processor} (job : Job) : I p q →
    R (openRun s job p).1 (openRun s job q).1 ∧ (openRun s job q).2 = (openRun s job p).2 ∧
      L (openRun s job p).2
  closes {p q : Processor} {l : Ledger} (e : Ending) : R p q → L l →
    I (closing s e l p).1 (closing s e l q).1 ∧ (closing s e l q).2 = (closing s e l p).2 ∧
      L (closing s e l p).2

/-- How whole runs end in step: on related processors, and with the same result
and the same books, which show it. -/
def AgreeOn (I : Processor → Processor → Prop) (L : Ledger → Prop) (p : Processor)
    (a : Result × Option Ledger) (q : Processor) (b : Result × Option Ledger) : Prop :=
  I p q ∧ b = a ∧ ∃ l lint?, a = (l.result lint?, some l) ∧ L l

lemma process_inStep {I : Processor → Processor → Prop} (abides : Abiding s R I L) (job : Job)
    (same : I p q) : (process s job p).InStep R (AgreeOn I L) (process s job q) := by
  obtain ⟨idle, idle'⟩ := abides.idle same
  obtain ⟨same', books, good⟩ := abides.opens job same
  rw [process_idle idle, process_idle idle', books]
  refine (work_inStep abides.toStepwise job same' good).bind ?_
  rintro u ⟨m, e, lint?⟩ v _ ⟨kept, rfl, good'⟩
  obtain ⟨last, books', good''⟩ := abides.closes e kept good'
  dsimp only
  rw [books']
  exact .done ⟨last, rfl, _, lint?, rfl, good''⟩

end Moves

end LintRepair.Batch
