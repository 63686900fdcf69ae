/-
The moves of a run.

* `Entry`: what is written into the books besides attempts;
* `Walk`: moves one after another, from a moment of a run to a later one: an
  entry, the turn of a diagnostic with the pause behind it, or a pause while a
  linter is asked;
* `Turns`, `runs_turns`: the ways through the turns of some diagnostics;
* `walk_pass`, `walk_waves`: every way through a pass, or through the waves of
  a run, is such a walk;
* `runs_process`: an accepted run is opened, walks, and is closed.

An invariant of runs is thus one of entries, turns and pauses.
-/
import LintRepair.Proofs.Batch.Interlude

namespace LintRepair.Batch

open Processor (Interlude interlude_refl interlude_trans interlude_cancel)

variable {s : Surroundings} {between : Processor → Processor → Prop}
variable {l m : Ledger} {p q : Processor} {trail : List Processor}

/-! ### The parts of a run, from a processor -/

/-- The processor with the books of a run laid open. -/
def Processor.showing (p : Processor) (l : Ledger) : Processor := { p with ledger? := some l }

/-- The processor in the pause behind a turn. -/
def afterTurn (s : Surroundings) (d : Diagnostic) (l : Ledger) (p : Processor) : Processor :=
  (fixOne s d l p).1.showing (fixOne s d l p).2

lemma turns_nil : turns s [] l p = .done p (l, .through) := rfl

lemma turns_cancelled {d : Diagnostic} {rest : List Diagnostic} (stop : p.cancelled = true) :
    turns s (d :: rest) l p = .done p (l.failAll .cancelled (d :: rest), .cancelled) := by
  simp only [turns, Routine.bind_apply, Routine.look_apply, Course.bind_done, stop, if_true]
  rfl

lemma turns_halted {d : Diagnostic} {rest : List Diagnostic} (going : p.cancelled = false)
    (stop : l.halted = true) :
    turns s (d :: rest) l p = .done p (l.failAll .skipped (d :: rest), .through) := by
  simp only [turns, Routine.bind_apply, Routine.look_apply, Course.bind_done, going, stop,
    if_true, Bool.false_eq_true, if_false]
  rfl

lemma turns_cons {d : Diagnostic} {rest : List Diagnostic} (going : p.cancelled = false)
    (open' : l.halted = false) :
    turns s (d :: rest) l p =
      .paused (afterTurn s d l p) fun t => turns s rest (fixOne s d l p).2 t := by
  simp only [turns, Routine.bind_apply, Routine.look_apply, Course.bind_done, going, open',
    Bool.false_eq_true, if_false]
  rfl

/-- What is attempted, and in which order, is a matter of the registry. -/
lemma Processor.prepare_congr (same : q.registry = p.registry) (ds : List Diagnostic) :
    q.prepare ds = p.prepare ds := by
  rw [Processor.prepare, Processor.prepare, same]

lemma Processor.unfixable_congr (same : q.registry = p.registry) (ds : List Diagnostic) :
    q.unfixable ds = p.unfixable ds := by
  rw [Processor.unfixable, Processor.unfixable, same]

lemma pass_eq (ds : List Diagnostic) :
    pass s ds l p = turns s (p.prepare ds) (l.failAll .noFixer (p.unfixable ds)) p := rfl

/-- The books with a question to a linter. -/
def Ledger.ask (l : Ledger) (q : Question) : Ledger := { l with questions := l.questions ++ [q] }

lemma consult_endless {linter : Linter} {name : String}
    (endless : p.settings.relintTimeout.toFloat?.isNone = true) :
    consult linter name l p =
      .done p (receive p.settings.relintTimeout l (.failed endlessText)) := by
  simp only [consult, Routine.bind_apply, Routine.look_apply, Course.bind_done, endless, if_true]
  rfl

lemma consult_eq {linter : Linter} {name : String}
    (limited : p.settings.relintTimeout.toFloat?.isNone = false) :
    consult linter name l p =
      .paused (p.showing l) fun t =>
        .done (if (linter l.questions (l.code, name)).cancels then t.cancel else t)
          (receive p.settings.relintTimeout (l.ask (l.code, name))
            (linter l.questions (l.code, name)).report) := by
  simp only [consult, Routine.bind_apply, Routine.look_apply, Course.bind_done, limited,
    Bool.false_eq_true, if_false]
  rfl

/-! ### Moves -/

/-- What is written into the books besides attempts: failures of diagnostics
that get no turn, notes, questions, and diagnostics that linters have found. -/
inductive Entry : Ledger → Ledger → Prop
  | failAll (l : Ledger) (cause : Cause) (ds : List Diagnostic) : Entry l (l.failAll cause ds)
  | note (l : Ledger) (n : Note) : Entry l (l.note n)
  | ask (l : Ledger) (q : Question) : Entry l (l.ask q)
  | found (l : Ledger) (n : Nat) : Entry l { l with total := l.total + n }

/-- Moves of a run, from books and a processor to later ones, with the states
in which it pauses on the way. -/
inductive Walk (s : Surroundings) :
    Ledger → Processor → List Processor → Ledger → Processor → Prop
  | refl (l : Ledger) (p : Processor) : Walk s l p [] l p
  | entry {l m n : Ledger} {p q : Processor} {trail : List Processor} (write : Entry l m)
      (rest : Walk s m p trail n q) : Walk s l p trail n q
  | turn {l n : Ledger} {p q t : Processor} {trail : List Processor} (d : Diagnostic)
      (going : p.cancelled = false) (open' : l.halted = false)
      (wait : Interlude (afterTurn s d l p) t)
      (rest : Walk s (fixOne s d l p).2 t trail n q) :
      Walk s l p (afterTurn s d l p :: trail) n q
  | pause {l n : Ledger} {p q t : Processor} {trail : List Processor}
      (wait : Interlude (p.showing l) t) (rest : Walk s l t trail n q) :
      Walk s l p (p.showing l :: trail) n q

namespace Walk

/-- One walk after another. -/
lemma trans {first later : List Processor} {n : Ledger} {v : Processor}
    (head : Walk s l p first m q) (tail : Walk s m q later n v) :
    Walk s l p (first ++ later) n v := by
  induction head with
  | refl l p => exact tail
  | entry write _ ih => exact .entry write (ih tail)
  | turn d going open' wait _ ih => exact .turn d going open' wait (ih tail)
  | pause wait _ ih => exact .pause wait (ih tail)

/-- A single entry. -/
lemma ofEntry (p : Processor) (write : Entry l m) : Walk s l p [] m p :=
  .entry write (.refl m p)

end Walk

/-! ### Passes -/

/-- Diagnostics have their turns one after another, until there are none left,
or until the run is found cancelled or halted and the rest of them fail. -/
inductive Turns (s : Surroundings) :
    List Diagnostic → Ledger → Processor → List Processor → Ledger → Processor → Ending → Prop
  | done (l : Ledger) (p : Processor) : Turns s [] l p [] l p .through
  | cancelled {p : Processor} (stop : p.cancelled = true) (d : Diagnostic) (ds : List Diagnostic)
      (l : Ledger) :
      Turns s (d :: ds) l p [] (l.failAll .cancelled (d :: ds)) p .cancelled
  | halted {l : Ledger} {p : Processor} (going : p.cancelled = false) (stop : l.halted = true)
      (d : Diagnostic) (ds : List Diagnostic) :
      Turns s (d :: ds) l p [] (l.failAll .skipped (d :: ds)) p .through
  | turn {l m : Ledger} {p q t : Processor} {trail : List Processor} {ds : List Diagnostic}
      {e : Ending} (d : Diagnostic) (going : p.cancelled = false) (open' : l.halted = false)
      (wait : Interlude (afterTurn s d l p) t)
      (rest : Turns s ds (fixOne s d l p).2 t trail m q e) :
      Turns s (d :: ds) l p (afterTurn s d l p :: trail) m q e

/-- Every way through the turns of some diagnostics is of that form. -/
lemma runs_turns {ds : List Diagnostic} {e : Ending}
    (run : (turns s ds l p).Runs Interlude trail q (m, e)) : Turns s ds l p trail m q e := by
  induction ds generalizing l p trail with
  | nil =>
      rw [turns_nil, Course.runs_done] at run
      obtain ⟨rfl, rfl, h⟩ := run
      cases h
      exact .done m q
  | cons d rest ih =>
      by_cases stop : p.cancelled = true
      · rw [turns_cancelled stop, Course.runs_done] at run
        obtain ⟨rfl, rfl, h⟩ := run
        cases h
        exact .cancelled stop d rest l
      have going : p.cancelled = false := by simpa using stop
      by_cases halt : l.halted = true
      · rw [turns_halted going halt, Course.runs_done] at run
        obtain ⟨rfl, rfl, h⟩ := run
        cases h
        exact .halted going halt d rest
      have open' : l.halted = false := by simpa using halt
      rw [turns_cons going open', Course.runs_paused] at run
      obtain ⟨t, later, rfl, wait, run⟩ := run
      exact .turn d going open' wait (ih run)

lemma Turns.walk {ds : List Diagnostic} {e : Ending} (h : Turns s ds l p trail m q e) :
    Walk s l p trail m q := by
  induction h with
  | done l p => exact .refl l p
  | cancelled _ d ds l => exact .ofEntry _ (.failAll l .cancelled (d :: ds))
  | halted _ _ d ds => exact .ofEntry _ (.failAll _ .skipped (d :: ds))
  | turn d going open' wait _ ih => exact .turn d going open' wait ih

/-- Every way through a pass is a walk. -/
lemma walk_pass {ds : List Diagnostic} {e : Ending}
    (run : (pass s ds l p).Runs Interlude trail q (m, e)) : Walk s l p trail m q := by
  rw [pass_eq] at run
  exact .entry (.failAll l .noFixer (p.unfixable ds)) (runs_turns run).walk

/-! ### Waves -/

/-- What a linter reports leads to notes at most. -/
lemma walk_receive {limit : Json.Quantity} (report : Report) (p : Processor) :
    Walk s l p [] (receive limit l report).1 p := by
  cases report with
  | fresh ds => exact .refl l p
  | failed reason => exact .ofEntry p (.note l (.lintFailed reason))
  | timedOut => exact .ofEntry p (.note l (.lintTimedOut limit))
  | broken text => exact .refl l p

/-- Every way through a question to a linter is a walk. -/
lemma walk_consult {linter : Linter} {name : String}
    {answer : Except String (Option (List Diagnostic))}
    (run : (consult linter name l p).Runs Interlude trail q (m, answer)) :
    Walk s l p trail m q := by
  by_cases endless : p.settings.relintTimeout.toFloat?.isNone = true
  · rw [consult_endless endless, Course.runs_done] at run
    obtain ⟨rfl, rfl, h⟩ := run
    have hm := congrArg Prod.fst h
    subst hm
    exact walk_receive (.failed endlessText) q
  have limited : p.settings.relintTimeout.toFloat?.isNone = false := Bool.eq_false_iff.mpr endless
  rw [consult_eq limited, Course.runs_paused] at run
  obtain ⟨t, later, rfl, wait, run⟩ := run
  rw [Course.runs_done] at run
  obtain ⟨rfl, rfl, h⟩ := run
  have hm := congrArg Prod.fst h
  subst hm
  -- a linter that cancels the run does so at the end of the pause
  refine .pause (interlude_trans wait ?_) (.entry (.ask l (l.code, name)) (walk_receive _ _))
  split
  · exact interlude_cancel t
  · exact interlude_refl t

lemma walk_inquire {linter? : Option (Linter × String)}
    {answer : Except String (Option (List Diagnostic))}
    (run : (inquire linter? l p).Runs Interlude trail q (m, answer)) :
    Walk s l p trail m q := by
  cases linter? with
  | some asked => exact walk_consult run
  | none =>
      rw [inquire, Routine.pure_apply, Course.runs_done] at run
      obtain ⟨rfl, rfl, h⟩ := run
      cases h
      exact .refl _ q

lemma wavesUpTo_succ_end {linter? : Option (Linter × String)} {n : Nat} {t : Tide}
    (stop : (t.pending.isEmpty || l.halted) = true) :
    wavesUpTo s linter? (n + 1) t l p = .done p (l, .through, t) := by
  rw [wavesUpTo, if_pos stop]
  rfl

lemma wavesUpTo_succ {linter? : Option (Linter × String)} {n : Nat} {t : Tide}
    (going : (t.pending.isEmpty || l.halted) = false) :
    wavesUpTo s linter? (n + 1) t l p =
      (pass s (p.crest t.pending) l p).bind fun a q =>
        goOn linter? (wavesUpTo s linter? n) t (p.leftover t.pending) l a.1 a.2 q := by
  rw [wavesUpTo, if_neg (by simp [going])]
  rfl

/-- How a run goes on behind the pass of a wave: it ends there, or a linter is
asked and the run is cancelled meanwhile, fails, or makes further waves. -/
lemma runs_goOn {linter? : Option (Linter × String)}
    {waves : Tide → Ledger → Step (Ledger × Ending × Tide)} {t u : Tide}
    {rest : List Diagnostic} {after : Ledger} {ending e : Ending}
    (run : (goOn linter? waves t rest l after ending p).Runs between trail q (m, e, u)) :
    (ending ≠ .through ∧ trail = [] ∧ q = p ∧ m = after.failAll .cancelled rest ∧ e = ending ∧
      u = t) ∨
    (ending = .through ∧ after.halted = true ∧ trail = [] ∧ q = p ∧
      m = after.failAll .skipped rest ∧ e = .through ∧ u = t) ∨
    (ending = .through ∧ after.halted = false ∧ ∃ first v asked answer later,
      trail = first ++ later ∧ (inquire linter? after p).Runs between first v (asked, answer) ∧
      ((∃ text, answer = .error text ∧ later = [] ∧ q = v ∧ m = asked ∧ e = .broken text ∧
        u = t) ∨
       (∃ fresh?, answer = .ok fresh? ∧ v.cancelled = true ∧ later = [] ∧ q = v ∧
        m = asked.failAll .cancelled rest ∧ e = .cancelled ∧ u = t) ∨
       (answer = .ok none ∧ v.cancelled = false ∧
        (waves (t.ebb rest (asked.applied.drop l.applied.length)) asked v).Runs
          between later q (m, e, u)) ∨
       (∃ fresh, answer = .ok (some fresh) ∧ v.cancelled = false ∧
        (waves (t.turn asked fresh).1 (t.turn asked fresh).2 v).Runs
          between later q (m, e, u)))) := by
  by_cases ended : ending = .through
  swap
  · rw [goOn, if_pos (by simpa using ended), Routine.pure_apply, Course.runs_done] at run
    obtain ⟨rfl, rfl, h⟩ := run
    cases h
    exact .inl ⟨ended, rfl, rfl, rfl, rfl, rfl⟩
  subst ended
  by_cases halt : after.halted = true
  · rw [goOn, if_neg (by simp), if_pos halt, Routine.pure_apply, Course.runs_done] at run
    obtain ⟨rfl, rfl, h⟩ := run
    cases h
    exact .inr (.inl ⟨rfl, halt, rfl, rfl, rfl, rfl, rfl⟩)
  refine .inr (.inr ⟨rfl, by simpa using halt, ?_⟩)
  rw [goOn, if_neg (by simp), if_neg halt, Routine.bind_apply, Course.runs_bind] at run
  obtain ⟨first, v, ⟨asked, answer⟩, later, rfl, ask, run⟩ := run
  refine ⟨first, v, asked, answer, later, rfl, ask, ?_⟩
  cases answer with
  | error text =>
      obtain ⟨rfl, rfl, h⟩ := Course.runs_done.mp run
      cases h
      exact .inl ⟨text, rfl, rfl, rfl, rfl, rfl, rfl⟩
  | ok fresh? =>
      dsimp only at run
      rw [Routine.bind_apply, Routine.look_apply, Course.bind_done] at run
      by_cases stop : v.cancelled = true
      · rw [if_pos stop, Routine.pure_apply, Course.runs_done] at run
        obtain ⟨rfl, rfl, h⟩ := run
        cases h
        exact .inr (.inl ⟨fresh?, rfl, stop, rfl, rfl, rfl, rfl, rfl⟩)
      rw [if_neg stop] at run
      have going : v.cancelled = false := by simpa using stop
      cases fresh? with
      | none => exact .inr (.inr (.inl ⟨rfl, going, run⟩))
      | some fresh => exact .inr (.inr (.inr ⟨fresh, rfl, going, run⟩))

/-- Every way through waves is a walk. -/
lemma walk_wavesUpTo {linter? : Option (Linter × String)} {n : Nat} {t u : Tide} {e : Ending}
    (run : (wavesUpTo s linter? n t l p).Runs Interlude trail q (m, e, u)) :
    Walk s l p trail m q := by
  induction n generalizing l p t trail with
  | zero =>
      rw [wavesUpTo, Routine.pure_apply, Course.runs_done] at run
      obtain ⟨rfl, rfl, h⟩ := run
      cases h
      exact .ofEntry q (.note l (.wavesSpent maxWaves))
  | succ n ih =>
      by_cases stop : (t.pending.isEmpty || l.halted) = true
      · rw [wavesUpTo_succ_end stop, Course.runs_done] at run
        obtain ⟨rfl, rfl, h⟩ := run
        cases h
        exact .refl _ q
      rw [wavesUpTo_succ (by simpa using stop), Course.runs_bind] at run
      obtain ⟨first, v, ⟨after, ending⟩, later, rfl, wave, run⟩ := run
      refine (walk_pass wave).trans ?_
      rcases runs_goOn run with ⟨-, rfl, rfl, rfl, -, -⟩ | ⟨-, -, rfl, rfl, rfl, -, -⟩ |
        ⟨-, -, asking, w, asked, answer, last, rfl, ask, run⟩
      · exact .ofEntry _ (.failAll after .cancelled _)
      · exact .ofEntry _ (.failAll after .skipped _)
      refine (walk_inquire ask).trans ?_
      rcases run with ⟨-, -, rfl, rfl, rfl, -, -⟩ | ⟨-, -, -, rfl, rfl, rfl, -, -⟩ | ⟨-, -, run⟩ |
        ⟨fresh, -, -, run⟩
      · exact .refl _ _
      · exact .ofEntry _ (.failAll asked .cancelled _)
      · exact ih run
      · exact .entry (.found asked _) (ih run)

lemma waves_eq {linter? : Option Linter} {name : Option String} {ds : List Diagnostic} :
    waves s linter? name ds l p =
      (wavesUpTo s (p.linterFor linter? name) maxWaves (.start ds) l p).bind fun a q =>
        .done q (a.1, a.2.1, if a.2.1 == .through then some (a.2.2.info a.1) else none) := rfl

/-- Every way through the waves of a run is a walk. -/
lemma walk_waves {linter? : Option Linter} {name : Option String} {ds : List Diagnostic}
    {e : Ending} {lint? : Option LintInfo}
    (run : (waves s linter? name ds l p).Runs Interlude trail q (m, e, lint?)) :
    Walk s l p trail m q := by
  rw [waves_eq, Course.runs_bind] at run
  obtain ⟨first, v, a, later, rfl, run, last⟩ := run
  obtain ⟨rfl, rfl, h⟩ := Course.runs_done.mp last
  have hm := congrArg Prod.fst h
  subst hm
  rw [List.append_nil]
  exact walk_wavesUpTo run

/-! ### Whole runs -/

lemma work_onePass {job : Job} (manner : job.manner = .onePass) :
    work s job l p =
      (pass s job.diagnostics l p).bind fun a q => .done q (a.1, a.2, none) := by
  rw [work, manner]
  rfl

/-- Every way through the attempts of a run is a walk. -/
lemma walk_work {job : Job} {e : Ending} {lint? : Option LintInfo}
    (run : (work s job l p).Runs Interlude trail q (m, e, lint?)) : Walk s l p trail m q := by
  cases manner : job.manner with
  | onePass =>
      rw [work_onePass manner, Course.runs_bind] at run
      obtain ⟨first, v, a, later, rfl, run, last⟩ := run
      obtain ⟨rfl, rfl, h⟩ := Course.runs_done.mp last
      have hm := congrArg Prod.fst h
      subst hm
      rw [List.append_nil]
      exact walk_pass run
  | inWaves linter? name =>
      rw [work, manner] at run
      exact walk_waves run

/-- What ends a run after its attempts: the processor and the books. -/
def closing (s : Surroundings) (e : Ending) (l : Ledger) (p : Processor) : Processor × Ledger :=
  close s (conclude s e l p).2 (conclude s e l p).1

lemma process_idle {job : Job} (idle : p.running = false) :
    process s job p =
      (work s job (openRun s job p).2 (openRun s job p).1).bind fun a q =>
        .done (closing s a.2.1 a.1 q).1
          ((closing s a.2.1 a.1 q).2.result a.2.2, some (closing s a.2.1 a.1 q).2) := by
  simp only [process, Routine.bind_apply, Routine.look_apply, Course.bind_done, idle,
    Bool.false_eq_true, if_false]
  rfl

/-- An accepted run finds no other one under way; it is opened, makes its
attempts, and is closed. -/
lemma runs_process {job : Job} {r : Result}
    (run : (process s job p).Runs between trail q (r, some l)) :
    p.running = false ∧ ∃ e lint? m v,
      (work s job (openRun s job p).2 (openRun s job p).1).Runs between trail v (m, e, lint?) ∧
      (q, l) = closing s e m v ∧ r = l.result lint? := by
  by_cases busy : p.running = true
  · rw [process_running busy, Course.runs_done] at run
    cases run.2.2
  have idle : p.running = false := by simpa using busy
  refine ⟨idle, ?_⟩
  rw [process_idle idle, Course.runs_bind] at run
  obtain ⟨first, v, ⟨m, e, lint?⟩, later, rfl, run, last⟩ := run
  obtain ⟨rfl, rfl, h⟩ := Course.runs_done.mp last
  cases h
  exact ⟨e, lint?, m, v, by rwa [List.append_nil], rfl, rfl⟩

/-- A run on a processor without another one is accepted, and has a way to its
end without interference. -/
lemma runs_process_pauses (s : Surroundings) (job : Job) (idle : p.running = false) :
    ∃ l, (process s job p).finish.2.2 = some l ∧
      (process s job p).Runs Interlude (process s job p).pauses (process s job p).finish.1
        ((process s job p).finish.2.1, some l) := by
  have run := Course.runs_pauses interlude_refl (process s job p)
  have books : ∃ l, (process s job p).finish.2.2 = some l := by
    rw [process_idle idle, Course.finish_bind]
    exact ⟨_, rfl⟩
  obtain ⟨l, kept⟩ := books
  refine ⟨l, kept, ?_⟩
  rwa [← kept]

lemma exists_run (s : Surroundings) (job : Job) (idle : p.running = false) :
    ∃ trail l, (process s job p).Runs Interlude trail (process s job p).finish.1
      ((process s job p).finish.2.1, some l) := by
  obtain ⟨l, -, run⟩ := runs_process_pauses s job idle
  exact ⟨_, l, run⟩

end LintRepair.Batch
