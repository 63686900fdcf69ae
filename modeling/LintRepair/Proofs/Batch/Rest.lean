/-
What a run has left to do when it pauses.

* `Course.Walks`: every way through a course is a walk, and so is what is left of
  it behind each of its pauses, from the books that it shows there;
* `turns_walks`, `inquire_walks`, `wavesUpTo_walks`, `work_walks`: the parts of a
  run are such courses;
* `process_rest`: what is left of a run when it pauses is a walk, and its end.

`Walk` tells of a run what lies between its opening and its end; this module
tells of any moment at which others can do something what lies behind it.
-/
import LintRepair.Proofs.Batch.Recovery

namespace LintRepair.Batch

open Processor (Interlude interlude_refl interlude_cancel)

variable {s : Surroundings} {job : Job} {l m : Ledger} {p q t : Processor}
variable {trail before : List Processor} {α β : Type}

/-! ### Courses that walk -/

/-- Every way through a course is a walk. Whenever it pauses it shows its books,
and every way through what is left of it is a walk from these; a linter may stop
the run when the pause is over. -/
structure Course.Walks (s : Surroundings) (books : α → Ledger) (l : Ledger) (p : Processor)
    (c : Course Processor α) : Prop where
  run : ∀ {trail q a}, c.Runs Interlude trail q a → Walk s l p trail (books a) q
  rest : ∀ {before t resume}, c.Reaches Interlude before (.paused t resume) →
    ∃ b, t.ledger? = some b ∧ Walk s l p (before ++ [t]) b t ∧
      ∀ {u after q a}, Interlude t u → (resume u).Runs Interlude after q a →
        ∃ v, Interlude u v ∧ Walk s b v after (books a) q

namespace Course.Walks

lemma done {books : α → Ledger} {a : α} (walk : Walk s l p [] (books a) q) :
    (Course.done q a).Walks s books l p where
  run run := by
    obtain ⟨rfl, rfl, rfl⟩ := Course.runs_done.mp run
    exact walk
  rest reach := absurd reach Course.not_reaches_done

/-- One course behind another. -/
lemma bind {books : α → Ledger} {books' : β → Ledger} {c : Course Processor α}
    {next : α → Processor → Course Processor β} (first : c.Walks s books l p)
    (later : ∀ a v, (next a v).Walks s books' (books a) v) :
    (c.bind next).Walks s books' l p where
  run run := by
    obtain ⟨_, v, a, _, rfl, head, tail⟩ := Course.runs_bind.mp run
    exact (first.run head).trans ((later a v).run tail)
  rest reach := by
    rcases Course.reaches_bind_paused reach with
      ⟨resume, head, rfl⟩ | ⟨_, v, a, _, rfl, head, tail⟩
    · obtain ⟨b, shows, walk, rest⟩ := first.rest head
      refine ⟨b, shows, walk, fun wait run => ?_⟩
      obtain ⟨_, w, a, _, rfl, head, tail⟩ := Course.runs_bind.mp run
      obtain ⟨v, wait', walk'⟩ := rest wait head
      exact ⟨v, wait', walk'.trans ((later a w).run tail)⟩
    · obtain ⟨b, shows, walk, rest⟩ := (later a v).rest tail
      refine ⟨b, shows, ?_, rest⟩
      rw [List.append_assoc]
      exact (first.run head).trans walk

end Course.Walks

/-! ### The parts of a run -/

lemma turns_walks (s : Surroundings) (ds : List Diagnostic) (l : Ledger) (p : Processor) :
    (turns s ds l p).Walks s Prod.fst l p where
  run run := (runs_turns run).walk
  rest {before t resume} reach := by
    induction ds generalizing l p before with
    | nil => exact absurd reach Course.not_reaches_done
    | cons d ds ih =>
        by_cases stop : p.cancelled = true
        · rw [turns_cancelled stop] at reach
          exact absurd reach Course.not_reaches_done
        have going : p.cancelled = false := by simpa using stop
        by_cases halt : l.halted = true
        · rw [turns_halted going halt] at reach
          exact absurd reach Course.not_reaches_done
        have open' : l.halted = false := by simpa using halt
        rw [turns_cons going open'] at reach
        cases reach with
        | here =>
            refine ⟨(fixOne s d l p).2, rfl, ?_, fun _ run => ⟨_, interlude_refl _, ?_⟩⟩
            · exact .turn d going open' (interlude_refl _) (.refl _ _)
            · exact (runs_turns run).walk
        | paused wait reach =>
            obtain ⟨b, shows, walk, rest⟩ := ih _ _ reach
            exact ⟨b, shows, .turn d going open' wait walk, rest⟩

lemma pass_walks (s : Surroundings) (ds : List Diagnostic) (l : Ledger) (p : Processor) :
    (pass s ds l p).Walks s Prod.fst l p where
  run run := walk_pass run
  rest reach := by
    rw [pass_eq] at reach
    obtain ⟨b, shows, walk, rest⟩ := (turns_walks s _ _ p).rest reach
    exact ⟨b, shows, .entry (.failAll l .noFixer (p.unfixable ds)) walk, rest⟩

lemma consult_walks (s : Surroundings) (linter : Linter) (name : String) (l : Ledger)
    (p : Processor) : (consult linter name l p).Walks s Prod.fst l p where
  run run := walk_consult run
  rest reach := by
    by_cases endless : p.settings.relintTimeout.toFloat?.isNone = true
    · rw [consult_endless endless] at reach
      exact absurd reach Course.not_reaches_done
    rw [consult_eq (Bool.eq_false_iff.mpr endless)] at reach
    cases reach with
    | here =>
        refine ⟨l, rfl, .pause (interlude_refl _) (.refl _ _), fun {u _ _ _} _ run => ?_⟩
        obtain ⟨rfl, rfl, rfl⟩ := Course.runs_done.mp run
        refine ⟨_, ?_, .entry (.ask l (l.code, name)) (walk_receive _ _)⟩
        split
        · exact interlude_cancel u
        · exact interlude_refl u
    | paused _ reach => exact absurd reach Course.not_reaches_done

lemma inquire_walks (s : Surroundings) (linter? : Option (Linter × String)) (l : Ledger)
    (p : Processor) : (inquire linter? l p).Walks s Prod.fst l p := by
  cases linter? with
  | some asked => exact consult_walks s asked.1 asked.2 l p
  | none => exact .done (.refl l p)

/-- What follows the pass of a wave walks if further waves do. -/
lemma goOn_walks {linter? : Option (Linter × String)}
    {waves : Tide → Ledger → Step (Ledger × Ending × Tide)}
    (further : ∀ t l p, (waves t l p).Walks s (·.1) l p) (t : Tide) (rest : List Diagnostic)
    (l after : Ledger) (e : Ending) (p : Processor) :
    (goOn linter? waves t rest l after e p).Walks s (·.1) after p := by
  rw [goOn]
  split
  · exact .done (.ofEntry p (.failAll after .cancelled rest))
  split
  · exact .done (.ofEntry p (.failAll after .skipped rest))
  rw [Routine.bind_apply]
  refine (inquire_walks s linter? after p).bind ?_
  rintro ⟨asked, answer⟩ v
  cases answer with
  | error text => exact .done (.refl asked v)
  | ok fresh? =>
      dsimp only
      rw [Routine.bind_apply, Routine.look_apply, Course.bind_done]
      split
      · exact .done (.ofEntry v (.failAll asked .cancelled rest))
      cases fresh? with
      | none => exact further _ asked v
      | some fresh =>
          have waves := further (t.turn asked fresh).1 (t.turn asked fresh).2 v
          refine ⟨fun run => .entry (.found asked _) (waves.run run), fun reach => ?_⟩
          obtain ⟨b, shows, walk, rest⟩ := waves.rest reach
          exact ⟨b, shows, .entry (.found asked _) walk, rest⟩

lemma wavesUpTo_walks (s : Surroundings) (linter? : Option (Linter × String)) (n : Nat)
    (t : Tide) (l : Ledger) (p : Processor) :
    (wavesUpTo s linter? n t l p).Walks s (·.1) l p := by
  induction n generalizing t l p with
  | zero => exact .done (.ofEntry p (.note l (.wavesSpent maxWaves)))
  | succ n ih =>
      by_cases stop : (t.pending.isEmpty || l.halted) = true
      · rw [wavesUpTo_succ_end stop]
        exact .done (.refl l p)
      rw [wavesUpTo_succ (by simpa using stop)]
      exact (pass_walks s _ l p).bind fun a v => goOn_walks ih _ _ l a.1 a.2 v

lemma work_walks (s : Surroundings) (job : Job) (l : Ledger) (p : Processor) :
    (work s job l p).Walks s (·.1) l p := by
  cases manner : job.manner with
  | onePass =>
      rw [work_onePass manner]
      exact (pass_walks s _ l p).bind fun a v => .done (.refl a.1 v)
  | inWaves linter? name =>
      rw [work, manner]
      exact (wavesUpTo_walks s _ _ _ l p).bind fun a v => .done (.refl a.1 v)

/-! ### Whole runs -/

/-- What is left of a run when it pauses is a walk from the books that it shows,
and its end. -/
lemma process_rest {resume : Processor → Course Processor (Result × Option Ledger)}
    (reach : (process s job p).Reaches Interlude before (.paused t resume)) :
    p.running = false ∧ ∃ b, t.ledger? = some b ∧
      Walk s (openRun s job p).2 (openRun s job p).1 (before ++ [t]) b t ∧
      ∀ {u after q r l}, Interlude t u → (resume u).Runs Interlude after q (r, some l) →
        ∃ v e lint? m w, Interlude u v ∧ Walk s b v after m w ∧ (q, l) = closing s e m w ∧
          r = l.result lint? := by
  by_cases busy : p.running = true
  · rw [process_running busy] at reach
    exact absurd reach Course.not_reaches_done
  have idle : p.running = false := by simpa using busy
  rw [process_idle idle] at reach
  rcases Course.reaches_bind_paused reach with ⟨resume, head, rfl⟩ | ⟨_, _, _, _, _, _, tail⟩
  swap
  · exact absurd tail Course.not_reaches_done
  obtain ⟨b, shows, walk, rest⟩ := (work_walks s job _ _).rest head
  refine ⟨idle, b, shows, walk, fun wait run => ?_⟩
  obtain ⟨_, w, ⟨m, e, lint?⟩, _, rfl, head, last⟩ := Course.runs_bind.mp run
  obtain ⟨rfl, rfl, same⟩ := Course.runs_done.mp last
  cases same
  obtain ⟨v, wait', walk'⟩ := rest wait head
  rw [List.append_nil]
  exact ⟨v, e, lint?, m, w, wait', walk', rfl, rfl⟩

end LintRepair.Batch
