/-
What the observer of a run is told.

* `Ledger.reported`: the updates of a run so far; `Update.figures`,
  `Ledger.figures`: what only ever rises in them, and in the books;
* `Told`: the invariant of a run that makes its attempts: one update for its
  opening and one for each attempt, in their order, with figures that rise;
* `Walk.told`: attempts keep it; `closing_reported`: what is told at the end;
* `Walk.faulted`: a run that makes its attempts is halted just if it has a fault;
* `process_progress`: so the updates of a run keep to the protocol.
-/
import Mathlib.Data.Nat.Basic
import Mathlib.Order.Basic
import LintRepair.Proofs.Batch.Recovery

namespace LintRepair.Batch

open Text Check Repair
open Processor (Interlude)

variable {s : Surroundings} {job : Job} {l m : Ledger} {p q : Processor}
variable {trail : List Processor}

/-! ### Updates -/

/-- What the observer of a run was told. -/
def Ledger.reported (l : Ledger) : List Update := l.updates.map Prod.fst

/-- What books tell when a phase is entered. -/
def Ledger.update (l : Ledger) (phase : Phase) (rule message : String) : Update :=
  { phase, current := l.current, total := l.total, rule, applied := l.applied.length
    failed := l.failed.length, message }

/-- The figures of an update that never fall, compared one by one: the repairs,
the failures, and the diagnostics. -/
def Update.figures (u : Update) : Nat × Nat × Nat := (u.applied, u.failed, u.total)

/-- The same figures of books. -/
def Ledger.figures (l : Ledger) : Nat × Nat × Nat := (l.applied.length, l.failed.length, l.total)

lemma announce_reported (s : Surroundings) (phase : Phase) (rule message : String) :
    (announce s phase rule message l p).2.reported =
      l.reported ++ [l.update phase rule message] := by
  rw [Ledger.reported, announce, List.map_append]
  rfl

lemma reported_congr (same : m.updates = l.updates) : m.reported = l.reported := by
  rw [Ledger.reported, same, Ledger.reported]

/-! ### Figures that rise -/

/-- What is written into the books besides attempts makes no figure fall. -/
lemma Entry.figures_le (write : Entry l m) : l.figures ≤ m.figures := by
  cases write with
  | failAll cause ds =>
      have grown : l.failed.length ≤ (l.failAll cause ds).failed.length := by
        simp [Ledger.failAll]
      exact ⟨le_rfl, grown, le_rfl⟩
  | note => exact le_rfl
  | ask => exact le_rfl
  | found n => exact ⟨le_rfl, le_rfl, Nat.le_add_right _ n⟩

/-- Nor does the outcome of an attempt. -/
lemma Settled.figures_le {accepts : Acceptor} {d : Diagnostic} (h : Settled accepts d l p m q) :
    l.figures ≤ m.figures := by
  have total : l.total ≤ m.total := h.total.ge
  cases h.outcome with
  | repaired sm _ _ _ applied failed _ =>
      refine ⟨?_, ?_, total⟩
      · simp [Ledger.figures, applied]
      · simp [Ledger.figures, failed]
  | failed sm _ _ applied failed _ =>
      refine ⟨?_, ?_, total⟩
      · simp [Ledger.figures, applied]
      · simp [Ledger.figures, failed]

/-! ### Along a run -/

/-- The observer of a run was told of its opening and of each attempt, in their
order, and no figure was higher than in an update behind it or in the books. -/
structure Told (l : Ledger) : Prop where
  phases : l.reported.map (·.phase) = .analyzing :: List.replicate l.current .fixing
  counts : (l.reported.filter (·.phase == .fixing)).map (·.current) = List.range' 1 l.current
  rising : (l.reported.map Update.figures).Pairwise (· ≤ ·)
  within : ∀ u ∈ l.reported, u.figures ≤ l.figures

namespace Told

/-- Books that go on without an update. -/
lemma mono (h : Told l) (same : m.updates = l.updates) (current : m.current = l.current)
    (grown : l.figures ≤ m.figures) : Told m where
  phases := by rw [reported_congr same, current]; exact h.phases
  counts := by rw [reported_congr same, current]; exact h.counts
  rising := by rw [reported_congr same]; exact h.rising
  within u hu := by
    rw [reported_congr same] at hu
    exact (h.within u hu).trans grown

/-- One more update with the figures of the books keeps them rising. -/
lemma rising_concat (h : Told l) {u : Update} (figures : u.figures = l.figures) :
    ((l.reported ++ [u]).map Update.figures).Pairwise (· ≤ ·) := by
  rw [List.map_append, List.pairwise_append]
  refine ⟨h.rising, List.pairwise_singleton _ _, fun f hf g hg => ?_⟩
  obtain ⟨v, hv, rfl⟩ := List.mem_map.mp hf
  obtain rfl := List.mem_singleton.mp hg
  exact figures ▸ h.within v hv

/-- The observer is told of the turn of a diagnostic when it begins. -/
lemma beginTurn (h : Told l) (s : Surroundings) (d : Diagnostic) (p : Processor) :
    Told (beginTurn s d l p).2 := by
  have told : (Batch.beginTurn s d l p).2.reported = l.reported ++ [(l.begin d).update .fixing
      (d.rule.getD "") ("Fixing " ++ ruleText d.rule ++ " at line " ++ d.line.text)] :=
    announce_reported (l := l.begin d) s _ _ _
  have current : (Batch.beginTurn s d l p).2.current = l.current + 1 := rfl
  constructor
  · rw [told, current, List.map_append, h.phases, List.replicate_succ']
    rfl
  · rw [told, current, List.filter_append, List.map_append, h.counts, List.range'_concat,
      Nat.one_mul, Nat.add_comm 1]
    rfl
  · rw [told]
    exact h.rising_concat rfl
  · intro u hu
    rw [told, List.mem_append, List.mem_singleton] at hu
    rcases hu with old | rfl
    · exact h.within u old
    · exact le_rfl

end Told

lemma adopt_updates (l : Ledger) (r : Recovery) : (l.adopt r).updates = l.updates := by
  obtain ⟨code, applied, failed, recoveries, adopted⟩ := adopt_books l r
  rw [adopted]

/-- Nothing is told when the outcome of an attempt is entered. -/
lemma Entered.updates {d : Diagnostic} (h : Entered d l m) : m.updates = l.updates := by
  cases h with
  | repaired | failed => rfl
  | salvaged sm notes r | halted sm notes r => exact adopt_updates _ r

/-- The turn of a diagnostic keeps to what is told. -/
lemma Told.turn (h : Told l) (sound : Sound s.accepts l p) (d : Diagnostic) :
    Told (fixOne s d l p).2 := by
  have settled := fixOne_settled sound d
  exact (h.beginTurn s d p).mono (fixOne_entered s d l p).updates settled.current
    settled.figures_le

/-- The attempts of a run keep to what is told. -/
lemma Walk.told (walk : Walk s l p trail m q) (sound : Sound s.accepts l p) (h : Told l) :
    Told m := by
  induction walk with
  | refl l p => exact h
  | @entry l m _ _ _ _ write _ ih =>
      have same : m.updates = l.updates ∧ m.current = l.current := by
        cases write <;> exact ⟨rfl, rfl⟩
      exact ih (sound.entry write) (h.mono same.1 same.2 write.figures_le)
  | turn d _ _ wait _ ih => exact ih (sound.turn wait) (h.turn sound d)
  | pause wait _ ih => exact ih ((sound.showing _).interlude wait) h

/-- A run is opened with an update. -/
lemma told_openRun (s : Surroundings) (job : Job) (p : Processor) :
    Told (openRun s job p).2 := by
  have told : (openRun s job p).2.reported =
      [job.books.update .analyzing "" "Analyzing diagnostics"] :=
    announce_reported (l := job.books) s _ _ _
  refine ⟨by rw [told]; rfl, by rw [told]; rfl, ?_, ?_⟩
  · rw [told]
    exact List.pairwise_singleton _ _
  · intro u hu
    rw [told] at hu
    obtain rfl := List.mem_singleton.mp hu
    exact le_rfl

/-! ### Faults -/

/-- The outcome of an attempt halts a run just if it enters a fault. -/
lemma Entered.faulted {d : Diagnostic} (h : Entered d l m) (same : l.fault?.isSome = l.halted) :
    m.fault?.isSome = m.halted := by
  cases h with
  | repaired | failed => exact same
  | salvaged sm notes r =>
      rw [adopt_fault, adopt_halted]
      exact same
  | halted => rfl

/-- Whatever attempts it makes, a run is halted just if it has a fault. -/
lemma Walk.faulted (walk : Walk s l p trail m q) (same : l.fault?.isSome = l.halted) :
    m.fault?.isSome = m.halted := by
  induction walk with
  | refl l p => exact same
  | entry write _ ih =>
      refine ih ?_
      cases write <;> exact same
  | @turn l _ p _ _ _ d _ _ _ _ ih => exact ih ((fixOne_entered s d l p).faulted same)
  | pause _ _ ih => exact ih same

/-! ### The end of a run -/

/-- The last check of a run tells nothing. -/
lemma validate_updates (accepts : Acceptor) (l : Ledger) (p : Processor) :
    (validate accepts l p).2.updates = l.updates := by
  rw [validate]
  split
  · rfl
  split
  · rfl
  · exact adopt_updates l _

/-- The last part of a run tells that the final text is checked, if it is. -/
lemma conclude_reported (s : Surroundings) (e : Ending) (l : Ledger) (p : Processor) :
    (conclude s e l p).2.reported = l.reported ++
      if e = .through ∧ l.halted = false then
        [l.update .validating "" "Validating final code"] else [] := by
  cases e with
  | cancelled => exact (List.append_nil _).symm
  | broken text =>
      rw [if_neg (by simp), List.append_nil]
      exact reported_congr (adopt_updates _ _)
  | through =>
      rw [conclude]
      by_cases halt : l.halted = true
      · rw [if_pos halt, if_neg (by simp [halt]), List.append_nil]
      · rw [if_neg halt, if_pos ⟨rfl, Bool.eq_false_iff.mpr halt⟩,
          reported_congr (validate_updates _ _ _), announce_reported]

/-- When a run is closed, the last update tells whether it has a fault. -/
lemma close_reported (s : Surroundings) (l : Ledger) (p : Processor) :
    ∃ message, (close s l p).2.reported = l.reported ++
      [l.update (if l.fault?.isNone then .complete else .error) "" message] := by
  rw [close]
  split
  · next none => exact ⟨_, by rw [announce_reported, none]; rfl⟩
  · next fault some' => exact ⟨_, by rw [announce_reported, some']; rfl⟩

/-- The end of a run changes no figure. -/
lemma closing_figures (h : Sound s.accepts l p) (e : Ending) :
    (conclude s e l p).2.figures = l.figures ∧ (closing s e l p).2.figures = l.figures ∧
      (closing s e l p).2.current = l.current := by
  have concluded := conclude_cases h e
  rw [closing]
  generalize conclude s e l p = c at concluded ⊢
  obtain ⟨v, k⟩ := c
  obtain ⟨updates, notes, books⟩ := close_books s k v
  rw [books]
  cases concluded <;> exact ⟨rfl, rfl, rfl⟩

/-- Attempts that went through without a halt are those of a run without a
fault. -/
lemma closing_isNone_iff (h : Sound s.accepts l p) (e : Ending)
    (same : l.fault?.isSome = l.halted) :
    (closing s e l p).2.fault?.isNone = true ↔ e = .through ∧ l.halted = false := by
  obtain ⟨-, ⟨rfl, fault⟩ | ⟨text, rfl, fault⟩ | ⟨rfl, fault⟩⟩ := closing_fault h e
  · simp [fault]
  · simp [fault]
  · rw [fault, ← same]
    simp

/-- What is told at the end of a run: that its final text is checked and that it
is complete, or that it has a fault. -/
lemma closing_reported (h : Sound s.accepts l p) (e : Ending)
    (same : l.fault?.isSome = l.halted) :
    ∃ checked last, (closing s e l p).2.reported = l.reported ++ checked ++ [last] ∧
      (checked ++ [last]).map (·.phase) =
        (if (closing s e l p).2.fault?.isNone then [.validating, .complete] else [.error]) ∧
      (∀ u ∈ checked, u.figures = l.figures) ∧ last.figures = l.figures := by
  obtain ⟨figures, -, -⟩ := closing_figures h e
  have fault : (closing s e l p).2.fault? = (conclude s e l p).2.fault? := by
    obtain ⟨updates, notes, books⟩ := close_books s (conclude s e l p).2 (conclude s e l p).1
    rw [closing, books]
  obtain ⟨message, told⟩ := close_reported s (conclude s e l p).2 (conclude s e l p).1
  rw [conclude_reported] at told
  refine ⟨_, _, told, ?_, ?_, figures⟩
  · rw [List.map_append, ← fault]
    by_cases through : e = .through ∧ l.halted = false
    · have none := (closing_isNone_iff h e same).mpr through
      rw [if_pos through, if_pos none, if_pos none]
      rfl
    · have some' := mt (closing_isNone_iff h e same).mp through
      rw [if_neg through, if_neg some', if_neg some']
      rfl
  · intro u hu
    split at hu
    · obtain rfl := List.mem_singleton.mp hu
      rfl
    · cases hu

/-! ### Whole runs -/

/-- **What an observer is told.** Whatever an observer asks for when it is told
something, and whether or not it raises errors, it is told of the opening of a
run, of each attempt, the first one with number one, and then that the final text
is checked and the run complete, if the run completes, or else of a fault. No
update has fewer repairs, failures or diagnostics than one before it, and the
last one has as many repairs and failures as the result. -/
theorem process_progress {r : Result}
    (run : (process s job p).Runs Interlude trail q (r, some l)) :
    l.reported.map (·.phase) = .analyzing :: (List.replicate l.current .fixing ++
      if r.isSuccess then [.validating, .complete] else [.error]) ∧
    (l.reported.filter (·.phase == .fixing)).map (·.current) = List.range' 1 l.current ∧
    (l.reported.map Update.figures).Pairwise (· ≤ ·) ∧
    ∃ u, l.reported.getLast? = some u ∧ u.applied = r.applied.length ∧
      u.failed = r.failed.length := by
  obtain ⟨-, e, lint?, m, v, attempts, last, rfl⟩ := runs_process run
  obtain rfl : l = (closing s e m v).2 := congrArg Prod.snd last
  have walk := walk_work attempts
  have opening := openRun_sound s job p
  have sound := walk.sound opening
  have told : Told m := walk.told opening (told_openRun s job p)
  have faulted : m.fault?.isSome = m.halted := walk.faulted rfl
  obtain ⟨checked, final, reported, phases, same, same'⟩ := closing_reported sound e faulted
  obtain ⟨-, figures, current⟩ := closing_figures sound e
  have none : (checked ++ [final]).filter (·.phase == .fixing) = [] := by
    have other : ∀ phase ∈ (checked ++ [final]).map (·.phase), phase ≠ .fixing := by
      rw [phases]
      split <;> simp
    refine List.filter_eq_nil_iff.mpr fun u hu => ?_
    simpa using other u.phase (List.mem_map_of_mem hu)
  refine ⟨?_, ?_, ?_, final, ?_, ?_, ?_⟩
  · rw [reported, List.append_assoc, List.map_append, phases, told.phases, current]
    rfl
  · rw [reported, List.append_assoc, List.filter_append, none, List.append_nil, current]
    exact told.counts
  · rw [reported, List.append_assoc, List.map_append, List.pairwise_append]
    have ended : ∀ f ∈ (checked ++ [final]).map Update.figures, f = m.figures := by
      intro f hf
      obtain ⟨u, hu, rfl⟩ := List.mem_map.mp hf
      rcases List.mem_append.mp hu with check | one
      · exact same u check
      · exact List.mem_singleton.mp one ▸ same'
    refine ⟨told.rising, List.pairwise_of_forall_mem_list fun f hf g hg => ?_, fun f hf g hg => ?_⟩
    · rw [ended f hf, ended g hg]
    · obtain ⟨u, hu, rfl⟩ := List.mem_map.mp hf
      rw [ended g hg]
      exact told.within u hu
  · rw [reported]
    exact List.getLast?_concat
  · exact congrArg Prod.fst (same'.trans figures.symm)
  · exact congrArg (·.2.1) (same'.trans figures.symm)

/-- An observer that cancels a run at its first attempt, and always raises an
error. -/
def startled : Surroundings where
  accepts _ := true
  observe u := if u.phase = .fixing then [.cancel] else []
  falters _ := true

/-- The run makes one attempt, and is cancelled. -/
lemma finish_startled :
    (process startled scribble scribe).finish.2.1.isSuccess = false ∧
      (process startled scribble scribe).finish.2.1.applied.length = 1 ∧
      (process startled scribble scribe).finish.2.1.failed.length = 1 := by
  rw [process_idle rfl, work_onePass rfl, pass_eq,
    Processor.prepare_congr (openRun_registry _ _ _), prepare_scribble]
  decide +kernel

theorem startled_progress : ∃ trail q l r,
    (process startled scribble scribe).Runs Interlude trail q (r, some l) ∧
    l.reported.map (·.phase) = .analyzing :: (List.replicate l.current .fixing ++ [.error]) ∧
    (l.reported.filter (·.phase == .fixing)).map (·.current) = List.range' 1 l.current ∧
    (l.reported.map Update.figures).Pairwise (· ≤ ·) ∧
    ∃ u, l.reported.getLast? = some u ∧ u.applied = 1 ∧ u.failed = 1 := by
  obtain ⟨trail, l, run⟩ := exists_run startled scribble (p := scribe) rfl
  obtain ⟨success, applied, failed⟩ := finish_startled
  obtain ⟨phases, counts, rising, last⟩ := process_progress run
  rw [success] at phases
  rw [applied, failed] at last
  exact ⟨trail, _, l, _, run, phases, counts, rising, last⟩

end LintRepair.Batch
