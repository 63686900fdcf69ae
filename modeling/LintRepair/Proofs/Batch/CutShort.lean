/-
How the books of a run show that it was cancelled.

* `Ledger.Uncancelled`: books without a failure that tells of a cancellation;
  attempts enter none;
* `CutShort`: the books of a run that was cancelled in the midst of its pending
  diagnostics; each of them for which no attempt was started is in them once;
* `Turns.missed`: a pass that is cancelled misses the diagnostics behind the last
  attempt; `wavesUpTo_cutShort`: waves miss the rest of the wave too, and what
  the wave had left;
* `EndsCutShort`, `work_cutShort`: so the attempts of a run end if they end as
  cancelled.
-/
import LintRepair.Proofs.Batch.Waves

namespace LintRepair.Batch

open Text Check Repair
open Processor (Interlude)

variable {s : Surroundings} {job : Job} {l m n : Ledger} {p q : Processor}
variable {trail : List Processor} {ds : List Diagnostic}

/-! ### Failures that tell of a cancellation -/

/-- No failure in the books tells that the run was cancelled. -/
def Ledger.Uncancelled (l : Ledger) : Prop := ∀ sm ∈ l.failed, sm.verdict ≠ .failed .cancelled

/-- The failure that an attempt comes to, if it does not raise an error. -/
def Attempt.failure? : Attempt → Option Summary
  | .failed sm | .broken sm _ => some sm
  | .applied _ _ | .raised _ => none

lemma assess_uncancelled (accepts : Acceptor) (f : Fixer) (code : Text) (d : Diagnostic)
    (r : FixResult) :
    ∀ sm ∈ (assess accepts f code d r).failure?, sm.verdict ≠ .failed .cancelled := by
  rw [assess]
  split
  · simp [Attempt.failure?, Summary.failure]
  split <;> simp [Attempt.failure?, Summary.failure]

/-- No attempt tells of a cancellation. -/
lemma attempt_uncancelled (accepts : Acceptor) (registry : Registry) (code : Text)
    (d : Diagnostic) :
    ∀ sm ∈ (attempt accepts registry code d).failure?, sm.verdict ≠ .failed .cancelled := by
  rw [attempt]
  split
  · simp [Attempt.failure?, Summary.failure]
  split
  · simp [Attempt.failure?, Summary.failure]
  split
  · simp [Attempt.failure?]
  · simp [Attempt.failure?, Summary.failure]
  split
  · simp [Attempt.failure?]
  · exact assess_uncancelled _ _ _ _ _

namespace Ledger.Uncancelled

lemma congr (h : l.Uncancelled) (failed : m.failed = l.failed) : m.Uncancelled :=
  fun sm hsm => h sm (failed ▸ hsm)

lemma concat {sm : Summary} (h : l.Uncancelled) (other : sm.verdict ≠ .failed .cancelled)
    (failed : m.failed = l.failed ++ [sm]) : m.Uncancelled := by
  intro sm' hsm
  rw [failed, List.mem_append, List.mem_singleton] at hsm
  rcases hsm with old | rfl
  · exact h sm' old
  · exact other

lemma failAll (h : l.Uncancelled) {cause : Cause} (other : cause ≠ .cancelled)
    (ds : List Diagnostic) : (l.failAll cause ds).Uncancelled := by
  intro sm hsm
  rcases List.mem_append.mp hsm with old | new
  · exact h sm old
  · obtain ⟨d, -, rfl⟩ := List.mem_map.mp new
    simpa [Summary.failure] using other

/-- Repairs that a recovery takes back do not tell of a cancellation. -/
lemma adopt (h : l.Uncancelled) (r : Recovery) : (l.adopt r).Uncancelled := by
  rw [Ledger.adopt]
  dsimp only
  split
  · exact h
  · intro sm hsm
    rcases List.mem_append.mp hsm with old | new
    · exact h sm old
    · obtain ⟨sm', -, rfl⟩ := List.mem_map.mp new
      simp [Summary.undo]

/-- Nor does the turn of a diagnostic. -/
lemma turn (h : l.Uncancelled) (s : Surroundings) (d : Diagnostic) (p : Processor) :
    (fixOne s d l p).2.Uncancelled := by
  have begun : (beginTurn s d l p).2.Uncancelled := h
  rw [fixOne_eq]
  generalize beginTurn s d l p = b at begun ⊢
  have comes := attempt_uncancelled s.accepts b.1.registry b.2.code d
  generalize attempt s.accepts b.1.registry b.2.code d = a at comes ⊢
  cases a with
  | applied code sm => exact begun
  | failed sm => exact begun.concat (comes sm rfl) rfl
  | broken sm code =>
      have entered : Ledger.Uncancelled { b.2 with failed := b.2.failed ++ [sm] } :=
        begun.concat (comes sm rfl) rfl
      rw [settle]
      dsimp only [salvage, Processor.recover]
      split <;> exact entered.adopt _
  | raised e =>
      rw [settle]
      dsimp only [salvage, Processor.recover]
      have entered : Ledger.Uncancelled
          { b.2.note (.raised d e) with
            failed := (b.2.note (.raised d e)).failed ++ [.failure d (.raised e) []] } :=
        begun.concat (by simp [Summary.failure]) rfl
      split <;> exact entered.adopt _

end Ledger.Uncancelled

/-! ### Diagnostics that get no turn -/

/-- The books `m` show that a run was cancelled in the midst of some pending
diagnostics, which it had turned to with the books `l`. Those without a fixer and
the first others, as many as attempts were started, are entered once each; and
so are the rest of them, as the only failures that tell of the cancellation. -/
structure CutShort (p : Processor) (pending : List Diagnostic) (l m : Ledger) : Prop where
  started : l.current ≤ m.current
  entered : ∃ repaired failed missed, m.applied = l.applied ++ repaired ∧
    m.failed = l.failed ++ failed ++ missed ∧
    ((repaired ++ failed).map Summary.identity).Perm
      ((p.unfixable pending ++ (p.prepare pending).take (m.current - l.current)).map
        Diagnostic.identity) ∧
    missed.map (·.diagnostic) = (p.prepare pending).drop (m.current - l.current) ∧
    (∀ sm ∈ missed, sm.verdict = .failed .cancelled ∧
      sm.message = "Batch processing was cancelled") ∧
    ∀ sm ∈ l.failed ++ failed, sm.verdict ≠ .failed .cancelled

/-- Only the summaries and the count of the final books matter, and the registry
of the processor. -/
lemma CutShort.congr (h : CutShort p ds l m) (applied : n.applied = m.applied)
    (failed : n.failed = m.failed) (current : n.current = m.current)
    (registry : q.registry = p.registry) : CutShort q ds l n where
  started := current ▸ h.started
  entered := by
    rw [applied, failed, current, Processor.prepare_congr registry,
      Processor.unfixable_congr registry]
    exact h.entered

/-- Of some diagnostics the first `k` are settled, and the rest are entered as
missed by the cancelled run. -/
structure Missed (k : Nat) (ds : List Diagnostic) (l m : Ledger) : Prop where
  le : k ≤ ds.length
  current : m.current = l.current + k
  settled : ∃ mid, Settles (ds.take k) l mid ∧ mid.Uncancelled ∧ m.applied = mid.applied ∧
    m.failed = mid.failed ++ (ds.drop k).map fun d => .failure d .cancelled []

/-- Turns that are cancelled, or that go through without a halt, miss just those
for which no attempt was started. -/
lemma Turns.missed {e : Ending} (h : Turns s ds l p trail m q e) (sound : Sound s.accepts l p)
    (calm : l.Uncancelled) (unhalted : e = .cancelled ∨ m.halted = false) :
    ∃ k, Missed k ds l m ∧ (e = .through → k = ds.length) := by
  induction h with
  | done l p =>
      exact ⟨0, ⟨le_rfl, rfl, l, .nil l, calm, rfl, (List.append_nil _).symm⟩, fun _ => rfl⟩
  | cancelled _ d ds l =>
      exact ⟨0, ⟨Nat.zero_le _, rfl, l, .nil l, calm, rfl, rfl⟩, fun through => by cases through⟩
  | halted _ stop =>
      rcases unhalted with other | other
      · cases other
      · exact absurd (stop.symm.trans other) (by simp)
  | @turn l m p q t trail ds e d going open' wait rest ih =>
      obtain ⟨k, ⟨le, current, mid, settles, calm', applied, failed⟩, all⟩ :=
        ih (sound.turn wait) (calm.turn s d p) unhalted
      have settled := fixOne_settled sound d
      have first : Settles [d] l (fixOne s d l p).2 := settled.settles.congr rfl rfl rfl
      have started : (fixOne s d l p).2.current = l.current + 1 := settled.current
      refine ⟨k + 1, ⟨Nat.succ_le_succ le, ?_, mid, first.append settles, calm', applied, failed⟩,
        fun through => congrArg (· + 1) (all through)⟩
      rw [current, started]
      omega

/-- If a run is cancelled when it has turned to the first `n` pending
diagnostics, the others are missed too. -/
lemma Missed.cutShort {k n : Nat}
    (h : Missed k ((p.prepare ds).take n) (l.failAll .noFixer (p.unfixable ds)) m) :
    CutShort p ds l (m.failAll .cancelled ((p.prepare ds).drop n)) := by
  obtain ⟨le, current, mid, settles, calm, applied, failed⟩ := h
  have count : (m.failAll .cancelled ((p.prepare ds).drop n)).current - l.current = k :=
    Nat.sub_eq_of_eq_add (current.trans (Nat.add_comm _ _))
  have had : ((p.prepare ds).take n).take k = (p.prepare ds).take k := by
    rw [List.take_take, Nat.min_eq_left (le.trans (List.length_take_le _ _))]
  have rest : ((p.prepare ds).take n).drop k ++ (p.prepare ds).drop n = (p.prepare ds).drop k := by
    rw [← List.drop_append_of_le_length le, List.take_append_drop]
  rw [had] at settles
  obtain ⟨⟨repaired, failed', grown, grown', perm, -⟩, -⟩ :=
    (settles_failAll l .noFixer (p.unfixable ds)).append settles
  refine ⟨current ▸ Nat.le_add_right l.current k, repaired, failed',
    ((p.prepare ds).drop k).map fun d => .failure d .cancelled [], ?_, ?_, ?_, ?_, ?_, ?_⟩
  · exact applied.trans grown
  · rw [← rest, List.map_append, ← grown', ← List.append_assoc, ← failed]
    rfl
  · rw [count]
    exact perm
  · rw [count, List.map_map]
    exact List.map_id _
  · intro sm hsm
    obtain ⟨d, -, rfl⟩ := List.mem_map.mp hsm
    exact ⟨rfl, rfl⟩
  · exact grown' ▸ calm

/-- So it is with a run by one pass. -/
lemma pass_cutShort (sound : Sound s.accepts l p) (calm : l.Uncancelled)
    (run : (pass s ds l p).Runs Interlude trail q (m, .cancelled)) : CutShort p ds l m := by
  rw [pass_eq] at run
  have opened := sound.entry (.failAll l .noFixer (p.unfixable ds))
  obtain ⟨k, missed, -⟩ :=
    (runs_turns run).missed opened (calm.failAll (by simp) _) (.inl rfl)
  rw [← List.take_length (l := p.prepare ds)] at missed
  refine missed.cutShort.congr rfl ?_ rfl rfl
  simp [Ledger.failAll]

/-- And with a wave of a run, whether it is cancelled in its attempts or behind
them. -/
lemma Wave.cutShort {e : Ending} (h : Wave s ds l p trail m q e) (sound : Sound s.accepts l p)
    (calm : l.Uncancelled) (unhalted : e = .cancelled ∨ m.halted = false) :
    CutShort p ds l (m.failAll .cancelled (p.leftover ds)) := by
  obtain ⟨k, missed, -⟩ := Turns.missed h (sound.entry (.failAll l .noFixer (p.unfixable ds)))
    (calm.failAll (by simp) _) unhalted
  exact missed.cutShort

/-- A wave that goes through without a halt enters no failure that tells of a
cancellation. -/
lemma Wave.uncancelled (h : Wave s ds l p trail m q .through) (sound : Sound s.accepts l p)
    (calm : l.Uncancelled) (open' : m.halted = false) : m.Uncancelled := by
  obtain ⟨k, ⟨-, -, mid, -, calm', -, failed⟩, all⟩ :=
    Turns.missed h (sound.entry (.failAll l .noFixer (p.unfixable ds)))
      (calm.failAll (by simp) _) (.inr open')
  rw [all rfl, List.drop_length, List.map_nil, List.append_nil] at failed
  exact calm'.congr failed

/-! ### Waves that are cut short -/

section Waves

variable {linter? : Option (Linter × String)} {t u : Tide} {k : Nat}
variable {waves : Tide → Ledger → Step (Ledger × Ending × Tide)}

/-- Behind a question that tells nothing new, further waves are left. -/
lemma goOn_reaches_ebb {after asked : Ledger} {v : Processor} {rest : List Diagnostic}
    (open' : after.halted = false) (going : v.cancelled = false)
    (ask : (inquire linter? after p).Runs Interlude trail v (asked, .ok none)) :
    (goOn linter? waves t rest l after .through p).Reaches Interlude trail
      (waves (t.ebb rest (asked.applied.drop l.applied.length)) asked v) := by
  rw [goOn, if_neg (by simp), if_neg (by simp [open']), Routine.bind_apply]
  convert Course.Reaches.of_runs ask _ using 1
  simp [Routine.bind_apply, Routine.look_apply, going]

/-- So they are behind one that is answered with diagnostics. -/
lemma goOn_reaches_turn {after asked : Ledger} {v : Processor} {rest fresh : List Diagnostic}
    (open' : after.halted = false) (going : v.cancelled = false)
    (ask : (inquire linter? after p).Runs Interlude trail v (asked, .ok (some fresh))) :
    (goOn linter? waves t rest l after .through p).Reaches Interlude trail
      (waves (t.turn asked fresh).1 (t.turn asked fresh).2 v) := by
  rw [goOn, if_neg (by simp), if_neg (by simp [open']), Routine.bind_apply]
  convert Course.Reaches.of_runs ask _ using 1
  simp [Routine.bind_apply, Routine.look_apply, going]

/-- Waves that are cancelled come to a wave in the midst of whose pending
diagnostics they are cut short. -/
lemma wavesUpTo_cutShort (sound : Sound s.accepts l p) (calm : l.Uncancelled)
    (run : (wavesUpTo s linter? k t l p).Runs Interlude trail q (m, .cancelled, u)) :
    ∃ first later i b w, trail = first ++ later ∧
      (wavesUpTo s linter? k t l p).Reaches Interlude first (wavesUpTo s linter? i u b w) ∧
      (wavesUpTo s linter? i u b w).Runs Interlude later q (m, .cancelled, u) ∧
      CutShort p u.pending b m := by
  have whole := run
  induction k generalizing l p t trail with
  | zero =>
      rw [wavesUpTo, Routine.pure_apply, Course.runs_done] at run
      cases run.2.2
  | succ k ih =>
      by_cases stop : (t.pending.isEmpty || l.halted) = true
      · rw [wavesUpTo_succ_end stop, Course.runs_done] at run
        cases run.2.2
      have going : (t.pending.isEmpty || l.halted) = false := by simpa using stop
      rw [wavesUpTo_eq going, Course.runs_bind] at run
      obtain ⟨first, v, ⟨after, ending⟩, later, rfl, turns, run⟩ := run
      have wave : Wave s t.pending l p first after v ending := runs_turns turns
      have reach : (wavesUpTo s linter? (k + 1) t l p).Reaches Interlude first _ :=
        wavesUpTo_eq (s := s) going ▸ Course.Reaches.of_runs turns _
      rcases runs_goOn run with ⟨ended, rfl, rfl, rfl, rfl, rfl⟩ | ⟨-, -, -, -, -, through, -⟩ |
        ⟨rfl, open', asking, w, asked, answer, last, rfl, ask, run⟩
      · -- the attempts of the wave are cancelled
        exact ⟨[], _, k + 1, l, p, rfl, .here _, whole, wave.cutShort sound calm (.inl rfl)⟩
      · cases through
      have inquiry := runs_inquire ask
      have sound' := inquiry.walk.sound (wave.walk.sound sound)
      have kept : w.registry = p.registry :=
        (inquiry.walk.registry (wave.walk.sound sound)).trans (wave.walk.registry sound)
      obtain ⟨questions, notes, books⟩ := inquiry.books
      have calm' : asked.Uncancelled :=
        (wave.uncancelled sound calm open').congr (by rw [books])
      rcases run with ⟨_, -, -, -, -, broken, -⟩ | ⟨fresh?, rfl, stop', rfl, rfl, rfl, -, rfl⟩ |
        ⟨rfl, still, run⟩ | ⟨fresh, rfl, still, run⟩
      · cases broken
      · -- the run is cancelled behind the wave
        refine ⟨[], _, k + 1, l, p, rfl, .here _, whole, ?_⟩
        subst books
        exact (wave.cutShort sound calm (.inr open')).congr rfl rfl rfl rfl
      · obtain ⟨first', later, i, b, x, rfl, reach', run', cut⟩ := ih sound' calm' run run
        refine ⟨first ++ (asking ++ first'), later, i, b, x, by simp, ?_, run',
          cut.congr rfl rfl rfl kept.symm⟩
        exact reach.trans ((goOn_reaches_ebb open' still ask).trans reach')
      · have counted := sound'.entry
          (.found asked (fresh.filter fun d => !t.seen.contains d.identity).length)
        obtain ⟨first', later, i, b, x, rfl, reach', run', cut⟩ := ih counted calm' run run
        refine ⟨first ++ (asking ++ first'), later, i, b, x, by simp, ?_, run',
          cut.congr rfl rfl rfl kept.symm⟩
        exact reach.trans ((goOn_reaches_turn open' still ask).trans reach')

end Waves

/-! ### Runs that end as cancelled -/

/-- The books of a run that ends as cancelled show that it was cut short in the
midst of the diagnostics that were pending then: all that were handed in, or in
a run by waves those of the last wave that it came to. -/
def EndsCutShort (s : Surroundings) (job : Job) (p : Processor) (trail : List Processor)
    (l : Ledger) : Prop :=
  match job.manner with
  | .onePass => CutShort p job.diagnostics (openRun s job p).2 l
  | .inWaves linter? name =>
    ∃ first later k t b w v m, trail = first ++ later ∧
      (wavesUpTo s ((openRun s job p).1.linterFor linter? name) maxWaves (.start job.diagnostics)
          (openRun s job p).2 (openRun s job p).1).Reaches Interlude first
        (wavesUpTo s ((openRun s job p).1.linterFor linter? name) k t b w) ∧
      (wavesUpTo s ((openRun s job p).1.linterFor linter? name) k t b w).Runs Interlude later v
        (m, .cancelled, t) ∧
      CutShort p t.pending b l

/-- A run whose attempts are cancelled ends so. -/
lemma work_cutShort {lint? : Option LintInfo}
    (run : (work s job (openRun s job p).2 (openRun s job p).1).Runs Interlude trail q
      (m, .cancelled, lint?))
    (applied : l.applied = m.applied) (failed : l.failed = m.failed)
    (current : l.current = m.current) : EndsCutShort s job p trail l := by
  have sound := openRun_sound s job p
  have calm : (openRun s job p).2.Uncancelled := fun sm hsm => by cases hsm
  have kept := (openRun_registry s job p).symm
  rw [EndsCutShort]
  cases manner : job.manner with
  | onePass =>
      rw [work_onePass manner, Course.runs_bind] at run
      obtain ⟨first, v, ⟨m', e'⟩, later, -, run, last⟩ := run
      obtain ⟨-, -, h⟩ := Course.runs_done.mp last
      cases h
      exact (pass_cutShort sound calm run).congr applied failed current kept
  | inWaves linter? name =>
      rw [work_inWaves manner, waves_eq, Course.runs_bind] at run
      obtain ⟨first, v, ⟨m', e', t⟩, later, rfl, run, last⟩ := run
      obtain ⟨rfl, -, h⟩ := Course.runs_done.mp last
      cases h
      obtain ⟨first', later, k, b, w, rfl, reach, run', cut⟩ := wavesUpTo_cutShort sound calm run
      exact ⟨first', later, k, t, b, w, v, _, List.append_nil _, reach, run',
        cut.congr applied failed current kept⟩

end LintRepair.Batch
