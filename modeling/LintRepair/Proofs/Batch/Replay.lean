/-
The repairs that a run lists are those that lead from its text to the final
one.

* `Replay`: summaries of repairs made one after another on a text;
* `Walk.replay`: at every moment of a run, the text so far is what the repairs
  listed so far make of the text before the run;
* `process_replay`: so is the final text, whatever the fixers do, however a
  linter answers, and wherever the run is halted or cancelled.
-/
import LintRepair.Proofs.Batch.Recovery

namespace LintRepair.Batch

open Check Repair

variable {accepts : Acceptor} {registry : Registry}
variable {s : Surroundings} {job : Job} {l m : Ledger} {p q : Processor}
variable {trail : List Processor} {t u v : Text}

/-! ### Repairs one after another -/

/-- Summaries of repairs that lead, one after another, from one text to
another. -/
inductive Replay (accepts : Acceptor) (registry : Registry) : Text → List Summary → Text → Prop
  | start (t : Text) : Replay accepts registry t [] t
  | repair {t u v : Text} {sms : List Summary} {sm : Summary}
      (earlier : Replay accepts registry t sms u) (success : sm.isSuccess = true)
      (last : Repairs accepts registry sm.diagnostic u v) :
      Replay accepts registry t (sms ++ [sm]) v

/-- The texts between which the repairs were made. -/
lemma Replay.exists_codes {sms : List Summary} (h : Replay accepts registry t sms u) :
    ∃ codes : List Text, codes.length = sms.length + 1 ∧ codes[0]? = some t ∧
      codes[sms.length]? = some u ∧
      ∀ i sm, sms[i]? = some sm → sm.isSuccess = true ∧ ∃ before after,
        codes[i]? = some before ∧ codes[i + 1]? = some after ∧
        Repairs accepts registry sm.diagnostic before after := by
  induction h with
  | start => exact ⟨[t], rfl, rfl, rfl, by simp⟩
  | @repair u v sms sm _ success last ih =>
      obtain ⟨codes, length, first, final, steps⟩ := ih
      refine ⟨codes ++ [v], by simp [length], ?_, ?_, ?_⟩
      · rwa [List.getElem?_append_left (by omega)]
      · rw [List.length_append, List.length_singleton, ← length,
          List.getElem?_append_right (Nat.le_refl _)]
        simp
      intro i sm' hi
      by_cases old : i < sms.length
      · rw [List.getElem?_append_left old] at hi
        obtain ⟨success', before, after, hb, ha, repair⟩ := steps i sm' hi
        refine ⟨success', before, after, ?_, ?_, repair⟩
        · rwa [List.getElem?_append_left (by omega)]
        · rwa [List.getElem?_append_left (by omega)]
      · -- the last repair, from the text that the earlier ones have made
        have hlt : i < (sms ++ [sm]).length := (List.getElem?_eq_some_iff.mp hi).1
        rw [List.length_append, List.length_singleton] at hlt
        obtain rfl : i = sms.length := by omega
        rw [List.getElem?_concat_length] at hi
        obtain rfl := Option.some.inj hi
        refine ⟨success, u, v, ?_, ?_, last⟩
        · rwa [List.getElem?_append_left (by omega)]
        · rw [← length, List.getElem?_concat_length]

/-! ### Along a run -/

lemma Entry.books (write : Entry l m) :
    m.applied = l.applied ∧ m.code = l.code ∧ m.start = l.start := by
  cases write <;> exact ⟨rfl, rfl, rfl⟩

/-- A run never changes what it knows as the text before it. -/
lemma Walk.start (walk : Walk s l p trail m q) (h : Sound s.accepts l p) :
    m.start = l.start := by
  induction walk with
  | refl l p => rfl
  | entry write _ ih =>
      obtain ⟨-, -, start⟩ := write.books
      exact (ih (h.entry write)).trans start
  | turn d _ _ wait _ ih => exact (ih (h.turn wait)).trans (fixOne_settled h d).start
  | pause wait _ ih => exact ih ((h.showing _).interlude wait)

/-- A turn adds at most the repair that it makes. -/
lemma Outcome.replay {d : Diagnostic} (h : Outcome accepts registry d l m)
    (earlier : Replay accepts registry t l.applied l.code) :
    Replay accepts registry t m.applied m.code := by
  cases h with
  | repaired sm about success repair applied _ _ =>
      rw [applied]
      exact .repair earlier success (about ▸ repair)
  | failed sm _ code applied _ _ =>
      rw [applied, code]
      exact earlier

/-- At every moment of a run, the listed repairs lead to the text so far. -/
lemma Walk.replay (walk : Walk s l p trail m q) (h : Sound s.accepts l p)
    (kept : p.registry = registry) (earlier : Replay s.accepts registry t l.applied l.code) :
    Replay s.accepts registry t m.applied m.code := by
  induction walk with
  | refl l p => exact earlier
  | entry write _ ih =>
      obtain ⟨applied, code, -⟩ := write.books
      exact ih (h.entry write) kept (by rwa [applied, code])
  | turn d _ _ wait _ ih =>
      have settled := fixOne_settled h d
      have outcome := settled.outcome.replay (t := t) (kept ▸ earlier)
      have still : (fixOne s d _ _).1.registry = registry := settled.registry.trans kept
      refine ih (h.turn wait) ?_ (kept ▸ outcome)
      obtain ⟨stop, cache, rfl⟩ := wait
      exact still
  | pause wait _ ih =>
      refine ih ((h.showing _).interlude wait) ?_ earlier
      obtain ⟨stop, cache, rfl⟩ := wait
      exact kept

/-- **A batch can be replayed.** There are texts, the first that of the job and
the last the final one, one more than there are repairs, such that each listed
repair carries the identity of a diagnostic whose repair leads from one text to
the next: its position is safe to edit, an enabled fixer takes it on and makes
the next text, and that is a program. So the final text is a program if there
was any repair, and the text of the job if there was none. -/
theorem process_replay {r : Result}
    (run : (process s job p).Runs Processor.Interlude trail q (r, some l)) :
    (∃ codes : List Text, codes.length = r.applied.length + 1 ∧ codes[0]? = some job.code ∧
      codes[r.applied.length]? = some r.code ∧
      ∀ i sm, r.applied[i]? = some sm → sm.isSuccess = true ∧ ∃ d before after,
        sm.identity = d.identity ∧ codes[i]? = some before ∧ codes[i + 1]? = some after ∧
        Repairs s.accepts p.registry d before after) ∧
    (r.applied ≠ [] → isProgram s.accepts r.code = true) ∧
    (r.applied = [] → r.code = job.code) := by
  obtain ⟨-, e, lint?, m, v, attempts, last, rfl⟩ := runs_process run
  have walk := walk_work attempts
  have opening := openRun_sound s job p
  have sound := walk.sound opening
  have ends : Ends m l := by
    have h := closing_ends sound e
    rwa [← last] at h
  have replay : Replay s.accepts p.registry job.code m.applied m.code :=
    walk.replay opening (openRun_registry s job p) (.start job.code)
  have applied : (l.result lint?).applied = m.applied := ends.applied
  have code : (l.result lint?).code = m.code := ends.code
  rw [applied, code]
  refine ⟨?_, sound.program, fun none => ?_⟩
  · obtain ⟨codes, length, first, final, steps⟩ := replay.exists_codes
    refine ⟨codes, length, first, final, fun i sm hi => ?_⟩
    obtain ⟨success, before, after, hb, ha, repair⟩ := steps i sm hi
    exact ⟨success, sm.diagnostic, before, after, rfl, hb, ha, repair⟩
  · have start : m.start = job.code := walk.start opening
    exact (sound.untouched none).trans start

theorem scribble_replay : ∃ trail q l r,
    (process lenient scribble scribe).Runs Processor.Interlude trail q (r, some l) ∧
    r.code = "0\n1".toList ∧
    (∃ codes : List Text, codes.length = r.applied.length + 1 ∧
      codes[0]? = some "0\n0".toList ∧ codes[r.applied.length]? = some r.code ∧
      ∀ i sm, r.applied[i]? = some sm → sm.isSuccess = true ∧ ∃ d before after,
        sm.identity = d.identity ∧ codes[i]? = some before ∧ codes[i + 1]? = some after ∧
        Repairs lenient.accepts scribe.registry d before after) ∧
    isProgram lenient.accepts r.code = true := by
  obtain ⟨trail, l, run⟩ := exists_run lenient scribble (p := scribe) rfl
  obtain ⟨replay, program, untouched⟩ := process_replay run
  refine ⟨trail, _, l, _, run, finish_scribble.2, replay, program fun none => ?_⟩
  have same := untouched none
  rw [finish_scribble.2] at same
  exact absurd same (by decide)

end LintRepair.Batch
