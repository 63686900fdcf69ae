/-
Bottom to top, the lines of the diagnostics to come stay as they were.

* `Fresh`: what a diagnostic points at is still that of the text before the
  run;
* `Fresh.repaired`: a repair further down, or on its line, keeps it so;
* `EveryTurn`, `Turns.fresh`: hence every diagnostic is fresh when it has its
  turn;
* `process_fresh`: so it is in every run by one pass whose diagnostics are
  those of rules that leave the lines above as they are.
-/
import LintRepair.Proofs.Batch.Account
import LintRepair.Proofs.Rules.Above

namespace LintRepair.Batch

open Text Lexical Check Repair Rules
open Processor (Interlude)

variable {accepts : Acceptor} {registry : Registry} {start : Text} {d e : Diagnostic}
variable {s : Surroundings} {job : Job} {l m : Ledger} {p q : Processor}
variable {trail : List Processor} {ds : List Diagnostic}

/-! ### Diagnostics that are fresh -/

/-- A diagnostic is repaired, if at all, by the built-in fixer of a rule that
leaves the lines above as they are. -/
def Steady (registry : Registry) (d : Diagnostic) : Prop :=
  ∃ rule ∈ steadyRules, d.rule = some rule ∧
    ∃ accepts o, registry.fixer? d.rule = builtin? accepts o rule

/-- A repair of such a diagnostic leaves the lines above it as they are. -/
lemma Steady.sameAbove {before after : Text} (h : Steady registry d)
    (repair : Repairs accepts registry d before after) :
    SameAbove (d.line.value - 1).toNat after before := by
  obtain ⟨rule, steady, -, accepts', o, same⟩ := h
  obtain ⟨-, f, r, found, -, fix, success, rfl, -⟩ := repair
  rw [same] at found
  exact sameAbove_of_fix steady found fix success

/-- The lines above a diagnostic are those of the text before the run, and so
is its own line unless a repair has been listed for it. -/
structure Fresh (start : Text) (d : Diagnostic) (l : Ledger) : Prop where
  above : SameAbove (d.line.value - 1).toNat l.code start
  line : (∀ sm ∈ l.applied, sm.diagnostic.line.value ≠ d.line.value) →
    line? l.code d.line.value = line? start d.line.value

lemma Fresh.congr (h : Fresh start d l) (code : m.code = l.code)
    (applied : m.applied = l.applied) : Fresh start d m where
  above := by
    rw [code]
    exact h.above
  line := by
    rw [code, applied]
    exact h.line

/-- A repair that is no higher up than a diagnostic leaves it fresh. -/
lemma Fresh.repaired (h : Fresh start e l) {sm : Summary} (about : sm.diagnostic = d)
    (below : e.line.value ≤ d.line.value)
    (kept : SameAbove (d.line.value - 1).toNat m.code l.code)
    (applied : m.applied = l.applied ++ [sm]) : Fresh start e m where
  above := (kept.mono (by omega)).trans h.above
  line := by
    intro unlisted
    rw [applied] at unlisted
    have other : d.line.value ≠ e.line.value := about ▸ unlisted sm (by simp)
    have same : line? m.code e.line.value = line? l.code e.line.value :=
      kept.line?_eq (by omega)
    rw [same]
    exact h.line fun sm' hsm => unlisted sm' (by simp [hsm])

/-- What a turn leaves of the diagnostics that come after its own. -/
lemma Outcome.fresh (h : Outcome accepts registry d l m) (steady : Steady registry d)
    (below : e.line.value ≤ d.line.value) (fresh : Fresh start e l) : Fresh start e m := by
  cases h with
  | repaired sm about _ repair applied _ _ =>
      exact fresh.repaired about below (steady.sameAbove repair) applied
  | failed sm _ code applied _ _ => exact fresh.congr code applied

/-! ### Turns -/

/-- Something holds at every turn: the pauses of a run are those behind the
turns of the first of some diagnostics. The first turn begins with the given
books, and each later one with those that the turn before it has left. -/
inductive EveryTurn (s : Surroundings) (P : Diagnostic → Ledger → Prop) :
    Ledger → List Diagnostic → List Processor → Prop
  | over (l : Ledger) (ds : List Diagnostic) : EveryTurn s P l ds []
  | turn {l : Ledger} {p : Processor} {d : Diagnostic} {ds : List Diagnostic}
      {trail : List Processor} (holds : P d l) (rest : EveryTurn s P (fixOne s d l p).2 ds trail) :
      EveryTurn s P l (d :: ds) (afterTurn s d l p :: trail)

/-- Diagnostics that are fresh before their turns are fresh at them. -/
lemma Turns.fresh {ending : Ending} (h : Turns s ds l p trail m q ending)
    (sound : Sound s.accepts l p) (kept : p.registry = registry)
    (order : ds.Pairwise fun a b => b.line.value ≤ a.line.value)
    (steady : ∀ d ∈ ds, Steady registry d) (fresh : ∀ d ∈ ds, Fresh start d l) :
    EveryTurn s (Fresh start) l ds trail := by
  induction h with
  | done l p => exact .over l []
  | cancelled _ d ds l => exact .over l (d :: ds)
  | halted _ _ d ds => exact .over _ (d :: ds)
  | @turn l _ p _ t _ ds _ d _ _ wait _ ih =>
      obtain ⟨below, order'⟩ := List.pairwise_cons.mp order
      have settled := fixOne_settled sound d
      have still : t.registry = registry := by
        obtain ⟨stop, cache, rfl⟩ := wait
        exact settled.registry.trans kept
      have fresh' : ∀ e ∈ ds, Fresh start e (fixOne s d l p).2 := by
        intro e he
        have before : Fresh start e (l.begin d) :=
          (fresh e (List.mem_cons_of_mem d he)).congr rfl rfl
        exact (kept ▸ settled.outcome).fresh (steady d List.mem_cons_self) (below e he) before
      have steady' : ∀ e ∈ ds, Steady registry e :=
        fun e he => steady e (List.mem_cons_of_mem d he)
      exact .turn (fresh d List.mem_cons_self) (ih (sound.turn wait) still order' steady' fresh')

/-- **Diagnostics to come stay fresh.** Let the diagnostics of a run by one
pass that can be repaired be those of rules which leave the lines above as they
are. At every turn, the lines above the diagnostic in the text so far are those
of the text before the run; and so is its own line, unless a repair on that
line is listed already. -/
theorem process_fresh {r : Result} (manner : job.manner = .onePass)
    (steady : ∀ d ∈ job.diagnostics, p.registry.isFixable d.rule = true → Steady p.registry d)
    (run : (process s job p).Runs Interlude trail q (r, some l)) :
    EveryTurn s (Fresh job.code)
      ((openRun s job p).2.failAll .noFixer (p.unfixable job.diagnostics))
      (p.prepare job.diagnostics) trail := by
  obtain ⟨-, e, lint?, m, v, attempts, -, -⟩ := runs_process run
  rw [work_onePass manner, Course.runs_bind] at attempts
  obtain ⟨first, w, ⟨m', e'⟩, later, rfl, attempts, done⟩ := attempts
  obtain ⟨rfl, -, -⟩ := Course.runs_done.mp done
  have registry := openRun_registry s job p
  rw [List.append_nil]
  rw [pass_eq, Processor.prepare_congr registry, Processor.unfixable_congr registry] at attempts
  have opening := (openRun_sound s job p).entry (.failAll _ .noFixer (p.unfixable job.diagnostics))
  have order : (p.prepare job.diagnostics).Pairwise fun a b => b.line.value ≤ a.line.value :=
    (List.pairwise_map.mp (pairwise_prepare p job.diagnostics)).imp fun h => h.line_le
  have fixable : ∀ d ∈ p.prepare job.diagnostics, Steady p.registry d := by
    intro d hd
    obtain ⟨among, fixable⟩ := List.mem_filter.mp ((List.mergeSort_perm _ _).mem_iff.mp hd)
    exact steady d among fixable
  refine (runs_turns attempts).fresh opening registry order fixable fun d _ => ?_
  exact ⟨.refl _ _, fun _ => rfl⟩

/-! ### A run with the built-in fixers -/

/-- A processor with all built-in fixers. -/
def janitor : Processor := .fresh (Registry.empty.registerAll (catalog lenient.accepts {})) {}

/-- Two diagnostics of rules that leave the lines above as they are. -/
def untidy : Job where
  code := "a \nb".toList
  diagnostics :=
    [{ rule := some "no-trailing-spaces", message := "", line := 1, column := 2 },
      { rule := some "semi", message := "Missing semicolon.", line := 2, column := 2 }]

lemma steady_untidy : ∀ d ∈ untidy.diagnostics,
    janitor.registry.isFixable d.rule = true → Steady janitor.registry d := by
  intro d hd _
  rcases List.mem_pair.mp hd with rfl | rfl
  · exact ⟨"no-trailing-spaces", by simp [steadyRules], rfl, lenient.accepts, {}, rfl⟩
  · exact ⟨"semi", by simp [steadyRules], rfl, lenient.accepts, {}, rfl⟩

/-- The run repairs both. -/
lemma finish_untidy : (process lenient untidy janitor).finish.2.1.code = "a\nb;".toList := by
  have order : janitor.prepare untidy.diagnostics = untidy.diagnostics.reverse :=
    prepare_pair rfl rfl rfl
  rw [process_idle rfl, work_onePass rfl, pass_eq,
    Processor.prepare_congr (openRun_registry _ _ _), order]
  decide +kernel

theorem untidy_fresh : ∃ trail q l r,
    untidy.manner = .onePass ∧
    (∀ d ∈ untidy.diagnostics, janitor.registry.isFixable d.rule = true →
      Steady janitor.registry d) ∧
    (process lenient untidy janitor).Runs Interlude trail q (r, some l) ∧
    r.code = "a\nb;".toList ∧
    EveryTurn lenient (Fresh "a \nb".toList)
      ((openRun lenient untidy janitor).2.failAll .noFixer (janitor.unfixable untidy.diagnostics))
      (janitor.prepare untidy.diagnostics) trail := by
  obtain ⟨trail, l, run⟩ := exists_run lenient untidy (p := janitor) rfl
  have fresh := process_fresh rfl steady_untidy run
  exact ⟨trail, _, l, _, rfl, steady_untidy, run, finish_untidy, fresh⟩

end LintRepair.Batch
