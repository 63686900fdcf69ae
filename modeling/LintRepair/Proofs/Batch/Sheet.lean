/-
What the turns of diagnostics come to, told without a processor.

* `Sheet`: the text, the repairs and the failures of a run, and whether it is
  halted; `Sheet.turn`: what the turn of a diagnostic makes of them;
* `fixOne_sheet`: it does just that;
* `Turns.sheet`: turns that go through make of a sheet what one after another
  does;
* `process_onePass_sheet`: so does a run by one pass that is not cancelled.
-/
import LintRepair.Proofs.Batch.Waves

namespace LintRepair.Batch

open Text Check Repair
open Processor (Interlude)

variable {accepts : Acceptor} {registry : Registry}
variable {s : Surroundings} {job : Job} {l m : Ledger} {p q : Processor}
variable {trail : List Processor} {ds : List Diagnostic} {d : Diagnostic}

/-! ### Sheets -/

/-- What a run comes to: its text, its repairs, its failures, and whether no
attempt may follow. -/
structure Sheet where
  code : Text
  applied : List Summary
  failed : List Summary
  halted : Bool

/-- The sheet that books show. -/
def Ledger.sheet (l : Ledger) : Sheet := ⟨l.code, l.applied, l.failed, l.halted⟩

/-- Whether a broken program ends the runs of a processor. -/
def Processor.halts (p : Processor) : Bool := p.settings.haltOnSyntaxFailure.isTrue

namespace Sheet

/-- A sheet with failures of one cause for some diagnostics. -/
def failAll (t : Sheet) (cause : Cause) (ds : List Diagnostic) : Sheet :=
  { t with failed := t.failed ++ ds.map fun d => .failure d cause [] }

/-- A sheet with the outcome of an attempt at a diagnostic. -/
def enter (halts : Bool) (d : Diagnostic) (t : Sheet) : Attempt → Sheet
  | .applied code sm => { t with code, applied := t.applied ++ [sm] }
  | .failed sm => { t with failed := t.failed ++ [sm] }
  | .broken sm _ => { t with failed := t.failed ++ [sm], halted := t.halted || halts }
  | .raised e =>
    { t with
      failed := t.failed ++ [.failure d (.raised e) []]
      halted := t.halted || isAlarming e.text }

/-- A sheet with the turn of a diagnostic, which is skipped when the run is
halted. -/
def turn (accepts : Acceptor) (registry : Registry) (halts : Bool) (t : Sheet)
    (d : Diagnostic) : Sheet :=
  if t.halted then t.failAll .skipped [d]
  else t.enter halts d (attempt accepts registry t.code d)

/-- A turn enters one summary of its diagnostic, among the repairs or among the
failures. -/
lemma turn_enters (accepts : Acceptor) (registry : Registry) (halts : Bool) (t : Sheet)
    (d : Diagnostic) : ∃ sm, sm.diagnostic = d ∧
      ((t.turn accepts registry halts d).applied = t.applied ++ [sm] ∧
          (t.turn accepts registry halts d).failed = t.failed ∨
        (t.turn accepts registry halts d).applied = t.applied ∧
          (t.turn accepts registry halts d).failed = t.failed ++ [sm]) := by
  rw [turn]
  split
  · exact ⟨_, rfl, .inr ⟨rfl, rfl⟩⟩
  rcases attempt_cases accepts registry t.code d with
    ⟨sm, about, ha⟩ | ⟨e, ha⟩ | ⟨sm, after, about, broken, ha⟩ |
    ⟨sm, after, about, success, repair, ha⟩
  · rw [ha]
    exact ⟨sm, about, .inr ⟨rfl, rfl⟩⟩
  · rw [ha]
    exact ⟨.failure d (.raised e) [], rfl, .inr ⟨rfl, rfl⟩⟩
  · rw [ha]
    exact ⟨sm, about, .inr ⟨rfl, rfl⟩⟩
  · rw [ha]
    exact ⟨sm, about, .inl ⟨rfl, rfl⟩⟩

/-- Turns enter their diagnostics, each once. -/
lemma foldl_turn_accounts (accepts : Acceptor) (registry : Registry) (halts : Bool) (t : Sheet)
    (ds : List Diagnostic) :
    (((ds.foldl (turn accepts registry halts) t).applied ++
        (ds.foldl (turn accepts registry halts) t).failed).map Summary.identity).Perm
      ((t.applied ++ t.failed).map Summary.identity ++ ds.map Diagnostic.identity) := by
  induction ds generalizing t with
  | nil => simp
  | cons d rest ih =>
      have first : (((t.turn accepts registry halts d).applied ++
          (t.turn accepts registry halts d).failed).map Summary.identity).Perm
            ((t.applied ++ t.failed).map Summary.identity ++ [d.identity]) := by
        obtain ⟨sm, rfl, ⟨applied, failed⟩ | ⟨applied, failed⟩⟩ :=
          turn_enters accepts registry halts t d
        · have moved : (t.applied ++ [sm] ++ t.failed).Perm (t.applied ++ t.failed ++ [sm]) := by
            rw [List.append_assoc, List.append_assoc]
            exact List.Perm.append_left _ List.perm_append_comm
          rw [applied, failed]
          exact (moved.map Summary.identity).trans (.of_eq List.map_append)
        · rw [applied, failed, ← List.append_assoc, List.map_append]
          exact .refl _
      have all := (ih (t.turn accepts registry halts d)).trans (first.append_right _)
      rwa [List.append_assoc] at all

/-- Turns repair none but their diagnostics. -/
lemma mem_foldl_turn_applied {accepts : Acceptor} {registry : Registry} {halts : Bool} {t : Sheet}
    {ds : List Diagnostic} {sm : Summary}
    (h : sm ∈ (ds.foldl (turn accepts registry halts) t).applied) :
    sm ∈ t.applied ∨ sm.diagnostic ∈ ds := by
  induction ds generalizing t with
  | nil => exact .inl h
  | cons d rest ih =>
      rcases ih h with early | late
      · obtain ⟨sm', rfl, ⟨applied, -⟩ | ⟨applied, -⟩⟩ := turn_enters accepts registry halts t d
        · rw [applied, List.mem_append, List.mem_singleton] at early
          exact early.imp id fun same => by rw [same]; exact List.mem_cons_self
        · exact .inl (applied ▸ early)
      · exact .inr (List.mem_cons_of_mem _ late)

/-- When a run is halted, all that is left is skipped. -/
lemma foldl_turn_halted {halts : Bool} {t : Sheet} (stop : t.halted = true) (ds : List Diagnostic) :
    ds.foldl (turn accepts registry halts) t = t.failAll .skipped ds := by
  induction ds generalizing t with
  | nil => simp [failAll]
  | cons d rest ih =>
      rw [List.foldl_cons, turn, if_pos stop, ih (t := t.failAll .skipped [d]) stop]
      simp [failAll]

end Sheet

/-! ### Turns -/

/-- Entering the outcome of an attempt into sound books enters it into their
sheet. -/
lemma settle_sheet {halts : Bool} (h : Sound accepts l p) (kept : p.halts = halts) :
    (settle accepts d l p (attempt accepts registry l.code d)).2.sheet =
      l.sheet.enter halts d (attempt accepts registry l.code d) := by
  subst kept
  rcases attempt_cases accepts registry l.code d with
    ⟨sm, about, ha⟩ | ⟨e, ha⟩ | ⟨sm, after, about, broken, ha⟩ |
    ⟨sm, after, about, success, repair, ha⟩
  · rw [ha]
    rfl
  · obtain ⟨r, -, hs⟩ := salvage_entered h (Or.inl (Eq.refl l.code))
      (l.failed ++ [.failure d (.raised e) []]) (l.notes ++ [.raised d e])
    rw [ha, settle]
    simp only [Ledger.note, hs]
    split
    · next alarm => simp [Ledger.sheet, Sheet.enter, alarm]
    · next calm => simp [Ledger.sheet, Sheet.enter, calm]
  · obtain ⟨r, -, hs⟩ := salvage_entered h (.inr broken) (l.failed ++ [sm]) l.notes
    rw [ha, settle]
    simp only [hs]
    split
    · next halt => simp [Ledger.sheet, Sheet.enter, Processor.halts, halt]
    · next on => simp [Ledger.sheet, Sheet.enter, Processor.halts, on]
  · rw [ha]
    rfl

/-- The turn of a diagnostic makes of the sheet what it should. -/
lemma fixOne_sheet (h : Sound s.accepts l p) (open' : l.halted = false) (d : Diagnostic) :
    (fixOne s d l p).2.sheet = l.sheet.turn s.accepts p.registry p.halts d := by
  have begun : Sound s.accepts (l.begin d) p := h.congr rfl rfl rfl h.fault rfl rfl
  have told : Sound s.accepts (beginTurn s d l p).2 (beginTurn s d l p).1 :=
    begun.told s _ _ _
  have remembers := told.congr (q := { (beginTurn s d l p).1 with
      cache := ((beginTurn s d l p).1.cache.zone (beginTurn s d l p).2.code d).1 })
      rfl rfl rfl told.fault rfl rfl
  have registry : (beginTurn s d l p).1.registry = p.registry := beginTurn_registry h.running
  have halts : (beginTurn s d l p).1.halts = p.halts := by
    rw [Processor.halts, Processor.halts, beginTurn_settings h.running]
  have going : ¬ l.sheet.halted = true := by simp [Ledger.sheet, open']
  rw [fixOne_eq, registry, Sheet.turn, if_neg going]
  exact settle_sheet remembers halts

/-- Turns that go through make of the sheet what one after another should. -/
lemma Turns.sheet {e : Ending} {halts : Bool} (h : Turns s ds l p trail m q e)
    (sound : Sound s.accepts l p) (fixers : p.registry = registry) (kept : p.halts = halts)
    (through : e = .through) :
    m.sheet = ds.foldl (Sheet.turn s.accepts registry halts) l.sheet := by
  induction h with
  | done => rfl
  | cancelled => cases through
  | @halted l _ _ stop d ds =>
      exact (Sheet.foldl_turn_halted (t := l.sheet) stop (d :: ds)).symm
  | @turn l m p q t trail ds e d going open' wait _ ih =>
      have registry' := (fixOne_settled sound d).registry.trans fixers
      have halts' : (fixOne s d l p).1.halts = halts := by
        rw [Processor.halts, fixOne_settings s d l sound.running]
        exact kept
      have later := ih (sound.turn wait) (by obtain ⟨stop, cache, rfl⟩ := wait; exact registry')
        (by obtain ⟨stop, cache, rfl⟩ := wait; exact halts') through
      rw [later, fixOne_sheet sound open' d, fixers, kept]
      rfl

/-! ### Runs by one pass -/

/-- What one pass over some diagnostics makes of a text. -/
def Sheet.onePass (accepts : Acceptor) (p : Processor) (code : Text) (ds : List Diagnostic) :
    Sheet :=
  (p.prepare ds).foldl (turn accepts p.registry p.halts)
    (failAll ⟨code, [], [], false⟩ .noFixer (p.unfixable ds))

/-- Of a processor only the fixers matter for that, and whether a broken program
ends its runs. -/
lemma Sheet.onePass_congr (fixers : q.registry = p.registry) (kept : q.halts = p.halts)
    (code : Text) (ds : List Diagnostic) :
    onePass accepts q code ds = onePass accepts p code ds := by
  rw [onePass, onePass, Processor.prepare_congr fixers, Processor.unfixable_congr fixers, fixers,
    kept]

/-- A result that shows a sheet. -/
structure Shows (r : Result) (t : Sheet) : Prop where
  code : r.code = t.code
  applied : r.applied = t.applied
  failed : r.failed = t.failed

/-- The result of a run shows the sheet with which its attempts end. -/
lemma Ends.shows (h : Ends m l) (lint? : Option LintInfo) : Shows (l.result lint?) m.sheet :=
  ⟨h.code, h.applied, h.failed⟩

lemma openRun_halts (s : Surroundings) (job : Job) (p : Processor) :
    (openRun s job p).1.halts = p.halts := by
  rw [Processor.halts, openRun_settings]
  rfl

/-- A run by one pass that is not cancelled comes to what the pass should. -/
lemma process_onePass_sheet {r : Result} (manner : job.manner = .onePass)
    (run : (process s job p).Runs Interlude trail q (r, some l))
    (uncancelled : r.fault? ≠ some .cancelled) :
    Shows r (.onePass s.accepts p job.code job.diagnostics) := by
  obtain ⟨-, e, lint?, m, v, attempts, last, rfl⟩ := runs_process run
  have opening := openRun_sound s job p
  have books : l = (closing s e m v).2 := congrArg Prod.snd last
  have ends : Ends m l := books ▸ closing_ends ((walk_work attempts).sound opening) e
  have through : e ≠ .cancelled := by
    rintro rfl
    exact uncancelled (by rw [books]; rfl)
  rw [work_onePass manner, Course.runs_bind] at attempts
  obtain ⟨first, w, ⟨m', e'⟩, later, -, attempts, done⟩ := attempts
  obtain ⟨-, -, h⟩ := Course.runs_done.mp done
  cases h
  rw [pass_eq] at attempts
  have turns := runs_turns attempts
  have sheet := turns.sheet (opening.entry (.failAll _ .noFixer _)) rfl rfl
    (turns.through_or_cancelled.resolve_right through)
  rw [← Sheet.onePass_congr (openRun_registry s job p) (openRun_halts s job p)]
  have shows := ends.shows none
  rw [sheet] at shows
  exact shows

end LintRepair.Batch
