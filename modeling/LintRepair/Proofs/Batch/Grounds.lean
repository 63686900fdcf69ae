/-
Where the failures in the books of a run come from.

* `FailsBy`: what a fixer can come to at the turn of a diagnostic, other than a repair;
  `attempt_fails`: an attempt that fails comes to that;
* `Grounds`: a failure says what has happened: there is no fixer, or its turn has come
  to that on a text of the run, or the run was cancelled or halted before;
* `Turns.grounded`, `Waves.grounded`: one step for each way in which turns and waves go
  on, and by induction all of them;
* `process_grounded`: so every failure of an accepted run is grounded.
-/
import LintRepair.Proofs.Batch.Sheet

namespace LintRepair.Batch

open Text Lexical Check Repair
open Processor (Interlude)

variable {accepts : Acceptor} {registry : Registry} {f : Fixer} {code : Text} {d : Diagnostic}
variable {texts : List Text} {stopped halted : Prop} {cause : Cause} {sm : Summary}
variable {s : Surroundings} {job : Job} {l m : Ledger} {p q : Processor}
variable {trail : List Processor} {ds : List Diagnostic} {e : Ending}

/-! ### Attempts that fail -/

/-- What the turn of a diagnostic with a fixer comes to on a text, if it is not repaired. -/
inductive FailsBy (accepts : Acceptor) (f : Fixer) (code : Text) (d : Diagnostic) : Cause → Prop
  | hazardous {hazard : Hazard} (found : (zone code d).hazard? = some hazard) :
      FailsBy accepts f code d (.hazardous hazard)
  | notHandled (safe : (zone code d).isSafe = true) (declines : f.canFix code d = .ok false) :
      FailsBy accepts f code d .notHandled
  | refused {r : FixResult} {refusal : Refusal} (safe : (zone code d).isSafe = true)
      (tries : f.canFix code d = .ok true) (answers : f.fix code d = .ok r)
      (refuses : r.refusal? = some refusal) :
      FailsBy accepts f code d (.refused f.rule refusal)
  | broken {r : FixResult} {fault : SyntaxFault} (safe : (zone code d).isSafe = true)
      (tries : f.canFix code d = .ok true) (answers : f.fix code d = .ok r)
      (makes : r.refusal? = none) (rejected : syntaxFault? accepts r.code = some fault) :
      FailsBy accepts f code d (.broken fault)
  | raised {e : Raised} (safe : (zone code d).isSafe = true)
      (raises : f.canFix code d = .error e ∨
        f.canFix code d = .ok true ∧ f.fix code d = .error e) :
      FailsBy accepts f code d (.raised e)

/-- The failure that an attempt at a diagnostic is entered as. -/
def Attempt.filed? (d : Diagnostic) : Attempt → Option Summary
  | .applied _ _ => none
  | .failed sm | .broken sm _ => some sm
  | .raised e => some (.failure d (.raised e) [])

lemma Sheet.enter_failed (halts : Bool) (d : Diagnostic) (t : Sheet) (a : Attempt) :
    (t.enter halts d a).failed = t.failed ++ (a.filed? d).toList := by
  cases a <;> simp [Sheet.enter, Attempt.filed?]

/-- A failed attempt says of its diagnostic what it has come to. -/
lemma attempt_fails (fixer : registry.fixer? d.rule = some f)
    (filed : (attempt accepts registry code d).filed? d = some sm) :
    sm.diagnostic = d ∧
      ∃ cause, sm.verdict = .failed cause ∧ FailsBy accepts f code d cause := by
  rw [attempt, fixer] at filed
  cases found : (zone code d).hazard? with
  | some hazard =>
      rw [found] at filed
      cases filed
      exact ⟨rfl, _, rfl, .hazardous found⟩
  | none =>
  have safe : (zone code d).isSafe = true := by rw [Zone.isSafe, found]; rfl
  rw [found] at filed
  dsimp only at filed
  cases asked : f.canFix code d with
  | error e =>
      rw [asked] at filed
      cases filed
      exact ⟨rfl, _, rfl, .raised safe (.inl asked)⟩
  | ok tries =>
  rw [asked] at filed
  cases tries with
  | false =>
      cases filed
      exact ⟨rfl, _, rfl, .notHandled safe asked⟩
  | true =>
  dsimp only at filed
  cases answers : f.fix code d with
  | error e =>
      rw [answers] at filed
      cases filed
      exact ⟨rfl, _, rfl, .raised safe (.inr ⟨asked, answers⟩)⟩
  | ok r =>
  rw [answers] at filed
  dsimp only at filed
  rw [assess] at filed
  cases refuses : r.refusal? with
  | some refusal =>
      rw [refuses] at filed
      cases filed
      exact ⟨rfl, _, rfl, .refused safe asked answers refuses⟩
  | none =>
  rw [refuses] at filed
  dsimp only at filed
  cases rejected : syntaxFault? accepts r.code with
  | none =>
      rw [rejected] at filed
      cases filed
  | some fault =>
      rw [rejected] at filed
      cases filed
      exact ⟨rfl, _, rfl, .broken safe asked answers refuses rejected⟩

/-! ### Failures that are grounded -/

/-- The cause of a failure is what has happened to its diagnostic in a run with some
fixers, which has come to some texts and may have been cancelled or halted. -/
inductive Grounds (accepts : Acceptor) (registry : Registry) (texts : List Text)
    (stopped halted : Prop) (d : Diagnostic) : Cause → Prop
  | noFixer (none : registry.fixer? d.rule = none) :
      Grounds accepts registry texts stopped halted d .noFixer
  | turn {f : Fixer} {code : Text} {cause : Cause} (fixer : registry.fixer? d.rule = some f)
      (came : code ∈ texts) (fails : FailsBy accepts f code d cause) :
      Grounds accepts registry texts stopped halted d cause
  | cancelled {f : Fixer} (fixer : registry.fixer? d.rule = some f) (stop : stopped) :
      Grounds accepts registry texts stopped halted d .cancelled
  | skipped {f : Fixer} (fixer : registry.fixer? d.rule = some f) (halt : halted) :
      Grounds accepts registry texts stopped halted d .skipped

/-- All of some failures are grounded. -/
def Grounded (accepts : Acceptor) (registry : Registry) (texts : List Text)
    (stopped halted : Prop) (failed : List Summary) : Prop :=
  ∀ sm ∈ failed, ∃ cause, sm.verdict = .failed cause ∧
    Grounds accepts registry texts stopped halted sm.diagnostic cause

lemma Grounds.mono {more : List Text} {stopped' halted' : Prop}
    (h : Grounds accepts registry texts stopped halted d cause) (sub : texts ⊆ more)
    (stop : stopped → stopped') (halt : halted → halted') :
    Grounds accepts registry more stopped' halted' d cause := by
  cases h with
  | noFixer none => exact .noFixer none
  | turn fixer came fails => exact .turn fixer (sub came) fails
  | cancelled fixer stop' => exact .cancelled fixer (stop stop')
  | skipped fixer halt' => exact .skipped fixer (halt halt')

namespace Grounded

lemma mono {more : List Text} {stopped' halted' : Prop} {failed : List Summary}
    (h : Grounded accepts registry texts stopped halted failed) (sub : texts ⊆ more)
    (stop : stopped → stopped') (halt : halted → halted') :
    Grounded accepts registry more stopped' halted' failed := fun sm among =>
  have ⟨cause, verdict, grounds⟩ := h sm among
  ⟨cause, verdict, grounds.mono sub stop halt⟩

lemma append {failed more : List Summary}
    (h : Grounded accepts registry texts stopped halted failed)
    (h' : Grounded accepts registry texts stopped halted more) :
    Grounded accepts registry texts stopped halted (failed ++ more) := fun sm among =>
  (List.mem_append.mp among).elim (h sm) (h' sm)

/-- Failures of one cause are grounded if it applies to each of their diagnostics. -/
lemma failAll (h : Grounded accepts registry texts stopped halted l.failed)
    (applies : ∀ d ∈ ds, Grounds accepts registry texts stopped halted d cause) :
    Grounded accepts registry texts stopped halted (l.failAll cause ds).failed := by
  refine h.append fun sm among => ?_
  obtain ⟨d, own, rfl⟩ := List.mem_map.mp among
  exact ⟨cause, rfl, applies d own⟩

/-- **One turn.** What it enters is grounded in the text on which it is made. -/
lemma turn (h : Grounded s.accepts p.registry texts stopped halted l.failed)
    (sound : Sound s.accepts l p) (open' : l.halted = false) (came : l.code ∈ texts)
    (fixer : p.registry.fixer? d.rule = some f) :
    Grounded s.accepts p.registry texts stopped halted (fixOne s d l p).2.failed := by
  have entered : (fixOne s d l p).2.failed =
      l.failed ++ ((attempt s.accepts p.registry l.code d).filed? d).toList := by
    have sheet := congrArg Sheet.failed (fixOne_sheet sound open' d)
    rwa [Sheet.turn, if_neg (by simp [Ledger.sheet, open']), Sheet.enter_failed] at sheet
  rw [entered]
  refine h.append fun sm among => ?_
  obtain ⟨rfl, cause, verdict, fails⟩ := attempt_fails fixer (Option.mem_toList.mp among)
  exact ⟨cause, verdict, .turn fixer came fails⟩

end Grounded

/-! ### Turns -/

/-- The texts that the books show in the pauses of a run. -/
def shownTexts (trail : List Processor) : List Text :=
  trail.filterMap fun p => p.ledger?.map (·.code)

lemma exists_fixer (fixable : registry.isFixable d.rule = true) :
    ∃ f, registry.fixer? d.rule = some f := Option.isSome_iff_exists.mp fixable

lemma fixer?_of_unfixable (unfixable : registry.isFixable d.rule = false) :
    registry.fixer? d.rule = none := Option.not_isSome_iff_eq_none.mp (by
  rw [Bool.not_eq_true]; exact unfixable)

/-- What the turns of diagnostics enter is grounded, in the texts that the run has come to
before and in those that it shows between them. -/
lemma Turns.grounded (h : Turns s ds l p trail m q e) (sound : Sound s.accepts l p)
    (fixers : p.registry = registry) (fixable : ∀ d ∈ ds, registry.isFixable d.rule = true)
    (came : l.code ∈ texts) (before : Grounded s.accepts registry texts False False l.failed) :
    m.code ∈ texts ++ shownTexts trail ∧
      Grounded s.accepts registry (texts ++ shownTexts trail) (e = .cancelled)
        (e = .through ∧ m.halted = true) m.failed := by
  induction h generalizing texts with
  | done l p =>
      exact ⟨List.mem_append_left _ came,
        before.mono (List.subset_append_left ..) False.elim False.elim⟩
  | cancelled _ d ds l =>
      refine ⟨List.mem_append_left _ came, Grounded.failAll
        (before.mono (List.subset_append_left ..) False.elim False.elim) fun d among => ?_⟩
      obtain ⟨f, fixer⟩ := exists_fixer (fixable d among)
      exact .cancelled fixer rfl
  | @halted l _ _ stop d ds =>
      refine ⟨List.mem_append_left _ came, Grounded.failAll
        (before.mono (List.subset_append_left ..) False.elim False.elim) fun d among => ?_⟩
      obtain ⟨f, fixer⟩ := exists_fixer (fixable d among)
      exact .skipped fixer ⟨rfl, stop⟩
  | @turn l m p q t trail ds e d _ open' wait _ ih =>
      obtain ⟨f, fixer⟩ := exists_fixer (fixable d List.mem_cons_self)
      have entered : Grounded s.accepts registry texts False False (fixOne s d l p).2.failed := by
        subst fixers
        exact before.turn sound open' came fixer
      have kept : t.registry = registry := by
        obtain ⟨stop, cache, rfl⟩ := wait
        exact (fixOne_settled sound d).registry.trans fixers
      have shown : (fixOne s d l p).2.code ∈ texts ++ [(fixOne s d l p).2.code] :=
        List.mem_append_right _ List.mem_cons_self
      have later := ih (sound.turn wait) kept
        (fun d among => fixable d (List.mem_cons_of_mem _ among)) shown
        (entered.mono (List.subset_append_left ..) id id)
      rwa [List.append_assoc] at later

/-! ### Waves -/

/-- So is what the attempts of a wave enter. -/
lemma Wave.grounded (h : Wave s ds l p trail m q e) (sound : Sound s.accepts l p)
    (fixers : p.registry = registry) (came : l.code ∈ texts)
    (before : Grounded s.accepts registry texts False False l.failed) :
    m.code ∈ texts ++ shownTexts trail ∧
      Grounded s.accepts registry (texts ++ shownTexts trail) (e = .cancelled)
        (e = .through ∧ m.halted = true) m.failed := by
  subst fixers
  refine Turns.grounded h (sound.entry (.failAll l .noFixer _)) rfl (fun d among => ?_) came
    (before.failAll fun d among => ?_)
  · exact (Processor.mem_prepare.mp (List.mem_of_mem_take among)).2
  · exact .noFixer (fixer?_of_unfixable (Processor.mem_unfixable.mp among).2)

lemma shownTexts_append (texts : List Text) (first later : List Processor) :
    texts ++ shownTexts (first ++ later) = texts ++ shownTexts first ++ shownTexts later := by
  rw [shownTexts, List.filterMap_append, ← List.append_assoc]
  rfl

/-- A wave that goes through and the question behind it leave nothing to be skipped. -/
lemma Round.grounded {linter? : Option (Linter × String)}
    {answer : Except String (Option (List Diagnostic))}
    (h : Round s linter? ds l p trail m q answer) (sound : Sound s.accepts l p)
    (fixers : p.registry = registry) (came : l.code ∈ texts)
    (before : Grounded s.accepts registry texts False False l.failed) :
    m.code ∈ texts ++ shownTexts trail ∧
      Grounded s.accepts registry (texts ++ shownTexts trail) False False m.failed := by
  cases h with
  | mk after v wave open' ask =>
      obtain ⟨questions, notes, rfl⟩ := ask.books
      obtain ⟨code, grounded⟩ := wave.grounded sound fixers came before
      rw [shownTexts_append]
      refine ⟨List.mem_append_left _ code,
        grounded.mono (List.subset_append_left ..) (fun other => ?_) fun other => ?_⟩
      · cases other
      · exact absurd (open'.symm.trans other.2) Bool.false_ne_true

/-- So are the waves of a run; what they leave for later ones is cancelled or skipped with
them. -/
lemma Waves.grounded {linter? : Option (Linter × String)} {n : Nat} {t u : Tide}
    {news : List (List Diagnostic)} (h : Waves s linter? n t l p trail news m q e u)
    (sound : Sound s.accepts l p) (fixers : p.registry = registry) (came : l.code ∈ texts)
    (before : Grounded s.accepts registry texts False False l.failed) :
    Grounded s.accepts registry (texts ++ shownTexts trail) (e = .cancelled)
      (e = .through ∧ m.halted = true) m.failed := by
  have left {p : Processor} (fixers : p.registry = registry) {pending : List Diagnostic} :
      ∀ d ∈ p.leftover pending, ∃ f, registry.fixer? d.rule = some f := fun d among =>
    exists_fixer (fixers ▸ (Processor.mem_prepare.mp (List.mem_of_mem_drop among)).2)
  induction h generalizing texts with
  | spent t l p => exact before.mono (List.subset_append_left ..) False.elim False.elim
  | finished n stop p => exact before.mono (List.subset_append_left ..) False.elim False.elim
  | stopped n going wave =>
      obtain ⟨-, grounded⟩ := wave.grounded sound fixers came before
      refine Grounded.failAll (grounded.mono (List.Subset.refl _) id ?_) fun d among => ?_
      · exact fun other => absurd other.1 (by simp)
      · obtain ⟨f, fixer⟩ := left fixers d among
        exact .cancelled fixer rfl
  | halted n going wave halt =>
      obtain ⟨-, grounded⟩ := wave.grounded sound fixers came before
      refine Grounded.failAll grounded fun d among => ?_
      obtain ⟨f, fixer⟩ := left fixers d among
      exact .skipped fixer ⟨rfl, halt⟩
  | broken n going round =>
      exact (round.grounded sound fixers came before).2.mono (List.Subset.refl _) False.elim
        False.elim
  | cancelled n going round stop =>
      obtain ⟨-, grounded⟩ := round.grounded sound fixers came before
      refine Grounded.failAll (grounded.mono (List.Subset.refl _) False.elim False.elim)
        fun d among => ?_
      obtain ⟨f, fixer⟩ := left fixers d among
      exact .cancelled fixer rfl
  | ebb going round still rest ih =>
      obtain ⟨code, grounded⟩ := round.grounded sound fixers came before
      rw [shownTexts_append]
      exact ih (round.walk.sound sound) ((round.walk.registry sound).trans fixers) code grounded
  | turn going round still rest ih =>
      obtain ⟨code, grounded⟩ := round.grounded sound fixers came before
      rw [shownTexts_append]
      exact ih ((round.walk.sound sound).entry (.found _ _))
        ((round.walk.registry sound).trans fixers) code grounded

/-! ### Runs -/

/-- **One run.** What its attempts enter is grounded in the text handed in and in those
that it shows. -/
lemma work_grounded {lint? : Option LintInfo}
    (run : (work s job (openRun s job p).2 (openRun s job p).1).Runs Interlude trail q
      (m, e, lint?)) :
    Grounded s.accepts p.registry (job.code :: shownTexts trail) (e = .cancelled)
      (e = .through ∧ m.halted = true) m.failed := by
  have opening := openRun_sound s job p
  have fixers := openRun_registry s job p
  have came : (openRun s job p).2.code ∈ [job.code] := List.mem_singleton_self _
  have none : Grounded s.accepts p.registry [job.code] False False (openRun s job p).2.failed :=
    fun sm among => by cases among
  cases manner : job.manner with
  | onePass =>
      rw [work_onePass manner, Course.runs_bind] at run
      obtain ⟨first, v, ⟨m', e'⟩, later, rfl, attempts, last⟩ := run
      obtain ⟨rfl, -, h⟩ := Course.runs_done.mp last
      cases h
      rw [pass_eq] at attempts
      rw [List.append_nil]
      refine ((runs_turns attempts).grounded (opening.entry (.failAll _ .noFixer _)) fixers
        (fun d among => ?_) came (none.failAll fun d among => ?_)).2
      · exact fixers ▸ (Processor.mem_prepare.mp among).2
      · exact .noFixer (fixer?_of_unfixable (fixers ▸ (Processor.mem_unfixable.mp among).2))
  | inWaves linter? name =>
      obtain ⟨news, t, waves, -⟩ := runs_work_inWaves manner run
      exact waves.grounded opening fixers came none

/-- **A whole run.** Every failure in the result of an accepted run is grounded, in the
text handed in and in those that the run has shown: whether it was cancelled or halted
is told by its fault. -/
lemma process_grounded {r : Result}
    (run : (process s job p).Runs Interlude trail q (r, some l)) :
    Grounded s.accepts p.registry (job.code :: shownTexts trail) (r.fault? = some .cancelled)
      (∃ d fault, Halt d fault ∧ r.fault? = some fault) r.failed := by
  obtain ⟨-, e, lint?, m, v, attempts, last, rfl⟩ := runs_process run
  have walk := walk_work attempts
  have sound := walk.sound (openRun_sound s job p)
  have books : l = (closing s e m v).2 := congrArg Prod.snd last
  have failed : (l.result lint?).failed = m.failed := books ▸ (closing_ends sound e).failed
  obtain ⟨-, fault⟩ := closing_fault sound e
  rw [← books] at fault
  rw [failed]
  refine (work_grounded attempts).mono (List.Subset.refl _) (fun stop => ?_) fun halt => ?_
  · rcases fault with ⟨-, fault⟩ | ⟨text, other, -⟩ | ⟨other, -⟩
    · exact fault
    · exact absurd (stop.symm.trans other) (by simp)
    · exact absurd (stop.symm.trans other) (by simp)
  · have kept : l.fault? = m.fault? := by
      rcases fault with ⟨other, -⟩ | ⟨text, other, -⟩ | ⟨-, fault⟩
      · exact absurd (halt.1.symm.trans other) (by simp)
      · exact absurd (halt.1.symm.trans other) (by simp)
      · exact fault
    rcases walk.fault with ⟨-, open'⟩ | ⟨d, fault, halts, found⟩
    · have never : (openRun s job p).2.halted = false := rfl
      exact absurd ((halt.2.symm.trans open').trans never) (by simp)
    · exact ⟨d, fault, halts, kept.trans found⟩

end LintRepair.Batch
