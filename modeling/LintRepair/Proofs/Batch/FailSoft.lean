/-
Runs by waves whose linter fails whenever it is asked.

* `Course.KeepsUp`: a course goes on as another does, but may pause besides;
* `Ledger.Like`, `Processor.Twin`: books that differ in what was told, asked and
  noted at most, and processors on which the moves of a run make such books;
* `Twin.fixOne`, `Twin.conclude`: the moves of a run keep both;
* `wavesUpTo_keepsUp`: waves behind which a linter fails keep up with waves behind
  which none is asked;
* `process_failSoft`: so a run whose linter fails has the same result as one that
  asks none.
-/
import LintRepair.Proofs.Batch.Isolation
import LintRepair.Proofs.Batch.Unlinted

namespace LintRepair.Batch

open Text Check Repair
open Processor (Interlude interlude_refl)

/-! ### Courses that keep up -/

namespace Course

variable {σ α β : Type} {R : σ → σ → Prop} {E : σ → α → σ → β → Prop}

/-- A course keeps up with another one: it pauses where that one does, in related
states, goes on so from related states, and ends with it in states and with
results that are related by `E`. Where it pauses besides, nothing is expected to
happen. -/
inductive KeepsUp (R : σ → σ → Prop) (E : σ → α → σ → β → Prop) :
    Course σ α → Course σ β → Prop
  | done {s t : σ} {a : α} {b : β} (ends : E s a t b) : KeepsUp R E (done s a) (done t b)
  | paused {s t : σ} {resume : σ → Course σ α} {resume' : σ → Course σ β} (shows : R s t)
      (later : ∀ u v, R u v → KeepsUp R E (resume u) (resume' v)) :
      KeepsUp R E (paused s resume) (paused t resume')
  | besides {s : σ} {resume : σ → Course σ α} {d : Course σ β}
      (later : KeepsUp R E (resume s) d) : KeepsUp R E (paused s resume) d

namespace KeepsUp

variable {c : Course σ α} {d : Course σ β}

/-- Courses that follow on others keep up as those do. -/
lemma bind {γ δ : Type} {E' : σ → γ → σ → δ → Prop} {next : α → σ → Course σ γ}
    {next' : β → σ → Course σ δ} (first : c.KeepsUp R E d)
    (later : ∀ s a t b, E s a t b → (next a s).KeepsUp R E' (next' b t)) :
    (c.bind next).KeepsUp R E' (d.bind next') := by
  induction first with
  | done ends => exact later _ _ _ _ ends
  | paused shows _ ih => exact .paused shows ih
  | besides _ ih => exact .besides ih

/-- Where nothing interferes they end together. -/
lemma finish (h : c.KeepsUp R E d) : E c.finish.1 c.finish.2 d.finish.1 d.finish.2 := by
  induction h with
  | done ends => exact ends
  | paused shows _ ih => exact ih _ _ shows
  | besides _ ih => exact ih

/-- What others do to the one course they may do to the other, which ends with it
then. -/
lemma runs {between : σ → σ → Prop} (idle : ∀ s, between s s)
    (copies : ∀ {s t v}, R s t → between t v → ∃ u, between s u ∧ R u v) {trail : List σ} {t : σ}
    {b : β} (h : c.KeepsUp R E d) (run : d.Runs between trail t b) :
    ∃ trail' s a, c.Runs between trail' s a ∧ E s a t b := by
  induction h generalizing trail with
  | @done s t a b ends =>
      obtain ⟨rfl, rfl, rfl⟩ := runs_done.mp run
      exact ⟨[], s, a, .done s a, ends⟩
  | @paused s t resume resume' shows _ ih =>
      obtain ⟨v, rest, rfl, wait, run⟩ := runs_paused.mp run
      obtain ⟨u, wait', same⟩ := copies shows wait
      obtain ⟨trail', w, a, run', ends⟩ := ih u v same run
      exact ⟨s :: trail', w, a, .paused wait' run', ends⟩
  | @besides s resume d _ ih =>
      obtain ⟨trail', w, a, run', ends⟩ := ih run
      exact ⟨s :: trail', w, a, .paused (idle s) run', ends⟩

end KeepsUp

end Course

variable {s : Surroundings} {l m : Ledger} {p q : Processor} {d : Diagnostic}

/-! ### Books and processors that a run does not tell apart -/

/-- Two books that differ in what the observer was told, what linters were asked,
and the notes at most. -/
def Ledger.Like (l m : Ledger) : Prop :=
  ∃ updates questions notes, m = { l with updates, questions, notes }

namespace Ledger.Like

lemma refl (l : Ledger) : l.Like l := ⟨_, _, _, rfl⟩

lemma code (h : l.Like m) : m.code = l.code := by
  obtain ⟨updates, questions, notes, rfl⟩ := h
  rfl

lemma applied (h : l.Like m) : m.applied = l.applied := by
  obtain ⟨updates, questions, notes, rfl⟩ := h
  rfl

lemma halted (h : l.Like m) : m.halted = l.halted := by
  obtain ⟨updates, questions, notes, rfl⟩ := h
  rfl

/-- A result shows nothing of what they differ in. -/
lemma result (h : l.Like m) (lint? : Option LintInfo) : m.result lint? = l.result lint? := by
  obtain ⟨updates, questions, notes, rfl⟩ := h
  rfl

lemma failAll (h : l.Like m) (cause : Cause) (ds : List Diagnostic) :
    (l.failAll cause ds).Like (m.failAll cause ds) := by
  obtain ⟨updates, questions, notes, rfl⟩ := h
  exact ⟨_, _, _, rfl⟩

lemma fail (h : l.Like m) (sm : Summary) :
    ({ l with failed := l.failed ++ [sm] } : Ledger).Like
      { m with failed := m.failed ++ [sm] } := by
  obtain ⟨updates, questions, notes, rfl⟩ := h
  exact ⟨_, _, _, rfl⟩

lemma halt (h : l.Like m) (halted : Bool) (fault? : Option RunFault) :
    ({ l with halted, fault? } : Ledger).Like { m with halted, fault? } := by
  obtain ⟨updates, questions, notes, rfl⟩ := h
  exact ⟨_, _, _, rfl⟩

lemma blame (h : l.Like m) (fault? : Option RunFault) :
    ({ l with fault? } : Ledger).Like { m with fault? } := by
  obtain ⟨updates, questions, notes, rfl⟩ := h
  exact ⟨_, _, _, rfl⟩

lemma note (h : l.Like m) (n : Note) : (l.note n).Like (m.note n) := by
  obtain ⟨updates, questions, notes, rfl⟩ := h
  exact ⟨_, _, _, rfl⟩

lemma adopt (h : l.Like m) (r : Recovery) : (l.adopt r).Like (m.adopt r) := by
  obtain ⟨updates, questions, notes, rfl⟩ := h
  rw [Ledger.adopt, Ledger.adopt]
  dsimp only
  split <;> exact ⟨_, _, _, rfl⟩

end Ledger.Like

namespace Processor

/-- Two processors with a run under way that differ neither in what decides how the
run goes on, nor in what is recovered. -/
structure Twin (p q : Processor) : Prop where
  registry : q.registry = p.registry
  halts : q.halts = p.halts
  waveSize : q.waveSize = p.waveSize
  running : p.running = true
  running' : q.running = true
  cancelled : q.cancelled = p.cancelled
  archive : p.archive.Alike q.archive

/-- Two processors that differ in their pasts, and in whether they ask linters, at
most. -/
structure Peers (p q : Processor) : Prop where
  registry : q.registry = p.registry
  settings : ∃ flag, q.settings = { p.settings with relintAfterEachFix := flag }
  limit : q.archive.limit = p.archive.limit
  running : q.running = p.running

namespace Twin

lemma withArchive (h : p.Twin q) {a b : Archive} (alike : a.Alike b) :
    ({ p with archive := a } : Processor).Twin { q with archive := b } :=
  ⟨h.registry, h.halts, h.waveSize, h.running, h.running', h.cancelled, alike⟩

lemma withLedger (h : p.Twin q) (l? m? : Option Ledger) :
    ({ p with ledger? := l? } : Processor).Twin { q with ledger? := m? } :=
  ⟨h.registry, h.halts, h.waveSize, h.running, h.running', h.cancelled, h.archive⟩

/-- What others do to the one in a pause they may do to the other. -/
lemma copies {v : Processor} (h : p.Twin q) (wait : Interlude q v) :
    ∃ u, Interlude p u ∧ u.Twin v := by
  obtain ⟨stop, cache, rfl⟩ := wait
  refine ⟨_, ⟨stop, p.cache, rfl⟩, h.registry, h.halts, h.waveSize, h.running, h.running', ?_,
    h.archive⟩
  dsimp only
  rw [h.cancelled]

lemma grant (h : p.Twin q) (r : Request) : (p.grant r).Twin (q.grant r) := by
  cases r with
  | cancel =>
      refine ⟨h.registry, h.halts, h.waveSize, h.running, h.running', ?_, h.archive⟩
      rw [Processor.grant, Processor.grant, Processor.cancel, Processor.cancel, h.cancelled,
        h.running, h.running']
  | clear =>
      rw [Processor.grant, Processor.grant, if_pos h.running, if_pos h.running']
      exact h

lemma foldl_grant (h : p.Twin q) (rs : List Request) :
    (rs.foldl Processor.grant p).Twin (rs.foldl Processor.grant q) := by
  induction rs generalizing p q with
  | nil => exact h
  | cons r rest ih => exact ih (h.grant r)

/-- The observer of a run is told the same, and asks for the same. -/
lemma announce (h : p.Twin q) (like : l.Like m) (s : Surroundings) (phase : Phase)
    (rule message : String) :
    (announce s phase rule message l p).1.Twin (announce s phase rule message m q).1 ∧
      (Batch.announce s phase rule message l p).2.Like
        (Batch.announce s phase rule message m q).2 := by
  obtain ⟨updates, questions, notes, rfl⟩ := like
  refine ⟨?_, ⟨_, _, _, rfl⟩⟩
  have phased : ({ p with phase, ledger? := some l } : Processor).Twin
      { q with phase, ledger? := some { l with updates, questions, notes } } :=
    ⟨h.registry, h.halts, h.waveSize, h.running, h.running', h.cancelled, h.archive⟩
  exact phased.foldl_grant _

/-- The same text is recovered. -/
lemma salvage (h : p.Twin q) (like : l.Like m) (accepts : Acceptor) (code : Text) :
    (salvage accepts code l p).1.Twin (salvage accepts code m q).1 ∧
      (Batch.salvage accepts code l p).2.Like (Batch.salvage accepts code m q).2 := by
  obtain ⟨same, alike⟩ := recover_alike h.archive accepts code l.applied.length
  rw [Batch.salvage, Batch.salvage, Processor.recover, Processor.recover, like.applied]
  dsimp only
  rw [same]
  exact ⟨h.withArchive alike, like.adopt _⟩

/-- The same outcome is entered. -/
lemma settle (h : p.Twin q) (like : l.Like m) (accepts : Acceptor) (d : Diagnostic)
    (a : Attempt) :
    (settle accepts d l p a).1.Twin (settle accepts d m q a).1 ∧
      (Batch.settle accepts d l p a).2.Like (Batch.settle accepts d m q a).2 := by
  cases a with
  | applied code sm =>
      obtain ⟨updates, questions, notes, rfl⟩ := like
      refine ⟨h.withArchive ((h.archive.record ?_).takeSnapshot _ _), ⟨_, _, _, rfl⟩⟩
      rfl
  | failed sm =>
      obtain ⟨updates, questions, notes, rfl⟩ := like
      exact ⟨h, ⟨_, _, _, rfl⟩⟩
  | broken sm code =>
      obtain ⟨twin, books⟩ := h.salvage (like.fail sm) accepts code
      have halts := twin.halts
      rw [Processor.halts, Processor.halts] at halts
      rw [Batch.settle, Batch.settle]
      dsimp only
      rw [halts]
      split
      · exact ⟨twin, books.halt true _⟩
      · exact ⟨twin, books⟩
  | raised e =>
      have noted := (like.note (.raised d e)).fail (.failure d (.raised e) [])
      obtain ⟨twin, books⟩ := h.salvage noted accepts l.code
      obtain ⟨updates, questions, notes, rfl⟩ := like
      rw [Batch.settle, Batch.settle]
      dsimp only
      split
      · exact ⟨twin, books.halt true _⟩
      · exact ⟨twin, books⟩

/-- The turn of a diagnostic does the same. -/
lemma fixOne (h : p.Twin q) (like : l.Like m) (s : Surroundings) (d : Diagnostic) :
    (fixOne s d l p).1.Twin (fixOne s d m q).1 ∧
      (Batch.fixOne s d l p).2.Like (Batch.fixOne s d m q).2 := by
  have begun : (l.begin d).Like (m.begin d) := by
    obtain ⟨updates, questions, notes, rfl⟩ := like
    exact ⟨_, _, _, rfl⟩
  obtain ⟨told, books⟩ := h.announce begun s .fixing (d.rule.getD "")
    ("Fixing " ++ ruleText d.rule ++ " at line " ++ d.line.text)
  have told' : (beginTurn s d l p).1.Twin (beginTurn s d m q).1 := told
  have books' : (beginTurn s d l p).2.Like (beginTurn s d m q).2 := books
  rw [fixOne_eq, fixOne_eq, told'.registry, books'.code]
  refine Twin.settle ?_ books' s.accepts d _
  exact ⟨told'.registry, told'.halts, told'.waveSize, told'.running, told'.running',
    told'.cancelled, told'.archive⟩

/-- The last part of a run comes to the same. -/
lemma conclude (h : p.Twin q) (like : l.Like m) (s : Surroundings) (e : Ending) :
    (conclude s e l p).2.Like (conclude s e m q).2 := by
  cases e with
  | cancelled => exact like.blame (some .cancelled)
  | broken text =>
      have noted := (like.note .broken).blame (some (.unexpected text))
      rw [Batch.conclude, Batch.conclude, like.code]
      exact (h.salvage noted s.accepts l.code).2
  | through =>
      rw [Batch.conclude, Batch.conclude, like.halted]
      split
      · exact like
      obtain ⟨told, books⟩ := h.announce like s .validating "" "Validating final code"
      dsimp only
      rw [validate, validate, books.applied, books.code]
      split
      · exact books
      split
      · obtain ⟨updates, questions, notes, same⟩ := books
        rw [same]
        exact ⟨_, _, _, rfl⟩
      · next fault _ => exact (told.salvage books s.accepts _).2.blame (some (.invalid fault))

/-- So does its end. -/
lemma closing (h : p.Twin q) (like : l.Like m) (s : Surroundings) (e : Ending) :
    (closing s e l p).2.Like (closing s e m q).2 := by
  obtain ⟨updates, notes, books⟩ :=
    close_books s (Batch.conclude s e l p).2 (Batch.conclude s e l p).1
  obtain ⟨updates', notes', books'⟩ :=
    close_books s (Batch.conclude s e m q).2 (Batch.conclude s e m q).1
  obtain ⟨_, _, _, same⟩ := h.conclude like s e
  rw [Batch.closing, Batch.closing, books, books', same]
  exact ⟨_, _, _, rfl⟩

end Twin

/-- Runs open alike on processors that differ in their pasts, and in whether they
ask linters, at most. -/
lemma Peers.openRun (h : p.Peers q) (s : Surroundings) (job job' : Job)
    (code : job'.code = job.code) (diagnostics : job'.diagnostics = job.diagnostics) :
    (openRun s job p).1.Twin (openRun s job' q).1 ∧
      (Batch.openRun s job p).2.Like (Batch.openRun s job' q).2 := by
  obtain ⟨flag, settings⟩ := h.settings
  have books : job'.books = job.books := by rw [Job.books, Job.books, code, diagnostics]
  have ready : (job.ready p).Twin (job'.ready q) :=
    { registry := h.registry
      halts := by
        show q.settings.haltOnSyntaxFailure.isTrue = _
        rw [settings]
        rfl
      waveSize := by
        show q.settings.relintBatchSize.value.toNat = _
        rw [settings]
        rfl
      running := rfl
      running' := rfl
      cancelled := rfl
      archive := by
        show (p.archive.clear.takeSnapshot startName job.code).Alike
          (q.archive.clear.takeSnapshot startName job'.code)
        rw [code]
        exact (Archive.Alike.clear h.limit).takeSnapshot _ _ }
  rw [openRun_eq, openRun_eq, books]
  exact ready.announce (.refl _) s _ _ _

end Processor

/-! ### The parts of a run -/

/-- How parts of two runs end in step: on processors and with books that a run does
not tell apart, and with the same besides. -/
def Matched {α : Type} (p : Processor) (a : Ledger × α) (q : Processor) (b : Ledger × α) : Prop :=
  p.Twin q ∧ a.1.Like b.1 ∧ b.2 = a.2

lemma turns_keepsUp (s : Surroundings) (ds : List Diagnostic) (h : p.Twin q) (like : l.Like m) :
    (turns s ds l p).KeepsUp Processor.Twin Matched (turns s ds m q) := by
  induction ds generalizing l m p q with
  | nil => exact .done ⟨h, like, rfl⟩
  | cons d ds ih =>
      by_cases stop : p.cancelled = true
      · rw [turns_cancelled stop, turns_cancelled (h.cancelled.trans stop)]
        exact .done ⟨h, like.failAll _ _, rfl⟩
      have going : p.cancelled = false := by simpa using stop
      by_cases halt : l.halted = true
      · rw [turns_halted going halt,
          turns_halted (h.cancelled.trans going) (like.halted.trans halt)]
        exact .done ⟨h, like.failAll _ _, rfl⟩
      have open' : l.halted = false := by simpa using halt
      rw [turns_cons going open', turns_cons (h.cancelled.trans going) (like.halted.trans open')]
      obtain ⟨twin, books⟩ := h.fixOne like s d
      exact .paused (twin.withLedger _ _) fun u v same => ih same books

lemma pass_keepsUp (s : Surroundings) (ds : List Diagnostic) (h : p.Twin q) (like : l.Like m) :
    (pass s ds l p).KeepsUp Processor.Twin Matched (pass s ds m q) := by
  rw [pass_eq, pass_eq, Processor.prepare_congr h.registry, Processor.unfixable_congr h.registry]
  exact turns_keepsUp s _ h (like.failAll _ _)

/-- A linter that raises an error or takes too long whenever it is asked, and leaves
the run alone. -/
def Fails (linter : Linter) : Prop :=
  ∀ asked question, (linter asked question).report.isFailure = true ∧
    (linter asked question).cancels = false

/-- A failure leads to a note at most, and nothing is learned from it. -/
lemma receive_failure {r : Report} (limit : Json.Quantity) (failure : r.isFailure = true)
    (like : l.Like m) :
    (receive limit l r).1.Like m ∧ (receive limit l r).2 = .ok none := by
  obtain ⟨updates, questions, notes, rfl⟩ := like
  cases r with
  | fresh ds => cases failure
  | failed reason => exact ⟨⟨_, _, _, rfl⟩, rfl⟩
  | timedOut => exact ⟨⟨_, _, _, rfl⟩, rfl⟩
  | broken text => cases failure

/-- **The question behind a wave.** A linter that fails is asked behind a pause, and
the run goes on as it does where there is none. -/
lemma inquire_keepsUp {asked? : Option (Linter × String)}
    (fails : ∀ asked, asked? = some asked → Fails asked.1) (h : p.Twin q) (like : l.Like m) :
    (inquire asked? l p).KeepsUp Processor.Twin (fun u a v b => Matched u a v b ∧ a.2 = .ok none)
      (inquire none m q) := by
  cases asked? with
  | none => exact .done ⟨⟨h, like, rfl⟩, rfl⟩
  | some asked =>
      obtain ⟨linter, name⟩ := asked
      have silent : Fails linter := fails _ rfl
      rw [inquire]
      by_cases endless : p.settings.relintTimeout.toFloat?.isNone = true
      · rw [consult_endless endless]
        obtain ⟨books, nothing⟩ := receive_failure (r := .failed endlessText)
          p.settings.relintTimeout rfl like
        exact .done ⟨⟨h, books, nothing.symm⟩, nothing⟩
      rw [consult_eq (Bool.eq_false_iff.mpr endless)]
      obtain ⟨failure, leaves⟩ := silent l.questions (l.code, name)
      have question : (l.ask (l.code, name)).Like m := by
        obtain ⟨updates, questions, notes, rfl⟩ := like
        exact ⟨_, _, _, rfl⟩
      obtain ⟨books, nothing⟩ := receive_failure p.settings.relintTimeout failure question
      refine .besides ?_
      rw [leaves, if_neg Bool.false_ne_true]
      exact .done ⟨⟨h.withLedger (some l) q.ledger?, books, nothing.symm⟩, nothing⟩

/-- What follows the pass of a wave keeps up if further waves do. -/
lemma goOn_keepsUp {asked? : Option (Linter × String)} {before before' : Ledger}
    {waves waves' : Tide → Ledger → Step (Ledger × Ending × Tide)}
    (fails : ∀ asked, asked? = some asked → Fails asked.1)
    (further : ∀ t l m p q, p.Twin q → l.Like m →
      (waves t l p).KeepsUp Processor.Twin Matched (waves' t m q))
    (t : Tide) (rest : List Diagnostic) (e : Ending) (started : before.Like before')
    (h : p.Twin q) (like : l.Like m) :
    (goOn asked? waves t rest before l e p).KeepsUp Processor.Twin Matched
      (goOn none waves' t rest before' m e q) := by
  rw [goOn, goOn, like.halted]
  split
  · exact .done ⟨h, like.failAll _ _, rfl⟩
  split
  · exact .done ⟨h, like.failAll _ _, rfl⟩
  rw [Routine.bind_apply, Routine.bind_apply]
  refine (inquire_keepsUp fails h like).bind ?_
  rintro u ⟨after, answer⟩ v ⟨after', answer'⟩ ⟨⟨twin, books, same⟩, nothing⟩
  obtain rfl : answer = .ok none := nothing
  obtain rfl : answer' = .ok none := same
  dsimp only at books ⊢
  rw [Routine.bind_apply, Routine.bind_apply, Routine.look_apply, Routine.look_apply,
    Course.bind_done, Course.bind_done, twin.cancelled]
  split
  · exact .done ⟨twin, books.failAll _ _, rfl⟩
  · rw [books.applied, started.applied]
    exact further _ _ _ _ _ twin books

/-- **Waves.** Waves behind which a linter fails keep up with waves behind which
none is asked. -/
lemma wavesUpTo_keepsUp {asked? : Option (Linter × String)} (s : Surroundings)
    (fails : ∀ asked, asked? = some asked → Fails asked.1) (n : Nat) (t : Tide) (h : p.Twin q)
    (like : l.Like m) :
    (wavesUpTo s asked? n t l p).KeepsUp Processor.Twin Matched (wavesUpTo s none n t m q) := by
  induction n generalizing t l m p q with
  | zero => exact .done ⟨h, like.note _, rfl⟩
  | succ n ih =>
      by_cases stop : (t.pending.isEmpty || l.halted) = true
      · rw [wavesUpTo_succ_end stop, wavesUpTo_succ_end (like.halted ▸ stop)]
        exact .done ⟨h, like, rfl⟩
      have going : (t.pending.isEmpty || l.halted) = false := by simpa using stop
      have crest : q.crest t.pending = p.crest t.pending := by
        rw [Processor.crest_eq, Processor.crest_eq, h.waveSize,
          Processor.prepare_congr h.registry, Processor.unfixable_congr h.registry]
      have leftover : q.leftover t.pending = p.leftover t.pending := by
        rw [Processor.leftover_eq, Processor.leftover_eq, h.waveSize,
          Processor.prepare_congr h.registry]
      rw [wavesUpTo_succ going, wavesUpTo_succ (like.halted ▸ going), crest, leftover]
      refine (pass_keepsUp s _ h like).bind ?_
      rintro u ⟨after, e⟩ v ⟨after', _⟩ ⟨twin, books, rfl⟩
      exact goOn_keepsUp fails (fun t l m p q => ih t) t _ _ like twin books

/-- So do all waves of a run, with the same account of what was learned. -/
lemma waves_keepsUp {linter? linter?' : Option Linter} {name name' : Option String}
    (s : Surroundings) (fails : ∀ linter, linter? = some linter → Fails linter)
    (unasked : q.linterFor linter?' name' = none) (ds : List Diagnostic) (h : p.Twin q)
    (like : l.Like m) :
    (waves s linter? name ds l p).KeepsUp Processor.Twin Matched
      (waves s linter?' name' ds m q) := by
  rw [waves_eq, waves_eq, unasked]
  refine (wavesUpTo_keepsUp s (fun asked h => fails _ (linterFor_eq h)) _ _ h like).bind ?_
  rintro u ⟨after, e, t⟩ v ⟨after', _⟩ ⟨twin, books, rfl⟩
  refine .done ⟨twin, books, ?_⟩
  dsimp only at books ⊢
  rw [Tide.info, Tide.info, books.applied]

/-! ### Whole runs -/

/-- How whole runs end alike: with the same result, and with books if they were not
turned away. -/
def SameResult (_ : Processor) (a : Result × Option Ledger) (_ : Processor)
    (b : Result × Option Ledger) : Prop :=
  b.1 = a.1 ∧ b.2.isSome = a.2.isSome

section Runs

variable {linter : Linter} {linter?' : Option Linter}

lemma process_keepsUp (s : Surroundings) (peers : p.Peers q) (fails : Fails linter)
    (unasked : linter?' = none ∨ q.settings.relintAfterEachFix.isTrue = false) (code : Text)
    (ds : List Diagnostic) (name name' : Option String) :
    (process s ⟨code, ds, .inWaves (some linter) name⟩ p).KeepsUp Processor.Twin SameResult
      (process s ⟨code, ds, .inWaves linter?' name'⟩ q) := by
  by_cases running : p.running = true
  · rw [process_running running, process_running (peers.running.trans running)]
    exact .done ⟨rfl, rfl⟩
  have idle : p.running = false := by simpa using running
  rw [process_idle idle, process_idle (peers.running.trans idle), work_inWaves rfl,
    work_inWaves rfl]
  obtain ⟨twin, books⟩ := peers.openRun s ⟨code, ds, .inWaves (some linter) name⟩
    ⟨code, ds, .inWaves linter?' name'⟩ rfl rfl
  refine (waves_keepsUp s ?_ ?_ ds twin books).bind ?_
  · rintro _ ⟨⟩
    exact fails
  · obtain ⟨file, form⟩ := linterFor_form (openRun s ⟨code, ds, .inWaves linter?' name'⟩ q).1
      linter?' name'
    rw [form, openRun_settings]
    rcases unasked with rfl | unasked
    · split <;> rfl
    · exact if_neg (by simp [unasked])
  · rintro u ⟨after, e, lint?⟩ v ⟨after', _⟩ ⟨twin', books', rfl⟩
    exact .done ⟨(twin'.closing books' s e).result lint?, rfl⟩

/-- **A linter that fails.** A run by waves whose linter fails whenever it is asked
has the same result as one with the same fixers and settings and without a linter,
or with the setting that turns linters off, including what it tells of linters:
when nothing interferes, and besides whenever others cancel the one run, for they
may cancel the other one so that it has this result too. -/
theorem process_failSoft (s : Surroundings) (peers : p.Peers q) (fails : Fails linter)
    (unasked : linter?' = none ∨ q.settings.relintAfterEachFix.isTrue = false) (code : Text)
    (ds : List Diagnostic) (name name' : Option String) :
    (process s ⟨code, ds, .inWaves (some linter) name⟩ p).finish.2.1 =
        (process s ⟨code, ds, .inWaves linter?' name'⟩ q).finish.2.1 ∧
      ∀ trail v r m,
        (process s ⟨code, ds, .inWaves linter?' name'⟩ q).Runs Interlude trail v (r, some m) →
        ∃ trail' u l,
          (process s ⟨code, ds, .inWaves (some linter) name⟩ p).Runs Interlude trail' u
            (r, some l) := by
  have keeps := process_keepsUp s peers fails unasked code ds name name'
  refine ⟨keeps.finish.1.symm, fun trail v r m run => ?_⟩
  obtain ⟨trail', u, ⟨r', l?⟩, run', same, books⟩ :=
    keeps.runs interlude_refl (fun twin wait => twin.copies wait) run
  obtain rfl : r = r' := same
  obtain ⟨l, rfl⟩ := Option.isSome_iff_exists.mp books.symm
  exact ⟨trail', u, l, run'⟩

end Runs

/-! ### A linter that is out of order -/

/-- A linter that takes too long when it is asked first, and raises an error later. -/
def outOfOrder : Linter := fun asked _ =>
  { report := if asked.isEmpty then .timedOut else .failed "no connection" }

lemma outOfOrder_fails : Fails outOfOrder := by
  intro asked question
  refine ⟨?_, rfl⟩
  cases asked <;> rfl

/-- The processor of `sipping`, but that it asks no linter. -/
def incurious : Processor :=
  { sipping with settings := { sipping.settings with relintAfterEachFix := .bool false } }

/-- The linter is asked behind the wave that repairs one of the diagnostics. -/
lemma finish_twofold_outOfOrder :
    (process lenient (twofold (.inWaves (some outOfOrder) none)) sipping).finish.2.2.map
      (·.questions) = some [("0\n1".toList, sipping.settings.fileName)] := by
  rw [process_idle rfl, work_inWaves rfl, waves_eq, wavesUpTo_opened rfl, prepare_twofold]
  decide +kernel

theorem twofold_failSoft :
    sipping.Peers sipping ∧ sipping.Peers incurious ∧ Fails outOfOrder ∧
    incurious.settings.relintAfterEachFix.isTrue = false ∧
    (process lenient (twofold (.inWaves (some outOfOrder) none)) sipping).finish.2.2.map
      (·.questions) = some [("0\n1".toList, sipping.settings.fileName)] ∧
    (process lenient (twofold (.inWaves (some outOfOrder) none)) sipping).finish.2.1 =
      (process lenient (twofold (.inWaves none none)) sipping).finish.2.1 ∧
    (process lenient (twofold (.inWaves (some outOfOrder) none)) sipping).finish.2.1 =
      (process lenient (twofold (.inWaves (some outOfOrder) none)) incurious).finish.2.1 := by
  have same : sipping.Peers sipping := ⟨rfl, ⟨_, rfl⟩, rfl, rfl⟩
  have off : sipping.Peers incurious := ⟨rfl, ⟨_, rfl⟩, rfl, rfl⟩
  have none_asked : (none : Option Linter) = none ∨
      sipping.settings.relintAfterEachFix.isTrue = false := .inl rfl
  have turned_off : some outOfOrder = none ∨
      incurious.settings.relintAfterEachFix.isTrue = false := .inr rfl
  have unlinted := process_failSoft lenient same outOfOrder_fails none_asked
    (twofold .onePass).code (twofold .onePass).diagnostics none none
  have switched := process_failSoft lenient off outOfOrder_fails turned_off
    (twofold .onePass).code (twofold .onePass).diagnostics none none
  exact ⟨same, off, outOfOrder_fails, rfl, finish_twofold_outOfOrder, unlinted.1, switched.1⟩

end LintRepair.Batch
