/-
Why a run warns that the structure of its text has changed.

* `mem_changes`: when the change of a count is reported;
* `Summary.Reports`: a repair reports that the count of a signal has changed;
  `attempt_reports`: a repair that changes the count does so;
* `Explained`: the invariant of a run, that a count differs from that at its start
  only if a repair reports a change of it;
* `process_explained`: so every warning at the end of a run is explained by one of
  its repairs.
-/
import LintRepair.Proofs.Batch.Sheet

namespace LintRepair.Batch

open Text Check Repair
open Processor (Interlude)

variable {accepts : Acceptor} {registry : Registry} {s : Surroundings} {job : Job}
variable {l m : Ledger} {p q : Processor} {trail : List Processor} {d : Diagnostic}
variable {before after code : Text} {signal : Signal} {sm : Summary}

/-! ### Reports of repairs -/

/-- The change of a count is reported just where the counts differ. -/
lemma mem_changes {a b : Nat} :
    .count signal a b ∈ changes before after ↔
      signal.count before = a ∧ signal.count after = b ∧ a ≠ b := by
  have listed : signal ∈ Signal.all := by cases signal <;> decide
  have lines : ∀ m n : Nat, .count signal a b ∉
      if lineThreshold < distance m n then [Change.lines m n] else [] := by
    intro m n
    split <;> simp
  rw [changes, List.mem_append, or_iff_right (lines _ _), List.mem_filterMap]
  constructor
  · rintro ⟨other, -, found⟩
    dsimp only at found
    split at found
    · cases found
    · next differs =>
      cases found
      exact ⟨rfl, rfl, differs⟩
  · rintro ⟨rfl, rfl, differs⟩
    exact ⟨signal, listed, if_neg differs⟩

/-- The summary of a repair reports that the count of a signal has changed. -/
def Summary.Reports (sm : Summary) (signal : Signal) : Prop :=
  ∃ a b, a ≠ b ∧ .change (.count signal a b) ∈ sm.warnings

/-- What a fixer has made is compared with the text before it. -/
lemma assess_warnings {f : Fixer} {r : FixResult}
    (done : assess accepts f code d r = .applied after sm) :
    ∀ c ∈ changes code after, .change c ∈ sm.warnings := by
  rw [assess] at done
  split at done
  · cases done
  split at done
  · cases done
  · cases done
    intro c changed
    exact List.mem_append_right _ (List.mem_map_of_mem changed)

/-- So is the text of every repair. -/
lemma attempt_warnings (done : attempt accepts registry code d = .applied after sm) :
    ∀ c ∈ changes code after, .change c ∈ sm.warnings := by
  rw [attempt] at done
  split at done
  · cases done
  split at done
  · cases done
  split at done
  · cases done
  · cases done
  split at done
  · cases done
  · exact assess_warnings done

/-- A repair that changes the count of a signal reports it. -/
lemma attempt_reports (done : attempt accepts registry code d = .applied after sm)
    (changed : signal.count code ≠ signal.count after) : sm.Reports signal :=
  ⟨_, _, changed, attempt_warnings done _ (mem_changes.mpr ⟨rfl, rfl, changed⟩)⟩

/-! ### The invariant -/

/-- Against the text at the start of a run, a count has changed only if a repair
reports a change of it. -/
def Sheet.Explains (t : Sheet) (start : Text) : Prop :=
  ∀ signal : Signal, signal.count start ≠ signal.count t.code → ∃ sm ∈ t.applied, sm.Reports signal

/-- **One turn.** Where the count differs behind a turn, it has done so before, or
the turn has changed it. -/
lemma Sheet.Explains.turn {t : Sheet} {start : Text} (h : t.Explains start) (halts : Bool)
    (d : Diagnostic) : (t.turn accepts registry halts d).Explains start := by
  rw [Sheet.turn]
  split
  · exact h
  cases tried : attempt accepts registry t.code d with
  | failed sm => exact h
  | broken sm code => exact h
  | raised e => exact h
  | applied after sm =>
      intro signal changed
      by_cases same : signal.count t.code = signal.count after
      · obtain ⟨early, made, reports⟩ := h signal (same ▸ changed)
        exact ⟨early, List.mem_append_left _ made, reports⟩
      · exact ⟨sm, List.mem_append_right _ (List.mem_singleton_self sm), attempt_reports tried same⟩

/-- While a run is under way, its books hold no warning, and its repairs explain
every count that has changed. -/
structure Explained (l : Ledger) : Prop where
  quiet : l.warnings = []
  counts : l.sheet.Explains l.start

lemma Explained.entry (h : Explained l) (write : Entry l m) : Explained m := by
  cases write <;> exact ⟨h.quiet, h.counts⟩

lemma adopt_warnings (l : Ledger) (r : Recovery) : (l.adopt r).warnings = l.warnings := by
  obtain ⟨code, applied, failed, recoveries, adopted⟩ := adopt_books l r
  rw [adopted]

/-- A turn enters no warning of a run. -/
lemma Entered.warnings (h : Entered d l m) : m.warnings = l.warnings := by
  cases h with
  | repaired | failed => rfl
  | salvaged sm notes r | halted sm notes r => exact adopt_warnings _ r

lemma Explained.turn (h : Explained l) (sound : Sound s.accepts l p) (open' : l.halted = false)
    (d : Diagnostic) : Explained (fixOne s d l p).2 where
  quiet := (fixOne_entered s d l p).warnings.trans h.quiet
  counts := by
    rw [(fixOne_settled sound d).start, fixOne_sheet sound open' d]
    exact h.counts.turn p.halts d

/-- **A whole run.** Its books stay explained. -/
lemma Walk.explained (walk : Walk s l p trail m q) (sound : Sound s.accepts l p)
    (h : Explained l) : Explained m := by
  induction walk with
  | refl l p => exact h
  | entry write _ ih => exact ih (sound.entry write) (h.entry write)
  | turn d _ open' wait _ ih => exact ih (sound.turn wait) (h.turn sound open' d)
  | pause wait _ ih => exact ih ((sound.showing _).interlude wait) h

/-! ### The end of a run -/

/-- What a run warns of in the end is how its text differs from that at its
start. -/
lemma conclude_warnings (s : Surroundings) (e : Ending) (p : Processor) (quiet : l.warnings = []) :
    ∀ c ∈ (conclude s e l p).2.warnings, c ∈ changes l.start l.code := by
  have none : ∀ c ∈ l.warnings, c ∈ changes l.start l.code := by simp [quiet]
  cases e with
  | cancelled => exact none
  | broken text =>
      rw [conclude, salvage]
      dsimp only
      rw [adopt_warnings]
      exact none
  | through =>
      rw [conclude]
      split
      · exact none
      obtain ⟨updates, notes, books⟩ :=
        announce_books (l := l) (p := p) s .validating "" "Validating final code"
      dsimp only
      rw [books, validate]
      split
      · exact none
      split
      · exact fun c changed => changed
      · rw [salvage]
        dsimp only
        rw [adopt_warnings]
        exact none

lemma closing_warnings (s : Surroundings) (e : Ending) (p : Processor) (quiet : l.warnings = []) :
    ∀ c ∈ (closing s e l p).2.warnings, c ∈ changes l.start l.code := by
  obtain ⟨updates, notes, books⟩ := close_books s (conclude s e l p).2 (conclude s e l p).1
  rw [closing, books]
  exact conclude_warnings s e p quiet

/-- **No warning without a repair.** Whatever happens while a run waits: if in the
end it warns that a count has changed, then one of the repairs that it made reports
a change of the same count. -/
theorem process_explained {r : Result} {a b : Nat}
    (run : (process s job p).Runs Interlude trail q (r, some l))
    (warned : .count signal a b ∈ r.warnings) : ∃ sm ∈ r.applied, sm.Reports signal := by
  obtain ⟨-, e, lint?, m, v, attempts, last, rfl⟩ := runs_process run
  have walk := walk_work attempts
  have opening := openRun_sound s job p
  have opened : Explained (openRun s job p).2 := ⟨rfl, fun signal changed => absurd rfl changed⟩
  have explained := walk.explained opening opened
  have books : l = (closing s e m v).2 := congrArg Prod.snd last
  have ends : Ends m l := books ▸ closing_ends (walk.sound opening) e
  have changed : .count signal a b ∈ changes m.start m.code := by
    refine closing_warnings s e v explained.quiet _ ?_
    rw [← books]
    exact warned
  obtain ⟨first, now, differs⟩ := mem_changes.mp changed
  obtain ⟨sm, made, reports⟩ := explained.counts signal (by rwa [← first, ← now] at differs)
  have kept : (l.result lint?).applied = m.applied := ends.applied
  exact ⟨sm, kept ▸ made, reports⟩

/-! ### A run with a warning -/

/-- A processor with a fixer that writes a declaration. -/
def notary : Processor :=
  .fresh (Registry.empty.registerAll [writing "digit" "let a".toList]) {}

/-- A diagnostic that can be repaired so. -/
def deed : Job where
  code := "0".toList
  diagnostics := [{ rule := some "digit", message := "", line := 1, column := 1 }]

lemma prepare_deed : notary.prepare deed.diagnostics = deed.diagnostics := by
  have fixable : notary.registry.isFixable (some "digit") = true := rfl
  simp [Processor.prepare, deed, fixable]

/-- The run ends with a warning. -/
lemma finish_deed :
    .count .declaration 0 1 ∈ (process lenient deed notary).finish.2.1.warnings := by
  rw [process_idle rfl, work_onePass rfl, pass_eq,
    Processor.prepare_congr (openRun_registry _ _ _), prepare_deed]
  decide +kernel

theorem deed_explained : ∃ trail q l r,
    (process lenient deed notary).Runs Interlude trail q (r, some l) ∧
      .count .declaration 0 1 ∈ r.warnings ∧ ∃ sm ∈ r.applied, sm.Reports .declaration := by
  obtain ⟨trail, l, run⟩ := exists_run lenient deed (p := notary) rfl
  exact ⟨trail, _, l, _, run, finish_deed, process_explained run finish_deed⟩

end LintRepair.Batch
