/-
What recoveries do: they take the first way that applies, and in a run nothing is
lost by them.

* `Applies`: the ways to a usable text after a failure, and where each leads;
  `recover_recovered`: a recovery takes the first that applies, and leaves the
  processor as it was but for the repair that it takes back;
* `Walk.sound`: the books stay sound from the opening of a run to its end;
* `Follows`: from one moment of a run to the next, repairs are only added, and
  a recovery that is recorded leaves text and repairs as they were;
* `Walk.follows`: the moments at which a run pauses follow each other so;
* `process_follows`: so do all moments of a run, its opening and its end
  included; the final text is never found to be no program.
-/
import Mathlib.Data.List.Chain
import LintRepair.Proofs.Batch.Turn
import LintRepair.Proofs.Repair.Store

namespace LintRepair.Batch

open Text Lexical Check Repair
open Processor (Interlude)

variable {s : Surroundings} {job : Job} {l m n : Ledger} {p q : Processor}
variable {trail : List Processor}

/-! ### The first way that applies -/

section FirstWay

variable {accepts : Acceptor} {a : Archive} {code kept : Text} {applied n : Nat}

/-- The snapshot behind a repair is there, and is a program. -/
def Usable (accepts : Acceptor) (a : Archive) (n : Nat) (kept : Text) : Prop :=
  a.snapshot? (Recovery.snapshotName n) = some kept ∧ isProgram accepts kept = true

/-- The latest usable snapshot behind one of so many repairs. -/
structure Newest (accepts : Acceptor) (a : Archive) (applied n : Nat) (kept : Text) : Prop where
  low : 1 ≤ n
  high : n ≤ applied
  usable : Usable accepts a n kept
  newest : ∀ k other, n < k → k ≤ applied → ¬ Usable accepts a k other

/-- If the last snapshot is usable, it is the latest. -/
lemma newest_of_usable {own : Text} (h : Usable accepts a (n + 1) own) {k : Nat} :
    Newest accepts a (n + 1) k kept ↔ n + 1 = k ∧ own = kept := by
  constructor
  · rintro ⟨-, high, usable, newest⟩
    obtain rfl : n + 1 = k := by
      by_contra other
      exact newest (n + 1) own (by omega) le_rfl h
    exact ⟨rfl, Option.some.inj (h.1.symm.trans usable.1)⟩
  · rintro ⟨rfl, rfl⟩
    exact ⟨n.succ_pos, le_rfl, h, fun k _ above below => by omega⟩

/-- If it is not, the latest is among the others. -/
lemma newest_of_not (h : ∀ own, ¬ Usable accepts a (n + 1) own) {k : Nat} :
    Newest accepts a (n + 1) k kept ↔ Newest accepts a n k kept := by
  constructor
  · rintro ⟨low, high, usable, newest⟩
    have below : k ≠ n + 1 := fun same => h kept (same ▸ usable)
    exact ⟨low, by omega, usable, fun i other above below => newest i other above (by omega)⟩
  · rintro ⟨low, high, usable, newest⟩
    refine ⟨low, by omega, usable, fun i other above below => ?_⟩
    rcases Nat.lt_or_eq_of_le below with below | rfl
    · exact newest i other above (by omega)
    · exact h other

lemma latestSnapshot?_eq_some_iff :
    latestSnapshot? accepts a applied = some (n, kept) ↔ Newest accepts a applied n kept := by
  induction applied with
  | zero => exact ⟨fun h => (by cases h), fun h => absurd (h.low.trans h.high) (by simp)⟩
  | succ m ih =>
      rw [latestSnapshot?]
      by_cases here : ∃ own, Usable accepts a (m + 1) own
      · obtain ⟨own, usable⟩ := here
        rw [newest_of_usable usable, usable.1]
        dsimp only
        rw [if_pos usable.2, Option.some_inj, Prod.mk.injEq]
      · have none' : ∀ own, ¬ Usable accepts a (m + 1) own := fun own h => here ⟨own, h⟩
        rw [newest_of_not none', ← ih]
        split
        · next own there => rw [if_neg fun program => none' own ⟨there, program⟩]
        · rfl

lemma not_newest_of_eq_none (h : latestSnapshot? accepts a applied = none) (n : Nat) (kept : Text) :
    ¬ Newest accepts a applied n kept := by
  rw [← latestSnapshot?_eq_some_iff, h]
  simp

lemma startSnapshot?_eq_some_iff {start : Text} :
    startSnapshot? accepts a = some start ↔
      a.snapshot? startName = some start ∧ isProgram accepts start = true := by
  rw [startSnapshot?, Option.filter_eq_some_iff]

/-- The ways to a usable text after a failure, and where each leads: the text itself,
the latest usable snapshot of a repair, the text with the latest repair taken back, and
the text before the run. -/
inductive Applies (accepts : Acceptor) (a : Archive) (code : Text) (applied : Nat) :
    Recovery → Prop
  | resumed (program : isProgram accepts code = true) :
      Applies accepts a code applied (.resumed code)
  | snapshot {n : Nat} {kept : Text} (newest : Newest accepts a applied n kept) :
      Applies accepts a code applied (.snapshot n kept)
  | reverted {r : Record} {after : Text} (last : a.records.getLast? = some r)
      (back : TakenBack accepts code r after) : Applies accepts a code applied (.reverted after)
  | restarted {start : Text} (there : a.snapshot? startName = some start)
      (program : isProgram accepts start = true) : Applies accepts a code applied (.restarted start)

/-- The words for the ways to a usable text, in the order in which they are tried. -/
def strategies : List String := ["continue", "rollback", "partial_rollback", "full_rollback"]

/-- A way that applies leads to a program. -/
lemma Applies.program {r : Recovery} (h : Applies accepts a code applied r) :
    r.isSuccess = true ∧ isProgram accepts r.code = true := by
  cases h with
  | resumed program => exact ⟨rfl, program⟩
  | snapshot newest => exact ⟨rfl, newest.usable.2⟩
  | reverted last back => exact ⟨rfl, back.program⟩
  | restarted there program => exact ⟨rfl, program⟩

/-- What a recovery comes to, with the processor that it leaves. -/
structure Recovered (accepts : Acceptor) (p : Processor) (code : Text) (applied : Nat)
    (q : Processor) (r : Recovery) : Prop where
  found : r.isSuccess = true ↔ ∃ r', Applies accepts p.archive code applied r'
  first : r.isSuccess = true → Applies accepts p.archive code applied r ∧
    ∀ r', Applies accepts p.archive code applied r' →
      strategies.idxOf r.word ≤ strategies.idxOf r'.word
  program : r.isSuccess = true → isProgram accepts r.code = true
  lost : r.isSuccess = false → r.code = code
  processor : q = if r.word = "partial_rollback" then
    { p with archive := { p.archive with records := p.archive.records.dropLast } } else p

lemma Recovered.of_first {r : Recovery} (h : Applies accepts p.archive code applied r)
    (first : ∀ r', Applies accepts p.archive code applied r' →
      strategies.idxOf r.word ≤ strategies.idxOf r'.word)
    (processor : q = if r.word = "partial_rollback" then
      { p with archive := { p.archive with records := p.archive.records.dropLast } } else p) :
    Recovered accepts p code applied q r where
  found := ⟨fun _ => ⟨r, h⟩, fun _ => h.program.1⟩
  first _ := ⟨h, first⟩
  program _ := h.program.2
  lost none' := by rw [h.program.1] at none'; cases none'
  processor := processor

lemma Recovered.of_none (none' : ∀ r, ¬ Applies accepts p.archive code applied r) :
    Recovered accepts p code applied p (.lost code) where
  found := ⟨fun success => (by cases success), fun ⟨r, h⟩ => absurd h (none' r)⟩
  first success := by cases success
  program success := by cases success
  lost _ := rfl
  processor := rfl

/-- **A recovery takes the first way that applies.** It succeeds exactly if one of the
ways to a usable text applies, and then takes the first of them and leads to a program;
when none applies it gives back the text it was asked about. A way that does not apply
leaves nothing behind: the processor stays as it was, but that it forgets the latest
repair if that is taken back. -/
theorem recover_recovered (accepts : Acceptor) (p : Processor) (code : Text) (applied : Nat) :
    Recovered accepts p code applied (p.recover accepts code applied).1
      (p.recover accepts code applied).2 := by
  rw [Processor.recover, recover]
  -- at each way that does not apply it is ruled out for all that follow
  by_cases program : isProgram accepts code = true
  · rw [if_pos program]
    exact .of_first (.resumed program) (fun _ _ => Nat.zero_le _) rfl
  rw [if_neg program]
  cases latest : latestSnapshot? accepts p.archive applied with
  | some found =>
      refine .of_first (.snapshot (latestSnapshot?_eq_some_iff.mp latest)) (fun _ h => ?_) rfl
      cases h with
      | resumed program' => exact absurd program' program
      | snapshot | reverted | restarted => simp [Recovery.word, strategies]
  | none =>
  have noSnapshot := not_newest_of_eq_none latest
  dsimp only
  cases taken : p.archive.revert accepts code none with
  | ok out =>
      obtain ⟨after, b⟩ := out
      cases Archive.reverted_of_ok taken with
      | other asked => cases asked
      | latest _ last back =>
          refine .of_first (.reverted last back) (fun _ h => ?_) rfl
          cases h with
          | resumed program' => exact absurd program' program
          | snapshot newest => exact absurd newest (noSnapshot _ _)
          | reverted | restarted => simp [Recovery.word, strategies]
  | error fault =>
  dsimp only
  cases start : startSnapshot? accepts p.archive with
  | some text =>
      obtain ⟨there, program'⟩ := startSnapshot?_eq_some_iff.mp start
      refine .of_first (.restarted there program') (fun _ h => ?_) rfl
      cases h with
      | resumed program' => exact absurd program' program
      | snapshot newest => exact absurd newest (noSnapshot _ _)
      | reverted last back => exact absurd back (Archive.not_takenBack_of_error taken last)
      | restarted => exact le_rfl
  | none =>
      refine .of_none fun r h => ?_
      cases h with
      | resumed program' => exact program program'
      | snapshot newest => exact noSnapshot _ _ newest
      | reverted last back => exact Archive.not_takenBack_of_error taken last back
      | restarted there program' =>
          rw [startSnapshot?_eq_some_iff.mpr ⟨there, program'⟩] at start
          cases start

end FirstWay

/-! ### The invariant along a run -/

lemma Sound.showing {accepts : Acceptor} (h : Sound accepts l p) (m : Ledger) :
    Sound accepts l (p.showing m) :=
  h.congr rfl rfl rfl h.fault rfl rfl

/-- A turn with the pause behind it keeps the books sound. -/
lemma Sound.turn (h : Sound s.accepts l p) {d : Diagnostic} {t : Processor}
    (wait : Interlude (afterTurn s d l p) t) : Sound s.accepts (fixOne s d l p).2 t :=
  ((fixOne_settled h d).sound.showing _).interlude wait

/-- A run keeps its books sound. -/
lemma Walk.sound (walk : Walk s l p trail m q) (h : Sound s.accepts l p) :
    Sound s.accepts m q := by
  induction walk with
  | refl l p => exact h
  | entry write _ ih => exact ih (h.entry write)
  | turn d _ _ wait _ ih => exact ih (h.turn wait)
  | pause wait _ ih => exact ih ((h.showing _).interlude wait)

/-- A run keeps the registry of its processor. -/
lemma Walk.registry (walk : Walk s l p trail m q) (h : Sound s.accepts l p) :
    q.registry = p.registry := by
  induction walk with
  | refl l p => rfl
  | entry write _ ih => exact ih (h.entry write)
  | turn d _ _ wait _ ih =>
      have kept := (fixOne_settled h d).registry
      obtain ⟨stop, cache, rfl⟩ := wait
      exact (ih (h.turn ⟨stop, cache, rfl⟩)).trans kept
  | pause wait _ ih =>
      obtain ⟨stop, cache, rfl⟩ := wait
      exact ih ((h.showing _).interlude ⟨stop, cache, rfl⟩)

/-- A run keeps the settings of its processor. -/
lemma Walk.settings (walk : Walk s l p trail m q) (h : Sound s.accepts l p) :
    q.settings = p.settings := by
  induction walk with
  | refl l p => rfl
  | entry write _ ih => exact ih (h.entry write)
  | @turn l _ p _ _ _ d _ _ wait _ ih =>
      have kept := fixOne_settings s d l h.running
      obtain ⟨stop, cache, rfl⟩ := wait
      exact (ih (h.turn ⟨stop, cache, rfl⟩)).trans kept
  | pause wait _ ih =>
      obtain ⟨stop, cache, rfl⟩ := wait
      exact ih ((h.showing _).interlude ⟨stop, cache, rfl⟩)

/-- The attempts of a run enter no fault but one that halts it, and halt it only
so. -/
lemma Walk.fault (walk : Walk s l p trail m q) :
    m.fault? = l.fault? ∧ m.halted = l.halted ∨
      ∃ d fault, Halt d fault ∧ m.fault? = some fault := by
  induction walk with
  | refl l p => exact .inl ⟨rfl, rfl⟩
  | entry write _ ih => cases write <;> exact ih
  | @turn l _ p _ _ _ d _ _ _ _ ih =>
      rcases ih with ⟨fault, halted⟩ | found
      · rw [fault, halted]
        exact (fixOne_fault s d l p).imp id fun found => ⟨d, found⟩
      · exact .inr found
  | pause _ _ ih => exact ih

/-- Attempts without a fault do not halt a run. -/
lemma Walk.halted (walk : Walk s l p trail m q) (none : m.fault? = none) : m.halted = l.halted := by
  rcases walk.fault with ⟨-, same⟩ | ⟨d, fault, -, found⟩
  · exact same
  · rw [none] at found
    cases found

/-! ### The opening and the end of a run -/

/-- The books of a run when it opens, but for what the observer was told. -/
def Job.books (job : Job) : Ledger :=
  { start := job.code, code := job.code, total := job.diagnostics.length }

/-- The processor of a run when it opens, but for what the observer asks. -/
def Job.ready (job : Job) (p : Processor) : Processor :=
  { p with
    running := true, cancelled := false, runs := p.runs + 1
    archive := p.archive.clear.takeSnapshot startName job.code
    cache := p.cache.clear }

lemma openRun_eq (s : Surroundings) (job : Job) (p : Processor) :
    openRun s job p =
      announce s .analyzing "" "Analyzing diagnostics" job.books (job.ready p) := rfl

/-- A run opens with sound books. -/
lemma openRun_sound (s : Surroundings) (job : Job) (p : Processor) :
    Sound s.accepts (openRun s job p).2 (openRun s job p).1 := by
  have sound : Sound s.accepts job.books (job.ready p) :=
    { running := rfl
      start := by
        show (p.archive.clear.takeSnapshot startName job.code).snapshot? startName = _
        rw [Archive.snapshot?_takeSnapshot, if_pos rfl]
        rfl
      latest := fun some' => absurd rfl some'
      records := fun _ => rfl
      untouched := fun _ => rfl
      program := fun some' => absurd rfl some'
      fault := by simp [Job.books] }
  rw [openRun_eq]
  exact sound.told s .analyzing "" "Analyzing diagnostics"

lemma openRun_registry (s : Surroundings) (job : Job) (p : Processor) :
    (openRun s job p).1.registry = p.registry := by
  have told : Processor.Interlude _ (openRun s job p).1 :=
    announce_interlude (l := job.books) (p := job.ready p) s rfl .analyzing ""
      "Analyzing diagnostics"
  obtain ⟨stop, cache, opened⟩ := told
  rw [opened]
  rfl

lemma openRun_settings (s : Surroundings) (job : Job) (p : Processor) :
    (openRun s job p).1.settings = p.settings := by
  have told : Processor.Interlude _ (openRun s job p).1 :=
    announce_interlude (l := job.books) (p := job.ready p) s rfl .analyzing ""
      "Analyzing diagnostics"
  obtain ⟨stop, cache, opened⟩ := told
  rw [opened]
  rfl

/-- How the last part of a run ends, with the processor and the books: it was
cancelled or broke, it was halted, or its text is found to be in order. -/
inductive Concluded (l : Ledger) (p : Processor) : Ending → Processor → Ledger → Prop
  | cancelled : Concluded l p .cancelled p { l with fault? := some .cancelled }
  | broken (text : String) (r : Recovery) (harmless : Harmless l r) :
      Concluded l p (.broken text) p
        { l.note .broken with
          fault? := some (.unexpected text), recoveries := l.recoveries ++ [r] }
  | halted (halt : l.halted = true) : Concluded l p .through p l
  | validated {q : Processor} (updates : List (Update × Status)) (warnings : List Change)
      (notes : List Note)
      (told : Interlude { p with phase := .validating, ledger? := some l } q) :
      Concluded l p .through q { l with updates, warnings, notes }

/-- The last part of a run with sound books ends so. -/
lemma conclude_cases (h : Sound s.accepts l p) (e : Ending) :
    Concluded l p e (conclude s e l p).1 (conclude s e l p).2 := by
  cases e with
  | cancelled => exact .cancelled
  | broken text =>
      have noted : Sound s.accepts { l.note .broken with fault? := some (.unexpected text) } p :=
        h.congr rfl rfl rfl (by simp) rfl rfl
      obtain ⟨r, harmless, hs⟩ := salvage_eq noted (Or.inl (Eq.refl l.code))
      rw [conclude, hs]
      exact .broken text r (harmless.congr rfl rfl)
  | through =>
      by_cases halt : l.halted = true
      · rw [conclude, if_pos halt]
        exact .halted halt
      rw [conclude, if_neg halt]
      have told := announce_interlude (l := l) s h.running .validating "" "Validating final code"
      obtain ⟨updates, notes, books⟩ :=
        announce_books (l := l) (p := p) s .validating "" "Validating final code"
      dsimp only
      rw [books, validate]
      by_cases none : l.applied = []
      · rw [if_pos (by simp [none])]
        exact .validated updates l.warnings notes told
      -- behind a repair the text is a program, so its last check cannot fail
      rw [if_neg (by simp [none]), isProgram_iff.mp (h.program none)]
      exact .validated updates _ _ told

/-- A run with sound books is closed when its last part has ended. -/
lemma closing_cases (h : Sound s.accepts l p) (e : Ending) :
    ∃ v k, Concluded l p e v k ∧ closing s e l p = close s k v :=
  ⟨_, _, conclude_cases h e, rfl⟩

/-- Of the books only what the observer is told and the notes change when a run
is closed. -/
lemma close_books (s : Surroundings) (l : Ledger) (p : Processor) :
    ∃ updates notes, (close s l p).2 = { l with updates, notes } := by
  rw [close]
  split <;> exact ⟨_, _, rfl⟩

/-- What the end of a run does to its books. -/
structure Ends (l m : Ledger) : Prop where
  code : m.code = l.code
  applied : m.applied = l.applied
  failed : m.failed = l.failed
  total : m.total = l.total
  recoveries : m.recoveries = l.recoveries ∨
    ∃ r, Harmless l r ∧ m.recoveries = l.recoveries ++ [r]
  fault : ∀ f, m.fault? ≠ some (.invalid f)

/-- The end of a run keeps text and summaries. -/
lemma closing_ends (h : Sound s.accepts l p) (e : Ending) : Ends l (closing s e l p).2 := by
  obtain ⟨v, k, concluded, same⟩ := closing_cases h e
  obtain ⟨updates, notes, books⟩ := close_books s k v
  rw [same, books]
  cases concluded with
  | cancelled => exact ⟨rfl, rfl, rfl, rfl, .inl rfl, by simp⟩
  | broken text r harmless => exact ⟨rfl, rfl, rfl, rfl, .inr ⟨r, harmless, rfl⟩, by simp⟩
  | halted => exact ⟨rfl, rfl, rfl, rfl, .inl rfl, h.fault⟩
  | validated => exact ⟨rfl, rfl, rfl, rfl, .inl rfl, h.fault⟩

/-- With which fault a run ends: that it was cancelled, that something else
broke, or one of its attempts or none; the end of a run asks no linter. -/
lemma closing_fault (h : Sound s.accepts l p) (e : Ending) :
    (closing s e l p).2.questions = l.questions ∧
      (e = .cancelled ∧ (closing s e l p).2.fault? = some .cancelled ∨
        (∃ text, e = .broken text ∧ (closing s e l p).2.fault? = some (.unexpected text)) ∨
        e = .through ∧ (closing s e l p).2.fault? = l.fault?) := by
  obtain ⟨v, k, concluded, same⟩ := closing_cases h e
  obtain ⟨updates, notes, books⟩ := close_books s k v
  rw [same, books]
  cases concluded with
  | cancelled => exact ⟨rfl, .inl ⟨rfl, rfl⟩⟩
  | broken text => exact ⟨rfl, .inr (.inl ⟨text, rfl, rfl⟩)⟩
  | halted => exact ⟨rfl, .inr (.inr ⟨rfl, rfl⟩)⟩
  | validated => exact ⟨rfl, .inr (.inr ⟨rfl, rfl⟩)⟩

/-! ### Moments of a run -/

/-- One moment of a run follows another: repairs are only added, and a recovery
that has been recorded in between left text and repairs as they were. -/
structure Follows (l m : Ledger) : Prop where
  applied : l.applied <+: m.applied
  recoveries : m.recoveries = l.recoveries ∨
    ∃ r, Harmless l r ∧ m.recoveries = l.recoveries ++ [r] ∧ m.code = l.code ∧
      m.applied = l.applied

lemma Follows.refl (l : Ledger) : Follows l l :=
  ⟨List.prefix_rfl, .inl rfl⟩

/-- Of the earlier moment only the text, the repairs and the recoveries
matter. -/
lemma Follows.congr (h : Follows l n) (code : m.code = l.code) (applied : m.applied = l.applied)
    (recoveries : m.recoveries = l.recoveries) : Follows m n where
  applied := applied ▸ h.applied
  recoveries := by
    rw [recoveries, code, applied]
    exact h.recoveries.imp id fun ⟨r, harmless, rest⟩ => ⟨r, harmless.congr code applied, rest⟩

lemma Ends.follows (h : Ends l m) : Follows l m where
  applied := h.applied ▸ List.prefix_rfl
  recoveries := h.recoveries.imp id fun ⟨r, harmless, grown⟩ =>
    ⟨r, harmless, grown, h.code, h.applied⟩

lemma Outcome.follows {accepts : Acceptor} {registry : Registry} {d : Diagnostic}
    (h : Outcome accepts registry d l m) : Follows l m := by
  cases h with
  | repaired sm about success repair applied failed recoveries =>
      exact ⟨applied ▸ List.prefix_append _ _, .inl recoveries⟩
  | failed sm about code applied failed recoveries =>
      exact ⟨applied ▸ List.prefix_rfl, recoveries.imp id fun ⟨r, harmless, grown⟩ =>
        ⟨r, harmless, grown, code, applied⟩⟩

lemma Entry.follows (write : Entry l m) (h : Follows m n) : Follows l n := by
  cases write <;> exact h.congr rfl rfl rfl

/-- No repair is lost on a walk. -/
lemma Walk.applied (walk : Walk s l p trail m q) (h : Sound s.accepts l p) :
    l.applied <+: m.applied := by
  induction walk with
  | refl l p => exact List.prefix_rfl
  | entry write _ ih => exact (write.follows (Follows.refl _)).applied.trans (ih (h.entry write))
  | turn d _ _ wait _ ih =>
      have next := (fixOne_settled h d).outcome.follows.applied
      exact next.trans (ih (h.turn wait))
  | pause wait _ ih => exact ih ((h.showing _).interlude wait)

/-- The moments of a walk follow each other. -/
lemma Walk.follows (walk : Walk s l p trail m q) (h : Sound s.accepts l p) (last : Follows m n) :
    ∃ books, trail.map (·.ledger?) = books.map some ∧ (l :: (books ++ [n])).IsChain Follows := by
  induction walk with
  | refl l p => exact ⟨[], rfl, List.isChain_pair.mpr last⟩
  | entry write _ ih =>
      obtain ⟨books, shown, chain⟩ := ih (h.entry write) last
      exact ⟨books, shown, chain.imp_head fun next => write.follows next⟩
  | @turn l _ p _ _ _ d _ _ wait _ ih =>
      obtain ⟨books, shown, chain⟩ := ih (h.turn wait) last
      have next : Follows l (fixOne s d l p).2 :=
        (fixOne_settled h d).outcome.follows.congr rfl rfl rfl
      exact ⟨_ :: books, by rw [List.map_cons, List.map_cons, shown]; rfl, .cons_cons next chain⟩
  | @pause l _ p _ _ _ wait _ ih =>
      obtain ⟨books, shown, chain⟩ := ih ((h.showing _).interlude wait) last
      exact ⟨l :: books, by rw [List.map_cons, List.map_cons, shown]; rfl,
        .cons_cons (Follows.refl l) chain⟩

/-- The words for the ways in which a run recovers. -/
def harmlessWords : List String := ["continue", "rollback", "full_rollback", "none"]

lemma Harmless.word_mem {r : Recovery} (h : Harmless l r) : r.word ∈ harmlessWords := by
  cases h <;> simp [harmlessWords, Recovery.word]

/-- Moments that follow one without recoveries record harmless ones only. -/
lemma words_of_follows {books : List Ledger} (chain : (l :: books).IsChain Follows)
    (none : l.recoveries = []) : ∀ m ∈ l :: books, ∀ r ∈ m.recoveries, r.word ∈ harmlessWords := by
  refine chain.induction (fun m => ∀ r ∈ m.recoveries, r.word ∈ harmlessWords) _ ?_ ?_
  · intro m n next known r hr
    rcases next.recoveries with same | ⟨r', harmless, grown, -, -⟩
    · exact known r (same ▸ hr)
    · rw [grown, List.mem_append, List.mem_singleton] at hr
      rcases hr with hr | rfl
      · exact known r hr
      · exact harmless.word_mem
  · intro _ r hr
    rw [List.head_cons, none] at hr
    cases hr

/-- **No repair is lost in a run.** The books that a run shows when it pauses
follow each other from its opening to its end: repairs are only ever added at
the end of the list, and whenever a recovery is recorded, text and repairs are
those before the failed attempt; a snapshot that is taken up is the one behind
the latest repair. No run goes back by taking a repair back, and none finds its
final text to be no program. -/
theorem process_follows {r : Result}
    (run : (process s job p).Runs Interlude trail q (r, some l)) :
    (∃ books, trail.map (·.ledger?) = books.map some ∧
      ((openRun s job p).2 :: (books ++ [l])).IsChain Follows) ∧
    r.code = l.code ∧ r.applied = l.applied ∧ r.recoveries = l.recoveries ∧
    (∀ recovery ∈ r.recoveries, recovery.word ∈ harmlessWords) ∧
    ∀ f, r.fault? ≠ some (.invalid f) := by
  obtain ⟨-, e, lint?, m, v, attempts, last, rfl⟩ := runs_process run
  have walk := walk_work attempts
  have opening := openRun_sound s job p
  have ends : Ends m l := by
    have h := closing_ends (walk.sound opening) e
    rwa [← last] at h
  obtain ⟨books, shown, chain⟩ := walk.follows opening ends.follows
  have words := words_of_follows chain rfl l (by simp)
  exact ⟨⟨books, shown, chain⟩, rfl, rfl, rfl, words, ends.fault⟩

/-! ### A run with a failure -/

/-- A fixer that writes the same text whatever there is. -/
def writing (rule : String) (text : Text) : Fixer where
  kind := "Writing"
  rule := rule
  complexity := "simple"
  description := ""
  canFix _ _ := .ok true
  fix _ _ := .ok { code := text }
  validates _ _ := true

/-- A processor with a fixer that writes a program, and one that does not. -/
def scribe : Processor :=
  .fresh (Registry.empty.registerAll
    [writing "digit" "0\n1".toList, writing "bracket" "(".toList]) {}

/-- Two diagnostics, of which the one further down can be repaired. -/
def scribble : Job where
  code := "0\n0".toList
  diagnostics :=
    [{ rule := some "bracket", message := "", line := 1, column := 1 },
      { rule := some "digit", message := "", line := 2, column := 1 }]

/-- A grammar that accepts every text, and nobody who watches. -/
def lenient : Surroundings := { accepts := fun _ => true }

/-- Of two diagnostics the one further down has its turn first. -/
lemma prepare_pair {d e : Diagnostic} (first : p.registry.isFixable d.rule = true)
    (second : p.registry.isFixable e.rule = true) (order : Processor.before d e = false) :
    p.prepare [d, e] = [e, d] := by
  simp [Processor.prepare, first, second, order, List.mergeSort]

lemma prepare_scribble : scribe.prepare scribble.diagnostics = scribble.diagnostics.reverse :=
  prepare_pair rfl rfl rfl

/-- The run goes back to the snapshot behind its one repair, and ends with
it. -/
lemma finish_scribble :
    (process lenient scribble scribe).finish.2.1.recoveries = [.snapshot 1 "0\n1".toList] ∧
      (process lenient scribble scribe).finish.2.1.code = "0\n1".toList := by
  rw [process_idle rfl, work_onePass rfl, pass_eq,
    Processor.prepare_congr (openRun_registry _ _ _), prepare_scribble]
  decide +kernel

theorem scribble_follows : ∃ trail q l r,
    (process lenient scribble scribe).Runs Interlude trail q (r, some l) ∧
    r.recoveries = [.snapshot 1 "0\n1".toList] ∧
    (∃ books, trail.map (·.ledger?) = books.map some ∧
      ((openRun lenient scribble scribe).2 :: (books ++ [l])).IsChain Follows) ∧
    (∀ recovery ∈ r.recoveries, recovery.word ∈ harmlessWords) ∧
    ∀ f, r.fault? ≠ some (.invalid f) := by
  obtain ⟨trail, l, run⟩ := exists_run lenient scribble (p := scribe) rfl
  obtain ⟨chain, -, -, -, words, valid⟩ := process_follows run
  exact ⟨trail, _, l, _, run, finish_scribble.1, chain, words, valid⟩

end LintRepair.Batch
