/-
Runs by waves that learn nothing.

* `GivenUp`: the diagnostics that are given up for a repair;
* `Waves.unlinted`: waves without news make the turns of some of the pending
  diagnostics, in their order; one that they leave is given up for a repair, or
  the waves are spent;
* `process_unlinted`: a run by waves that learns nothing and is not cancelled
  comes to what one pass over the diagnostics comes to that it does not leave,
  and leaves none where no two are related and the waves suffice;
* `twofold_unlinted_not`: it may leave some otherwise.
-/
import LintRepair.Proofs.Batch.Answers
import LintRepair.Proofs.Batch.Sheet

namespace LintRepair.Batch

open Text Check Repair
open scoped List
open Processor (Interlude)

variable {s : Surroundings} {job : Job} {l m : Ledger} {p q : Processor}
variable {trail : List Processor} {ds : List Diagnostic} {d e : Diagnostic}
variable {linter? : Option Linter} {asked? : Option (Linter × String)}

/-! ### Diagnostics that are given up -/

/-- Whether a diagnostic is given up for the repair of one: it has the same
identity, or it is on the same line and its rule is related. -/
def GivenUp (fixed : Identity) (d : Diagnostic) : Prop :=
  d.identity = fixed ∨ d.line.value = fixed.line ∧ related d.rule fixed.rule = true

instance (fixed : Identity) (d : Diagnostic) : Decidable (GivenUp fixed d) :=
  inferInstanceAs (Decidable (_ ∨ _))

lemma related_comm (a b : Option String) : related a b = related b a := by
  cases a with
  | none => cases b <;> rfl
  | some a =>
  cases b with
  | none => rfl
  | some b =>
      have both : (fun g : List String => g.contains a && g.contains b) =
          fun g => g.contains b && g.contains a := funext fun g => Bool.and_comm _ _
      rw [related, related, both, Bool.beq_comm]

/-- Of two diagnostics each is given up for the other. -/
lemma givenUp_comm : GivenUp d.identity e ↔ GivenUp e.identity d := by
  have rules : related e.rule d.identity.rule = related d.rule e.identity.rule :=
    related_comm e.rule d.rule
  rw [GivenUp, GivenUp, rules]
  exact or_congr eq_comm (and_congr_left' eq_comm)

lemma prune_eq (fixed : Identity) (ds : List Diagnostic) :
    prune fixed ds = ds.filter fun d => !decide (GivenUp fixed d) := by
  refine List.filter_congr fun d _ => ?_
  rw [Bool.eq_iff_iff, Bool.not_eq_true', decide_eq_false_iff_not, GivenUp]
  simp [imp_iff_not_or]

/-- What is left behind repairs is given up for none of them. -/
lemma ebb_pending (t : Tide) (rest : List Diagnostic) (repaired : List Summary) :
    (t.ebb rest repaired).pending =
      rest.filter fun d => !decide (∃ sm ∈ repaired, GivenUp sm.identity d) := by
  show repaired.foldl (fun ds sm => prune sm.identity ds) rest = _
  induction repaired generalizing rest with
  | nil => simp
  | cons sm later ih =>
      rw [List.foldl_cons, ih, prune_eq, List.filter_filter]
      refine List.filter_congr fun d _ => ?_
      rw [Bool.eq_iff_iff]
      simp [and_comm]

/-! ### Waves without news -/

/-- What a round comes to, without what it asks. -/
lemma Round.sheet {answer : Except String (Option (List Diagnostic))}
    (h : Round s asked? ds l p trail m q answer) (sound : Sound s.accepts l p) :
    m.sheet = ((p.prepare ds).take p.waveSize).foldl (Sheet.turn s.accepts p.registry p.halts)
      (l.sheet.failAll .noFixer (p.unfixable ds)) := by
  cases h with
  | mk after v wave _ ask =>
      obtain ⟨questions, notes, rfl⟩ := ask.books
      exact Turns.sheet wave (sound.entry (.failAll l .noFixer (p.unfixable ds))) rfl rfl rfl

lemma Sheet.failAll_nil (t : Sheet) (cause : Cause) : t.failAll cause [] = t := by
  simp [Sheet.failAll]

/-- Between two moments of a run, at most so many waves make the turns of some
of the pending diagnostics, in their order, and leave the others: each of those
is given up for a repair, or the waves are spent. There are no more turns than
the waves have, unless the run is halted and the rest is skipped. -/
structure Thins (accepts : Acceptor) (p : Processor) (n : Nat) (pending : List Diagnostic)
    (l m : Ledger) (given left : List Diagnostic) : Prop where
  parts : (given ++ left).Perm (p.prepare pending)
  order : given.Sublist (p.prepare pending)
  sheet : m.sheet = given.foldl (Sheet.turn accepts p.registry p.halts)
    (l.sheet.failAll .noFixer (p.unfixable pending))
  reason : ∀ d ∈ left,
    (∃ sm ∈ m.applied, GivenUp sm.identity d) ∨ n * p.waveSize ≤ given.length
  bound : m.halted = true ∨ given.length ≤ n * p.waveSize

/-- A wave that leaves something is full. -/
lemma length_wave (left : d ∈ p.leftover ds) :
    ((p.prepare ds).take p.waveSize).length = p.waveSize := by
  have more := List.length_pos_of_mem left
  rw [p.leftover_eq, List.length_drop] at more
  rw [List.length_take]
  omega

/-- When nothing was learned behind a round, the later waves thin what the ebb
has left. -/
lemma Thins.ebb {n : Nat} {t : Tide} {after : Ledger} {first given left : List Diagnostic}
    (wave : first = (p.prepare t.pending).take p.waveSize)
    (sheet : after.sheet = first.foldl (Sheet.turn s.accepts p.registry p.halts)
      (l.sheet.failAll .noFixer (p.unfixable t.pending)))
    (fixers : q.registry = p.registry) (kept : q.halts = p.halts)
    (size : q.waveSize = p.waveSize) (grown : after.applied <+: m.applied)
    (later : Thins s.accepts q n
      (t.ebb (p.leftover t.pending) (after.applied.drop l.applied.length)).pending after m given
      left) :
    ∃ given left, Thins s.accepts p (n + 1) t.pending l m given left := by
  subst wave
  have pending := ebb_pending t (p.leftover t.pending) (after.applied.drop l.applied.length)
  set repaired := after.applied.drop l.applied.length
  set rest := p.leftover t.pending with hrest
  have ebbs : (t.ebb rest repaired).pending.Sublist rest := by
    rw [pending]
    exact List.filter_sublist
  have sub : (t.ebb rest repaired).pending.Sublist (p.prepare t.pending) :=
    ebbs.trans (List.drop_sublist _ _)
  have ordered : q.prepare (t.ebb rest repaired).pending = (t.ebb rest repaired).pending := by
    rw [Processor.prepare_congr fixers, Processor.prepare_of_sublist sub]
  have fixable : q.unfixable (t.ebb rest repaired).pending = [] := by
    rw [Processor.unfixable_congr fixers, Processor.unfixable_of_sublist sub]
  obtain ⟨parts, order, later', reason, bound⟩ := later
  rw [ordered] at parts order
  rw [fixable, Sheet.failAll_nil, fixers, kept, sheet, ← List.foldl_append] at later'
  set gone := rest.filter fun d => decide (∃ sm ∈ repaired, GivenUp sm.identity d) with hgone
  refine ⟨(p.prepare t.pending).take p.waveSize ++ given, left ++ gone, ?_, ?_, later', ?_,
    bound.imp_right fun few => ?_⟩
  · have all : (gone ++ (t.ebb rest repaired).pending).Perm rest := by
      rw [pending]
      exact List.filter_append_perm _ rest
    calc (p.prepare t.pending).take p.waveSize ++ given ++ (left ++ gone)
      _ = (p.prepare t.pending).take p.waveSize ++ (given ++ left ++ gone) := by
          simp only [List.append_assoc]
      _ ~ (p.prepare t.pending).take p.waveSize ++ rest :=
          List.Perm.append_left _
            (((parts.append_right gone).trans List.perm_append_comm).trans all)
      _ = p.prepare t.pending := List.take_append_drop _ _
  · have whole := (order.trans ebbs).append_left ((p.prepare t.pending).take p.waveSize)
    rwa [hrest, p.leftover_eq, List.take_append_drop] at whole
  · intro d hd
    rcases List.mem_append.mp hd with old | new
    · refine (reason d old).imp id fun spent => ?_
      have full := length_wave (ebbs.subset (parts.subset (List.mem_append_right _ old)))
      rw [List.length_append, full, Nat.succ_mul, ← size]
      omega
    · obtain ⟨sm, hsm, up⟩ := by simpa using (List.mem_filter.mp new).2
      exact .inl ⟨sm, grown.subset (List.mem_of_mem_drop hsm), up⟩
  · rw [size] at few
    rw [List.length_append, List.length_take, Nat.succ_mul]
    omega

/-- Waves without news thin what is pending. -/
lemma Waves.thins {n : Nat} {t u : Tide} {ending : Ending} {news : List (List Diagnostic)}
    (h : Waves s asked? n t l p trail news m q ending u) (sound : Sound s.accepts l p)
    (open' : l.halted = false) (first : 0 < n ∨ p.unfixable t.pending = [])
    (unheard : news = []) (through : ending = .through) :
    ∃ given left, Thins s.accepts p n t.pending l m given left := by
  induction h with
  | spent t l p =>
      have none : p.unfixable t.pending = [] := first.resolve_left (Nat.lt_irrefl 0)
      refine ⟨[], p.prepare t.pending, .refl _, List.nil_sublist _, ?_, fun d _ => .inr ?_,
        .inr (Nat.zero_le _)⟩
      · rw [none, Sheet.failAll_nil]
        rfl
      · rw [Nat.zero_mul]
        exact Nat.zero_le _
  | @finished n t l stop p =>
      have none : t.pending = [] := stop.resolve_right (by simp [open'])
      rw [none]
      refine ⟨[], [], ?_, List.nil_sublist _, ?_, by simp, .inr (Nat.zero_le _)⟩
      · simp [Processor.prepare]
      · rw [show p.unfixable [] = [] from rfl, Sheet.failAll_nil]
        rfl
  | stopped => cases through
  | @halted n t l after p v trail _ wave halt =>
      have entered : Sound s.accepts (l.failAll .noFixer (p.unfixable t.pending)) p :=
        sound.entry (.failAll l .noFixer (p.unfixable t.pending))
      refine ⟨p.prepare t.pending, [], by rw [List.append_nil], .refl _, ?_, by simp, .inl halt⟩
      -- what the wave leaves is skipped, as it would be in its turn
      have later : (after.failAll .skipped (p.leftover t.pending)).sheet =
          (p.leftover t.pending).foldl (Sheet.turn s.accepts p.registry p.halts) after.sheet :=
        (Sheet.foldl_turn_halted (t := after.sheet) halt (p.leftover t.pending)).symm
      rw [later, Turns.sheet wave entered rfl rfl rfl, ← List.foldl_append, p.leftover_eq,
        List.take_append_drop]
      rfl
  | broken => cases through
  | cancelled => cases through
  | @ebb n t u l asked m p v q first later news ending _ round _ rest ih =>
      have sound' := round.walk.sound sound
      have fixers := round.walk.registry sound
      have settings := round.walk.settings sound
      have fixable : v.unfixable (t.ebb (p.leftover t.pending)
          (asked.applied.drop l.applied.length)).pending = [] := by
        rw [Processor.unfixable_congr fixers]
        exact Processor.unfixable_of_sublist ((ebb_sublist t _ _).trans (List.drop_sublist _ _))
      obtain ⟨given, left, thins⟩ := ih sound' round.open (.inr fixable) unheard through
      refine Thins.ebb rfl (round.sheet sound) fixers ?_ ?_ (rest.walk.applied sound') thins
      · rw [Processor.halts, Processor.halts, settings]
      · rw [Processor.waveSize, Processor.waveSize, settings]
  | turn => cases unheard

/-! ### Linters without news -/

/-- Between two moments of a run, all questions to a linter have failed. -/
def Silent (linter? : Option Linter) (l m : Ledger) : Prop :=
  ∀ asked, m.questions = l.questions ++ asked →
    ∀ r ∈ reports linter? l.questions asked, r.isFailure = true

/-- So have the later ones. -/
lemma Silent.later {after : Ledger} {first : List Question} (h : Silent linter? l m)
    (grown : after.questions = l.questions ++ first) : Silent linter? after m := by
  intro asked further r hr
  rw [grown] at hr
  refine h (first ++ asked) (by rw [further, grown, List.append_assoc]) r ?_
  rw [reports_append]
  exact List.mem_append_right _ hr

/-- So has the first one. -/
lemma Silent.first {after : Ledger} {question : Question} {r : Report}
    (h : Silent linter? l m) (grown : after.questions = l.questions ++ [question])
    (kept : after.questions <+: m.questions)
    (told : report? linter? l.questions question = some r) : r.isFailure = true := by
  obtain ⟨asked, further⟩ := kept
  rw [grown] at further
  refine h ([question] ++ asked) (by rw [← further, List.append_assoc]) r ?_
  rw [reports_append, reports, told]
  exact List.mem_append_left _ List.mem_cons_self

/-- Where all questions have failed, waves have no news, and no list breaks
off. -/
lemma Waves.unheard {n : Nat} {t u : Tide} {ending : Ending} {news : List (List Diagnostic)}
    (same : ∀ asked, asked? = some asked → linter? = some asked.1)
    (h : Waves s asked? n t l p trail news m q ending u) (silent : Silent linter? l m) :
    news = [] ∧ ∀ text, ending ≠ .broken text := by
  induction h with
  | spent => exact ⟨rfl, by simp⟩
  | finished => exact ⟨rfl, by simp⟩
  | stopped => exact ⟨rfl, by simp⟩
  | halted => exact ⟨rfl, by simp⟩
  | broken n _ round =>
      obtain ⟨-, ⟨nothing, -⟩ | ⟨question, -, grown, -, -, report, told, broken⟩⟩ :=
        round.heard same
      · cases nothing
      · have fails := silent.first grown List.prefix_rfl told
        rw [Report.answer_of_isFailure fails] at broken
        cases broken
  | cancelled => exact ⟨rfl, by simp⟩
  | ebb _ round _ _ ih =>
      obtain ⟨-, ⟨-, unasked, -⟩ | ⟨question, -, grown, -⟩⟩ := round.heard same
      · exact ih (silent.later (by rw [unasked, List.append_nil]))
      · exact ih (silent.later grown)
  | turn _ round _ rest _ =>
      obtain ⟨-, ⟨nothing, -⟩ | ⟨question, -, grown, -, -, report, told, fresh⟩⟩ :=
        round.heard same
      · cases nothing
      · have fails := silent.first grown rest.walk.questions.1 told
        rw [Report.answer_of_isFailure fails] at fresh
        cases fresh

/-! ### Whole runs -/

/-- A result with the text, the repairs and the failures that every run by one
pass over some diagnostics of a text comes to, unless it is cancelled, on a
processor with the same fixers that is halted alike. -/
def LikeOnePass (accepts : Acceptor) (p : Processor) (code : Text) (ds : List Diagnostic)
    (r : Result) : Prop :=
  ∀ (s : Surroundings) (q v : Processor) (trail : List Processor) (l : Ledger) (r' : Result),
    s.accepts = accepts → q.registry = p.registry →
    q.settings.haltOnSyntaxFailure = p.settings.haltOnSyntaxFailure →
    (process s { code, diagnostics := ds } q).Runs Interlude trail v (r', some l) →
    r'.fault? ≠ some .cancelled →
    r'.code = r.code ∧ r'.applied = r.applied ∧ r'.failed = r.failed

lemma Shows.likeOnePass {accepts : Acceptor} {code : Text} {r : Result}
    (h : Shows r (.onePass accepts p code ds)) : LikeOnePass accepts p code ds r := by
  intro s q v trail l r' same fixers halts run uncancelled
  have shows := process_onePass_sheet rfl run uncancelled
  have kept : q.halts = p.halts := by rw [Processor.halts, Processor.halts, halts]
  rw [same, Sheet.onePass_congr fixers kept] at shows
  exact ⟨shows.code.trans h.code.symm, shows.applied.trans h.applied.symm,
    shows.failed.trans h.failed.symm⟩

/-- Of a processor only the fixers matter, the size of its waves, and whether a
broken program ends its runs. -/
lemma Thins.congr {accepts : Acceptor} {n : Nat} {given left : List Diagnostic}
    (h : Thins accepts q n ds l m given left) (fixers : q.registry = p.registry)
    (kept : q.halts = p.halts) (size : q.waveSize = p.waveSize) :
    Thins accepts p n ds l m given left where
  parts := Processor.prepare_congr fixers ds ▸ h.parts
  order := Processor.prepare_congr fixers ds ▸ h.order
  sheet := by
    rw [h.sheet, fixers, kept, Processor.unfixable_congr fixers]
  reason := size ▸ h.reason
  bound := size ▸ h.bound

/-- What waves come to that start a run. -/
lemma Thins.shows {accepts : Acceptor} {n : Nat} {given left : List Diagnostic} {r : Result}
    (h : Thins accepts p n ds l m given left) (start : l.sheet = ⟨l.code, [], [], false⟩)
    (ends : Shows r m.sheet) :
    Shows r (.onePass accepts p l.code (p.unfixable ds ++ given)) := by
  rw [Sheet.onePass, Processor.prepare_unfixable_append h.order,
    Processor.unfixable_unfixable_append h.order, ← start, ← h.sheet]
  exact ends

/-- Where waves leave none, one pass comes to the same over what they do not leave
as over all. -/
lemma Thins.onePass_eq {accepts : Acceptor} {n : Nat} {given : List Diagnostic} {code : Text}
    (h : Thins accepts p n ds l m given []) :
    Sheet.onePass accepts p code (p.unfixable ds ++ given) = .onePass accepts p code ds := by
  have whole : given = p.prepare ds := by
    refine h.order.eq_of_length ?_
    rw [← h.parts.length_eq, List.append_nil]
  rw [Sheet.onePass, Sheet.onePass, Processor.prepare_unfixable_append h.order,
    Processor.unfixable_unfixable_append h.order, whole]

/-- What one pass comes to is entered about its diagnostics, each once. -/
lemma Sheet.onePass_accounts (accepts : Acceptor) (p : Processor) (code : Text)
    (ds : List Diagnostic) :
    (((onePass accepts p code ds).applied ++ (onePass accepts p code ds).failed).map
      Summary.identity).Perm (ds.map Diagnostic.identity) := by
  have turns := foldl_turn_accounts accepts p.registry p.halts
    (failAll ⟨code, [], [], false⟩ .noFixer (p.unfixable ds)) (p.prepare ds)
  have unfixable : (((failAll ⟨code, [], [], false⟩ .noFixer (p.unfixable ds)).applied ++
      (failAll ⟨code, [], [], false⟩ .noFixer (p.unfixable ds)).failed).map Summary.identity) =
        (p.unfixable ds).map Diagnostic.identity :=
    List.map_map
  rw [unfixable, ← List.map_append] at turns
  exact turns.trans ((unfixable_append_prepare_perm p ds).map _)

/-- Where no two diagnostics are related, and there are no more of them than
turns, waves that start a run leave none. -/
lemma Thins.left_eq_nil {accepts : Acceptor} {n : Nat} {given left : List Diagnostic}
    (h : Thins accepts p n ds l m given left) (start : l.applied = [])
    (unrelated : (p.prepare ds).Pairwise fun d e => ¬GivenUp d.identity e)
    (enough : (p.prepare ds).length ≤ n * p.waveSize) : left = [] := by
  have apart : (given ++ left).Pairwise fun d e => ¬GivenUp d.identity e :=
    h.parts.symm.pairwise unrelated fun alone up => alone (givenUp_comm.mpr up)
  refine List.eq_nil_iff_forall_not_mem.mpr fun d hd => ?_
  rcases h.reason d hd with ⟨sm, hsm, up⟩ | spent
  · rw [show m.applied = m.sheet.applied from rfl, h.sheet] at hsm
    have turned : sm.diagnostic ∈ given := by
      rcases Sheet.mem_foldl_turn_applied hsm with early | mine
      · rw [show (l.sheet.failAll _ _).applied = l.applied from rfl, start] at early
        cases early
      · exact mine
    exact (List.pairwise_append.mp apart).2.2 sm.diagnostic turned d hd up
  · have all := h.parts.length_eq
    have some' := List.length_pos_of_mem hd
    rw [List.length_append] at all
    omega

/-- **A run that learns nothing.** When no question to the linter of a run by
waves is answered with diagnostics, and the run is not cancelled, it comes to
what one pass comes to over the diagnostics that it does not leave, whatever the
size of its waves; each of those is entered, as repaired or as failed. It leaves
only such as have a fixer, and are given up for a repair, or for which there was
no wave; and if it completes, it has made no more turns than its waves have. So
it comes to what one pass over all diagnostics does if none is left,
as when no two of them are related and the waves suffice. -/
theorem process_unlinted {linter? : Option Linter} {name : Option String} {r : Result}
    (manner : job.manner = .inWaves linter? name)
    (run : (process s job p).Runs Interlude trail q (r, some l))
    (uncancelled : r.fault? ≠ some .cancelled)
    (silent : ∀ report ∈ reports linter? [] l.questions, report.isFailure = true) :
    ∃ attempted left, (attempted ++ left).Perm job.diagnostics ∧
      LikeOnePass s.accepts p job.code attempted r ∧
      ((r.applied ++ r.failed).map Summary.identity).Perm (attempted.map Diagnostic.identity) ∧
      (∀ d ∈ left, p.registry.isFixable d.rule = true ∧
        ((∃ sm ∈ r.applied, GivenUp sm.identity d) ∨
          maxWaves * p.waveSize ≤ (p.prepare attempted).length)) ∧
      (r.fault? = none → (p.prepare attempted).length ≤ maxWaves * p.waveSize) ∧
      (left = [] → LikeOnePass s.accepts p job.code job.diagnostics r) ∧
      ((p.prepare job.diagnostics).Pairwise (fun d e => ¬GivenUp d.identity e) →
        (p.prepare job.diagnostics).length ≤ maxWaves * p.waveSize → left = []) := by
  obtain ⟨news, e, t, m, v, waves, ends, asked, cancelled, completed, rfl⟩ :=
    runs_process_inWaves manner run
  have opening := openRun_sound s job p
  have quiet : Silent linter? (openRun s job p).2 m := by
    intro asked' further report hr
    refine silent report ?_
    rw [asked, further]
    exact hr
  obtain ⟨unheard, unbroken⟩ := waves.unheard (fun _ => linterFor_eq) quiet
  have through : e = .through := by
    cases e with
    | through => rfl
    | cancelled => exact absurd (cancelled.mpr rfl) uncancelled
    | broken text => exact absurd rfl (unbroken text)
  obtain ⟨given, left, opened⟩ := waves.thins opening rfl (.inl (by decide)) unheard through
  have thins : Thins s.accepts p maxWaves job.diagnostics (openRun s job p).2 m given left :=
    opened.congr (openRun_registry s job p) (openRun_halts s job p)
      (by rw [Processor.waveSize, openRun_settings]; rfl)
  have shows : Shows (l.result (if e == .through then some (t.info m) else none))
      (.onePass s.accepts p job.code (p.unfixable job.diagnostics ++ given)) :=
    thins.shows rfl (ends.shows _)
  have parts : (p.unfixable job.diagnostics ++ (given ++ left)).Perm job.diagnostics :=
    (thins.parts.append_left _).trans (unfixable_append_prepare_perm p job.diagnostics)
  refine ⟨p.unfixable job.diagnostics ++ given, left, ?_, shows.likeOnePass, ?_, fun d hd => ?_,
    fun none => ?_, fun none => ?_, thins.left_eq_nil rfl⟩
  · rw [List.append_assoc]
    exact parts
  · rw [shows.applied, shows.failed]
    exact Sheet.onePass_accounts _ _ _ _
  · have ordered := thins.parts.subset (List.mem_append_right given hd)
    rw [Processor.prepare_unfixable_append thins.order]
    refine ⟨(Processor.mem_prepare.mp ordered).2, (thins.reason d hd).imp_left ?_⟩
    rintro ⟨sm, hsm, up⟩
    exact ⟨sm, by rwa [show (l.result _).applied = l.applied from rfl, ends.applied], up⟩
  · rw [Processor.prepare_unfixable_append thins.order]
    have open' : m.halted = false := waves.walk.halted (completed none)
    exact thins.bound.resolve_left (by simp [open'])
  · subst none
    exact (thins.onePass_eq ▸ shows).likeOnePass

/-! ### Runs by small waves -/

/-- The processor of `scribe`, but that a wave makes one repair. -/
def sipping : Processor := { scribe with settings := { relintBatchSize := 1 } }

/-- Without a linter nothing is reported. -/
lemma reports_none (asked qs : List Question) : reports none asked qs = [] := by
  induction qs generalizing asked with
  | nil => rfl
  | cons q later ih => exact ih _

/-- Two diagnostics that have nothing to do with each other, in waves. -/
def rippled : Job := { scribble with manner := .inWaves none none }

lemma prepare_rippled : sipping.prepare rippled.diagnostics = rippled.diagnostics.reverse :=
  prepare_pair rfl rfl rfl

/-- The second repair breaks the program, and ends the run. -/
lemma finish_rippled :
    (process lenient rippled sipping).finish.2.1.fault? = some (.halted (some "bracket") 1) := by
  rw [process_idle rfl, work_inWaves rfl, waves_eq, wavesUpTo_opened rfl, prepare_rippled]
  decide +kernel

theorem rippled_unlinted : ∃ trail q l r,
    rippled.manner = .inWaves none none ∧
    (process lenient rippled sipping).Runs Interlude trail q (r, some l) ∧
    r.fault? ≠ some .cancelled ∧
    (∀ report ∈ reports none [] l.questions, report.isFailure = true) ∧
    ((r.applied ++ r.failed).map Summary.identity).Perm
      (rippled.diagnostics.map Diagnostic.identity) ∧
    LikeOnePass lenient.accepts sipping rippled.code rippled.diagnostics r := by
  obtain ⟨trail, l, run⟩ := exists_run lenient rippled (p := sipping) rfl
  have uncancelled : (process lenient rippled sipping).finish.2.1.fault? ≠ some .cancelled := by
    rw [finish_rippled]
    decide
  have silent : ∀ report ∈ reports none [] l.questions, report.isFailure = true := by
    rw [reports_none]
    exact fun _ none => absurd none List.not_mem_nil
  obtain ⟨attempted, left, parts, -, entered, -, -, same, none⟩ :=
    process_unlinted rfl run uncancelled silent
  have nothing : left = [] := by
    refine none ?_ ?_
    · rw [prepare_rippled]
      decide
    · rw [prepare_rippled]
      decide
  rw [nothing, List.append_nil] at parts
  exact ⟨trail, _, l, _, rfl, run, uncancelled, silent, entered.trans (parts.map _), same nothing⟩

/-- Two diagnostics of one rule on one line. -/
def twofold (manner : Manner) : Job where
  code := "0\n0".toList
  diagnostics :=
    [{ rule := some "digit", message := "", line := 2, column := 1 },
      { rule := some "digit", message := "", line := 2, column := 2 }]
  manner := manner

lemma prepare_twofold (manner : Manner) :
    sipping.prepare (twofold manner).diagnostics = (twofold manner).diagnostics.reverse :=
  prepare_pair rfl rfl rfl

/-- By waves, one of them is given up for the repair of the other. -/
lemma finish_twofold_inWaves :
    (process lenient (twofold (.inWaves none none)) sipping).finish.2.1.fault? = none ∧
      (process lenient (twofold (.inWaves none none)) sipping).finish.2.1.applied.map
        Summary.identity = [⟨some "digit", 2, 2⟩] ∧
      (process lenient (twofold (.inWaves none none)) sipping).finish.2.1.failed.map
        Summary.identity = [] := by
  rw [process_idle rfl, work_inWaves rfl, waves_eq, wavesUpTo_opened rfl, prepare_twofold]
  decide +kernel

/-- One pass repairs both. -/
lemma finish_twofold_onePass :
    (process lenient (twofold .onePass) sipping).finish.2.1.fault? = none ∧
      (process lenient (twofold .onePass) sipping).finish.2.1.applied.map Summary.identity =
        [⟨some "digit", 2, 2⟩, ⟨some "digit", 2, 1⟩] := by
  rw [process_idle rfl, work_onePass rfl, pass_eq, Processor.prepare_congr (openRun_registry _ _ _),
    prepare_twofold]
  decide +kernel

/-- A run by waves without a linter that is not cancelled does not come to what
one pass comes to, and enters one of its diagnostics neither as repaired nor as
failed. -/
theorem twofold_unlinted_not : ∃ trail q l r,
    (process lenient (twofold (.inWaves none none)) sipping).Runs Interlude trail q (r, some l) ∧
    r.fault? = none ∧
    ⟨some "digit", 2, 1⟩ ∈ (twofold (.inWaves none none)).diagnostics.map Diagnostic.identity ∧
    ⟨some "digit", 2, 1⟩ ∉ (r.applied ++ r.failed).map Summary.identity ∧
    ¬LikeOnePass lenient.accepts sipping (twofold .onePass).code (twofold .onePass).diagnostics
      r := by
  obtain ⟨trail, l, run⟩ := exists_run lenient (twofold (.inWaves none none)) (p := sipping) rfl
  obtain ⟨trail', l', run'⟩ := exists_run lenient (twofold .onePass) (p := sipping) rfl
  obtain ⟨completed, applied, failed⟩ := finish_twofold_inWaves
  obtain ⟨completed', applied'⟩ := finish_twofold_onePass
  refine ⟨trail, _, l, _, run, completed, by decide, ?_, fun like => ?_⟩
  · rw [List.map_append, applied, failed]
    decide
  · obtain ⟨-, same, -⟩ := like lenient sipping _ _ l' _ rfl rfl rfl run'
      (by rw [completed']; decide)
    rw [same, applied] at applied'
    exact absurd applied' (by decide)

end LintRepair.Batch
