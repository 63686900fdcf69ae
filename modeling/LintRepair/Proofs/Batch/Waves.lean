/-
The ways through the waves of a run.

* `Processor.prepare_crest`, `Processor.unfixable_crest`: a wave gives their
  turns to the first diagnostics in order, and fails those without a fixer;
* `Wave`: the ways through the attempts of one wave;
* `Inquiry`: the ways through a question to a linter;
* `Round`: a wave that goes through, and the question behind it;
* `Waves`, `runs_wavesUpTo`: the ways through waves, with the lists of
  diagnostics that are adopted from a linter;
* `runs_work_inWaves`, `runs_process_inWaves`: a run by waves makes its attempts
  so.

What holds along the waves of a run is thus shown by induction on `Waves`, one
case for each way in which a wave can end.
-/
import LintRepair.Proofs.Batch.Account

namespace LintRepair.Batch

open Processor (Interlude interlude_trans interlude_cancel interlude_refl)

variable {s : Surroundings} {l m : Ledger} {p q : Processor} {trail : List Processor}
variable {ds es : List Diagnostic} {d : Diagnostic}

/-! ### The diagnostics of a wave -/

namespace Processor

/-- How many turns a wave has at most. -/
def waveSize (p : Processor) : Nat := p.settings.relintBatchSize.value.toNat

lemma mem_prepare : d ∈ p.prepare ds ↔ d ∈ ds ∧ p.registry.isFixable d.rule = true :=
  (List.mergeSort_perm _ _).mem_iff.trans List.mem_filter

lemma mem_unfixable : d ∈ p.unfixable ds ↔ d ∈ ds ∧ p.registry.isFixable d.rule = false := by
  rw [unfixable, List.mem_filter, Bool.not_eq_true']

/-- Some of the diagnostics that have been ordered are in order. -/
lemma prepare_of_sublist (h : es.Sublist (p.prepare ds)) : p.prepare es = es := by
  have fixable : es.filter (fun d => p.registry.isFixable d.rule) = es :=
    List.filter_eq_self.mpr fun d hd => (mem_prepare.mp (h.subset hd)).2
  have sorted : (p.prepare ds).Pairwise fun a b => before a b = true :=
    List.pairwise_mergeSort before_trans before_total _
  rw [prepare, fixable]
  exact List.mergeSort_of_pairwise (sorted.sublist h)

/-- Diagnostics that have been ordered have fixers. -/
lemma unfixable_of_sublist (h : es.Sublist (p.prepare ds)) : p.unfixable es = [] := by
  refine List.filter_eq_nil_iff.mpr fun d hd => ?_
  simp [(mem_prepare.mp (h.subset hd)).2]

lemma crest_eq (p : Processor) (ds : List Diagnostic) :
    p.crest ds = p.unfixable ds ++ (p.prepare ds).take p.waveSize := rfl

lemma leftover_eq (p : Processor) (ds : List Diagnostic) :
    p.leftover ds = (p.prepare ds).drop p.waveSize := rfl

/-- Besides those without a fixer, diagnostics that have been ordered stay in
order. -/
lemma prepare_unfixable_append (h : es.Sublist (p.prepare ds)) :
    p.prepare (p.unfixable ds ++ es) = es := by
  have none : (p.unfixable ds).filter (fun d => p.registry.isFixable d.rule) = [] := by
    refine List.filter_eq_nil_iff.mpr fun d hd => ?_
    simp [(mem_unfixable.mp hd).2]
  calc p.prepare (p.unfixable ds ++ es)
    _ = p.prepare es := by
        rw [prepare, List.filter_append, none, List.nil_append]
        rfl
    _ = es := prepare_of_sublist h

lemma unfixable_unfixable_append (h : es.Sublist (p.prepare ds)) :
    p.unfixable (p.unfixable ds ++ es) = p.unfixable ds := by
  calc p.unfixable (p.unfixable ds ++ es)
    _ = p.unfixable (p.unfixable ds) ++ p.unfixable es := List.filter_append ..
    _ = p.unfixable ds := by
        rw [unfixable_of_sublist h, List.append_nil]
        simp [unfixable, List.filter_filter]

/-- The turns of a wave are those of the first diagnostics in order. -/
lemma prepare_crest : p.prepare (p.crest ds) = (p.prepare ds).take p.waveSize :=
  prepare_unfixable_append (List.take_sublist _ _)

/-- The diagnostics that a wave fails are those without a fixer. -/
lemma unfixable_crest : p.unfixable (p.crest ds) = p.unfixable ds :=
  unfixable_unfixable_append (List.take_sublist _ _)

/-- A wave and what it leaves are all there is. -/
lemma crest_append_leftover_perm (p : Processor) (ds : List Diagnostic) :
    (p.crest ds ++ p.leftover ds).Perm ds := by
  rw [crest_eq, leftover_eq, List.append_assoc, List.take_append_drop]
  exact unfixable_append_prepare_perm p ds

end Processor

/-- What is left after repairs is some of what there was. -/
lemma ebb_sublist (t : Tide) (rest : List Diagnostic) (repaired : List Summary) :
    (t.ebb rest repaired).pending.Sublist rest := by
  show (repaired.foldl (fun ds sm => prune sm.identity ds) rest).Sublist rest
  induction repaired generalizing rest with
  | nil => exact .refl rest
  | cons sm later ih => exact (ih _).trans List.filter_sublist

/-! ### The attempts of a wave -/

/-- The ways through the attempts of a wave: the pending diagnostics without a
fixer fail, and the first other ones have their turns. -/
def Wave (s : Surroundings) (pending : List Diagnostic) (l : Ledger) (p : Processor)
    (trail : List Processor) (m : Ledger) (q : Processor) (e : Ending) : Prop :=
  Turns s ((p.prepare pending).take p.waveSize) (l.failAll .noFixer (p.unfixable pending)) p
    trail m q e

/-- Turns go through or are cancelled. -/
lemma Turns.through_or_cancelled {e : Ending} (h : Turns s ds l p trail m q e) :
    e = .through ∨ e = .cancelled := by
  induction h with
  | done => exact .inl rfl
  | cancelled => exact .inr rfl
  | halted => exact .inl rfl
  | turn _ _ _ _ _ ih => exact ih

/-- A wave is a walk. -/
lemma Wave.walk {e : Ending} (h : Wave s ds l p trail m q e) : Walk s l p trail m q :=
  .entry (.failAll l .noFixer (p.unfixable ds)) (Turns.walk h)

/-- The turns of some diagnostics are noted, whether they are taken or not. -/
lemma Turns.attempted {e : Ending} (h : Turns s ds l p trail m q e) (sound : Sound s.accepts l p) :
    m.attempted = l.attempted ++ ds.map Diagnostic.identity := by
  induction h with
  | done => rw [List.map_nil, List.append_nil]
  | cancelled => rfl
  | halted => rfl
  | @turn l _ p _ _ _ _ _ d _ _ wait _ ih =>
      have noted : (fixOne s d l p).2.attempted = l.attempted ++ [d.identity] :=
        (fixOne_settled sound d).attempted
      rw [ih (sound.turn wait), noted, List.append_assoc]
      rfl

/-- A wave settles its diagnostics. -/
lemma Wave.settles {e : Ending} (h : Wave s ds l p trail m q e) (sound : Sound s.accepts l p) :
    Settles (p.crest ds) l m :=
  (settles_failAll l .noFixer (p.unfixable ds)).append
    (Turns.settles h (sound.entry (.failAll l .noFixer (p.unfixable ds))))

lemma Wave.attempted {e : Ending} (h : Wave s ds l p trail m q e) (sound : Sound s.accepts l p) :
    m.attempted = l.attempted ++ (p.crest ds).map Diagnostic.identity := by
  have turns := Turns.attempted h (sound.entry (.failAll l .noFixer (p.unfixable ds)))
  rw [turns, Processor.crest_eq, List.map_append, ← List.append_assoc]
  rfl

/-! ### The question behind a wave -/

/-- The ways through a question to a linter: there is none to ask, or it is not
asked as no clock could tell that it takes too long, or it answers behind a
pause. -/
inductive Inquiry : Option (Linter × String) → Ledger → Processor → List Processor → Ledger →
    Processor → Except String (Option (List Diagnostic)) → Prop
  | nobody (l : Ledger) (p : Processor) : Inquiry none l p [] l p (.ok none)
  | endless (asked : Linter × String) (l : Ledger) (p : Processor) :
      Inquiry (some asked) l p [] (l.note (.lintFailed endlessText)) p (.ok none)
  | asked (linter : Linter) (name : String) {l m : Ledger} {p v : Processor}
      {answer : Except String (Option (List Diagnostic))} (wait : Interlude (p.showing l) v)
      (heard : (m, answer) = receive p.settings.relintTimeout (l.ask (l.code, name))
        (linter l.questions (l.code, name)).report) :
      Inquiry (some (linter, name)) l p [p.showing l] m v answer

/-- Every way through a question is of that form. -/
lemma runs_inquire {linter? : Option (Linter × String)}
    {answer : Except String (Option (List Diagnostic))}
    (run : (inquire linter? l p).Runs Interlude trail q (m, answer)) :
    Inquiry linter? l p trail m q answer := by
  cases linter? with
  | none =>
      rw [inquire, Routine.pure_apply, Course.runs_done] at run
      obtain ⟨rfl, rfl, h⟩ := run
      cases h
      exact .nobody l q
  | some asked =>
      obtain ⟨linter, name⟩ := asked
      rw [inquire] at run
      by_cases endless : p.settings.relintTimeout.toFloat?.isNone = true
      · rw [consult_endless endless, Course.runs_done] at run
        obtain ⟨rfl, rfl, h⟩ := run
        cases h
        exact .endless (linter, name) l q
      rw [consult_eq (Bool.eq_false_iff.mpr endless), Course.runs_paused] at run
      obtain ⟨v, later, rfl, wait, run⟩ := run
      rw [Course.runs_done] at run
      obtain ⟨rfl, rfl, heard⟩ := run
      -- a linter that cancels the run does so at the end of the pause
      refine .asked linter name (interlude_trans wait ?_) heard
      split
      · exact interlude_cancel v
      · exact interlude_refl v

/-- A question changes nothing of the books but the questions and the notes. -/
lemma Inquiry.books {linter? : Option (Linter × String)}
    {answer : Except String (Option (List Diagnostic))}
    (h : Inquiry linter? l p trail m q answer) :
    ∃ questions notes, m = { l with questions, notes } := by
  cases h with
  | nobody => exact ⟨_, _, rfl⟩
  | endless => exact ⟨_, _, rfl⟩
  | asked linter name wait heard =>
      obtain ⟨rfl, rfl⟩ := Prod.mk.inj heard
      cases (linter l.questions (l.code, name)).report <;> exact ⟨_, _, rfl⟩

/-- A question is a walk. -/
lemma Inquiry.walk {linter? : Option (Linter × String)}
    {answer : Except String (Option (List Diagnostic))}
    (h : Inquiry linter? l p trail m q answer) : Walk s l p trail m q := by
  cases h with
  | nobody => exact .refl l p
  | endless => exact .ofEntry p (.note l (.lintFailed endlessText))
  | asked linter name wait heard =>
      obtain ⟨rfl, rfl⟩ := Prod.mk.inj heard
      exact .pause wait (.entry (.ask l (l.code, name)) (walk_receive _ _))

/-! ### Rounds -/

/-- A wave that goes through without a halt, and the question behind it. -/
inductive Round (s : Surroundings) (linter? : Option (Linter × String))
    (pending : List Diagnostic) : Ledger → Processor → List Processor → Ledger → Processor →
    Except String (Option (List Diagnostic)) → Prop
  | mk {l m : Ledger} {p q : Processor} {first later : List Processor}
      {answer : Except String (Option (List Diagnostic))} (after : Ledger) (v : Processor)
      (wave : Wave s pending l p first after v .through) (open' : after.halted = false)
      (ask : Inquiry linter? after v later m q answer) :
      Round s linter? pending l p (first ++ later) m q answer

lemma Round.walk {linter? : Option (Linter × String)}
    {answer : Except String (Option (List Diagnostic))}
    (h : Round s linter? ds l p trail m q answer) : Walk s l p trail m q := by
  cases h with
  | mk after v wave _ ask => exact wave.walk.trans ask.walk

/-- In a round the pending diagnostics of its wave are settled. -/
lemma Round.settles {linter? : Option (Linter × String)}
    {answer : Except String (Option (List Diagnostic))}
    (h : Round s linter? ds l p trail m q answer) (sound : Sound s.accepts l p) :
    Settles (p.crest ds) l m := by
  cases h with
  | mk after v wave _ ask =>
      obtain ⟨questions, notes, rfl⟩ := ask.books
      have settles := wave.settles sound
      exact ⟨settles.entered, settles.total⟩

/-- In a round the diagnostics of its wave have had their turn. -/
lemma Round.attempted {linter? : Option (Linter × String)}
    {answer : Except String (Option (List Diagnostic))}
    (h : Round s linter? ds l p trail m q answer) (sound : Sound s.accepts l p) :
    m.attempted = l.attempted ++ (p.crest ds).map Diagnostic.identity := by
  cases h with
  | mk after v wave _ ask =>
      obtain ⟨questions, notes, rfl⟩ := ask.books
      exact wave.attempted sound

/-- Behind a round the run goes on. -/
lemma Round.open {linter? : Option (Linter × String)}
    {answer : Except String (Option (List Diagnostic))}
    (h : Round s linter? ds l p trail m q answer) : m.halted = false := by
  cases h with
  | mk after v _ open' ask =>
      obtain ⟨questions, notes, rfl⟩ := ask.books
      exact open'

/-! ### Waves -/

/-- A wave gives their turns to the first diagnostics in order, and leaves the
others. -/
lemma wavesUpTo_eq {linter? : Option (Linter × String)} {n : Nat} {t : Tide}
    (going : (t.pending.isEmpty || l.halted) = false) :
    wavesUpTo s linter? (n + 1) t l p =
      (turns s ((p.prepare t.pending).take p.waveSize) (l.failAll .noFixer (p.unfixable t.pending))
        p).bind fun a q =>
          goOn linter? (wavesUpTo s linter? n) t ((p.prepare t.pending).drop p.waveSize) l a.1 a.2
            q := by
  rw [wavesUpTo_succ going, pass_eq, Processor.prepare_crest, Processor.unfixable_crest,
    Processor.leftover_eq]

/-- The ways through waves, with the lists of diagnostics that are adopted from
a linter on the way. -/
inductive Waves (s : Surroundings) (linter? : Option (Linter × String)) :
    Nat → Tide → Ledger → Processor → List Processor → List (List Diagnostic) → Ledger →
    Processor → Ending → Tide → Prop
  | spent (t : Tide) (l : Ledger) (p : Processor) :
      Waves s linter? 0 t l p [] [] (l.note (.wavesSpent maxWaves)) p .through t
  | finished (n : Nat) {t : Tide} {l : Ledger} (stop : t.pending = [] ∨ l.halted = true)
      (p : Processor) : Waves s linter? (n + 1) t l p [] [] l p .through t
  | stopped (n : Nat) {t : Tide} {l after : Ledger} {p v : Processor} {trail : List Processor}
      (going : l.halted = false) (wave : Wave s t.pending l p trail after v .cancelled) :
      Waves s linter? (n + 1) t l p trail [] (after.failAll .cancelled (p.leftover t.pending)) v
        .cancelled t
  | halted (n : Nat) {t : Tide} {l after : Ledger} {p v : Processor} {trail : List Processor}
      (going : l.halted = false) (wave : Wave s t.pending l p trail after v .through)
      (halt : after.halted = true) :
      Waves s linter? (n + 1) t l p trail [] (after.failAll .skipped (p.leftover t.pending)) v
        .through t
  | broken (n : Nat) {t : Tide} {l asked : Ledger} {p v : Processor} {trail : List Processor}
      {text : String} (going : l.halted = false)
      (round : Round s linter? t.pending l p trail asked v (.error text)) :
      Waves s linter? (n + 1) t l p trail [] asked v (.broken text) t
  | cancelled (n : Nat) {t : Tide} {l asked : Ledger} {p v : Processor} {trail : List Processor}
      {fresh? : Option (List Diagnostic)} (going : l.halted = false)
      (round : Round s linter? t.pending l p trail asked v (.ok fresh?))
      (stop : v.cancelled = true) :
      Waves s linter? (n + 1) t l p trail [] (asked.failAll .cancelled (p.leftover t.pending)) v
        .cancelled t
  | ebb {n : Nat} {t u : Tide} {l asked m : Ledger} {p v q : Processor}
      {first later : List Processor} {news : List (List Diagnostic)} {e : Ending}
      (going : l.halted = false)
      (round : Round s linter? t.pending l p first asked v (.ok none))
      (still : v.cancelled = false)
      (rest : Waves s linter? n
        (t.ebb (p.leftover t.pending) (asked.applied.drop l.applied.length)) asked v later news m
        q e u) :
      Waves s linter? (n + 1) t l p (first ++ later) news m q e u
  | turn {n : Nat} {t u : Tide} {l asked m : Ledger} {p v q : Processor}
      {first later : List Processor} {fresh : List Diagnostic} {news : List (List Diagnostic)}
      {e : Ending} (going : l.halted = false)
      (round : Round s linter? t.pending l p first asked v (.ok (some fresh)))
      (still : v.cancelled = false)
      (rest : Waves s linter? n (t.turn asked fresh).1 (t.turn asked fresh).2 v later news m q e
        u) :
      Waves s linter? (n + 1) t l p (first ++ later) (fresh :: news) m q e u

/-- Every way through waves is of that form. -/
lemma runs_wavesUpTo {linter? : Option (Linter × String)} {n : Nat} {t u : Tide} {e : Ending}
    (run : (wavesUpTo s linter? n t l p).Runs Interlude trail q (m, e, u)) :
    ∃ news, Waves s linter? n t l p trail news m q e u := by
  induction n generalizing l p t trail with
  | zero =>
      rw [wavesUpTo, Routine.pure_apply, Course.runs_done] at run
      obtain ⟨rfl, rfl, h⟩ := run
      cases h
      exact ⟨[], .spent _ l q⟩
  | succ n ih =>
      by_cases stop : (t.pending.isEmpty || l.halted) = true
      · rw [wavesUpTo_succ_end stop, Course.runs_done] at run
        obtain ⟨rfl, rfl, h⟩ := run
        cases h
        exact ⟨[], .finished n (by simpa using stop) q⟩
      have going : l.halted = false := by
        simp only [Bool.or_eq_true, not_or, Bool.not_eq_true] at stop
        exact stop.2
      rw [wavesUpTo_eq (by simpa using stop), Course.runs_bind] at run
      obtain ⟨first, v, ⟨after, ending⟩, later, rfl, turns, run⟩ := run
      have wave : Wave s t.pending l p first after v ending := runs_turns turns
      rcases runs_goOn run with ⟨ended, rfl, rfl, rfl, rfl, rfl⟩ |
        ⟨rfl, halt, rfl, rfl, rfl, rfl, rfl⟩ |
        ⟨rfl, open', asking, w, asked, answer, last, rfl, ask, run⟩
      · obtain rfl := wave.through_or_cancelled.resolve_left ended
        rw [List.append_nil]
        exact ⟨[], .stopped n going wave⟩
      · rw [List.append_nil]
        exact ⟨[], .halted n going wave halt⟩
      have round := Round.mk after v wave open' (runs_inquire ask)
      rw [← List.append_assoc]
      rcases run with ⟨text, rfl, rfl, rfl, rfl, rfl, rfl⟩ |
        ⟨fresh?, rfl, stop', rfl, rfl, rfl, rfl, rfl⟩ | ⟨rfl, still, run⟩ | ⟨fresh, rfl, still, run⟩
      · rw [List.append_nil]
        exact ⟨[], .broken n going round⟩
      · rw [List.append_nil]
        exact ⟨[], .cancelled n going round stop'⟩
      · obtain ⟨news, rest⟩ := ih run
        exact ⟨news, .ebb going round still rest⟩
      · obtain ⟨news, rest⟩ := ih run
        exact ⟨fresh :: news, .turn going round still rest⟩

/-- The first wave of a run finds all its diagnostics to be attempted. -/
lemma wavesUpTo_opened {linter? : Option (Linter × String)} {job : Job}
    (some' : job.diagnostics.isEmpty = false) :
    wavesUpTo s linter? maxWaves (.start job.diagnostics) (openRun s job p).2
        (openRun s job p).1 =
      (turns s ((p.prepare job.diagnostics).take p.waveSize)
        ((openRun s job p).2.failAll .noFixer (p.unfixable job.diagnostics))
        (openRun s job p).1).bind fun a q =>
          goOn linter? (wavesUpTo s linter? (maxWaves - 1)) (.start job.diagnostics)
            ((p.prepare job.diagnostics).drop p.waveSize) (openRun s job p).2 a.1 a.2 q := by
  have going : ((Tide.start job.diagnostics).pending.isEmpty || (openRun s job p).2.halted) =
      false := by
    obtain ⟨updates, notes, books⟩ :=
      announce_books (l := job.books) (p := job.ready p) s .analyzing "" "Analyzing diagnostics"
    rw [openRun_eq, books]
    exact Bool.or_eq_false_iff.mpr ⟨some', rfl⟩
  have size : (openRun s job p).1.waveSize = p.waveSize := by
    rw [Processor.waveSize, openRun_settings]
    rfl
  have registry := openRun_registry s job p
  rw [show maxWaves = maxWaves - 1 + 1 from rfl, wavesUpTo_eq going, size,
    Processor.prepare_congr registry, Processor.unfixable_congr registry]
  rfl

lemma work_inWaves {job : Job} {linter? : Option Linter} {name : Option String}
    (manner : job.manner = .inWaves linter? name) :
    work s job l p = waves s linter? name job.diagnostics l p := by
  rw [work, manner]

/-- Every way through the attempts of a run by waves is of that form. -/
lemma runs_work_inWaves {job : Job} {linter? : Option Linter} {name : Option String}
    {e : Ending} {lint? : Option LintInfo} (manner : job.manner = .inWaves linter? name)
    (run : (work s job l p).Runs Interlude trail q (m, e, lint?)) :
    ∃ news t, Waves s (p.linterFor linter? name) maxWaves (.start job.diagnostics) l p trail news
        m q e t ∧
      lint? = if e == .through then some (t.info m) else none := by
  rw [work_inWaves manner, waves_eq, Course.runs_bind] at run
  obtain ⟨first, v, ⟨m', e', t⟩, later, rfl, run, last⟩ := run
  obtain ⟨rfl, rfl, h⟩ := Course.runs_done.mp last
  cases h
  obtain ⟨news, waves⟩ := runs_wavesUpTo run
  rw [List.append_nil]
  exact ⟨news, t, waves, rfl⟩

/-- The waves of a run are a walk. -/
lemma Waves.walk {linter? : Option (Linter × String)} {n : Nat} {t u : Tide} {e : Ending}
    {news : List (List Diagnostic)} (h : Waves s linter? n t l p trail news m q e u) :
    Walk s l p trail m q := by
  induction h with
  | spent t l p => exact .ofEntry p (.note l (.wavesSpent maxWaves))
  | finished n stop p => exact .refl _ p
  | stopped n _ wave =>
      simpa using wave.walk.trans (.ofEntry _ (.failAll _ .cancelled _))
  | halted n _ wave _ =>
      simpa using wave.walk.trans (.ofEntry _ (.failAll _ .skipped _))
  | broken n _ round => exact round.walk
  | cancelled n _ round _ =>
      simpa using round.walk.trans (.ofEntry _ (.failAll _ .cancelled _))
  | ebb _ round _ _ ih => exact round.walk.trans ih
  | turn _ round _ _ ih => exact round.walk.trans (.entry (.found _ _) ih)

/-- An accepted run by waves opens, makes waves, and ends with their books; it is
reported as cancelled just if they were, and it has a fault if they have. -/
lemma runs_process_inWaves {job : Job} {linter? : Option Linter} {name : Option String}
    {r : Result} (manner : job.manner = .inWaves linter? name)
    (run : (process s job p).Runs Interlude trail q (r, some l)) :
    ∃ news e t m v,
      Waves s ((openRun s job p).1.linterFor linter? name) maxWaves (.start job.diagnostics)
        (openRun s job p).2 (openRun s job p).1 trail news m v e t ∧
      Ends m l ∧ l.questions = m.questions ∧ (l.fault? = some .cancelled ↔ e = .cancelled) ∧
      (l.fault? = none → m.fault? = none) ∧
      r = l.result (if e == .through then some (t.info m) else none) := by
  obtain ⟨-, e, lint?, m, v, attempts, last, rfl⟩ := runs_process run
  obtain ⟨news, t, waves, rfl⟩ := runs_work_inWaves manner attempts
  have sound := waves.walk.sound (openRun_sound s job p)
  have unfaulted : m.fault? ≠ some .cancelled := by
    rcases waves.walk.fault with ⟨same, -⟩ | ⟨d, fault, halt, found⟩
    · rw [same]
      exact fun none => by cases none
    · rw [found]
      cases halt <;> simp
  have books : l = (closing s e m v).2 := congrArg Prod.snd last
  subst books
  obtain ⟨questions, fault⟩ := closing_fault sound e
  refine ⟨news, e, t, m, v, waves, closing_ends sound e, questions, ?_, ?_, rfl⟩
  · rcases fault with ⟨rfl, fault⟩ | ⟨text, rfl, fault⟩ | ⟨rfl, fault⟩
    · exact ⟨fun _ => rfl, fun _ => fault⟩
    · simp [fault]
    · simp [fault, unfaulted]
  · rcases fault with ⟨-, fault⟩ | ⟨text, -, fault⟩ | ⟨-, fault⟩
    · simp [fault]
    · simp [fault]
    · exact fun none => fault.symm.trans none

end LintRepair.Batch
