/-
No diagnostic is attempted twice in a run by waves.

* `Once`: the invariant between waves: those that had their turn are entered
  once each, none of them is pending, and all that is counted was reported;
* `Once.settle`, `Once.sublist`, `Once.turn`: what a wave, an ebb and the turn of
  a tide make of it;
* `Waves.once`: the waves of a run keep it, and the diagnostics that they count
  besides those they start with are the ones that they adopt from a linter;
* `process_once`: so a run by waves enters no identity twice, and counts every
  one that was handed in or adopted.
-/
import Mathlib.Data.Finset.Card
import LintRepair.Proofs.Batch.Answers

namespace LintRepair.Batch

open scoped List
open Processor (Interlude)

variable {s : Surroundings} {job : Job} {l m : Ledger} {p q : Processor}
variable {trail : List Processor} {seen : List Identity} {ds es rest : List Diagnostic}

/-! ### The invariant between waves -/

/-- The books of a run between waves: what had its turn is entered once, as
repaired or as failed, and is not pending; whatever had its turn or is pending
was reported, and what was reported is counted. -/
structure Once (seen : List Identity) (pending : List Diagnostic) (l : Ledger) : Prop where
  accounted : ((l.applied ++ l.failed).map Summary.identity).Perm l.attempted
  unique : (l.attempted ++ pending.map Diagnostic.identity).Nodup
  known : l.attempted ++ pending.map Diagnostic.identity ⊆ seen
  distinct : seen.Nodup
  total : l.total = seen.length

namespace Once

/-- Only the summaries, the turns and the total of the books matter. -/
lemma congr (h : Once seen ds l) (applied : m.applied = l.applied) (failed : m.failed = l.failed)
    (attempted : m.attempted = l.attempted) (total : m.total = l.total) : Once seen ds m where
  accounted := by rw [applied, failed, attempted]; exact h.accounted
  unique := by rw [attempted]; exact h.unique
  known := by rw [attempted]; exact h.known
  distinct := h.distinct
  total := total.trans h.total

/-- No more had their turn than are counted. -/
lemma attempted_length_le (h : Once seen ds l) : l.attempted.length ≤ seen.length := by
  have unique : l.attempted.Nodup := (List.nodup_append.mp h.unique).1
  have known : l.attempted ⊆ seen := fun i hi => h.known (List.mem_append_left _ hi)
  exact (List.subperm_of_subset unique known).length_le

/-- Pending diagnostics may be given up. -/
lemma sublist (h : Once seen ds l) (sub : es.Sublist ds) : Once seen es l where
  accounted := h.accounted
  unique := h.unique.sublist ((sub.map _).append_left _)
  known := List.Subset.trans ((sub.map _).append_left _).subset h.known
  distinct := h.distinct
  total := h.total

end Once

/-- What is settled is entered besides what was entered before. -/
lemma Settles.accounts (h : Settles ds l m) :
    ((m.applied ++ m.failed).map Summary.identity).Perm
      ((l.applied ++ l.failed).map Summary.identity ++ ds.map Diagnostic.identity) := by
  obtain ⟨repaired, failed, applied, grown, perm, -⟩ := h.entered
  have mixed := append_append_perm l.applied repaired l.failed failed
  rw [← applied, ← grown] at mixed
  calc (m.applied ++ m.failed).map Summary.identity
    _ ~ (l.applied ++ l.failed ++ (repaired ++ failed)).map Summary.identity := mixed.map _
    _ = (l.applied ++ l.failed).map Summary.identity ++ (repaired ++ failed).map Summary.identity :=
        List.map_append
    _ ~ (l.applied ++ l.failed).map Summary.identity ++ ds.map Diagnostic.identity :=
        perm.append_left _

namespace Once

/-- When some of the pending diagnostics have had their turn, the others are
pending. -/
lemma settle (h : Once seen ds l) (settles : Settles es l m)
    (attempted : m.attempted = l.attempted ++ es.map Diagnostic.identity)
    (parts : (es ++ rest).Perm ds) : Once seen rest m := by
  have same : (m.attempted ++ rest.map Diagnostic.identity).Perm
      (l.attempted ++ ds.map Diagnostic.identity) := by
    rw [attempted, List.append_assoc, ← List.map_append]
    exact (parts.map _).append_left _
  exact
    { accounted := attempted ▸ settles.accounts.trans (h.accounted.append_right _)
      unique := same.nodup_iff.mpr h.unique
      known := List.Subset.trans same.subset h.known
      distinct := h.distinct
      total := settles.total.trans h.total }

/-- Pending diagnostics that get no turn are settled. -/
lemma failAll (h : Once seen ds l) (cause : Cause) : Once seen [] (l.failAll cause ds) :=
  h.settle (settles_failAll l cause ds) rfl (by rw [List.append_nil])

/-- When a linter has given diagnostics, those that had no turn are pending. -/
lemma turn {t : Tide} (h : Once t.seen ds l) {fresh : List Diagnostic}
    (distinct : (fresh.map Diagnostic.identity).Nodup) :
    Once (t.turn l fresh).1.seen (t.turn l fresh).1.pending (t.turn l fresh).2 := by
  have known : l.attempted ⊆ t.seen := fun i hi => h.known (List.mem_append_left _ hi)
  refine ⟨h.accounted, ?_, ?_, ?_, ?_⟩
  · refine List.nodup_append.mpr
      ⟨(List.nodup_append.mp h.unique).1, distinct.sublist (List.filter_sublist.map _), ?_⟩
    rintro i hi j hj rfl
    obtain ⟨d, hd, rfl⟩ := List.mem_map.mp hj
    simpa [show d.identity ∈ l.attempted from hi] using (List.mem_filter.mp hd).2
  · intro i hi
    by_cases old : i ∈ t.seen
    · exact List.mem_append_left _ old
    rcases List.mem_append.mp hi with had | pending
    · exact absurd (known had) old
    · obtain ⟨d, hd, rfl⟩ := List.mem_map.mp pending
      refine List.mem_append_right _ (List.mem_map_of_mem (List.mem_filter.mpr ?_))
      exact ⟨(List.mem_filter.mp hd).1, by simpa using old⟩
  · refine List.nodup_append.mpr ⟨h.distinct, distinct.sublist (List.filter_sublist.map _), ?_⟩
    rintro i hi j hj rfl
    obtain ⟨d, hd, rfl⟩ := List.mem_map.mp hj
    simpa [hi] using (List.mem_filter.mp hd).2
  · show l.total + _ = (t.seen ++ _).length
    rw [List.length_append, List.length_map, h.total]

end Once

/-! ### Along the waves of a run -/

/-- The turn of a tide makes known what the linter has given. -/
lemma mem_turn_seen {t : Tide} {fresh : List Diagnostic} {i : Identity} :
    i ∈ (t.turn l fresh).1.seen ↔ i ∈ t.seen ∨ i ∈ fresh.map Diagnostic.identity := by
  show i ∈ t.seen ++ (fresh.filter fun d => !t.seen.contains d.identity).map _ ↔ _
  simp only [List.mem_append, List.mem_map, List.mem_filter, Bool.not_eq_true',
    List.contains_eq_mem, decide_eq_false_iff_not]
  constructor
  · rintro (old | ⟨d, ⟨hd, -⟩, same⟩)
    · exact .inl old
    · exact .inr ⟨d, hd, same⟩
  · rintro (old | ⟨d, hd, rfl⟩)
    · exact .inl old
    · by_cases old : d.identity ∈ t.seen
      · exact .inl old
      · exact .inr ⟨d, ⟨hd, old⟩, rfl⟩

/-- A wave leaves what it has not attempted pending. -/
lemma Wave.once {e : Ending} (h : Wave s ds l p trail m q e) (sound : Sound s.accepts l p)
    (once : Once seen ds l) : Once seen (p.leftover ds) m :=
  once.settle (h.settles sound) (h.attempted sound) (p.crest_append_leftover_perm ds)

lemma Round.once {linter? : Option (Linter × String)}
    {answer : Except String (Option (List Diagnostic))}
    (h : Round s linter? ds l p trail m q answer) (sound : Sound s.accepts l p)
    (once : Once seen ds l) : Once seen (p.leftover ds) m :=
  once.settle (h.settles sound) (h.attempted sound) (p.crest_append_leftover_perm ds)

/-- At the end of the waves of a run, what had its turn is entered once, and what
is counted was known before or adopted from a linter. -/
lemma Waves.once {linter? : Option (Linter × String)} {n : Nat} {t u : Tide} {e : Ending}
    {news : List (List Diagnostic)} (h : Waves s linter? n t l p trail news m q e u)
    (sound : Sound s.accepts l p) (once : Once t.seen t.pending l)
    (distinct : ∀ ds ∈ news, (ds.map Diagnostic.identity).Nodup) :
    ∃ seen, Once seen [] m ∧
      ∀ i, i ∈ seen ↔ i ∈ t.seen ∨ i ∈ news.flatten.map Diagnostic.identity := by
  induction h with
  | spent t l p =>
      exact ⟨t.seen, (once.sublist (List.nil_sublist _)).congr rfl rfl rfl rfl, by simp⟩
  | finished n stop p => exact ⟨_, once.sublist (List.nil_sublist _), by simp⟩
  | stopped n _ wave => exact ⟨_, (wave.once sound once).failAll .cancelled, by simp⟩
  | halted n _ wave _ => exact ⟨_, (wave.once sound once).failAll .skipped, by simp⟩
  | broken n _ round =>
      exact ⟨_, (round.once sound once).sublist (List.nil_sublist _), by simp⟩
  | cancelled n _ round _ => exact ⟨_, (round.once sound once).failAll .cancelled, by simp⟩
  | ebb _ round _ _ ih =>
      exact ih (round.walk.sound sound) ((round.once sound once).sublist (ebb_sublist _ _ _))
        distinct
  | @turn n t u l asked m p v q first later fresh news e _ round _ _ ih =>
      have sound' := (round.walk.sound sound).entry
        (.found asked (fresh.filter fun d => !t.seen.contains d.identity).length)
      obtain ⟨seen, final, all⟩ := ih sound'
        ((round.once sound once).turn (distinct fresh List.mem_cons_self))
        fun ds hds => distinct ds (List.mem_cons_of_mem fresh hds)
      refine ⟨seen, final, fun i => (all i).trans ?_⟩
      rw [mem_turn_seen, List.flatten_cons, List.map_append, List.mem_append, or_assoc]

/-! ### Whole runs -/

/-- What is handed in is pending when a run opens. -/
lemma Once.openRun (s : Surroundings) (p : Processor)
    (handed : (job.diagnostics.map Diagnostic.identity).Nodup) :
    Once (Tide.start job.diagnostics).seen (Tide.start job.diagnostics).pending
      (openRun s job p).2 where
  accounted := .refl _
  unique := handed
  known := fun _ hi => hi
  distinct := handed
  total := (List.length_map _).symm

/-- The lists that a run by waves adopts from the linter of its job. -/
lemma Waves.news_of_start {linter? : Option Linter} {name : Option String} {n : Nat} {t u : Tide}
    {e : Ending} {news : List (List Diagnostic)}
    (h : Waves s (p.linterFor linter? name) n t l p trail news m q e u)
    (never : l.questions = []) :
    news = given linter? [] (heeded (e == .cancelled) trail m.questions) := by
  obtain ⟨asked, found, heeds⟩ := h.news_eq (fun _ => linterFor_eq) (.inr never)
  rw [never, List.nil_append] at heeds
  rw [found, never, heeds]

/-- **No diagnostic is attempted twice.** Where neither the diagnostics of a job
nor a list that its linter gives have an identity twice, a run by waves enters
no identity twice, whether as repaired or as failed, and whether it goes
through, halts or is cancelled; the result counts the identities that were
handed in or adopted from the linter, each once; and no more are entered than
are counted. -/
theorem process_once {linter? : Option Linter} {name : Option String} {r : Result}
    (manner : job.manner = .inWaves linter? name)
    (run : (process s job p).Runs Interlude trail q (r, some l))
    (handed : (job.diagnostics.map Diagnostic.identity).Nodup)
    (lists : ∀ ds ∈ given linter? [] l.questions, (ds.map Diagnostic.identity).Nodup) :
    ((r.applied ++ r.failed).map Summary.identity).Nodup ∧
    r.total = ((job.diagnostics ++ (given linter? []
      (heeded (r.fault? == some .cancelled) trail l.questions)).flatten).map
        Diagnostic.identity).toFinset.card ∧
    r.applied.length + r.failed.length ≤ r.total := by
  obtain ⟨news, e, t, m, v, waves, ends, asked, cancelled, -, rfl⟩ :=
    runs_process_inWaves manner run
  have adopted : news =
      given linter? [] (heeded (l.fault? == some .cancelled) trail l.questions) := by
    have same : (l.fault? == some .cancelled) = (e == .cancelled) :=
      Bool.eq_iff_iff.mpr (by simpa using cancelled)
    rw [waves.news_of_start rfl, asked, same]
  have distinct : ∀ ds ∈ news, (ds.map Diagnostic.identity).Nodup := by
    intro ds hds
    obtain ⟨unheeded, all⟩ := heeded_initial (l.fault? == some .cancelled) trail l.questions
    refine lists ds ?_
    rw [← all, given_append, ← adopted]
    exact List.mem_append_left _ hds
  obtain ⟨seen, final, all⟩ :=
    waves.once (openRun_sound s job p) (Once.openRun s p handed) distinct
  have entered : ((l.applied ++ l.failed).map Summary.identity).Perm m.attempted := by
    rw [ends.applied, ends.failed]
    exact final.accounted
  have unique : m.attempted.Nodup := (List.append_nil m.attempted) ▸ final.unique
  have total : l.total = seen.length := ends.total.trans final.total
  refine ⟨entered.nodup_iff.mpr unique, ?_, ?_⟩
  · have count : seen.toFinset =
        ((job.diagnostics ++ news.flatten).map Diagnostic.identity).toFinset := by
      ext i
      rw [List.mem_toFinset, List.mem_toFinset, all, List.map_append, List.mem_append]
      rfl
    rw [adopted] at count
    calc l.total
      _ = seen.length := total
      _ = seen.toFinset.card := (List.toFinset_card_of_nodup final.distinct).symm
      _ = _ := congrArg Finset.card count
  · calc l.applied.length + l.failed.length
      _ = ((l.applied ++ l.failed).map Summary.identity).length := by simp
      _ = m.attempted.length := entered.length_eq
      _ ≤ seen.length := final.attempted_length_le
      _ = l.total := total.symm

/-- A linter that reports a repaired diagnostic again, and another one, and then
takes too long. -/
def nagging : Linter := fun asked _ =>
  { report :=
      if asked.isEmpty then
        .fresh
          [{ rule := some "bracket", message := "", line := 1, column := 1 },
            { rule := some "digit", message := "", line := 2, column := 1 }]
      else .timedOut }

/-- A diagnostic that can be repaired, with the linter asked behind it. -/
def nagged : Job where
  code := "0\n0".toList
  diagnostics := [{ rule := some "digit", message := "", line := 2, column := 1 }]
  manner := .inWaves (some nagging) none

/-- The run repairs the one diagnostic, and fails at the other one. -/
lemma finish_nagged :
    (process lenient nagged scribe).finish.2.1.total = 2 ∧
      (process lenient nagged scribe).finish.2.1.applied.length = 1 ∧
      (process lenient nagged scribe).finish.2.1.failed.length = 1 := by
  decide +kernel

theorem nagged_once : ∃ trail q l r,
    nagged.manner = .inWaves (some nagging) none ∧
    (process lenient nagged scribe).Runs Interlude trail q (r, some l) ∧
    (nagged.diagnostics.map Diagnostic.identity).Nodup ∧
    (∀ ds ∈ given (some nagging) [] l.questions, (ds.map Diagnostic.identity).Nodup) ∧
    r.applied.length = 1 ∧ r.failed.length = 1 ∧
    ((r.applied ++ r.failed).map Summary.identity).Nodup ∧
    ((nagged.diagnostics ++ (given (some nagging) []
      (heeded (r.fault? == some .cancelled) trail l.questions)).flatten).map
        Diagnostic.identity).toFinset.card = 2 ∧
    r.applied.length + r.failed.length ≤ 2 := by
  obtain ⟨trail, l, run⟩ := exists_run lenient nagged (p := scribe) rfl
  obtain ⟨total, applied, failed⟩ := finish_nagged
  have lists : ∀ ds ∈ given (some nagging) [] l.questions,
      (ds.map Diagnostic.identity).Nodup := by
    intro ds hds
    obtain ⟨asked, q, answer⟩ := mem_given hds
    cases asked with
    | nil =>
        obtain rfl := Option.some.inj answer
        decide
    | cons => cases answer
  obtain ⟨unique, count, within⟩ := process_once rfl run (by decide) lists
  rw [total] at count within
  exact ⟨trail, _, l, _, rfl, run, by decide, lists, applied, failed, unique, count.symm, within⟩

end LintRepair.Batch
