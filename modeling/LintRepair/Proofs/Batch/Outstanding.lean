/-
What a run by waves reports as outstanding.

* `lastGiven?`, `booksAt?`, `repairsSince`: the last question that a linter has
  answered with diagnostics, the books at that moment, and the repairs since;
* `Repaired`: some diagnostics are repaired in part, and no others;
* `Learned`: what waves have learned: nothing, or the diagnostics that a linter
  gave last, of which some have been repaired since;
* `process_outstanding`: what is reported as outstanding is so just if no linter
  gave diagnostics or nothing was repaired since;
* `lapsed_outstanding_not`: a run that reports a repaired diagnostic.
-/
import LintRepair.Proofs.Batch.Once

namespace LintRepair.Batch

open Processor (Interlude)

variable {s : Surroundings} {job : Job} {l m n : Ledger} {p q : Processor}
variable {trail : List Processor} {ds es : List Diagnostic}
variable {linter? : Option Linter} {asked? : Option (Linter × String)}

/-! ### Repairs behind the last answer -/

/-- What was asked before the last question that a linter has answered with
diagnostics, if there is such a question. -/
def lastGiven? (linter? : Option Linter) (asked : List Question) :
    List Question → Option (List Question)
  | [] => none
  | q :: later =>
    (lastGiven? linter? (asked ++ [q]) later).or ((given? linter? asked q).map fun _ => asked)

/-- The books that a run has shown last before it asked another question. -/
def booksAt? (trail : List Processor) (asked : List Question) : Option Ledger :=
  ((shown trail).filter (·.questions == asked)).getLast?

/-- The repairs of a run since a linter gave diagnostics for the last time. -/
def repairsSince (linter? : Option Linter) (trail : List Processor) (l : Ledger) :
    List Summary :=
  l.applied.drop
    (((lastGiven? linter? [] l.questions).bind (booksAt? trail)).elim 0 (·.applied.length))

/-- All repairs count where no linter gave diagnostics. -/
lemma repairsSince_of_never (never : lastGiven? linter? [] l.questions = none) :
    repairsSince linter? trail l = l.applied := by
  rw [repairsSince, never]
  rfl

/-- Otherwise those count that are not in the books of that moment. -/
lemma repairsSince_of_books {asked : List Question} {b : Ledger} {repaired : List Summary}
    (last : lastGiven? linter? [] l.questions = some asked) (books : booksAt? trail asked = some b)
    (grown : l.applied = b.applied ++ repaired) : repairsSince linter? trail l = repaired := by
  rw [repairsSince, last, Option.bind_some, books, grown]
  exact List.drop_left

/-- The diagnostics that are outstanding of those that were learned last. -/
def LintInfo.outstanding (i : LintInfo) (repaired : List Summary) : List Diagnostic :=
  i.current.filter fun d => !(repaired.map Summary.identity).contains d.identity

/-- What is shown later replaces what was shown before. -/
lemma booksAt?_append_of_some {first later : List Processor} {asked : List Question} {b : Ledger}
    (h : booksAt? later asked = some b) : booksAt? (first ++ later) asked = some b := by
  rw [booksAt?] at *
  rw [shown_append, List.filter_append, List.getLast?_append, h]
  rfl

/-- When further questions have been asked, the books are those shown last
before. -/
lemma booksAt?_append {first later : List Processor} {asked : List Question} {b : Ledger}
    (known : ∀ b ∈ shown first, b.questions = asked) (last : (shown first).getLast? = some b)
    {question : Question} (further : ∀ b ∈ shown later, asked ++ [question] <+: b.questions) :
    booksAt? (first ++ later) asked = some b := by
  have all : (shown first).filter (·.questions == asked) = shown first :=
    List.filter_eq_self.mpr fun b hb => by simpa using known b hb
  have none : (shown later).filter (·.questions == asked) = [] := by
    refine List.filter_eq_nil_iff.mpr fun b hb same => ?_
    have longer := further b hb
    rw [beq_iff_eq.mp same] at longer
    exact absurd longer.length_le (by simp)
  rw [booksAt?, shown_append, List.filter_append, all, none, List.append_nil, last]

/-! ### Repairs of known diagnostics -/

/-- From one moment of a run to another there are only repairs of some
diagnostics. -/
def Repaired (ds : List Diagnostic) (l m : Ledger) : Prop :=
  ∃ repaired, m.applied = l.applied ++ repaired ∧
    ∀ sm ∈ repaired, sm.identity ∈ ds.map Diagnostic.identity

namespace Repaired

lemma of_applied (ds : List Diagnostic) (same : m.applied = l.applied) : Repaired ds l m :=
  ⟨[], by rw [same, List.append_nil], by simp⟩

lemma trans (h : Repaired ds l m) (h' : Repaired ds m n) : Repaired ds l n := by
  obtain ⟨repaired, grown, known⟩ := h
  obtain ⟨repaired', grown', known'⟩ := h'
  refine ⟨repaired ++ repaired', by rw [grown', grown, List.append_assoc], fun sm hsm => ?_⟩
  rcases List.mem_append.mp hsm with old | new
  · exact known sm old
  · exact known' sm new

lemma mono (h : Repaired ds l m) (sub : ds ⊆ es) : Repaired es l m := by
  obtain ⟨repaired, grown, known⟩ := h
  exact ⟨repaired, grown, fun sm hsm => List.map_subset _ sub (known sm hsm)⟩

end Repaired

lemma Settles.repaired (h : Settles ds l m) : Repaired ds l m := by
  obtain ⟨repaired, failed, applied, -, -, sub⟩ := h.entered
  exact ⟨repaired, applied, fun sm hsm => sub.subset (List.mem_map_of_mem hsm)⟩

/-- Of the pending diagnostics a wave is about some. -/
lemma Processor.crest_subset (p : Processor) (ds : List Diagnostic) : p.crest ds ⊆ ds :=
  fun _ hd => (p.crest_append_leftover_perm ds).subset (List.mem_append_left _ hd)

lemma Processor.leftover_subset (p : Processor) (ds : List Diagnostic) : p.leftover ds ⊆ ds :=
  fun _ hd => (p.crest_append_leftover_perm ds).subset (List.mem_append_right _ hd)

lemma Round.repaired {answer : Except String (Option (List Diagnostic))}
    (h : Round s asked? ds l p trail m q answer) (sound : Sound s.accepts l p) :
    Repaired ds l m :=
  (h.settles sound).repaired.mono (p.crest_subset ds)

/-! ### What waves learn -/

/-- What waves have learned when they have gone through: no linter gave
diagnostics, and what was repaired was pending; or the diagnostics are known
that one gave last, and what was repaired since is among them. -/
inductive Learned (linter? : Option Linter) (trail : List Processor) (l m : Ledger) (t u : Tide) :
    Prop
  | nothing (asked : List Question) (questions : m.questions = l.questions ++ asked)
      (silent : lastGiven? linter? l.questions asked = none) (count : u.count = t.count)
      (current : u.current = t.current) (repaired : Repaired t.pending l m)
  | list (asked before : List Question) (b : Ledger)
      (questions : m.questions = l.questions ++ asked)
      (last : lastGiven? linter? l.questions asked = some before) (count : u.count ≠ 0)
      (books : booksAt? trail before = some b) (repaired : Repaired u.current b m)

namespace Learned

/-- Waves in which no linter is asked learn nothing. -/
lemma unasked {t : Tide} (same : m.questions = l.questions) (repaired : Repaired t.pending l m) :
    Learned linter? trail l m t t :=
  .nothing [] (by rw [same, List.append_nil]) rfl rfl rfl repaired

/-- Behind a round in which no linter gave diagnostics, the waves learn what the
later ones do. -/
lemma after_silence {first later : List Processor} {t t' u : Tide}
    (h : Learned linter? later m n t' u) (count : t'.count = t.count)
    (current : t'.current = t.current) (pending : t'.pending ⊆ t.pending)
    (repaired : Repaired t.pending l m)
    (quiet : m.questions = l.questions ∨ ∃ question, m.questions = l.questions ++ [question] ∧
      given? linter? l.questions question = none) :
    Learned linter? (first ++ later) l n t u := by
  -- the questions behind the first round, and what answered them
  have ask : ∀ asked, n.questions = m.questions ++ asked → ∃ asked',
      n.questions = l.questions ++ asked' ∧
      lastGiven? linter? l.questions asked' = lastGiven? linter? m.questions asked := by
    intro asked further
    rcases quiet with same | ⟨question, grown, silent⟩
    · rw [same] at further
      exact ⟨asked, further, by rw [same]⟩
    · rw [grown, List.append_assoc] at further
      refine ⟨question :: asked, further, ?_⟩
      rw [grown, lastGiven?, silent, Option.map_none, Option.or_none]
  cases h with
  | nothing asked further silent count' current' repaired' =>
      obtain ⟨asked', further', same⟩ := ask asked further
      exact .nothing asked' further' (same.trans silent) (count'.trans count)
        (current'.trans current) (repaired.trans (repaired'.mono pending))
  | list asked before b further last count' books repaired' =>
      obtain ⟨asked', further', same⟩ := ask asked further
      exact .list asked' before b further' (same.trans last) count' (booksAt?_append_of_some books)
        repaired'

/-- Behind a round in which a linter gave diagnostics, the waves learn those, or
what the later ones do. -/
lemma after_list {first later : List Processor} {t u : Tide} {fresh : List Diagnostic}
    {question : Question} {b : Ledger}
    (h : Learned linter? later (t.turn m fresh).2 n (t.turn m fresh).1 u)
    (known : ∀ b ∈ shown first, b.questions = l.questions)
    (last : (shown first).getLast? = some b) (applied : b.applied = m.applied)
    (grown : m.questions = l.questions ++ [question])
    (answer : given? linter? l.questions question = some fresh)
    (further : ∀ b ∈ shown later, m.questions <+: b.questions) :
    Learned linter? (first ++ later) l n t u := by
  have answered : ∀ asked, lastGiven? linter? l.questions (question :: asked) =
      (lastGiven? linter? (l.questions ++ [question]) asked).or (some l.questions) := by
    intro asked
    rw [lastGiven?, answer, Option.map_some]
  cases h with
  | nothing asked questions silent count current repaired =>
      have questions' : n.questions = m.questions ++ asked := questions
      have silent' : lastGiven? linter? m.questions asked = none := silent
      rw [grown] at questions' silent' further
      refine .list (question :: asked) l.questions b ?_ ?_ ?_ (booksAt?_append known last further) ?_
      · rw [questions', List.append_assoc]
        rfl
      · rw [answered, silent', Option.none_or]
      · rw [count]
        exact Nat.succ_ne_zero t.count
      · rw [current]
        obtain ⟨repaired, extended, among⟩ := repaired.mono (List.filter_subset_self fresh)
        exact ⟨repaired, by rw [applied]; exact extended, among⟩
  | list asked before c questions heard count books repaired =>
      have questions' : n.questions = m.questions ++ asked := questions
      have heard' : lastGiven? linter? m.questions asked = some before := heard
      rw [grown] at questions' heard'
      refine .list (question :: asked) before c ?_ ?_ count (booksAt?_append_of_some books) repaired
      · rw [questions', List.append_assoc]
        rfl
      · rw [answered, heard', Option.some_or]

end Learned

/-- What the waves of a run learn when they go through. -/
lemma Waves.learned {k : Nat} {t u : Tide} {e : Ending} {news : List (List Diagnostic)}
    (same : ∀ asked, asked? = some asked → linter? = some asked.1)
    (h : Waves s asked? k t l p trail news m q e u) (sound : Sound s.accepts l p)
    (through : e = .through) : Learned linter? trail l m t u := by
  induction h with
  | spent t l p => exact .unasked rfl (.of_applied _ rfl)
  | finished => exact .unasked rfl (.of_applied _ rfl)
  | stopped => cases through
  | @halted k t l after p v trail _ wave _ =>
      have questions : after.questions = l.questions := (Turns.questions wave).1
      exact .unasked questions ((wave.settles sound).repaired.mono (p.crest_subset t.pending))
  | broken => cases through
  | cancelled => cases through
  | @ebb k t u l asked m p v q first later news e _ round _ _ ih =>
      refine (ih (round.walk.sound sound) through).after_silence (t := t) rfl rfl
        (fun d hd => ?_) (round.repaired sound) ?_
      · exact p.leftover_subset _ ((ebb_sublist t _ _).subset hd)
      · obtain ⟨-, ⟨-, unasked, -⟩ | ⟨question, -, grown, -, -, report, asked', silent⟩⟩ :=
          round.heard same
        · exact .inl unasked
        · refine .inr ⟨question, grown, ?_⟩
          rw [given?_of_report asked', ← silent]
          rfl
  | @turn k t u l asked m p v q first later fresh news e _ round _ rest ih =>
      obtain ⟨known, ⟨nothing, -⟩ | ⟨question, b, grown, last, applied, report, told, answer⟩⟩ :=
        round.heard same
      · cases nothing
      · have list : given? linter? l.questions question = some fresh := by
          rw [given?_of_report told, ← answer]
          rfl
        have sound' := (round.walk.sound sound).entry
          (.found asked (fresh.filter fun d => !t.seen.contains d.identity).length)
        exact (ih sound' through).after_list known last applied grown list
          fun b hb => rest.walk.questions.2 b hb

/-! ### Whole runs -/

/-- What has not been repaired is outstanding. -/
lemma LintInfo.outstanding_eq_iff {i : LintInfo} {repaired : List Summary} :
    i.outstanding repaired = i.current ↔
      ∀ d ∈ i.current, d.identity ∉ repaired.map Summary.identity := by
  rw [outstanding, List.filter_eq_self]
  simp only [Bool.not_eq_true', List.contains_eq_mem, decide_eq_false_iff_not]

lemma LintInfo.outstanding_length_iff {i : LintInfo} {repaired : List Summary} :
    (i.outstanding repaired).length = i.current.length ↔ i.outstanding repaired = i.current :=
  ⟨List.filter_sublist.eq_of_length, congrArg List.length⟩

/-- **What is reported as outstanding.** When a run by waves has told what it
learned from its linter, nothing that it reports as outstanding was repaired
since a linter gave diagnostics for the last time, and their number is that of
the outstanding ones, just if no linter gave diagnostics, or nothing was
repaired since. Behind a list of diagnostics no repair is taken from it. -/
theorem process_outstanding {linter? : Option Linter} {name : Option String} {r : Result}
    {info : LintInfo} (manner : job.manner = .inWaves linter? name)
    (run : (process s job p).Runs Interlude trail q (r, some l))
    (told : r.lint? = some info) :
    (info.outstanding (repairsSince linter? trail l) = info.current ↔
      info.count = 0 ∨ repairsSince linter? trail l = []) ∧
    ((info.outstanding (repairsSince linter? trail l)).length = info.current.length ↔
      info.count = 0 ∨ repairsSince linter? trail l = []) := by
  rw [LintInfo.outstanding_length_iff, and_self]
  obtain ⟨news, e, t, m, v, waves, ends, asked, -, -, rfl⟩ := runs_process_inWaves manner run
  have through : e = .through := by
    by_contra other
    simp [Ledger.result, other] at told
  subst through
  obtain rfl : t.info m = info := Option.some.inj told
  rw [LintInfo.outstanding_eq_iff]
  cases waves.learned (fun _ => linterFor_eq) (openRun_sound s job p) rfl with
  | nothing asked' questions silent count _ _ =>
      have none : lastGiven? linter? [] l.questions = none := by
        rw [asked, questions]
        exact silent
      have info : t.info m = _ := if_pos count
      rw [repairsSince_of_never none, ends.applied, info]
      refine iff_of_true (fun d hd => ?_) (.inl rfl)
      simpa using (List.mem_filter.mp hd).2
  | list asked' before b questions last count books repaired =>
      obtain ⟨repaired, grown, among⟩ := repaired
      have last' : lastGiven? linter? [] l.questions = some before := by
        rw [asked, questions]
        exact last
      have info : t.info m = _ := if_neg count
      rw [repairsSince_of_books last' books (ends.applied.trans grown), info]
      constructor
      · -- what was repaired since was pending, and so among what the linter gave
        intro outstanding
        refine .inr (List.eq_nil_iff_forall_not_mem.mpr fun sm hsm => ?_)
        obtain ⟨d, hd, same⟩ := List.mem_map.mp (among sm hsm)
        exact outstanding d hd (same ▸ List.mem_map_of_mem hsm)
      · rintro (none | none)
        · exact absurd none count
        · simp [none]

theorem nagged_outstanding : ∃ trail q l r info,
    nagged.manner = .inWaves (some nagging) none ∧
    (process lenient nagged scribe).Runs Interlude trail q (r, some l) ∧ r.lint? = some info ∧
    info.count = 1 ∧ repairsSince (some nagging) trail l = [] ∧
    info.outstanding (repairsSince (some nagging) trail l) = info.current := by
  obtain ⟨l, books, run⟩ := runs_process_pauses lenient nagged (p := scribe) rfl
  have since : (process lenient nagged scribe).finish.2.2.map (fun l =>
      (repairsSince (some nagging) (process lenient nagged scribe).pauses l).length) = some 0 := by
    decide +kernel
  have learned : (process lenient nagged scribe).finish.2.1.lint?.map LintInfo.count = some 1 := by
    decide +kernel
  obtain ⟨info, told, count⟩ := Option.map_eq_some_iff.mp learned
  rw [books, Option.map_some, Option.some_inj, List.length_eq_zero_iff] at since
  exact ⟨_, _, l, _, info, rfl, run, told, count, since,
    (process_outstanding rfl run told).1.mpr (.inr since)⟩

/-- A linter that gives a diagnostic, and then takes too long. -/
def lapsing : Linter := fun asked _ =>
  { report :=
      if asked.isEmpty then
        .fresh [{ rule := some "digit", message := "", line := 1, column := 1 }]
      else .timedOut }

/-- A diagnostic that can be repaired, with a linter behind it that gives another
one, and is asked again when that has been repaired. -/
def lapsed : Job where
  code := "0\n0".toList
  diagnostics := [{ rule := some "digit", message := "", line := 2, column := 1 }]
  manner := .inWaves (some lapsing) none

/-- A diagnostic is reported as outstanding that was repaired since the linter
gave it. -/
theorem lapsed_outstanding_not : ∃ trail q l r info,
    (process lenient lapsed scribe).Runs Interlude trail q (r, some l) ∧ r.lint? = some info ∧
    info.current.map Diagnostic.identity = [⟨some "digit", 1, 1⟩] ∧
    (repairsSince (some lapsing) trail l).map Summary.identity = [⟨some "digit", 1, 1⟩] := by
  obtain ⟨l, books, run⟩ := runs_process_pauses lenient lapsed (p := scribe) rfl
  have since : (process lenient lapsed scribe).finish.2.2.map (fun l =>
      (repairsSince (some lapsing) (process lenient lapsed scribe).pauses l).map
        Summary.identity) = some [⟨some "digit", 1, 1⟩] := by
    decide +kernel
  have learned : (process lenient lapsed scribe).finish.2.1.lint?.map (fun info =>
      info.current.map Diagnostic.identity) = some [⟨some "digit", 1, 1⟩] := by
    decide +kernel
  obtain ⟨info, told, current⟩ := Option.map_eq_some_iff.mp learned
  rw [books, Option.map_some, Option.some_inj] at since
  exact ⟨_, _, l, _, info, run, told, current, since⟩

end LintRepair.Batch
