/-
What a run hears from the linter that it asks.

* `report?`, `reports`: what a linter reports in answer to questions; `given?`,
  `given`: the lists of diagnostics among that;
* `shown`: the books that a run shows when it pauses;
* `Walk.questions`: a run forgets none of its questions;
* `Round.heard`: what a round asks, and what it shows meanwhile;
* `heeded`, `Waves.news_eq`: the lists that a run by waves adopts are those that
  it is given, but for one that comes when the run is cancelled.
-/
import LintRepair.Proofs.Batch.Waves

namespace LintRepair.Batch

open Processor (Interlude)

variable {s : Surroundings} {l m : Ledger} {p q : Processor} {trail : List Processor}
variable {ds : List Diagnostic} {linter? : Option Linter} {asked? : Option (Linter × String)}

/-! ### The lists that a linter gives -/

namespace Report

/-- The list of diagnostics in a report, if it has one. -/
def list? : Report → Option (List Diagnostic)
  | fresh ds => some ds
  | _ => none

/-- Whether a linter has raised an error or taken too long. -/
def isFailure : Report → Bool
  | failed _ | timedOut => true
  | _ => false

/-- What a run makes of a report. -/
def answer : Report → Except String (Option (List Diagnostic))
  | fresh ds => .ok (some ds)
  | failed _ | timedOut => .ok none
  | broken text => .error text

lemma list?_eq (r : Report) : r.list? = r.answer.toOption.join := by
  cases r <;> rfl

lemma answer_of_isFailure {r : Report} (h : r.isFailure = true) : r.answer = .ok none := by
  cases r with
  | fresh ds => cases h
  | failed reason => rfl
  | timedOut => rfl
  | broken text => cases h

end Report

lemma receive_snd (limit : Json.Quantity) (l : Ledger) (r : Report) :
    (receive limit l r).2 = r.answer := by
  cases r <;> rfl

/-- What a linter reports when it is asked a question, if there is a linter. -/
def report? (linter? : Option Linter) (asked : List Question) (q : Question) : Option Report :=
  linter?.map fun linter => (linter asked q).report

/-- What a linter reports when it is asked questions, one after another. It has
been asked some others before. -/
def reports (linter? : Option Linter) (asked : List Question) : List Question → List Report
  | [] => []
  | q :: later => (report? linter? asked q).toList ++ reports linter? (asked ++ [q]) later

/-- The list of diagnostics that a linter gives in answer to a question, if it
gives one. -/
def given? (linter? : Option Linter) (asked : List Question) (q : Question) :
    Option (List Diagnostic) :=
  (report? linter? asked q).bind Report.list?

/-- The lists that a linter gives in answer to questions, one after another. -/
def given (linter? : Option Linter) (asked qs : List Question) : List (List Diagnostic) :=
  (reports linter? asked qs).filterMap Report.list?

lemma reports_append (linter? : Option Linter) (asked first later : List Question) :
    reports linter? asked (first ++ later) =
      reports linter? asked first ++ reports linter? (asked ++ first) later := by
  induction first generalizing asked with
  | nil => rw [List.nil_append, List.append_nil, reports, List.nil_append]
  | cons q rest ih =>
      rw [List.cons_append, reports, ih, reports, List.append_assoc, List.append_assoc]
      rfl

lemma given_append (linter? : Option Linter) (asked first later : List Question) :
    given linter? asked (first ++ later) =
      given linter? asked first ++ given linter? (asked ++ first) later := by
  rw [given, reports_append, List.filterMap_append]
  rfl

lemma given_cons (linter? : Option Linter) (asked : List Question) (q : Question)
    (later : List Question) :
    given linter? asked (q :: later) =
      (given? linter? asked q).toList ++ given linter? (asked ++ [q]) later := by
  rw [given, reports, List.filterMap_append, given?]
  congr 1
  cases report? linter? asked q with
  | none => rfl
  | some r => cases r <;> rfl

/-- Every list that is given is the answer to some question. -/
lemma mem_given {asked qs : List Question} (h : ds ∈ given linter? asked qs) :
    ∃ asked q, given? linter? asked q = some ds := by
  induction qs generalizing asked with
  | nil => cases h
  | cons q later ih =>
      rw [given_cons] at h
      rcases List.mem_append.mp h with first | rest
      · exact ⟨asked, q, Option.mem_toList.mp first⟩
      · exact ih rest

/-- The books that a run shows when it pauses. -/
def shown (trail : List Processor) : List Ledger := trail.filterMap (·.ledger?)

lemma shown_append (first later : List Processor) :
    shown (first ++ later) = shown first ++ shown later :=
  List.filterMap_append ..

/-- A linter is asked if there is one and the settings are for it. -/
lemma linterFor_form (p : Processor) (linter? : Option Linter) (name : Option String) :
    ∃ file, p.linterFor linter? name =
      if p.settings.relintAfterEachFix.isTrue then linter?.map (·, file) else none :=
  ⟨_, rfl⟩

/-- The linter that is asked is the one of the job. -/
lemma linterFor_eq {name : Option String} {asked : Linter × String}
    (h : p.linterFor linter? name = some asked) : linter? = some asked.1 := by
  obtain ⟨file, form⟩ := linterFor_form p linter? name
  rw [form] at h
  split at h
  · obtain ⟨linter, same, rfl⟩ := Option.map_eq_some_iff.mp h
    exact same
  · cases h

/-! ### Questions -/

/-- The questions of a run are only ever added to. -/
lemma Walk.questions (walk : Walk s l p trail m q) :
    l.questions <+: m.questions ∧ ∀ b ∈ shown trail, l.questions <+: b.questions := by
  induction walk with
  | refl l p => exact ⟨List.prefix_rfl, by simp [shown]⟩
  | @entry l m _ _ _ _ write _ ih =>
      have grown : l.questions <+: m.questions := by
        cases write with
        | ask q => exact List.prefix_append _ _
        | _ => exact List.prefix_rfl
      exact ⟨grown.trans ih.1, fun b hb => grown.trans (ih.2 b hb)⟩
  | @turn l _ p _ _ _ d _ _ _ _ ih =>
      rw [fixOne_questions] at ih
      refine ⟨ih.1, fun b hb => ?_⟩
      rcases List.mem_cons.mp hb with rfl | later
      · have same : (fixOne s d l p).2.questions = l.questions := fixOne_questions s d l p
        exact same ▸ List.prefix_rfl
      · exact ih.2 b later
  | @pause l _ p _ _ _ _ _ ih =>
      refine ⟨ih.1, fun b hb => ?_⟩
      rcases List.mem_cons.mp hb with rfl | later
      · exact List.prefix_rfl
      · exact ih.2 b later

/-- No linter is asked during the turns of diagnostics. -/
lemma Turns.questions {e : Ending} (h : Turns s ds l p trail m q e) :
    m.questions = l.questions ∧ ∀ b ∈ shown trail, b.questions = l.questions := by
  induction h with
  | done => exact ⟨rfl, by simp [shown]⟩
  | cancelled => exact ⟨rfl, by simp [shown]⟩
  | halted => exact ⟨rfl, by simp [shown]⟩
  | @turn l _ p _ _ _ _ _ d _ _ _ _ ih =>
      rw [fixOne_questions] at ih
      refine ⟨ih.1, fun b hb => ?_⟩
      rcases List.mem_cons.mp hb with rfl | later
      · exact fixOne_questions s d l p
      · exact ih.2 b later

/-- Without a pause nothing becomes of the processor. -/
lemma Turns.still {e : Ending} (h : Turns s ds l p [] m q e) : q = p := by
  cases h <;> rfl

/-- What a round asks: nothing, or one question behind the books that it shows
last; and what it hears. -/
lemma Round.heard {answer : Except String (Option (List Diagnostic))}
    (same : ∀ asked, asked? = some asked → linter? = some asked.1)
    (h : Round s asked? ds l p trail m q answer) :
    (∀ b ∈ shown trail, b.questions = l.questions) ∧
    (answer = .ok none ∧ m.questions = l.questions ∧ (trail = [] → q = p) ∨
      ∃ question b, m.questions = l.questions ++ [question] ∧
        (shown trail).getLast? = some b ∧ b.applied = m.applied ∧
        ∃ report, report? linter? l.questions question = some report ∧ answer = report.answer) := by
  cases h with
  | mk after v wave _ ask =>
      obtain ⟨unasked, known⟩ := Turns.questions wave
      have same' : after.questions = l.questions := unasked
      cases ask with
      | nobody =>
          rw [List.append_nil]
          exact ⟨known, .inl ⟨rfl, unasked, fun nowhere => by subst nowhere; exact wave.still⟩⟩
      | endless =>
          rw [List.append_nil]
          exact ⟨known, .inl ⟨rfl, unasked, fun nowhere => by subst nowhere; exact wave.still⟩⟩
      | asked linter name wait heard =>
          obtain ⟨rfl, rfl⟩ := Prod.mk.inj heard
          rw [shown_append, ← same']
          refine ⟨fun b hb => ?_, .inr ⟨(after.code, name), after, ?_, List.getLast?_concat, ?_,
            (linter after.questions (after.code, name)).report, ?_, receive_snd _ _ _⟩⟩
          · rcases List.mem_append.mp hb with first | last
            · exact (known b first).trans same'.symm
            · obtain rfl := List.mem_singleton.mp last
              rfl
          · cases (linter after.questions (after.code, name)).report <;> rfl
          · cases (linter after.questions (after.code, name)).report <;> rfl
          · rw [report?, same _ rfl, Option.map_some]

/-- The list that is given in a report is the one that a run makes of it. -/
lemma given?_of_report {asked : List Question} {question : Question} {r : Report}
    (h : report? linter? asked question = some r) :
    given? linter? asked question = r.answer.toOption.join := by
  rw [given?, h, Option.bind_some, r.list?_eq]

/-! ### Lists that are adopted -/

/-- The questions whose answers a run has heeded: all that it has asked, but the
last one if it is cancelled and has shown no books with that question. -/
def heeded (cancelled : Bool) (trail : List Processor) (asked : List Question) : List Question :=
  if cancelled && (shown trail).all (·.questions != asked) then asked.dropLast else asked

/-- The answers that are heeded are the first ones, up to some question. -/
lemma heeded_initial (cancelled : Bool) (trail : List Processor) (asked : List Question) :
    heeded cancelled trail asked <+: asked := by
  rw [heeded]
  split
  · exact List.dropLast_prefix asked
  · exact List.prefix_rfl

/-- Books with other questions tell nothing about the last one. -/
lemma heeded_append {first later : List Processor} {asked : List Question}
    (other : ∀ b ∈ shown first, b.questions ≠ asked) (cancelled : Bool) :
    heeded cancelled (first ++ later) asked = heeded cancelled later asked := by
  have silent : (shown first).all (·.questions != asked) = true := by
    simpa [List.all_eq_true] using other
  rw [heeded, heeded, shown_append, List.all_append, silent, Bool.true_and]

/-- So do books from before it. -/
lemma heeded_append_of_grown {first later : List Processor} {asked asked' : List Question}
    {question : Question} (known : ∀ b ∈ shown first, b.questions = asked)
    (grown : asked ++ [question] <+: asked') (cancelled : Bool) :
    heeded cancelled (first ++ later) asked' = heeded cancelled later asked' := by
  refine heeded_append (fun b hb same => ?_) cancelled
  rw [← same, known b hb] at grown
  exact absurd grown.length_le (by simp)

/-- Where the last question is shown in the books, all answers are heeded. -/
lemma heeded_of_mem {b : Ledger} (hb : b ∈ shown trail) (cancelled : Bool) :
    heeded cancelled trail b.questions = b.questions := by
  have told : (shown trail).all (·.questions != b.questions) = false := by
    rw [List.all_eq_false]
    exact ⟨b, hb, by simp⟩
  simp [heeded, told]

/-- A run shows its books whenever it pauses. -/
lemma Walk.shown_ne_nil (walk : Walk s l p trail m q) (paused : trail ≠ []) :
    shown trail ≠ [] := by
  induction walk with
  | refl => exact absurd rfl paused
  | entry _ _ ih => exact ih paused
  | turn => simp [shown, afterTurn, Processor.showing]
  | pause => simp [shown, Processor.showing]

/-- Turns that are cancelled on the way have paused. -/
lemma Turns.paused (h : Turns s ds l p trail m q .cancelled) (going : p.cancelled = false) :
    trail ≠ [] := by
  cases h with
  | cancelled stop => exact absurd stop (by simp [going])
  | turn => exact List.cons_ne_nil _ _

/-- Waves that are cancelled on the way and have asked nothing have shown their
books. -/
lemma Waves.shows {n : Nat} {t u : Tide} {e : Ending} {news : List (List Diagnostic)}
    (same : ∀ asked, asked? = some asked → linter? = some asked.1)
    (h : Waves s asked? n t l p trail news m q e u) (stop : e = .cancelled)
    (going : p.cancelled = false) (unasked : m.questions = l.questions) :
    ∃ b ∈ shown trail, b.questions = l.questions := by
  induction h with
  | spent => cases stop
  | finished => cases stop
  | stopped n _ wave =>
      have shows := wave.walk.shown_ne_nil (Turns.paused wave going)
      obtain ⟨b, hb⟩ := List.exists_mem_of_ne_nil _ shows
      exact ⟨b, hb, (Turns.questions wave).2 b hb⟩
  | halted => cases stop
  | broken => cases stop
  | @cancelled n t l asked p v trail fresh? _ round stop' =>
      obtain ⟨known, ⟨-, -, still⟩ | ⟨question, -, grown, -, -, -⟩⟩ := round.heard same
      · have paused : trail ≠ [] := fun nowhere => by
          rw [still nowhere, going] at stop'
          cases stop'
        obtain ⟨b, hb⟩ := List.exists_mem_of_ne_nil _ (round.walk.shown_ne_nil paused)
        exact ⟨b, hb, known b hb⟩
      · exact absurd (grown.symm.trans unasked) (by simp)
  | @ebb n t u l asked m p v q first later news e _ round still rest ih =>
      have grown := round.walk.questions.1
      have kept := rest.walk.questions.1
      have unasked' : asked.questions = l.questions :=
        (unasked ▸ kept).eq_of_length_le grown.length_le
      obtain ⟨b, hb, known⟩ := ih stop still (unasked.trans unasked'.symm)
      refine ⟨b, ?_, known.trans unasked'⟩
      rw [shown_append]
      exact List.mem_append_right _ hb
  | @turn n t u l asked m p v q first later fresh news e _ round still rest ih =>
      obtain ⟨-, ⟨nothing, -⟩ | ⟨question, -, grown, -⟩⟩ := round.heard same
      · cases nothing
      · have kept : asked.questions <+: m.questions := rest.walk.questions.1
        rw [grown] at kept
        exact absurd kept.length_le (by simp [unasked])

/-- Waves that have asked nothing have heeded everything, if the run was not
cancelled before them or nothing was asked before. -/
lemma Waves.heeded_unasked {n : Nat} {t u : Tide} {e : Ending} {news : List (List Diagnostic)}
    (same : ∀ asked, asked? = some asked → linter? = some asked.1)
    (h : Waves s asked? n t l p trail news m q e u)
    (fresh : p.cancelled = false ∨ l.questions = []) (unasked : m.questions = l.questions) :
    heeded (e == .cancelled) trail m.questions = m.questions := by
  rcases fresh with going | never
  · by_cases stop : e = .cancelled
    · obtain ⟨b, hb, known⟩ := h.shows same stop going unasked
      rw [unasked, ← known]
      exact heeded_of_mem hb _
    · simp [heeded, stop]
  · simp [heeded, unasked, never]

/-- The lists are given in answer to the questions that are heeded behind those from before. -/
def Adopted (linter? : Option Linter) (before : List Question) (cancelled : Bool)
    (trail : List Processor) (asked : List Question) (news : List (List Diagnostic)) : Prop :=
  ∃ heard, news = given linter? before heard ∧ before ++ heard = heeded cancelled trail asked

namespace Adopted

variable {before asked : List Question} {cancelled : Bool} {news : List (List Diagnostic)}
variable {question : Question} {report : Report} {first later : List Processor}

/-- Nothing is adopted where no more questions are heeded. -/
lemma nil (heeds : heeded cancelled trail asked = before) :
    Adopted linter? before cancelled trail asked [] :=
  ⟨[], rfl, (List.append_nil _).trans heeds.symm⟩

/-- A question that is answered before more are asked is heeded. -/
lemma cons (rest : Adopted linter? (before ++ [question]) cancelled later asked news)
    (known : ∀ b ∈ shown first, b.questions = before) (kept : before ++ [question] <+: asked)
    (told : report? linter? before question = some report) :
    Adopted linter? before cancelled (first ++ later) asked
      (report.answer.toOption.join.toList ++ news) := by
  obtain ⟨heard, found, heeds⟩ := rest
  refine ⟨question :: heard, ?_, ?_⟩
  · rw [given_cons, given?_of_report told, found]
  · rw [heeded_append_of_grown known kept, ← heeds, List.append_assoc]
    rfl

/-- Where a run is cancelled by the answer to its one question, that is not heeded. -/
lemma unheeded (known : ∀ b ∈ shown trail, b.questions = before)
    (grown : asked = before ++ [question]) : Adopted linter? before true trail asked [] := by
  have whole : before ++ [question] <+: asked := grown ▸ List.prefix_rfl
  have last : heeded true (trail ++ []) asked = heeded true [] asked :=
    heeded_append_of_grown known whole true
  rw [List.append_nil] at last
  exact nil (by rw [last, grown]; exact List.dropLast_concat)

end Adopted

/-- The lists that waves adopt are those that they are given in answer to the
questions that they heed. -/
lemma Waves.news_eq {n : Nat} {t u : Tide} {e : Ending} {news : List (List Diagnostic)}
    (same : ∀ asked, asked? = some asked → linter? = some asked.1)
    (h : Waves s asked? n t l p trail news m q e u)
    (fresh : p.cancelled = false ∨ l.questions = []) :
    Adopted linter? l.questions (e == .cancelled) trail m.questions news := by
  induction h with
  | spent => exact .nil rfl
  | finished => exact .nil rfl
  | @stopped n t l after p v trail open' wave =>
      have unasked : after.questions = l.questions := (Turns.questions wave).1
      have heeds := Waves.heeded_unasked same (.stopped n open' wave) fresh unasked
      exact .nil (heeds.trans unasked)
  | halted _ _ wave => exact .nil (Turns.questions wave).1
  | @broken n t l asked p v trail text _ round =>
      obtain ⟨-, ⟨nothing, -⟩ | ⟨question, -, grown, -, -, report, told, broken⟩⟩ := round.heard same
      · cases nothing
      · refine ⟨[question], ?_, grown.symm⟩
        rw [given_cons, given?_of_report told, ← broken]
        rfl
  | cancelled n open' round stop =>
      obtain ⟨known, ⟨-, unasked, -⟩ | ⟨question, -, grown, -⟩⟩ := round.heard same
      · have heeds := Waves.heeded_unasked same (.cancelled n open' round stop) fresh unasked
        exact .nil (heeds.trans unasked)
      · exact .unheeded known grown
  | @ebb n t u l asked m p v q first later news e open' round still rest ih =>
      have adopted := ih (.inl still)
      obtain ⟨known, ⟨-, unasked, -⟩ | ⟨question, b, grown, -, -, report, told, silent⟩⟩ :=
        round.heard same
      · obtain ⟨heard, found, heeds⟩ := unasked ▸ adopted
        refine ⟨heard, found, heeds.trans ?_⟩
        by_cases unasked' : m.questions = l.questions
        · rw [rest.heeded_unasked same (.inl still) (unasked'.trans unasked.symm),
            (Waves.ebb open' round still rest).heeded_unasked same fresh unasked']
        · exact (heeded_append (fun b hb h => unasked' (h.symm.trans (known b hb))) _).symm
      · have adopted := (grown ▸ adopted).cons known (grown ▸ rest.walk.questions.1) told
        rwa [← silent] at adopted
  | turn _ round still rest ih =>
      have adopted := ih (.inl still)
      obtain ⟨known, ⟨nothing, -⟩ | ⟨question, b, grown, -, -, report, told, answered⟩⟩ :=
        round.heard same
      · cases nothing
      · have adopted := (grown ▸ adopted).cons known (grown ▸ rest.walk.questions.1) told
        rwa [← answered] at adopted

end LintRepair.Batch
