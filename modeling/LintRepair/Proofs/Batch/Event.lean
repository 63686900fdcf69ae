/-
What happens on a processor, one event after another.

* `Deed`: what others may do to a processor besides runs;
* `Event`, `History.act`, `History.acts`: a call is made, one that pauses goes on,
  or something is done; `History.after` is what comes of it on a processor without
  a past;
* `Lasting`: relations between processors that all of this keeps;
* `Abreast`: two histories with at most one run under way in each, in step;
  `Abreast.acts`: they stay so whatever happens to both, and give the same
  answers.

`History.Step` tells what can happen next; an event tells what does, so that what
happens on one processor can be put beside what happens on another.
-/
import LintRepair.Proofs.Batch.History
import LintRepair.Proofs.Batch.InStep

namespace LintRepair.Batch

open Text Check Repair

variable {h h' : History} {p q : Processor} {c c' : Call}

/-! ### Events -/

/-- What others may do to a processor: ask for something, have a context looked
up, have the contexts forgotten, or use the archive themselves. -/
inductive Deed
  | request (r : Request)
  | classify (t : Text) (offset : Int)
  | forget
  | snapshot (name : String) (code : Text)
  | record (rule : Option String) (line column : Json.Whole) (before after : Text)
  | revert (accepts : Acceptor) (code : Text) (given : Option Record)
  | discard

/-- Whether a deed is done to the archive of a processor. -/
def Deed.isArchival : Deed → Bool
  | .request _ | .classify _ _ | .forget => false
  | .snapshot _ _ | .record _ _ _ _ _ | .revert _ _ _ | .discard => true

/-- The processor to which something is done. -/
def Processor.undergo (p : Processor) : Deed → Processor
  | .request r => p.grant r
  | .classify t offset => { p with cache := (p.cache.classify t offset).1 }
  | .forget => { p with cache := p.cache.clear }
  | .snapshot name code => { p with archive := p.archive.takeSnapshot name code }
  | .record rule line column before after =>
    { p with archive := p.archive.record (p.archive.newRecord rule line column before after) }
  | .revert accepts code given =>
    match p.archive.revert accepts code given with
    | .ok (_, archive) => { p with archive }
    | .error _ => p
  | .discard => { p with archive := p.archive.clear }

/-- What happens on a processor. -/
inductive Event
  | call (s : Surroundings) (job : Job)
  /-- The call at a place among those that pause goes on. -/
  | resume (place : Nat)
  | deed (d : Deed)

namespace History

/-- The history in which one more thing happens. -/
def act (h : History) : Event → History
  | .call s job => h.call s job
  | .resume place =>
    match h.waiting[place]? with
    | some (c, resume) =>
      follow { h with waiting := h.waiting.eraseIdx place } c (resume h.processor)
    | none => h
  | .deed d => { h with processor := h.processor.undergo d }

/-- The history in which things happen one after another. -/
def acts (h : History) (events : List Event) : History := events.foldl act h

lemma acts_append (h : History) (first later : List Event) :
    h.acts (first ++ later) = (h.acts first).acts later :=
  List.foldl_append

/-- What comes of events on a processor without a past. -/
def after (registry : Registry) (settings : Config.Settings) (events : List Event) : History :=
  (start registry settings).acts events

/-- The answers to the calls, without their numbers. -/
def answers (h : History) : List (Job × Result) := h.replies.map fun (c, r) => (c.job, r)

/-- Whether an event is a call that is turned away. -/
def rejects (h : History) : Event → Bool
  | .call _ _ => h.processor.running
  | _ => false

/-- A call that is turned away is answered at once, and changes nothing else. -/
lemma act_of_running (running : h.processor.running = true) (s : Surroundings) (job : Job) :
    h.act (.call s job) =
      { h with calls := h.calls + 1, replies := h.replies ++ [(⟨h.calls, job⟩, job.rejected)] } := by
  rw [act, call, process_running running, if_pos running]
  rfl

end History

/-! ### Histories in step -/

/-- Relations between processors on which a run is under way, and between those
on which none is, that every run keeps, and every deed that is allowed. -/
structure Lasting (R I : Processor → Processor → Prop) (L : Ledger → Prop)
    (allowed : Deed → Prop) : Prop where
  abides (s : Surroundings) : Abiding s R I L
  runs {p q : Processor} : R p q → p.running = true ∧ q.running = true
  done {p q : Processor} {d : Deed} : allowed d → R p q → R (p.undergo d) (q.undergo d)
  done_idle {p q : Processor} {d : Deed} : allowed d → I p q → I (p.undergo d) (q.undergo d)

/-- Two histories in step: no run is under way in either of them, or one is in
each, about the same job, and these go on in step. -/
inductive Abreast (R I : Processor → Processor → Prop) (L : Ledger → Prop) (h h' : History) :
    Prop
  | idle (none : h.waiting = []) (none' : h'.waiting = []) (same : I h.processor h'.processor)
  | busy {c c' : Call} {resume resume' : Processor → Course Processor (Result × Option Ledger)}
      (one : h.waiting = [(c, resume)]) (one' : h'.waiting = [(c', resume')])
      (job : c'.job = c.job) (same : R h.processor h'.processor)
      (later : ∀ p q, R p q → (resume p).InStep R (AgreeOn I L) (resume' q))

/-- What is answered to accepted calls: the result of books with a property. -/
def Answered (L : Ledger → Prop) (r : Result) : Prop := ∃ l lint?, r = Ledger.result l lint? ∧ L l

namespace Abreast

variable {R I : Processor → Processor → Prop} {L : Ledger → Prop} {allowed : Deed → Prop}

/-- Histories in which the same job takes its course in step. -/
lemma follow (h h' : History) (c c' : Call)
    {course course' : Course Processor (Result × Option Ledger)} (none : h.waiting = []) (none' : h'.waiting = []) (job : c'.job = c.job)
    (steps : course.InStep R (AgreeOn I L) course') :
    Abreast R I L (h.follow c course) (h'.follow c' course') ∧
      ∃ news, (h.follow c course).answers = h.answers ++ news ∧
        (h'.follow c' course').answers = h'.answers ++ news ∧ ∀ x ∈ news, Answered L x.2 := by
  cases steps with
  | @done p q a b ends =>
      obtain ⟨same, rfl, l, lint?, rfl, good⟩ := ends
      refine ⟨.idle none none' same, [(c.job, l.result lint?)], ?_, ?_, ?_⟩
      · exact List.map_append
      · rw [History.follow, History.answers, List.map_append, ← job]
        rfl
      · intro x hx
        obtain rfl := List.mem_singleton.mp hx
        exact ⟨l, lint?, rfl, good⟩
  | @paused p q resume resume' shows later =>
      have one : (h.follow c (.paused p resume)).waiting = [(c, resume)] := by
        rw [History.follow, none, List.nil_append]
      have one' : (h'.follow c' (.paused q resume')).waiting = [(c', resume')] := by
        rw [History.follow, none', List.nil_append]
      exact ⟨.busy one one' job shows later, [], (List.append_nil _).symm,
        (List.append_nil _).symm, by simp⟩

/-- What has come of something that happens to two histories: they are in step,
and were given the same answers then, which come from accepted calls unless it was
a call that is turned away. -/
def Advanced (R I : Processor → Processor → Prop) (L : Ledger → Prop) (h h' : History)
    (e : Event) : Prop :=
  Abreast R I L (h.act e) (h'.act e) ∧
    ∃ news, (h.act e).answers = h.answers ++ news ∧ (h'.act e).answers = h'.answers ++ news ∧
      (h.rejects e = false → ∀ x ∈ news, Answered L x.2)

/-- Nothing is answered when something is done to the processors. -/
lemma advanced_of_answers {e : Event} (abreast : Abreast R I L (h.act e) (h'.act e))
    (silent : (h.act e).answers = h.answers) (silent' : (h'.act e).answers = h'.answers) :
    Advanced R I L h h' e :=
  ⟨abreast, [], by rw [silent, List.append_nil], by rw [silent', List.append_nil], by simp⟩

/-- A call is accepted in both histories, or turned away in both. -/
lemma call (abreast : Abreast R I L h h') (lasts : Lasting R I L allowed) (s : Surroundings)
    (job : Job) : Advanced R I L h h' (.call s job) := by
  cases abreast with
  | idle none none' same =>
      obtain ⟨abreast, news, grown, grown', good⟩ :=
        follow
          { h with
            calls := h.calls + 1
            latest? := if h.processor.running then h.latest? else some ⟨h.calls, job⟩ }
          { h' with
            calls := h'.calls + 1
            latest? := if h'.processor.running then h'.latest? else some ⟨h'.calls, job⟩ }
          ⟨h.calls, job⟩ ⟨h'.calls, job⟩ none none' rfl (process_inStep (lasts.abides s) job same)
      exact ⟨abreast, news, grown, grown', fun _ => good⟩
  | busy one one' same now later =>
      obtain ⟨running, running'⟩ := lasts.runs now
      rw [Advanced, History.act_of_running running, History.act_of_running running']
      refine ⟨.busy one one' same now later, [(job, job.rejected)], List.map_append,
        List.map_append, fun accepted => ?_⟩
      exact absurd (running.symm.trans accepted) (by simp)

/-- The one call that pauses goes on in both histories. -/
lemma resume (abreast : Abreast R I L h h') (place : Nat) :
    Advanced R I L h h' (.resume place) := by
  cases abreast with
  | idle none none' same =>
      have still : h.act (.resume place) = h := by simp [History.act, none]
      have still' : h'.act (.resume place) = h' := by simp [History.act, none']
      refine advanced_of_answers ?_ (congrArg _ still) (congrArg _ still')
      rw [still, still']
      exact .idle none none' same
  | @busy c c' resume resume' one one' job now later =>
      cases place with
      | zero =>
          have goes : h.act (.resume 0) =
              History.follow { h with waiting := [] } c (resume h.processor) := by
            simp [History.act, one]
          have goes' : h'.act (.resume 0) =
              History.follow { h' with waiting := [] } c' (resume' h'.processor) := by
            simp [History.act, one']
          obtain ⟨abreast, news, grown, grown', good⟩ :=
            follow { h with waiting := [] } { h' with waiting := [] } c c' rfl rfl job
              (later _ _ now)
          rw [Advanced, goes, goes']
          exact ⟨abreast, news, grown, grown', fun _ => good⟩
      | succ n =>
          have still : h.act (.resume (n + 1)) = h := by simp [History.act, one]
          have still' : h'.act (.resume (n + 1)) = h' := by simp [History.act, one']
          refine advanced_of_answers ?_ (congrArg _ still) (congrArg _ still')
          rw [still, still']
          exact .busy one one' job now later

/-- The same is done to both processors. -/
lemma deed (abreast : Abreast R I L h h') (lasts : Lasting R I L allowed) {d : Deed}
    (spares : allowed d) : Advanced R I L h h' (.deed d) := by
  refine advanced_of_answers ?_ rfl rfl
  cases abreast with
  | idle none none' same => exact .idle none none' (lasts.done_idle spares same)
  | busy one one' job now later => exact .busy one one' job (lasts.done spares now) later

/-- Histories in step stay so if the same happens to both of them. -/
lemma act (abreast : Abreast R I L h h') (lasts : Lasting R I L allowed) (e : Event)
    (spares : ∀ d, e = .deed d → allowed d) : Advanced R I L h h' e := by
  cases e with
  | call s job => exact abreast.call lasts s job
  | resume place => exact abreast.resume place
  | deed d => exact abreast.deed lasts (spares d rfl)

/-- So they do whatever happens to both, one thing after another. -/
lemma acts (abreast : Abreast R I L h h') (lasts : Lasting R I L allowed) (events : List Event)
    (spares : ∀ d, .deed d ∈ events → allowed d) :
    Abreast R I L (h.acts events) (h'.acts events) ∧
      ∃ news, (h.acts events).answers = h.answers ++ news ∧
        (h'.acts events).answers = h'.answers ++ news := by
  induction events generalizing h h' with
  | nil => exact ⟨abreast, [], (List.append_nil _).symm, (List.append_nil _).symm⟩
  | cons e rest ih =>
      obtain ⟨next, news, grown, grown', -⟩ :=
        abreast.act lasts e fun d same => spares d (same ▸ List.mem_cons_self)
      obtain ⟨last, news', grown'', grown'''⟩ :=
        ih next fun d hd => spares d (List.mem_cons_of_mem e hd)
      refine ⟨last, news ++ news', ?_, ?_⟩
      · rw [← List.append_assoc, ← grown]
        exact grown''
      · rw [← List.append_assoc, ← grown']
        exact grown'''

/-- In each of two histories in step there is at most one call that pauses, and
one just if a run is under way. -/
lemma alone (abreast : Abreast R I L h h') (lasts : Lasting R I L allowed) :
    h.waiting.length ≤ 1 ∧ (h.processor.running = true ↔ h.waiting ≠ []) := by
  cases abreast with
  | idle none _ same =>
      have stands := ((lasts.abides { accepts := fun _ => true }).idle same).1
      simp [none, stands]
  | busy one _ _ now =>
      simp [one, (lasts.runs now).1]

end Abreast

end LintRepair.Batch
