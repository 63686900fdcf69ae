/-
The ways through a computation that pauses, and what others may do to a
processor while a run on it pauses.

* `Course.Runs`: one way through a course, with the states in which it pauses;
  `Course.runs_bind` cuts a way in two, and `Course.runs_pauses` is one;
* `Course.Reaches`: what is left of a course behind some of its pauses;
* `Processor.Interlude`: what may become of a processor during a pause;
* `Processor.interlude_grant`, `process_running`: requests and further runs
  are nothing more than that.
-/
import Mathlib.Tactic.Common
import LintRepair.Batch.Run

namespace LintRepair.Batch

/-! ### Ways through a course -/

namespace Course

variable {σ α β : Type} {between : σ → σ → Prop}

/-- A way through a course, where others may do `between` during each pause:
the states in which it pauses, and the state and the result at the end. -/
inductive Runs (between : σ → σ → Prop) : Course σ α → List σ → σ → α → Prop
  | done (s : σ) (a : α) : Runs between (done s a) [] s a
  | paused {s t u : σ} {resume : σ → Course σ α} {trail : List σ} {a : α}
      (wait : between s t) (rest : Runs between (resume t) trail u a) :
      Runs between (paused s resume) (s :: trail) u a

@[simp] lemma runs_done {s u : σ} {a b : α} {trail : List σ} :
    (done s a).Runs between trail u b ↔ trail = [] ∧ u = s ∧ b = a := by
  constructor
  · intro run
    cases run
    exact ⟨rfl, rfl, rfl⟩
  · rintro ⟨rfl, rfl, rfl⟩
    exact .done u b

lemma runs_paused {s u : σ} {resume : σ → Course σ α} {a : α} {trail : List σ} :
    (paused s resume).Runs between trail u a ↔
      ∃ t later, trail = s :: later ∧ between s t ∧ (resume t).Runs between later u a := by
  constructor
  · intro run
    cases run with
    | paused wait rest => exact ⟨_, _, rfl, wait, rest⟩
  · rintro ⟨t, later, rfl, wait, rest⟩
    exact .paused wait rest

/-- A way through two courses is a way through the one and then a way through
the other. -/
lemma runs_bind {c : Course σ α} {next : α → σ → Course σ β} {trail : List σ} {u : σ} {b : β} :
    (c.bind next).Runs between trail u b ↔
      ∃ first v a later, trail = first ++ later ∧ c.Runs between first v a ∧
        (next a v).Runs between later u b := by
  induction c generalizing trail with
  | done s a =>
      constructor
      · intro run
        exact ⟨[], s, a, trail, rfl, .done s a, run⟩
      · rintro ⟨first, v, a', later, rfl, head, tail⟩
        cases head
        exact tail
  | paused s resume ih =>
      rw [bind, runs_paused]
      constructor
      · rintro ⟨t, later, rfl, wait, run⟩
        obtain ⟨first, v, a, last, rfl, head, tail⟩ := (ih t).mp run
        exact ⟨s :: first, v, a, last, rfl, .paused wait head, tail⟩
      · rintro ⟨first, v, a, last, rfl, head, tail⟩
        obtain ⟨t, later, rfl, wait, run⟩ := runs_paused.mp head
        exact ⟨t, later ++ last, rfl, wait, (ih t).mpr ⟨later, v, a, last, rfl, run, tail⟩⟩

/-- The states in which a course pauses that nothing interferes with. -/
def pauses : Course σ α → List σ
  | done _ _ => []
  | paused s resume => s :: (resume s).pauses

/-- A course that nothing interferes with has a way to its end. -/
lemma runs_pauses (idle : ∀ s, between s s) (c : Course σ α) :
    c.Runs between c.pauses c.finish.1 c.finish.2 := by
  induction c with
  | done s a => exact .done s a
  | paused s resume ih => exact .paused (idle s) (ih s)

@[simp] lemma bind_done (s : σ) (a : α) (next : α → σ → Course σ β) :
    (done s a).bind next = next a s := rfl

/-! ### What is left of a course -/

/-- A course goes some of its way, where others may do `between` during each
pause: the states in which it has paused, and the course that is left. -/
inductive Reaches (between : σ → σ → Prop) : Course σ α → List σ → Course σ α → Prop
  | here (c : Course σ α) : Reaches between c [] c
  | paused {s t : σ} {resume : σ → Course σ α} {trail : List σ} {c : Course σ α}
      (wait : between s t) (rest : Reaches between (resume t) trail c) :
      Reaches between (paused s resume) (s :: trail) c

namespace Reaches

variable {c d : Course σ α} {first later : List σ} {u v : σ} {a : α}

/-- What is left goes on as the course does. -/
lemma runs (reach : c.Reaches between first d) (run : d.Runs between later u a) :
    c.Runs between (first ++ later) u a := by
  induction reach with
  | here => exact run
  | paused wait _ ih => exact .paused wait (ih run)

lemma trans {e : Course σ α} (reach : c.Reaches between first d)
    (rest : d.Reaches between later e) : c.Reaches between (first ++ later) e := by
  induction reach with
  | here => exact rest
  | paused wait _ ih => exact .paused wait (ih rest)

/-- What is left goes on when its pause is over. -/
lemma resume {s t : σ} {resume : σ → Course σ α}
    (reach : c.Reaches between first (.paused s resume)) (wait : between s t) :
    c.Reaches between (first ++ [s]) (resume t) :=
  reach.trans (.paused wait (.here _))

lemma bind (reach : c.Reaches between first d) (next : α → σ → Course σ β) :
    (c.bind next).Reaches between first (d.bind next) := by
  induction reach with
  | here c => exact .here _
  | paused wait _ ih => exact .paused wait ih

/-- Behind a way through a course another one is left. -/
lemma of_runs (run : c.Runs between first v a) (next : α → σ → Course σ β) :
    (c.bind next).Reaches between first (next a v) := by
  induction run with
  | done s a => exact .here _
  | paused wait _ ih => exact .paused wait ih

end Reaches

/-- Nothing pauses in a course that is done. -/
lemma not_reaches_done {s t : σ} {a : α} {trail : List σ} {resume : σ → Course σ α} :
    ¬ (done s a).Reaches between trail (.paused t resume) := by
  intro reach
  cases reach

/-- Two courses pause in the one, and then in the other. -/
lemma reaches_bind_paused {c : Course σ α} {next : α → σ → Course σ β} {trail : List σ} {t : σ}
    {resume : σ → Course σ β} (reach : (c.bind next).Reaches between trail (.paused t resume)) :
    (∃ resume', c.Reaches between trail (.paused t resume') ∧
      resume = fun u => (resume' u).bind next) ∨
    ∃ first v a later, trail = first ++ later ∧ c.Runs between first v a ∧
      (next a v).Reaches between later (.paused t resume) := by
  induction c generalizing trail with
  | done s a => exact .inr ⟨[], s, a, trail, rfl, .done s a, reach⟩
  | paused s resume' ih =>
      cases reach with
      | here => exact .inl ⟨resume', .here _, rfl⟩
      | @paused _ u _ later _ wait rest =>
          rcases ih u rest with ⟨resume'', reach, rfl⟩ | ⟨first, v, a, last, rfl, run, reach⟩
          · exact .inl ⟨resume'', .paused wait reach, rfl⟩
          · exact .inr ⟨s :: first, v, a, last, rfl, .paused wait run, reach⟩

end Course

/-! ### Routines from a state -/

namespace Routine

variable {σ α β : Type}

lemma bind_apply (r : Routine σ α) (next : α → Routine σ β) (s : σ) :
    (r >>= next) s = (r s).bind fun a t => next a t := rfl

lemma pure_apply (a : α) (s : σ) : (Pure.pure a : Routine σ α) s = .done s a := rfl

lemma look_apply (s : σ) : (look : Routine σ σ) s = .done s s := rfl

end Routine

/-! ### Pauses of a run -/

namespace Processor

/-- What may become of a processor while a run on it pauses: others may ask the
run to stop, and may look things up in the cache. -/
def Interlude (p q : Processor) : Prop :=
  ∃ stop cache, q = { p with cancelled := p.cancelled || stop, cache }

lemma interlude_refl (p : Processor) : Interlude p p :=
  ⟨false, p.cache, by simp⟩

lemma interlude_trans {p q r : Processor} (h : Interlude p q) (h' : Interlude q r) :
    Interlude p r := by
  obtain ⟨stop, cache, rfl⟩ := h
  obtain ⟨stop', cache', rfl⟩ := h'
  exact ⟨stop || stop', cache', by simp [Bool.or_assoc]⟩

lemma interlude_cancel (p : Processor) : Interlude p p.cancel :=
  ⟨p.running, p.cache, rfl⟩

/-- A request during a run does nothing but ask it to stop. -/
lemma interlude_grant {p : Processor} (running : p.running = true) (r : Request) :
    Interlude p (p.grant r) := by
  cases r with
  | cancel => exact interlude_cancel p
  | clear =>
      rw [grant, if_pos running]
      exact interlude_refl p

/-- Requests during a run do nothing but ask it to stop. -/
lemma interlude_foldl_grant {p : Processor} (running : p.running = true) (rs : List Request) :
    Interlude p (rs.foldl grant p) := by
  induction rs generalizing p with
  | nil => exact interlude_refl p
  | cons r rest ih =>
      have first := interlude_grant running r
      have still : (p.grant r).running = true := by
        obtain ⟨stop, cache, h⟩ := first
        rw [h]
        exact running
      exact interlude_trans first (ih still)

end Processor

/-- A run that starts while another one is under way changes nothing. -/
lemma process_running {s : Surroundings} {job : Job} {p : Processor}
    (running : p.running = true) : process s job p = .done p (job.rejected, none) := by
  simp only [process, Routine.bind_apply, Routine.look_apply, Course.bind_done, running, if_true]
  rfl

end LintRepair.Batch
