/-
Computations over a shared state that pause.

* `Course`: a computation under way, which is done or pauses; while it pauses,
  others may change the state;
* `Routine`: a computation from its start;
* `Course.finish`: runs to the end without anything between the pauses;
* `together`: starts several computations one after another.
-/

namespace LintRepair.Batch

/-- A computation under way: the state it leaves, and what comes next. -/
inductive Course (σ α : Type)
  | done (state : σ) (result : α)
  | paused (state : σ) (resume : σ → Course σ α)

namespace Course

variable {σ α β : Type}

/-- One computation after another. -/
def bind (c : Course σ α) (next : α → σ → Course σ β) : Course σ β :=
  match c with
  | done s a => next a s
  | paused s resume => paused s fun t => (resume t).bind next

/-- The end of a computation that nothing interferes with. -/
def finish : Course σ α → σ × α
  | done s a => (s, a)
  | paused s resume => (resume s).finish

@[simp] theorem finish_done (s : σ) (a : α) : (done s a).finish = (s, a) := rfl

@[simp] theorem finish_paused (s : σ) (resume : σ → Course σ α) :
    (paused s resume).finish = (resume s).finish := rfl

theorem finish_bind (c : Course σ α) (next : α → σ → Course σ β) :
    (c.bind next).finish = (next c.finish.2 c.finish.1).finish := by
  induction c with
  | done s a => rfl
  | paused s resume ih => exact ih s

end Course

/-- A computation from its start. -/
def Routine (σ α : Type) : Type := σ → Course σ α

namespace Routine

variable {σ α β : Type}

/-- The computation that does nothing. -/
def pure (a : α) : Routine σ α := fun s => .done s a

/-- One computation after another. -/
def bind (r : Routine σ α) (next : α → Routine σ β) : Routine σ β :=
  fun s => (r s).bind next

instance : Monad (Routine σ) where
  pure := Routine.pure
  bind := Routine.bind

/-- Looks at the state. -/
def look : Routine σ σ := fun s => .done s s

/-- Changes the state, with a result. -/
def change (f : σ → σ × α) : Routine σ α := fun s => .done (f s).1 (f s).2

/-- Pauses. -/
def pause : Routine σ Unit := fun s => .paused s fun t => .done t ()

/-- The end of a computation that nothing interferes with. -/
def run (r : Routine σ α) (s : σ) : σ × α := (r s).finish

@[simp] theorem run_pure (a : α) (s : σ) :
    run (Pure.pure a : Routine σ α) s = (s, a) := rfl

@[simp] theorem run_bind (r : Routine σ α) (next : α → Routine σ β) (s : σ) :
    run (r >>= next) s = run (next (run r s).2) (run r s).1 :=
  Course.finish_bind (r s) next

@[simp] theorem run_look (s : σ) : run (look : Routine σ σ) s = (s, s) := rfl

@[simp] theorem run_change (f : σ → σ × α) (s : σ) : run (change f) s = f s := rfl

@[simp] theorem run_pause (s : σ) : run (pause : Routine σ Unit) s = (s, ()) := rfl

/-- Starts computations one after another; each that pauses goes on only when
the later ones are done. -/
def together : List (Routine σ α) → σ → σ × List α
  | [], s => (s, [])
  | r :: rest, s =>
    match r s with
    | .done s a =>
      let (s, others) := together rest s
      (s, a :: others)
    | .paused s resume =>
      let (s, others) := together rest s
      let (s, a) := (resume s).finish
      (s, a :: others)

end Routine

end LintRepair.Batch
