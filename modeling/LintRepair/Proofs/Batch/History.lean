/-
What a processor goes back to, after any history of calls.

* `Call`, `History`: the calls on a processor, as far as they have come;
  `History.Step`, `History.Reachable`: they start, pause, go on and are answered
  in any order, with requests in between;
* `Course.Keeps`: what holds whenever a course pauses, and at its end;
  `process_keeps`: an accepted run keeps the snapshot of its text;
* `History.Held`: at most one run is under way, and the snapshot is that of the
  call accepted last;
* `rollback_latest`: going back leads to the text of that call;
* `crossed_rollback_not`: it need not be the call that was answered.
-/
import LintRepair.Proofs.Batch.Replay

namespace LintRepair.Batch

open Text Check Repair
open Processor (Interlude interlude_refl interlude_trans)

variable {s : Surroundings} {job : Job} {l m : Ledger} {p q : Processor}
variable {trail : List Processor} {code : Text}

/-! ### Histories -/

/-- A call of a run; calls are numbered in the order in which they are made. -/
structure Call where
  number : Nat
  job : Job

/-- The calls that have been made on a processor, as far as they have come. -/
structure History where
  processor : Processor
  /-- How many calls there were. -/
  calls : Nat := 0
  /-- The call that was accepted last. -/
  latest? : Option Call := none
  /-- The calls that pause, and how they go on. -/
  waiting : List (Call × (Processor → Course Processor (Result × Option Ledger))) := []
  /-- The calls that have been answered. -/
  replies : List (Call × Result) := []

namespace History

/-- A processor without a past. -/
def start (registry : Registry) (settings : Config.Settings) : History :=
  { processor := .fresh registry settings }

/-- The history in which a call takes its course, to its next pause or to its
answer. -/
def follow (h : History) (c : Call) : Course Processor (Result × Option Ledger) → History
  | .done p (r, _) => { h with processor := p, replies := h.replies ++ [(c, r)] }
  | .paused p resume => { h with processor := p, waiting := h.waiting ++ [(c, resume)] }

/-- The history with one more call, which is accepted unless a run is under
way. -/
def call (h : History) (s : Surroundings) (job : Job) : History :=
  follow
    { h with
      calls := h.calls + 1
      latest? := if h.processor.running then h.latest? else some ⟨h.calls, job⟩ }
    ⟨h.calls, job⟩ (process s job h.processor)

/-- What can happen next: a call is made, one that pauses goes on, the run under
way is asked to stop or things are looked up, or the processor is to be
cleared. -/
inductive Step : History → History → Prop
  | call (h : History) (s : Surroundings) (job : Job) : Step h (h.call s job)
  | resume {h : History} {c : Call} {resume : Processor → Course Processor (Result × Option Ledger)}
      {before after : List (Call × (Processor → Course Processor (Result × Option Ledger)))}
      (waits : h.waiting = before ++ (c, resume) :: after) :
      Step h (follow { h with waiting := before ++ after } c (resume h.processor))
  | meddle {h : History} {p : Processor} (wait : Interlude h.processor p) :
      Step h { h with processor := p }
  | clear (h : History) : Step h { h with processor := h.processor.grant .clear }

/-- The histories of a processor without a past. -/
inductive Reachable (registry : Registry) (settings : Config.Settings) : History → Prop
  | start : Reachable registry settings (start registry settings)
  | step {h h' : History} (before : Reachable registry settings h) (next : Step h h') :
      Reachable registry settings h'

end History

/-! ### The snapshot of a run -/

/-- What holds of the processor whenever a course pauses, if others do nothing
but what they may, and what holds of it at the end. -/
inductive Course.Keeps {α : Type} (good last : Processor → Prop) : Course Processor α → Prop
  | done {p : Processor} (a : α) (h : last p) : Keeps good last (.done p a)
  | paused {p : Processor} {resume : Processor → Course Processor α} (h : good p)
      (later : ∀ q, Interlude p q → Keeps good last (resume q)) :
      Keeps good last (.paused p resume)

/-- What holds on all ways through a course holds of the course. -/
lemma Course.keeps_of_runs {α : Type} {good last : Processor → Prop} {c : Course Processor α}
    (h : ∀ trail q a, c.Runs Interlude trail q a → (∀ p ∈ trail, good p) ∧ last q) :
    c.Keeps good last := by
  induction c with
  | done p a => exact .done a (h [] p a (.done p a)).2
  | paused p resume ih =>
      refine .paused ?_ fun q wait => ih q fun trail v a run => ?_
      · have way := runs_pauses interlude_refl (resume p)
        exact (h _ _ _ (.paused (interlude_refl p) way)).1 p List.mem_cons_self
      · have all := h (p :: trail) v a (.paused wait run)
        exact ⟨fun t ht => all.1 t (List.mem_cons_of_mem p ht), all.2⟩

/-- A processor with a run under way that keeps the snapshot of a text. -/
def Busy (code : Text) (p : Processor) : Prop :=
  p.running = true ∧ p.archive.snapshot? startName = some code

/-- A processor without a run under way, whose snapshot is that of a text, if
there is one. -/
def Idle (code : Text) (p : Processor) : Prop :=
  p.running = false ∧ ∀ start, p.archive.snapshot? startName = some start → start = code

lemma Busy.interlude (h : Busy code p) (wait : Interlude p q) : Busy code q := by
  obtain ⟨stop, cache, rfl⟩ := wait
  exact h

/-- Clearing a processor takes its snapshots, if no run is under way. -/
lemma Idle.grant (h : Idle code p) (r : Request) : Idle code (p.grant r) := by
  cases r with
  | cancel => exact h
  | clear =>
      rw [Processor.grant, if_neg (by simp [h.1])]
      exact ⟨h.1, fun start none => by cases none⟩

lemma Idle.foldl_grant (h : Idle code p) (rs : List Request) :
    Idle code (rs.foldl Processor.grant p) := by
  induction rs generalizing p with
  | nil => exact h
  | cons r rest ih => exact ih (h.grant r)

/-- Whenever a run pauses, it keeps the snapshot of its text. -/
lemma Walk.busy (walk : Walk s l p trail m q) (h : Sound s.accepts l p) :
    ∀ t ∈ trail, Busy l.start t := by
  induction walk with
  | refl => simp
  | entry write _ ih =>
      obtain ⟨-, -, start⟩ := write.books
      exact start ▸ ih (h.entry write)
  | @turn l _ p _ _ _ d _ _ wait _ ih =>
      have settled := fixOne_settled h d
      have start : (fixOne s d l p).2.start = l.start := settled.start
      intro t ht
      rcases List.mem_cons.mp ht with rfl | later
      · exact ⟨settled.sound.running, start ▸ settled.sound.start⟩
      · exact start ▸ ih (h.turn wait) t later
  | pause wait _ ih =>
      intro t ht
      rcases List.mem_cons.mp ht with rfl | later
      · exact ⟨h.running, h.start⟩
      · exact ih ((h.showing _).interlude wait) t later

/-- A run that has ended leaves the snapshot of its text, unless its observer
has cleared the processor. -/
lemma closing_idle (h : Sound s.accepts l p) (e : Ending) :
    Idle l.start (closing s e l p).1 := by
  obtain ⟨v, k, concluded, same⟩ := closing_cases h e
  have ended : ∀ phase books, Idle l.start
      { v with running := false, phase := phase, ledger? := some books } := by
    intro phase books
    refine ⟨rfl, fun start found => ?_⟩
    have kept : v.archive = p.archive := by
      cases concluded with
      | cancelled => rfl
      | broken => rfl
      | halted => rfl
      | validated updates warnings notes told =>
          obtain ⟨stop, cache, rfl⟩ := told
          rfl
    rw [show ({ v with running := false, phase := phase, ledger? := some books } :
      Processor).archive = v.archive from rfl, kept, h.start] at found
    exact (Option.some.inj found).symm
  rw [same, close]
  split
  · exact (ended .complete k).foldl_grant _
  · exact (ended .error k).foldl_grant _

/-- An accepted run keeps the snapshot of its text. -/
lemma process_keeps (s : Surroundings) (job : Job) (idle : p.running = false) :
    (process s job p).Keeps (Busy job.code) (Idle job.code) := by
  refine Course.keeps_of_runs fun trail q a run => ?_
  obtain ⟨r, books?⟩ := a
  have books : ∃ l, books? = some l := by
    rw [process_idle idle, Course.runs_bind] at run
    obtain ⟨first, v, a, later, rfl, -, last⟩ := run
    obtain ⟨-, -, h⟩ := Course.runs_done.mp last
    cases h
    exact ⟨_, rfl⟩
  obtain ⟨l, rfl⟩ := books
  obtain ⟨-, e, lint?, m, v, attempts, last, -⟩ := runs_process run
  have opening := openRun_sound s job p
  have walk := walk_work attempts
  have left : q = (closing s e m v).1 := congrArg Prod.fst last
  refine ⟨walk.busy opening, ?_⟩
  have start : m.start = job.code := walk.start opening
  rw [left, ← start]
  exact closing_idle (walk.sound opening) e

/-! ### One run at a time -/

namespace History

variable {h h' : History} {c : Call}

/-- At most one run is under way. It keeps the snapshot of the text of the call
that was accepted last; when none is under way, there is no other snapshot. -/
inductive Held (h : History) : Prop
  | idle (none : h.waiting = []) (stands : h.processor.running = false)
      (kept : ∀ start, h.processor.archive.snapshot? startName = some start →
        ∃ c, h.latest? = some c ∧ start = c.job.code)
  | busy {c : Call} {resume : Processor → Course Processor (Result × Option Ledger)}
      (one : h.waiting = [(c, resume)]) (latest : h.latest? = some c) {p : Processor}
      (kept : Busy c.job.code p) (wait : Interlude p h.processor)
      (later : ∀ q, Interlude p q → (resume q).Keeps (Busy c.job.code) (Idle c.job.code))

/-- The call that was accepted last takes its course. -/
lemma Held.follow {course : Course Processor (Result × Option Ledger)} (none : h.waiting = [])
    (latest : h.latest? = some c) (keeps : course.Keeps (Busy c.job.code) (Idle c.job.code)) :
    Held (h.follow c course) := by
  cases keeps with
  | done a idle => exact .idle none idle.1 fun start found => ⟨c, latest, idle.2 start found⟩
  | @paused p resume busy later =>
      have one : (h.follow c (.paused p resume)).waiting = [(c, resume)] := by
        rw [History.follow, none, List.nil_append]
      exact .busy one latest busy (interlude_refl p) later

/-- Whatever happens next, that stays so. -/
lemma Held.step (held : Held h) (next : Step h h') : Held h' := by
  cases next with
  | call s job =>
      cases held with
      | idle none stands kept =>
          exact .follow none (if_neg (by simp [stands])) (process_keeps s job stands)
      | @busy c resume one latest p kept wait later =>
          have running : h.processor.running = true := (kept.interlude wait).1
          rw [History.call, process_running running, History.follow]
          exact .busy one ((if_pos running).trans latest) kept wait later
  | @resume c' resume' before after waits =>
      cases held with
      | idle none => exact absurd (none.symm.trans waits) (by simp)
      | @busy c resume one latest p kept wait later =>
          -- the one call that pauses is the one that goes on
          have same := one.symm.trans waits
          rw [List.singleton_eq_append_iff] at same
          obtain ⟨rfl, same⟩ | ⟨-, same⟩ := same
          · cases same
            exact .follow rfl latest (later _ wait)
          · cases same
  | meddle wait =>
      cases held with
      | idle none stands kept =>
          obtain ⟨stop, cache, rfl⟩ := wait
          exact .idle none stands kept
      | busy one latest kept wait' later =>
          exact .busy one latest kept (interlude_trans wait' wait) later
  | clear =>
      cases held with
      | idle none stands kept =>
          have cleared : h.processor.grant .clear = h.processor.clear := if_neg (by simp [stands])
          refine .idle none ?_ fun start found => ?_
          · rw [cleared]
            exact stands
          · rw [cleared] at found
            cases found
      | busy one latest kept wait later =>
          have request := Processor.interlude_grant (kept.interlude wait).1 .clear
          exact .busy one latest kept (interlude_trans wait request) later

/-- The call that was accepted last has been made, and whatever was answered was
rejected, or accepted then or before. -/
structure Numbered (h : History) : Prop where
  latest : ∀ c, h.latest? = some c → c.number < h.calls
  replies : ∀ c r, (c, r) ∈ h.replies → r.fault? = some .busy ∨
    ∃ latest, h.latest? = some latest ∧ (c = latest ∨ c.number < latest.number)

/-- The call that was accepted last takes its course. -/
lemma Numbered.follow (numbered : Numbered h) (latest : h.latest? = some c)
    (course : Course Processor (Result × Option Ledger)) : Numbered (h.follow c course) := by
  cases course with
  | paused p resume => exact ⟨numbered.latest, numbered.replies⟩
  | done p a =>
      refine ⟨numbered.latest, fun c' r answered => ?_⟩
      rcases List.mem_append.mp answered with old | new
      · exact numbered.replies c' r old
      · cases List.mem_singleton.mp new
        exact .inr ⟨c, latest, .inl rfl⟩

/-- Whatever happens next, that stays so. -/
lemma Numbered.step (numbered : Numbered h) (held : Held h) (next : Step h h') :
    Numbered h' := by
  cases next with
  | call s job =>
      by_cases running : h.processor.running = true
      · -- the call is rejected
        rw [History.call, process_running running, if_pos running]
        refine ⟨fun c latest => Nat.lt_succ_of_lt (numbered.latest c latest), ?_⟩
        intro c r answered
        rcases List.mem_append.mp answered with old | new
        · exact numbered.replies c r old
        · cases List.mem_singleton.mp new
          exact .inl rfl
      · -- the call is accepted, and later than all before
        rw [History.call, if_neg running]
        refine Numbered.follow ⟨?_, fun c r answered => ?_⟩ rfl _
        · intro c same
          cases same
          exact Nat.lt_succ_self h.calls
        · refine (numbered.replies c r answered).imp_right ?_
          rintro ⟨latest, last, rfl | earlier⟩
          · exact ⟨_, rfl, .inr (numbered.latest c last)⟩
          · exact ⟨_, rfl, .inr (earlier.trans (numbered.latest latest last))⟩
  | @resume c resume before after waits =>
      cases held with
      | idle none => exact absurd (none.symm.trans waits) (by simp)
      | @busy c' resume' one latest p kept wait later =>
          have same : (c, resume) ∈ [(c', resume')] := by
            rw [← one, waits]
            simp
          cases List.mem_singleton.mp same
          exact Numbered.follow (h := { h with waiting := before ++ after })
            ⟨numbered.latest, numbered.replies⟩ latest _
  | meddle => exact ⟨numbered.latest, numbered.replies⟩
  | clear => exact ⟨numbered.latest, numbered.replies⟩

/-- In every history at most one run is under way, and calls are answered in
their turn. -/
lemma Reachable.invariant {registry : Registry} {settings : Config.Settings}
    (reach : Reachable registry settings h) : Held h ∧ Numbered h := by
  induction reach with
  | start =>
      refine ⟨.idle rfl rfl fun start none => ?_, ⟨fun c none => ?_, fun c r none => ?_⟩⟩
      · cases none
      · cases none
      · cases none
  | step _ next ih => exact ⟨ih.1.step next, ih.2.step ih.1 next⟩

/-- The snapshot of the text before a run is that of the call accepted last. -/
lemma Held.snapshot (held : Held h) {start : Text}
    (found : h.processor.archive.snapshot? startName = some start) :
    ∃ latest, h.latest? = some latest ∧ start = latest.job.code := by
  cases held with
  | idle _ _ kept => exact kept start found
  | busy _ latest kept wait =>
      exact ⟨_, latest, Option.some.inj (found.symm.trans (kept.interlude wait).2)⟩

end History

/-- **Going back leads to the call accepted last.** After any history of calls on
a processor, and in the midst of it, where going back from the result of a call
gives a text, the result is one of a run that did not complete, the text is a
program, and it is the text of the call that was accepted last. That is the call
with the result, unless this one was rejected because another run was under way,
or a later one has been accepted since. -/
theorem rollback_latest {registry : Registry} {settings : Config.Settings} {h : History}
    {c : Call} {r : Result} {accepts : Acceptor}
    (reach : History.Reachable registry settings h) (replied : (c, r) ∈ h.replies)
    (back : h.processor.rollback accepts r = .ok code) :
    r.isSuccess = false ∧ isProgram accepts code = true ∧
      ∃ latest, h.latest? = some latest ∧ code = latest.job.code ∧
        (c = latest ∨ r.fault? = some .busy ∨ c.number < latest.number) := by
  obtain ⟨held, numbered⟩ := reach.invariant
  rw [Processor.rollback] at back
  split at back
  · cases back
  next failure =>
  split at back
  · cases back
  next start found =>
  split at back
  swap
  · cases back
  next program =>
  cases back
  obtain ⟨latest, last, same⟩ := held.snapshot found
  refine ⟨by simpa using failure, program, latest, last, same, ?_⟩
  rcases numbered.replies c r replied with busy | ⟨latest', last', mine⟩
  · exact .inr (.inl busy)
  · cases last.symm.trans last'
    exact mine.imp_right .inr

/-! ### Calls on one processor -/

/-- A call that pauses can go on to its end. -/
lemma History.Reachable.finish {registry : Registry} {settings : Config.Settings} {h : History}
    {c : Call} {course : Course Processor (Result × Option Ledger)}
    (reach : Reachable registry settings (h.follow c course)) (none : h.waiting = []) :
    Reachable registry settings
      { h with
        processor := course.finish.1, replies := h.replies ++ [(c, course.finish.2.1)] } := by
  induction course generalizing h with
  | done p a => exact reach
  | paused p resume ih =>
      obtain ⟨processor, calls, latest?, waiting, replies⟩ := h
      obtain rfl : waiting = [] := none
      have waits : (follow ⟨processor, calls, latest?, [], replies⟩ c (.paused p resume)).waiting =
          [] ++ (c, resume) :: [] := rfl
      exact ih p (reach.step (.resume waits)) rfl

/-- A diagnostic whose repair breaks the program. -/
def faltering : Job where
  code := "0\n0".toList
  diagnostics := [{ rule := some "bracket", message := "", line := 1, column := 1 }]

/-- Going back from the failed run leads to its text. -/
lemma rollback_faltering :
    (process lenient faltering scribe).finish.1.rollback lenient.accepts
      (process lenient faltering scribe).finish.2.1 = .ok "0\n0".toList := by
  decide +kernel

theorem faltering_rollback : ∃ h c r,
    History.Reachable scribe.registry {} h ∧ (c, r) ∈ h.replies ∧
    h.processor.rollback lenient.accepts r = .ok "0\n0".toList ∧ r.isSuccess = false ∧
    ∃ latest, h.latest? = some latest ∧ "0\n0".toList = latest.job.code ∧
      (c = latest ∨ r.fault? = some .busy ∨ c.number < latest.number) := by
  have called : History.Reachable scribe.registry {}
      ((History.start scribe.registry {}).call lenient faltering) :=
    .step .start (.call _ lenient faltering)
  have reach := called.finish rfl
  have replied : ((⟨0, faltering⟩ : Call), (process lenient faltering scribe).finish.2.1) ∈
      [((⟨0, faltering⟩ : Call), (process lenient faltering scribe).finish.2.1)] :=
    List.mem_singleton_self _
  obtain ⟨failure, -, latest⟩ := rollback_latest reach replied rollback_faltering
  exact ⟨_, _, _, reach, replied, rollback_faltering, failure, latest⟩

/-- A course with pauses starts with one. -/
lemma Course.eq_paused {σ α : Type} {c : Course σ α} {p : σ} (h : c.pauses.head? = some p) :
    ∃ resume, c = .paused p resume := by
  cases c with
  | done => cases h
  | paused q resume =>
      cases h
      exact ⟨resume, rfl⟩

/-- Another text, without diagnostics. -/
def unrelated : Job where
  code := "1".toList
  diagnostics := []

/-- In the first pause of a run, going back from the result of a call that is
rejected leads to the text of the run. -/
lemma pauses_faltering : ((process lenient faltering scribe).pauses.head?.map fun p =>
    (p.running, p.rollback lenient.accepts unrelated.rejected)) =
      some (true, .ok "0\n0".toList) := by
  decide +kernel

/-- Going back from the result of a call that did not complete may lead to the
text of another call. -/
theorem crossed_rollback_not : ∃ h c r code,
    History.Reachable scribe.registry {} h ∧ (c, r) ∈ h.replies ∧ r.isSuccess = false ∧
    h.processor.rollback lenient.accepts r = .ok code ∧ code ≠ c.job.code := by
  obtain ⟨p, first, same⟩ := Option.map_eq_some_iff.mp pauses_faltering
  obtain ⟨running, back⟩ := Prod.mk.inj same
  obtain ⟨resume, course⟩ := Course.eq_paused first
  have called : History.Reachable scribe.registry {}
      ((History.start scribe.registry {}).call lenient faltering) :=
    .step .start (.call _ lenient faltering)
  have reach := called.step (.call _ lenient unrelated)
  have paused : ((History.start scribe.registry {}).call lenient faltering).processor = p := by
    rw [History.call, show (History.start scribe.registry {}).processor = scribe from rfl, course]
    rfl
  rw [History.call, paused, process_running running, History.follow] at reach
  exact ⟨_, _, _, _, reach, List.mem_append_right _ (List.mem_singleton_self _), rfl, back,
    by decide⟩

end LintRepair.Batch
