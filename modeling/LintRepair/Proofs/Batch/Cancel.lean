/-
What becomes of a run that is asked to stop.

* `Leads`, `Walk.leads`: the repairs made by any moment of a run stay in its text;
* `Still`, `Walk.still`: a run that has been asked to stop starts no attempt;
* `Heeds`, `Walk.heeds`: so no attempt follows one at which the observer cancels
  the run;
* `wavesUpTo_stops`: a linter that cancels the run is the last one asked, and no
  attempt follows;
* `stopped_in_pause`, `stopped_by_linter`: what this says of the attempts of a run;
* `process_cancelled`: all of this for whole runs, with what their books show.
-/
import LintRepair.Proofs.Batch.Answers
import LintRepair.Proofs.Batch.CutShort
import LintRepair.Proofs.Batch.Progress
import LintRepair.Proofs.Batch.Rest

namespace LintRepair.Batch

open Text Check Repair
open Processor (Interlude interlude_refl interlude_trans)

variable {accepts : Acceptor} {registry : Registry}
variable {s : Surroundings} {job : Job} {l m n : Ledger} {p q : Processor}
variable {trail : List Processor} {ds : List Diagnostic} {d : Diagnostic}

/-! ### Repairs that stay -/

lemma Replay.trans {t u v : Text} {sms sms' : List Summary} (h : Replay accepts registry t sms u)
    (h' : Replay accepts registry u sms' v) : Replay accepts registry t (sms ++ sms') v := by
  induction h' with
  | start => rwa [List.append_nil]
  | repair _ success last ih =>
      rw [← List.append_assoc]
      exact .repair ih success last

/-- A replay can be stopped between any two repairs. -/
lemma Replay.split {t v : Text} {first later : List Summary}
    (h : Replay accepts registry t (first ++ later) v) :
    ∃ u, Replay accepts registry t first u ∧ Replay accepts registry u later v := by
  induction later using List.reverseRecOn generalizing v with
  | nil => exact ⟨v, by rwa [List.append_nil] at h, .start v⟩
  | append_singleton later sm ih =>
      rw [← List.append_assoc] at h
      generalize whole : first ++ later ++ [sm] = sms at h
      cases h with
      | start => simp at whole
      | repair earlier success last =>
          obtain ⟨rfl, one⟩ := List.append_inj' whole rfl
          obtain rfl := List.singleton_inj.mp one
          obtain ⟨u, head, tail⟩ := ih earlier
          exact ⟨u, head, .repair tail success last⟩

/-- The repairs that were made from one moment of a run to a later one lead from
the one text to the other. -/
def Leads (accepts : Acceptor) (registry : Registry) (l m : Ledger) : Prop :=
  ∃ more, m.applied = l.applied ++ more ∧ Replay accepts registry l.code more m.code

namespace Leads

lemma of_eq (applied : m.applied = l.applied) (code : m.code = l.code) :
    Leads accepts registry l m :=
  ⟨[], by rw [applied, List.append_nil], by rw [code]; exact .start l.code⟩

lemma trans (h : Leads accepts registry l m) (h' : Leads accepts registry m n) :
    Leads accepts registry l n := by
  obtain ⟨more, grown, replay⟩ := h
  obtain ⟨more', grown', replay'⟩ := h'
  exact ⟨more ++ more', by rw [grown', grown, List.append_assoc], replay.trans replay'⟩

end Leads

lemma Outcome.leads (h : Outcome accepts registry d l m) : Leads accepts registry l m := by
  cases h with
  | repaired sm about success repair applied _ _ =>
      exact ⟨[sm], applied, .repair (.start l.code) success (about ▸ repair)⟩
  | failed sm _ code applied _ _ => exact .of_eq applied code

/-- The repairs behind any moment of a run lead from its text to the later
one. -/
lemma Walk.leads (walk : Walk s l p trail m q) (h : Sound s.accepts l p)
    (kept : p.registry = registry) :
    Leads s.accepts registry l m ∧ ∀ b ∈ shown trail, Leads s.accepts registry b m := by
  induction walk with
  | refl l p => exact ⟨.of_eq rfl rfl, by simp [shown]⟩
  | entry write _ ih =>
      obtain ⟨applied, code, -⟩ := write.books
      obtain ⟨all, moments⟩ := ih (h.entry write) kept
      exact ⟨(Leads.of_eq applied code).trans all, moments⟩
  | @turn l _ p _ _ _ d _ _ wait _ ih =>
      have settled := fixOne_settled h d
      have first : Leads s.accepts registry l (fixOne s d l p).2 := kept ▸ settled.outcome.leads
      have still : (fixOne s d l p).1.registry = registry := settled.registry.trans kept
      obtain ⟨all, moments⟩ := ih (h.turn wait) (by obtain ⟨_, _, rfl⟩ := wait; exact still)
      refine ⟨first.trans all, fun b hb => ?_⟩
      rcases List.mem_cons.mp hb with rfl | later
      · exact all
      · exact moments b later
  | @pause l _ p _ _ _ wait _ ih =>
      obtain ⟨all, moments⟩ :=
        ih ((h.showing _).interlude wait) (by obtain ⟨_, _, rfl⟩ := wait; exact kept)
      refine ⟨all, fun b hb => ?_⟩
      rcases List.mem_cons.mp hb with rfl | later
      · exact all
      · exact moments b later

/-- At the end of a run its observer has been told of no more repairs than there
are. -/
lemma Told.closing_within (h : Told l) (sound : Sound s.accepts l p)
    (same : l.fault?.isSome = l.halted) (e : Ending) :
    ∀ u ∈ (closing s e l p).2.reported, u.applied ≤ l.applied.length := by
  obtain ⟨checked, last, told, -, checks, ends⟩ := closing_reported sound e same
  intro u hu
  rw [told, List.mem_append, List.mem_append, List.mem_singleton] at hu
  rcases hu with (hu | hu) | rfl
  · exact (h.within u hu).1
  · exact (checks u hu).le.1
  · exact ends.le.1

/-! ### Runs that have been asked to stop -/

/-- Who has been asked to stop stays so. -/
lemma interlude_cancelled (wait : Interlude p q) (stop : p.cancelled = true) :
    q.cancelled = true := by
  obtain ⟨_, _, rfl⟩ := wait
  simp [stop]

/-- No attempt is started between two moments of a run. -/
structure Still (l m : Ledger) : Prop where
  current : m.current = l.current
  applied : m.applied = l.applied
  code : m.code = l.code

lemma Still.trans (h : Still l m) (h' : Still m n) : Still l n :=
  ⟨h'.current.trans h.current, h'.applied.trans h.applied, h'.code.trans h.code⟩

lemma Entry.still (write : Entry l m) : Still l m := by
  cases write <;> exact ⟨rfl, rfl, rfl⟩

/-- When it has been asked to stop, a run starts no attempt. -/
lemma Walk.still (walk : Walk s l p trail m q) (stop : p.cancelled = true) : Still l m := by
  induction walk with
  | refl l p => exact ⟨rfl, rfl, rfl⟩
  | entry write _ ih => exact write.still.trans (ih stop)
  | turn _ going => exact absurd stop (by simp [going])
  | pause wait _ ih => exact ih (interlude_cancelled wait stop)

/-- The end of a run starts none. -/
lemma closing_still (h : Sound s.accepts l p) (e : Ending) : Still l (closing s e l p).2 := by
  have ends := closing_ends h e
  exact ⟨(closing_figures h e).2.2, ends.applied, ends.code⟩

/-! ### Observers that cancel a run -/

/-- A run with an observer that cancels it has been asked to stop, and the
observer was told of no attempt since. -/
structure Heeds (s : Surroundings) (l : Ledger) (p : Processor) : Prop where
  asked : ∀ u ∈ l.reported, Request.cancel ∈ s.observe u → p.cancelled = true
  calm : l.reported.Pairwise fun u v => Request.cancel ∈ s.observe u → v.phase ≠ .fixing

lemma Heeds.congr (h : Heeds s l p) (told : m.reported = l.reported)
    (stop : p.cancelled = true → q.cancelled = true) : Heeds s m q where
  asked u hu cancels := stop (h.asked u (told ▸ hu) cancels)
  calm := told ▸ h.calm

/-- A request to cancel a run that is under way is granted. -/
lemma foldl_grant_cancelled {rs : List Request} (running : p.running = true)
    (asked : Request.cancel ∈ rs) : (rs.foldl Processor.grant p).cancelled = true := by
  induction rs generalizing p with
  | nil => cases asked
  | cons r rest ih =>
      have first := Processor.interlude_grant running r
      have still : (p.grant r).running = true := by
        obtain ⟨_, _, same⟩ := first
        rw [same]
        exact running
      rcases List.mem_cons.mp asked with rfl | later
      · refine interlude_cancelled (Processor.interlude_foldl_grant still rest) ?_
        simp [Processor.grant, Processor.cancel, running]
      · exact ih still later

/-- The turn of a diagnostic leaves it to the observer to cancel the run. -/
lemma fixOne_cancelled (s : Surroundings) (d : Diagnostic) (l : Ledger) (p : Processor) :
    (fixOne s d l p).1.cancelled = (beginTurn s d l p).1.cancelled := by
  rw [fixOne_eq]
  obtain ⟨⟨archive, entered⟩, -⟩ := settle_entered s.accepts d (beginTurn s d l p).2
    { (beginTurn s d l p).1 with
      cache := ((beginTurn s d l p).1.cache.zone (beginTurn s d l p).2.code d).1 }
    (attempt s.accepts (beginTurn s d l p).1.registry (beginTurn s d l p).2.code d)
  rw [entered]

/-- A turn that is taken comes before all requests to stop. -/
lemma Heeds.turn (h : Heeds s l p) (running : p.running = true) (going : p.cancelled = false)
    (d : Diagnostic) : Heeds s (fixOne s d l p).2 (afterTurn s d l p) := by
  have told : (fixOne s d l p).2.reported = l.reported ++ [(l.begin d).update .fixing
      (d.rule.getD "") ("Fixing " ++ ruleText d.rule ++ " at line " ++ d.line.text)] := by
    rw [reported_congr (fixOne_entered s d l p).updates]
    exact announce_reported (l := l.begin d) s _ _ _
  have unasked : ∀ u ∈ l.reported, Request.cancel ∉ s.observe u := fun u hu cancels => by
    simp [h.asked u hu cancels] at going
  constructor
  · intro u hu cancels
    rw [told, List.mem_append, List.mem_singleton] at hu
    rcases hu with old | rfl
    · exact absurd cancels (unasked u old)
    · show (fixOne s d l p).1.cancelled = true
      rw [fixOne_cancelled]
      exact foldl_grant_cancelled (p := { p with phase := .fixing, ledger? := some (l.begin d) })
        running cancels
  · rw [told, List.pairwise_append]
    refine ⟨h.calm, List.pairwise_singleton _ _, fun u hu _ _ cancels => ?_⟩
    exact absurd cancels (unasked u hu)

/-- Throughout a run its observer is heeded. -/
lemma Walk.heeds (walk : Walk s l p trail m q) (sound : Sound s.accepts l p) (h : Heeds s l p) :
    Heeds s m q := by
  induction walk with
  | refl l p => exact h
  | entry write _ ih =>
      refine ih (sound.entry write) (h.congr ?_ id)
      cases write <;> rfl
  | turn d going _ wait _ ih =>
      exact ih (sound.turn wait)
        ((h.turn sound.running going d).congr rfl (interlude_cancelled wait))
  | @pause l _ p _ _ _ wait _ ih =>
      exact ih ((sound.showing _).interlude wait)
        (h.congr rfl (interlude_cancelled (p := p.showing l) wait))

lemma heeds_openRun (s : Surroundings) (job : Job) (p : Processor) :
    Heeds s (openRun s job p).2 (openRun s job p).1 := by
  have told : (openRun s job p).2.reported =
      [job.books.update .analyzing "" "Analyzing diagnostics"] :=
    announce_reported (l := job.books) s _ _ _
  constructor
  · intro u hu cancels
    rw [told] at hu
    obtain rfl := List.mem_singleton.mp hu
    exact foldl_grant_cancelled
      (p := { job.ready p with phase := .analyzing, ledger? := some job.books }) rfl cancels
  · rw [told]
    exact List.pairwise_singleton _ _

/-- At the end of a run its observer is told of no attempt. -/
lemma Heeds.closing_calm (h : Heeds s l p) (sound : Sound s.accepts l p)
    (same : l.fault?.isSome = l.halted) (e : Ending) :
    (closing s e l p).2.reported.Pairwise
      fun u v => Request.cancel ∈ s.observe u → v.phase ≠ .fixing := by
  obtain ⟨checked, last, told, phases, -⟩ := closing_reported sound e same
  have other : ∀ v ∈ checked ++ [last], v.phase ≠ .fixing := by
    intro v hv
    have phase := List.mem_map_of_mem (f := Update.phase) hv
    rw [phases] at phase
    split at phase <;> aesop
  rw [told, List.append_assoc, List.pairwise_append]
  exact ⟨h.calm, List.pairwise_of_forall_mem_list fun _ _ v hv _ => other v hv,
    fun _ _ v hv _ => other v hv⟩

/-! ### Linters that cancel a run -/

section Stops

variable {linter : Linter} {linter? : Option (Linter × String)} {t u : Tide} {k : Nat}
variable {e : Ending} {asked later : List Question} {question : Question}

/-- A question is asked in a pause, or not at all; behind one that the linter
cancels the run at, the run has been asked to stop. -/
lemma inquire_heeds {answer : Except String (Option (List Diagnostic))}
    (same : ∀ asked, linter? = some asked → some linter = some asked.1)
    (running : p.running = true)
    (run : (inquire linter? l p).Runs Interlude trail q (m, answer)) :
    m.questions = l.questions ∨
      ∃ question, trail = [p.showing l] ∧ m.questions = l.questions ++ [question] ∧
        ((linter l.questions question).cancels = true → q.cancelled = true) := by
  cases linter? with
  | none =>
      rw [inquire, Routine.pure_apply, Course.runs_done] at run
      obtain ⟨-, -, heard⟩ := run
      cases heard
      exact .inl rfl
  | some asked =>
      obtain ⟨_, name⟩ := asked
      obtain rfl := Option.some.inj (same _ rfl)
      rw [inquire] at run
      by_cases endless : p.settings.relintTimeout.toFloat?.isNone = true
      · rw [consult_endless endless, Course.runs_done] at run
        obtain ⟨-, -, heard⟩ := run
        obtain ⟨rfl, -⟩ := Prod.mk.inj heard
        exact .inl rfl
      rw [consult_eq (Bool.eq_false_iff.mpr endless), Course.runs_paused] at run
      obtain ⟨v, last, rfl, ⟨_, _, rfl⟩, run⟩ := run
      obtain ⟨rfl, rfl, heard⟩ := Course.runs_done.mp run
      refine .inr ⟨(l.code, name), rfl, ?_, fun cancels => ?_⟩
      · obtain ⟨rfl, -⟩ := Prod.mk.inj heard
        cases (linter l.questions (l.code, name)).report <;> rfl
      · rw [if_pos cancels]
        simp [Processor.cancel, Processor.showing, running]

/-- Where a list goes on behind another one, it is there that it does so, or
later. -/
lemma concat_prefix {α : Type} {xs ys zs : List α} {x y : α} (shorter : xs <+: ys)
    (whole : xs ++ [x] <+: ys ++ y :: zs) : xs = ys ∧ x = y ∨ xs ++ [x] <+: ys := by
  obtain ⟨_ | ⟨y', more⟩, rfl⟩ := shorter
  · rw [List.append_nil, List.prefix_append_right_inj, List.cons_prefix_cons] at whole
    exact .inl ⟨(List.append_nil xs).symm, whole.1⟩
  · rw [List.append_assoc, List.prefix_append_right_inj, List.cons_append,
      List.cons_prefix_cons] at whole
    obtain ⟨rfl, -⟩ := whole
    exact .inr ⟨more, by simp⟩

/-- Behind the attempts of a wave nothing is asked, or a linter is. In the latter
case the run ends there and starts no attempt, or it has not been asked to stop
and makes further waves, from books with the same questions. -/
lemma runs_goOn_asked {waves : Tide → Ledger → Step (Ledger × Ending × Tide)}
    {rest : List Diagnostic} {after : Ledger} {ending : Ending}
    (run : (goOn linter? waves t rest l after ending p).Runs Interlude trail q (m, e, u)) :
    m.questions = after.questions ∨
    ∃ first v answered answer last, trail = first ++ last ∧
      (inquire linter? after p).Runs Interlude first v (answered, answer) ∧
      (last = [] ∧ m.questions = answered.questions ∧ Still answered m ∨
        v.cancelled = false ∧ ∃ t' b, b.questions = answered.questions ∧
          (Sound s.accepts answered v → Sound s.accepts b v) ∧
          (waves t' b v).Runs Interlude last q (m, e, u)) := by
  rcases runs_goOn run with ⟨-, -, -, rfl, -, -⟩ | ⟨-, -, -, -, rfl, -, -⟩ |
    ⟨rfl, -, first, v, answered, answer, last, rfl, ask, further⟩
  · exact .inl rfl
  · exact .inl rfl
  refine .inr ⟨first, v, answered, answer, last, rfl, ask, ?_⟩
  rcases further with ⟨_, -, rfl, -, rfl, -, -⟩ | ⟨_, -, -, rfl, -, rfl, -, -⟩ |
    ⟨-, going, run⟩ | ⟨fresh, -, going, run⟩
  · exact .inl ⟨rfl, rfl, rfl, rfl, rfl⟩
  · exact .inl ⟨rfl, rfl, rfl, rfl, rfl⟩
  · exact .inr ⟨going, _, answered, rfl, id, run⟩
  · exact .inr ⟨going, _, (t.turn answered fresh).2, rfl,
      fun sound => sound.entry (.found answered _), run⟩

/-- A linter that cancels the run is not asked again in its waves, and no attempt
is started behind the pause in which it was asked. -/
lemma wavesUpTo_stops (same : ∀ asked, linter? = some asked → some linter = some asked.1)
    (sound : Sound s.accepts l p)
    (run : (wavesUpTo s linter? k t l p).Runs Interlude trail q (m, e, u))
    (new : l.questions <+: asked) (split : m.questions = asked ++ question :: later)
    (cancels : (linter asked question).cancels = true) :
    later = [] ∧ ∃ b, (shown trail).getLast? = some b ∧ b.questions = asked ∧ Still b m := by
  -- a way that asks nothing has not asked the question
  have unasked : ∀ b : Ledger, b.questions <+: asked → m.questions ≠ b.questions := by
    intro b new same
    have longer := new.length_le
    rw [← same, split, List.length_append, List.length_cons] at longer
    omega
  induction k generalizing l p t trail with
  | zero =>
      rw [wavesUpTo, Routine.pure_apply, Course.runs_done] at run
      obtain ⟨-, -, h⟩ := run
      cases h
      exact absurd rfl (unasked l new)
  | succ k ih =>
      by_cases stop : (t.pending.isEmpty || l.halted) = true
      · rw [wavesUpTo_succ_end stop, Course.runs_done] at run
        obtain ⟨-, -, h⟩ := run
        cases h
        exact absurd rfl (unasked _ new)
      rw [wavesUpTo_eq (by simpa using stop), Course.runs_bind] at run
      obtain ⟨first, v, ⟨after, ending⟩, _, rfl, turns, behind⟩ := run
      have wave : Wave s t.pending l p first after v ending := runs_turns turns
      have known : after.questions = l.questions := (Turns.questions wave).1
      have sound' := wave.walk.sound sound
      rcases runs_goOn_asked (s := s) behind with
        never | ⟨asking, w, answered, answer, last, rfl, ask, further⟩
      · exact absurd (never.trans known) (unasked l new)
      have sound'' := (runs_inquire ask).walk.sound sound'
      have still : Still after answered := by
        obtain ⟨_, _, rfl⟩ := (runs_inquire ask).books
        exact ⟨rfl, rfl, rfl⟩
      -- the question may be one of those that are asked in further waves
      have later' : answered.questions <+: asked →
          later = [] ∧ ∃ b, (shown (first ++ (asking ++ last))).getLast? = some b ∧
            b.questions = asked ∧ Still b m := by
        intro new'
        rcases further with ⟨-, same, -⟩ | ⟨-, t', b, same, sound, run⟩
        · exact absurd same (unasked answered new')
        obtain ⟨none, c, hc, rest⟩ := ih (sound sound'') run (same ▸ new')
        refine ⟨none, c, ?_, rest⟩
        rw [shown_append, shown_append, List.getLast?_append, List.getLast?_append, hc]
        rfl
      rcases inquire_heeds same sound'.running ask with silent | ⟨here, rfl, grown, heeds⟩
      · exact later' (silent.trans known ▸ new)
      rw [known] at grown heeds
      have whole : l.questions ++ [here] <+: asked ++ question :: later := by
        rw [← grown, ← split]
        rcases further with ⟨-, same, -⟩ | ⟨-, t', b, same, -, run⟩
        · exact same ▸ List.prefix_rfl
        · exact same ▸ (walk_wavesUpTo run).questions.1
      rcases concat_prefix new whole with ⟨rfl, rfl⟩ | new'
      · -- it is the one behind this wave
        rcases further with ⟨rfl, same, still'⟩ | ⟨going, -⟩
        · have ends := List.append_cancel_left (grown.symm.trans (same.symm.trans split))
          exact ⟨(List.cons.inj ends).2.symm, after, by simp [shown, Processor.showing], known,
            still.trans still'⟩
        · exact absurd (heeds cancels) (by simp [going])
      · exact later' (grown ▸ new')

end Stops

/-! ### Whole runs -/

/-- A run that is asked to stop in one of its pauses starts no attempt behind
it. -/
lemma stopped_in_pause {before after : List Processor} {t u : Processor} {r : Result}
    {resume : Processor → Course Processor (Result × Option Ledger)}
    (reach : (process s job p).Reaches Interlude before (.paused t resume))
    (wait : Interlude t u) (stop : u.cancelled = true)
    (rest : (resume u).Runs Interlude after q (r, some l)) :
    ∃ b, t.ledger? = some b ∧ Still b l ∧ r.applied = l.applied ∧ r.code = l.code := by
  obtain ⟨-, b, shows, first, behind⟩ := process_rest reach
  obtain ⟨v, e, lint?, m, w, wait', walk, last, rfl⟩ := behind wait rest
  have sound := ((first.sound (openRun_sound s job p)).interlude wait).interlude wait'
  have stopped := walk.still (interlude_cancelled wait' stop)
  obtain rfl : l = (closing s e m w).2 := congrArg Prod.snd last
  exact ⟨b, shows, stopped.trans (closing_still (walk.sound sound) e), rfl, rfl⟩

/-- A linter that cancels the run is not asked again in its attempts, and none is
started behind the pause in which it was asked. -/
lemma stopped_by_linter {linter : Linter} {name : Option String} {e : Ending}
    {lint? : Option LintInfo} {asked later : List Question} {question : Question}
    (manner : job.manner = .inWaves (some linter) name)
    (run : (work s job (openRun s job p).2 (openRun s job p).1).Runs Interlude trail q
      (m, e, lint?))
    (split : m.questions = asked ++ question :: later)
    (cancels : (linter asked question).cancels = true) :
    later = [] ∧ ∃ b, (shown trail).getLast? = some b ∧ b.questions = asked ∧ Still b m := by
  rw [work_inWaves manner, waves_eq, Course.runs_bind] at run
  obtain ⟨first, v, ⟨m', e', t⟩, _, rfl, run, last⟩ := run
  obtain ⟨rfl, rfl, h⟩ := Course.runs_done.mp last
  cases h
  rw [List.append_nil]
  exact wavesUpTo_stops (fun _ => linterFor_eq) (openRun_sound s job p) run List.nil_prefix split
    cancels

/-- A run ends as cancelled only if its attempts do. -/
lemma Walk.ending_of_cancelled {e : Ending} (walk : Walk s l p trail m q)
    (sound : Sound s.accepts m q) (none : l.fault? = none)
    (cancelled : (closing s e m q).2.fault? = some .cancelled) : e = .cancelled := by
  rcases (closing_fault sound e).2 with ⟨same, -⟩ | ⟨text, -, fault⟩ | ⟨-, fault⟩
  · exact same
  · cases fault.symm.trans cancelled
  · rcases walk.fault with ⟨same, -⟩ | ⟨d, other, halt, found⟩
    · cases (none.symm.trans same.symm).trans (fault.symm.trans cancelled)
    · cases (fault.trans found).symm.trans cancelled
      cases halt

/-- Where no run is under way, a request to stop does nothing. -/
lemma cancel_of_idle (idle : p.running = false) : p.cancel = p := by
  rw [Processor.cancel, idle, Bool.or_false]
  cases p
  cases idle
  rfl

/-- **Cancellation.** Whenever a run is asked to stop, the repairs made before
stay in its result: those in the books of any pause, and those of which its
observer was told at any time. And it starts no further attempt: neither when its
observer asks for it, nor when someone else does in one of its pauses, nor when
its linter does, which is not asked again. If the run then ends as cancelled, each
pending diagnostic for which no attempt was started is entered once, as a failure
that tells of the cancellation. Where no run is under way such a request does
nothing, and whatever is left of an earlier one shows in no run. -/
theorem process_cancelled {r : Result}
    (run : (process s job p).Runs Interlude trail q (r, some l)) :
    (∀ b ∈ shown trail, ∃ more, r.applied = b.applied ++ more ∧
      Replay s.accepts p.registry b.code more r.code) ∧
    (∀ u ∈ l.reported, u.applied ≤ r.applied.length ∧ ∃ code,
      Replay s.accepts p.registry job.code (r.applied.take u.applied) code ∧
      Replay s.accepts p.registry code (r.applied.drop u.applied) r.code) ∧
    (l.reported.Pairwise fun u v => Request.cancel ∈ s.observe u → v.phase ≠ .fixing) ∧
    (∀ {before t resume u after q' r' l'},
      (process s job p).Reaches Interlude before (.paused t resume) → Interlude t u →
      u.cancelled = true → (resume u).Runs Interlude after q' (r', some l') →
      ∃ b, t.ledger? = some b ∧ l'.current = b.current ∧ r'.applied = b.applied ∧
        r'.code = b.code) ∧
    (∀ linter name, job.manner = .inWaves (some linter) name → ∀ asked question later,
      l.questions = asked ++ question :: later → (linter asked question).cancels = true →
      later = [] ∧ ∃ b, (shown trail).getLast? = some b ∧ b.questions = asked ∧
        l.current = b.current ∧ r.applied = b.applied ∧ r.code = b.code) ∧
    (r.fault? = some .cancelled → EndsCutShort s job p trail l) ∧
    p.cancel = p ∧ ∀ stop, process s job { p with cancelled := stop } = process s job p := by
  obtain ⟨idle, e, lint?, m, v, attempts, last, rfl⟩ := runs_process run
  obtain rfl : l = (closing s e m v).2 := congrArg Prod.snd last
  have opening := openRun_sound s job p
  have walk := walk_work attempts
  have sound := walk.sound opening
  have faulted : m.fault?.isSome = m.halted := walk.faulted rfl
  have still := closing_still sound e
  obtain ⟨⟨_, grown, replay⟩, moments⟩ := walk.leads opening (openRun_registry s job p)
  have applied : ((closing s e m v).2.result lint?).applied = m.applied := still.applied
  have code : ((closing s e m v).2.result lint?).code = m.code := still.code
  rw [applied, code]
  refine ⟨moments, fun u hu => ?_, ?_, ?_, ?_, fun cancelled => ?_, cancel_of_idle idle,
    fun stop => ?_⟩
  · obtain rfl : m.applied = _ := grown
    rw [← List.take_append_drop u.applied m.applied] at replay
    exact ⟨(walk.told opening (told_openRun s job p)).closing_within sound faulted e u hu,
      replay.split⟩
  · exact (walk.heeds opening (heeds_openRun s job p)).closing_calm sound faulted e
  · intro before t resume u after q' r' l' reach wait stop rest
    obtain ⟨b, shows, stopped, applied', code'⟩ := stopped_in_pause reach wait stop rest
    exact ⟨b, shows, stopped.current, applied'.trans stopped.applied, code'.trans stopped.code⟩
  · intro linter name manner asked question later split cancels
    rw [(closing_fault sound e).1] at split
    obtain ⟨none, b, shows, known, stopped⟩ := stopped_by_linter manner attempts split cancels
    exact ⟨none, b, shows, known, (stopped.trans still).current, stopped.applied, stopped.code⟩
  · obtain rfl := walk.ending_of_cancelled sound rfl cancelled
    have ends := closing_ends sound .cancelled
    exact work_cutShort attempts ends.applied ends.failed still.current
  · rw [process_idle idle, process_idle (p := { p with cancelled := stop }) idle]
    rfl

/-- A run whose observer cancels it at its first attempt ends as cancelled. -/
lemma fault_startled :
    (process startled scribble scribe).finish.2.1.fault? = some .cancelled := by
  rw [process_idle rfl, work_onePass rfl, pass_eq,
    Processor.prepare_congr (openRun_registry _ _ _), prepare_scribble]
  decide +kernel

theorem startled_cancelled : ∃ trail q l r,
    (process startled scribble scribe).Runs Interlude trail q (r, some l) ∧
    r.fault? = some .cancelled ∧ r.applied.length = 1 ∧ r.failed.length = 1 ∧
    (∀ b ∈ shown trail, ∃ more, r.applied = b.applied ++ more ∧
      Replay startled.accepts scribe.registry b.code more r.code) ∧
    (l.reported.Pairwise fun u v =>
      Request.cancel ∈ startled.observe u → v.phase ≠ .fixing) ∧
    CutShort scribe scribble.diagnostics (openRun startled scribble scribe).2 l := by
  obtain ⟨trail, l, run⟩ := exists_run startled scribble (p := scribe) rfl
  obtain ⟨-, applied, failed⟩ := finish_startled
  obtain ⟨kept, -, calm, -, -, cut, -⟩ := process_cancelled run
  exact ⟨trail, _, l, _, run, fault_startled, applied, failed, kept, calm, cut fault_startled⟩

end LintRepair.Batch
