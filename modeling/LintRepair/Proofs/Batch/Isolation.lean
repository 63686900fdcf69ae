/-
Runs that do not show what was done on their processor before.

* `Processor.Alike`: processors that differ in their caches, in how many runs there
  were on them, and in the numbers of their records at most;
* `Alike.fixOne`, `Alike.closing`: the moves of a run keep them alike, and make the
  same books on both;
* `Kin`, `Kin.openRun`: processors that have the same registry, settings and limit
  are alike when a run opens;
* `lasting_alike`: so whatever happens to both, they give the same answers;
* `fixOneCached`, `fixOne_cached`: a turn that takes the verdict on its position
  from the cache is the one that finds it anew;
* `history_isolated`: a processor on which no run is under way answers as one
  without a past.
-/
import LintRepair.Proofs.Batch.Made
import LintRepair.Proofs.Batch.Progress

namespace LintRepair.Batch

open Text Lexical Check Repair

variable {registry : Registry} {settings : Config.Settings} {s : Surroundings} {job : Job}
variable {l : Ledger} {p q : Processor} {d : Diagnostic}

/-! ### Processors that are alike -/

namespace Processor

/-- Two processors that differ in their caches, in how many runs there were on
them, and in the serial numbers of their records at most. -/
structure Alike (p q : Processor) : Prop where
  registry : q.registry = p.registry
  settings : q.settings = p.settings
  running : q.running = p.running
  cancelled : q.cancelled = p.cancelled
  phase : q.phase = p.phase
  ledger : q.ledger? = p.ledger?
  archive : p.archive.Alike q.archive

/-- Two processors with the same registry, settings and limit of records. -/
structure Kin (p q : Processor) : Prop where
  registry : q.registry = p.registry
  settings : q.settings = p.settings
  limit : q.archive.limit = p.archive.limit

lemma Kin.symm (h : p.Kin q) : q.Kin p := ⟨h.registry.symm, h.settings.symm, h.limit.symm⟩

lemma Kin.trans {r : Processor} (h : p.Kin q) (h' : q.Kin r) : p.Kin r :=
  ⟨h'.registry.trans h.registry, h'.settings.trans h.settings, h'.limit.trans h.limit⟩

lemma Kin.undergo (h : p.Kin q) (d : Deed) : (p.undergo d).Kin (q.undergo d) := by
  cases d with
  | request r =>
      cases r with
      | cancel => exact ⟨h.registry, h.settings, h.limit⟩
      | clear =>
          have cleared : ∀ p : Processor, p.Kin (p.grant .clear) := by
            intro p
            rw [Processor.grant]
            split <;> exact ⟨rfl, rfl, rfl⟩
          exact (cleared p).symm.trans (h.trans (cleared q))
  | revert accepts code given =>
      have reverted : ∀ p : Processor, p.Kin (p.undergo (.revert accepts code given)) := by
        intro p
        rw [Processor.undergo]
        split
        · next h => exact ⟨rfl, rfl, Archive.revert_limit h⟩
        · exact ⟨rfl, rfl, rfl⟩
      exact (reverted p).symm.trans (h.trans (reverted q))
  | _ => exact ⟨h.registry, h.settings, h.limit⟩

namespace Alike

lemma kin (h : p.Alike q) : p.Kin q := ⟨h.registry, h.settings, h.archive.limit⟩

/-- Who looks at them does not tell them apart. -/
lemma status (h : p.Alike q) : q.status = p.status := by
  simp only [Processor.status, h.running, h.phase, h.cancelled, h.ledger]

lemma withArchive (h : p.Alike q) {a b : Archive} (alike : a.Alike b) :
    ({ p with archive := a } : Processor).Alike { q with archive := b } :=
  ⟨h.registry, h.settings, h.running, h.cancelled, h.phase, h.ledger, alike⟩

/-- What the caches hold does not matter. -/
lemma withCache (h : p.Alike q) (c c' : Cache) :
    ({ p with cache := c } : Processor).Alike { q with cache := c' } :=
  ⟨h.registry, h.settings, h.running, h.cancelled, h.phase, h.ledger, h.archive⟩

lemma grant (h : p.Alike q) (r : Request) : (p.grant r).Alike (q.grant r) := by
  cases r with
  | cancel =>
      exact ⟨h.registry, h.settings, h.running, by
        rw [Processor.grant, Processor.grant, Processor.cancel, Processor.cancel, h.cancelled,
          h.running], h.phase, h.ledger, h.archive⟩
  | clear =>
      rw [Processor.grant, Processor.grant, h.running]
      split
      · exact h
      · exact ⟨h.registry, h.settings, h.running, h.cancelled, h.phase, rfl,
          .clear h.archive.limit⟩

lemma foldl_grant (h : p.Alike q) (rs : List Request) :
    (rs.foldl Processor.grant p).Alike (rs.foldl Processor.grant q) := by
  induction rs generalizing p q with
  | nil => exact h
  | cons r rest ih => exact ih (h.grant r)

end Alike

end Processor

open Processor (Alike Kin)

/-! ### The moves of a run -/

/-- The observer of a run is told the same on both processors, and leaves them
alike. -/
lemma announce_alike (s : Surroundings) (phase : Phase) (rule message : String) (l : Ledger)
    (h : ({ p with phase, ledger? := some l } : Processor).Alike
      { q with phase, ledger? := some l }) :
    (announce s phase rule message l p).1.Alike (announce s phase rule message l q).1 ∧
      (announce s phase rule message l q).2 = (announce s phase rule message l p).2 := by
  have told := h.foldl_grant (s.observe (l.update phase rule message))
  let books (status : Status) : Ledger :=
    { l with
      updates := l.updates ++ [(l.update phase rule message, status)]
      notes := l.notes ++
        if s.falters (l.update phase rule message) then [.unheard phase.word] else [] }
  exact ⟨told, congrArg books told.status⟩

/-- A usable text is found in the same way in archives that are alike. -/
lemma recover_alike {a b : Archive} (h : a.Alike b) (accepts : Acceptor) (code : Text)
    (applied : Nat) :
    (recover accepts b code applied).1 = (recover accepts a code applied).1 ∧
      (recover accepts a code applied).2.Alike (recover accepts b code applied).2 := by
  have latest : ∀ n, latestSnapshot? accepts b n = latestSnapshot? accepts a n := by
    intro n
    induction n with
    | zero => rfl
    | succ n ih => rw [latestSnapshot?, latestSnapshot?, h.snapshot?, ih]
  have start : startSnapshot? accepts b = startSnapshot? accepts a := by
    rw [startSnapshot?, startSnapshot?, h.snapshot?]
  rw [recover, recover, latest, start]
  by_cases valid : isProgram accepts code = true
  · rw [if_pos valid, if_pos valid]
    exact ⟨rfl, h⟩
  rw [if_neg valid, if_neg valid]
  cases latestSnapshot? accepts a applied with
  | some found => exact ⟨rfl, h⟩
  | none =>
      rcases h.revert accepts code with ⟨fault, ha, hb⟩ | ⟨after, a', b', ha, hb, alike⟩
      · rw [ha, hb]
        cases startSnapshot? accepts a <;> exact ⟨rfl, h⟩
      · rw [ha, hb]
        exact ⟨rfl, alike⟩

namespace Processor.Alike

lemma announce (h : p.Alike q) (s : Surroundings) (phase : Phase) (rule message : String)
    (l : Ledger) :
    (announce s phase rule message l p).1.Alike (announce s phase rule message l q).1 ∧
      (Batch.announce s phase rule message l q).2 = (Batch.announce s phase rule message l p).2 :=
  announce_alike s phase rule message l
    ⟨h.registry, h.settings, h.running, h.cancelled, rfl, rfl, h.archive⟩

lemma salvage (h : p.Alike q) (accepts : Acceptor) (code : Text) (l : Ledger) :
    (salvage accepts code l p).1.Alike (salvage accepts code l q).1 ∧
      (Batch.salvage accepts code l q).2 = (Batch.salvage accepts code l p).2 := by
  obtain ⟨same, alike⟩ := recover_alike h.archive accepts code l.applied.length
  exact ⟨h.withArchive alike, congrArg l.adopt same⟩

lemma settle (h : p.Alike q) (accepts : Acceptor) (d : Diagnostic) (l : Ledger) (a : Attempt) :
    (settle accepts d l p a).1.Alike (settle accepts d l q a).1 ∧
      (Batch.settle accepts d l q a).2 = (Batch.settle accepts d l p a).2 := by
  cases a with
  | applied code sm =>
      refine ⟨h.withArchive ((h.archive.record ?_).takeSnapshot _ _), rfl⟩
      rfl
  | failed sm => exact ⟨h, rfl⟩
  | broken sm code =>
      obtain ⟨alike, books⟩ := h.salvage accepts code { l with failed := l.failed ++ [sm] }
      rw [Batch.settle, Batch.settle]
      dsimp only
      rw [alike.settings, books]
      split <;> exact ⟨alike, rfl⟩
  | raised e =>
      obtain ⟨alike, books⟩ := h.salvage accepts l.code
        { l.note (.raised d e) with
          failed := (l.note (.raised d e)).failed ++ [.failure d (.raised e) []] }
      rw [Batch.settle, Batch.settle]
      dsimp only
      split
      · exact ⟨alike, congrArg (fun m : Ledger =>
          { m with halted := true, fault? := some (.aborted e.text) }) books⟩
      · exact ⟨alike, books⟩

lemma fixOne (h : p.Alike q) (s : Surroundings) (d : Diagnostic) (l : Ledger) :
    (fixOne s d l p).1.Alike (fixOne s d l q).1 ∧
      (Batch.fixOne s d l q).2 = (Batch.fixOne s d l p).2 := by
  obtain ⟨told, books⟩ := h.announce s .fixing (d.rule.getD "")
    ("Fixing " ++ ruleText d.rule ++ " at line " ++ d.line.text) (l.begin d)
  have begun : (beginTurn s d l p).1.Alike (beginTurn s d l q).1 := told
  have books' : (beginTurn s d l q).2 = (beginTurn s d l p).2 := books
  rw [fixOne_eq, fixOne_eq, books', begun.registry]
  exact (begun.withCache _ _).settle _ _ _ _

lemma conclude (h : p.Alike q) (s : Surroundings) (e : Ending) (l : Ledger) :
    (conclude s e l p).1.Alike (conclude s e l q).1 ∧
      (Batch.conclude s e l q).2 = (Batch.conclude s e l p).2 := by
  cases e with
  | cancelled => exact ⟨h, rfl⟩
  | broken text => exact h.salvage _ _ _
  | through =>
      rw [Batch.conclude, Batch.conclude]
      split
      · exact ⟨h, rfl⟩
      obtain ⟨told, books⟩ := h.announce s .validating "" "Validating final code" l
      dsimp only
      rw [books, validate, validate]
      split
      · exact ⟨told, rfl⟩
      split
      · exact ⟨told, rfl⟩
      · next fault _ =>
        obtain ⟨alike, books'⟩ := told.salvage s.accepts _ _
        exact ⟨alike, congrArg (fun m : Ledger => { m with fault? := some (.invalid fault) })
          books'⟩

lemma closing (h : p.Alike q) (s : Surroundings) (e : Ending) (l : Ledger) :
    (closing s e l p).1.Alike (closing s e l q).1 ∧
      (Batch.closing s e l q).2 = (Batch.closing s e l p).2 := by
  obtain ⟨ended, books⟩ := h.conclude s e l
  have stands : ({ (Batch.conclude s e l p).1 with running := false } : Processor).Alike
      { (Batch.conclude s e l q).1 with running := false } :=
    ⟨ended.registry, ended.settings, rfl, ended.cancelled, ended.phase, ended.ledger,
      ended.archive⟩
  rw [Batch.closing, Batch.closing, books, close, close]
  split <;> exact stands.announce s _ _ _ _

end Processor.Alike

/-- A run opens alike on processors with the same registry, settings and limit,
whatever was done on them before. -/
lemma Processor.Kin.openRun (h : p.Kin q) (s : Surroundings) (job : Job) :
    (openRun s job p).1.Alike (openRun s job q).1 ∧
      (Batch.openRun s job q).2 = (Batch.openRun s job p).2 := by
  rw [openRun_eq, openRun_eq]
  exact announce_alike s _ _ _ _
    ⟨h.registry, h.settings, rfl, rfl, rfl, rfl, (Archive.Alike.clear h.limit).takeSnapshot _ _⟩

/-! ### Histories that do not show -/

/-- Processors with a run under way that are alike. -/
def Parallel (p q : Processor) : Prop := p.running = true ∧ p.Alike q

/-- Processors without a run under way that a run does not tell apart. -/
def Spare (p q : Processor) : Prop := p.running = false ∧ q.running = false ∧ p.Kin q

/-- Runs keep processors alike, and so do others, unless they use the archive
while a run is under way. -/
lemma lasting_alike : Lasting Parallel Spare (fun _ => True) fun d => d.isArchival = false where
  abides s :=
    { sees := by
        rintro p q ⟨-, alike⟩
        exact ⟨alike.registry, alike.settings, alike.cancelled⟩
      showing := by
        rintro p q l ⟨running, alike⟩
        exact ⟨running, alike.registry, alike.settings, alike.running, alike.cancelled,
          alike.phase, rfl, alike.archive⟩
      cancel := by
        rintro p q ⟨running, alike⟩
        exact ⟨running, alike.grant .cancel⟩
      turn := by
        rintro p q l d ⟨running, alike⟩ -
        obtain ⟨kept, books⟩ := alike.fixOne s d l
        exact ⟨⟨(fixOne_running s d l p).trans running, kept⟩, books, trivial⟩
      entry := fun _ _ => trivial
      idle := by
        rintro p q ⟨idle, idle', -⟩
        exact ⟨idle, idle'⟩
      opens := by
        rintro p q job ⟨-, -, kin⟩
        obtain ⟨alike, books⟩ := kin.openRun s job
        exact ⟨⟨announce_running s _ _ _ job.books (job.ready p), alike⟩, books, trivial⟩
      closes := by
        rintro p q l e ⟨-, alike⟩ -
        obtain ⟨kept, books⟩ := alike.closing s e l
        exact ⟨⟨closing_running s e l p, closing_running s e l q, kept.kin⟩, books, trivial⟩ }
  runs := by
    rintro p q ⟨running, alike⟩
    exact ⟨running, alike.running.trans running⟩
  done := by
    rintro p q d spares ⟨running, alike⟩
    refine ⟨(undergo_running p d).trans running, ?_⟩
    cases d with
    | request r => exact alike.grant r
    | classify | forget => exact alike.withCache _ _
    | snapshot | record | revert | discard => cases spares
  done_idle := by
    rintro p q d - ⟨idle, idle', kin⟩
    exact ⟨(undergo_running p d).trans idle, (undergo_running q d).trans idle', kin.undergo d⟩

/-- A processor as it was made is related to the one without a past. -/
lemma Made.spare (h : Made registry settings p) (idle : p.running = false) :
    Spare p (.fresh registry settings) :=
  ⟨idle, rfl, h.registry.symm, h.settings.symm, h.limit.symm⟩

/-! ### What the cache answers -/

/-- Attempts one diagnostic, with a verdict on its position. -/
def attemptIn (z : Zone) (accepts : Acceptor) (registry : Registry) (code : Text)
    (d : Diagnostic) : Attempt :=
  match z.hazard? with
  | some hazard => .failed (.failure d (.hazardous hazard) [])
  | none =>
    match registry.fixer? d.rule with
    | none => .failed (.failure d .noFixer [])
    | some f =>
      match f.canFix code d with
      | .error e => .raised e
      | .ok false => .failed (.failure d .notHandled [])
      | .ok true =>
        match f.fix code d with
        | .error e => .raised e
        | .ok r => assess accepts f code d r

/-- The turn of a diagnostic that takes the verdict on its position from the
cache of the processor. -/
def fixOneCached (s : Surroundings) (d : Diagnostic) (l : Ledger) (p : Processor) :
    Except CacheFault (Processor × Ledger) :=
  let (p, l) := beginTurn s d l p
  let (cache, verdict) := p.cache.zone l.code d
  verdict.map fun z =>
    settle s.accepts d l { p with cache } (attemptIn z s.accepts p.registry l.code d)

/-- The observer of a run leaves the cache of the processor as it is, or has it
emptied. -/
lemma announce_cache (s : Surroundings) (phase : Phase) (rule message : String) (l : Ledger)
    (p : Processor) : (announce s phase rule message l p).1.cache = p.cache ∨
      (announce s phase rule message l p).1.cache = p.cache.clear := by
  have all : ∀ (rs : List Request) (p : Processor), (rs.foldl Processor.grant p).cache = p.cache ∨
      (rs.foldl Processor.grant p).cache = p.cache.clear := by
    intro rs
    induction rs with
    | nil => exact fun _ => .inl rfl
    | cons r rest ih =>
        intro p
        have first : (p.grant r).cache = p.cache ∨ (p.grant r).cache = p.cache.clear := by
          cases r with
          | cancel => exact .inl rfl
          | clear =>
              rw [Processor.grant]
              split
              · exact .inl rfl
              · exact .inr rfl
        rcases first with same | cleared
        · exact same ▸ ih (p.grant r)
        · have rest' := ih (p.grant r)
          rw [cleared] at rest'
          exact .inr (rest'.elim id id)
  exact all _ { p with phase, ledger? := some l }

/-- With a sound cache that has room, a turn that takes the verdict from the cache
is the one that finds it anew. -/
lemma fixOne_cached (sound : p.cache.Sound) (room : 0 < p.cache.capacity) (s : Surroundings)
    (d : Diagnostic) (l : Ledger) : fixOneCached s d l p = .ok (fixOne s d l p) := by
  have told : (beginTurn s d l p).1.cache.Sound ∧ 0 < (beginTurn s d l p).1.cache.capacity := by
    rw [beginTurn]
    rcases announce_cache s .fixing (d.rule.getD "")
      ("Fixing " ++ ruleText d.rule ++ " at line " ++ d.line.text) (l.begin d) p with same | cleared
    · rw [same]
      exact ⟨sound, room⟩
    · rw [cleared]
      exact ⟨Cache.sound_clear _, room⟩
  rw [fixOneCached, fixOne_eq]
  dsimp only
  rw [Cache.zone_ok told.1 told.2]
  rfl

/-! ### Whole histories -/

/-- **A run does not show what was before it.** Take any past of a processor, with
runs that completed, halted, were aborted or cancelled, and with its analyzer and
its archive used directly, at the end of which no run is under way. Whatever
happens on it from then on, its calls are answered as they are on a processor
without a past, as long as nobody uses its archive himself; so a run that nothing
interferes with has the same result and the same books. Nor does it matter what
its cache holds: at every moment it answers as if it were empty, and the turn of a
diagnostic that takes the verdict on its position from it is the turn that finds
it anew. -/
theorem history_isolated {past future : List Event}
    (idle : (History.after registry settings past).processor.running = false)
    (spares : ∀ d, .deed d ∈ future → d.isArchival = false) :
    (History.after registry settings (past ++ future)).answers =
      (History.after registry settings past).answers ++
        (History.after registry settings future).answers ∧
    (∀ s job, (process s job (History.after registry settings past).processor).finish.2 =
      (process s job (.fresh registry settings)).finish.2) ∧
    (0 < settings.cacheSize.value → ∀ events p,
      p.cache = (History.after registry settings events).processor.cache ∨
        p.cache = (History.after registry settings events).processor.cache.clear →
      (∀ t offset, (p.cache.classify t offset).2 = .ok (contextAt t (clampOffset t offset))) ∧
      ∀ s d l, fixOneCached s d l p = .ok (fixOne s d l p)) := by
  have lasts := lasting_made registry settings
  have spare := (made_after registry settings past).spare idle
  refine ⟨?_, fun s job => ?_, fun room events p holds => ?_⟩
  · obtain ⟨abreast, -⟩ := (abreast_start registry settings).acts lasts past fun _ _ => trivial
    have alone := abreast.alone lasts
    have none : (History.after registry settings past).waiting = [] := by
      by_contra some'
      exact absurd ((alone.2.mpr some').symm.trans idle) (by simp)
    have parallel : Abreast Parallel Spare (fun _ => True) (.after registry settings past)
        (.start registry settings) := .idle none rfl spare
    obtain ⟨-, news, grown, grown'⟩ := parallel.acts lasting_alike future spares
    rw [History.after, History.acts_append]
    exact grown.trans (congrArg _ grown'.symm)
  · obtain ⟨-, same, -⟩ := (process_inStep (lasting_alike.abides s) job spare).finish
    exact same.symm
  · have made := made_after registry settings events
    have room' := made.capacity ▸ room
    have sound : p.cache.Sound ∧ 0 < p.cache.capacity := by
      rcases holds with same | cleared
      · rw [same]
        exact ⟨made.cache, room'⟩
      · rw [cleared]
        exact ⟨Cache.sound_clear _, room'⟩
    exact ⟨Cache.classify_ok sound.1 sound.2, fun s d l => fixOne_cached sound.1 sound.2 s d l⟩

/-- A run that is halted, looked into while it pauses and asked to stop, and then
things that are done to its processor besides. -/
def tangled : List Event :=
  [.call lenient faltering, .deed (.classify "1\n1".toList 2), .deed (.request .cancel), .resume 0,
    .deed (.snapshot startName "1".toList), .deed (.request .cancel)]

/-- A run, from its call to its answer. -/
def solitary : List Event := [.call lenient faltering, .resume 0]

/-- The runs are answered, and none is under way then. -/
lemma after_tangled : (History.after scribe.registry {} tangled).processor.running = false ∧
    (History.after scribe.registry {} tangled).replies.length = 1 ∧
    (History.after scribe.registry {} solitary).replies.length = 1 := by
  decide +kernel

theorem tangled_isolated :
    (History.after scribe.registry {} tangled).processor.running = false ∧
    (History.after scribe.registry {} tangled).replies.length = 1 ∧
    (History.after scribe.registry {} solitary).replies.length = 1 ∧
    (∀ d, .deed d ∈ solitary → d.isArchival = false) ∧
    (History.after scribe.registry {} (tangled ++ solitary)).answers =
      (History.after scribe.registry {} tangled).answers ++
        (History.after scribe.registry {} solitary).answers := by
  obtain ⟨idle, one, another⟩ := after_tangled
  have spares : ∀ d, .deed d ∈ solitary → d.isArchival = false := by simp [solitary]
  exact ⟨idle, one, another, spares, (history_isolated idle spares).1⟩

end LintRepair.Batch
