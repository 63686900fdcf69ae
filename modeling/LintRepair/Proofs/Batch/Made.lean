/-
What no history of a processor changes.

* `Made`: a processor with the registry, the settings, the limits that it was made
  with, and a sound cache;
* `Made.fixOne`, `Made.openRun`, `Made.closing`, `Made.undergo`: the moves of runs,
  and what others do, keep that;
* `Unbusy`: books that do not say that the run was turned away;
* `lasting_made`: so a processor stays as it was made, one run at a time, and no
  accepted run is reported as turned away.
-/
import LintRepair.Proofs.Batch.Event
import LintRepair.Proofs.Lexical.Cache
import LintRepair.Proofs.Repair.Archive

namespace LintRepair.Batch

open Text Lexical Check Repair
open Processor (Interlude)

variable {registry : Registry} {settings : Config.Settings} {s : Surroundings}
variable {l m : Ledger} {p q : Processor}

/-! ### Archives keep their limit -/

lemma recover_limit (accepts : Acceptor) (a : Archive) (code : Text) (applied : Nat) :
    (recover accepts a code applied).2.limit = a.limit := by
  rw [recover]
  split
  · rfl
  split
  · rfl
  split
  · next reverted => exact Archive.revert_limit reverted
  · split <;> rfl

/-! ### Processors as they were made -/

/-- A processor as it was made with a registry and settings, but for what it has
been used for; what it remembers of texts is right. -/
structure Made (registry : Registry) (settings : Config.Settings) (p : Processor) : Prop where
  limit : p.archive.limit = settings.historyLimit.value
  capacity : p.cache.capacity = settings.cacheSize.value
  cache : p.cache.Sound
  registry : p.registry = registry
  settings : p.settings = settings

namespace Made

lemma fresh (registry : Registry) (settings : Config.Settings) :
    Made registry settings (.fresh registry settings) :=
  ⟨rfl, rfl, by simp [Processor.fresh, Cache.Sound], rfl, rfl⟩

/-- Only the registry, the settings, the limit of the archive and the cache
matter. -/
lemma congr (h : Made registry settings p) (registry' : q.registry = p.registry)
    (settings' : q.settings = p.settings) (limit : q.archive.limit = p.archive.limit)
    (cache : q.cache = p.cache) : Made registry settings q where
  registry := registry'.trans h.registry
  settings := settings'.trans h.settings
  limit := limit.trans h.limit
  capacity := (congrArg Cache.capacity cache).trans h.capacity
  cache := cache ▸ h.cache

lemma grant (h : Made registry settings p) (r : Request) : Made registry settings (p.grant r) := by
  cases r with
  | cancel => exact h.congr rfl rfl rfl rfl
  | clear =>
      rw [Processor.grant]
      split
      · exact h
      · exact ⟨h.limit, h.capacity, Cache.sound_clear _, h.registry, h.settings⟩

lemma foldl_grant (h : Made registry settings p) (rs : List Request) :
    Made registry settings (rs.foldl Processor.grant p) := by
  induction rs generalizing p with
  | nil => exact h
  | cons r rest ih => exact ih (h.grant r)

lemma announce (h : Made registry settings p) (s : Surroundings) (phase : Phase)
    (rule message : String) (l : Ledger) :
    Made registry settings (announce s phase rule message l p).1 :=
  (h.congr (q := { p with phase, ledger? := some l }) rfl rfl rfl rfl).foldl_grant _

lemma salvage (h : Made registry settings p) (accepts : Acceptor) (code : Text) (l : Ledger) :
    Made registry settings (salvage accepts code l p).1 :=
  h.congr rfl rfl (recover_limit accepts p.archive code l.applied.length) rfl

lemma settle (h : Made registry settings p) (accepts : Acceptor) (d : Diagnostic) (l : Ledger)
    (a : Attempt) : Made registry settings (settle accepts d l p a).1 := by
  cases a with
  | applied code sm => exact h.congr rfl rfl rfl rfl
  | failed sm => exact h
  | broken sm code =>
      rw [Batch.settle]
      dsimp only
      split <;> exact h.salvage _ _ _
  | raised e =>
      rw [Batch.settle]
      dsimp only
      split <;> exact h.salvage _ _ _

lemma fixOne (h : Made registry settings p) (s : Surroundings) (d : Diagnostic) (l : Ledger) :
    Made registry settings (fixOne s d l p).1 := by
  have told : Made registry settings (beginTurn s d l p).1 := h.announce s _ _ _ _
  obtain ⟨sound, capacity⟩ := Cache.sound_zone told.cache (beginTurn s d l p).2.code d
  rw [fixOne_eq]
  refine settle ?_ _ _ _ _
  exact ⟨told.limit, capacity.trans told.capacity, sound, told.registry, told.settings⟩

lemma openRun (h : Made registry settings p) (s : Surroundings) (job : Job) :
    Made registry settings (openRun s job p).1 := by
  have ready : Made registry settings (job.ready p) :=
    ⟨h.limit, h.capacity, Cache.sound_clear _, h.registry, h.settings⟩
  rw [openRun_eq]
  exact ready.announce s _ _ _ _

lemma conclude (h : Made registry settings p) (s : Surroundings) (e : Ending) (l : Ledger) :
    Made registry settings (conclude s e l p).1 := by
  cases e with
  | cancelled => exact h
  | broken text => exact h.salvage _ _ _
  | through =>
      rw [Batch.conclude]
      split
      · exact h
      have told := h.announce s .validating "" "Validating final code" l
      dsimp only
      rw [validate]
      split
      · exact told
      split
      · exact told
      · exact told.salvage _ _ _

lemma closing (h : Made registry settings p) (s : Surroundings) (e : Ending) (l : Ledger) :
    Made registry settings (closing s e l p).1 := by
  have ended := h.conclude s e l
  rw [Batch.closing, close]
  have stands : Made registry settings { (Batch.conclude s e l p).1 with running := false } :=
    ended.congr rfl rfl rfl rfl
  split <;> exact stands.announce s _ _ _ _

/-- Whatever others do keeps a processor as it was made. -/
lemma undergo (h : Made registry settings p) (d : Deed) :
    Made registry settings (p.undergo d) := by
  cases d with
  | request r => exact h.grant r
  | classify t offset =>
      obtain ⟨sound, capacity⟩ := Cache.sound_classify h.cache t offset
      exact ⟨h.limit, capacity.trans h.capacity, sound, h.registry, h.settings⟩
  | forget => exact ⟨h.limit, h.capacity, Cache.sound_clear _, h.registry, h.settings⟩
  | snapshot | record | discard => exact h.congr rfl rfl rfl rfl
  | revert accepts code given =>
      rw [Processor.undergo]
      split
      · next reverted => exact h.congr rfl rfl (Archive.revert_limit reverted) rfl
      · exact h

end Made

/-! ### One run at a time -/

/-- The books of a run do not say that it was turned away. -/
def Unbusy (l : Ledger) : Prop := l.fault? ≠ some .busy

/-- No turn makes them say so. -/
lemma Unbusy.turn (h : Unbusy l) (s : Surroundings) (d : Diagnostic) (p : Processor) :
    Unbusy (fixOne s d l p).2 := by
  rw [Unbusy]
  rcases fixOne_fault s d l p with ⟨same, -⟩ | ⟨fault, halt, found⟩
  · rw [same]
    exact h
  · rw [found]
    cases halt <;> simp

/-- Nor does the end of a run. -/
lemma Unbusy.closing (h : Unbusy l) (s : Surroundings) (e : Ending) (p : Processor) :
    Unbusy (closing s e l p).2 := by
  have ended : Unbusy (conclude s e l p).2 := by
    cases e with
    | cancelled => simp [Unbusy, conclude]
    | broken text =>
        rw [Unbusy, conclude, salvage, Processor.recover]
        dsimp only
        rw [adopt_fault]
        simp
    | through =>
        rw [conclude]
        split
        · exact h
        dsimp only
        rw [validate]
        split
        · exact h
        split
        · exact h
        · simp [Unbusy]
  rw [Batch.closing, close]
  split <;> exact ended

lemma grant_running (p : Processor) (r : Request) : (p.grant r).running = p.running := by
  cases r with
  | cancel => rfl
  | clear =>
      rw [Processor.grant]
      split <;> rfl

/-- Whether a run is under way is not for an observer to decide. -/
lemma announce_running (s : Surroundings) (phase : Phase) (rule message : String) (l : Ledger)
    (p : Processor) : (announce s phase rule message l p).1.running = p.running := by
  have all : ∀ (rs : List Request) (p : Processor),
      (rs.foldl Processor.grant p).running = p.running := by
    intro rs
    induction rs with
    | nil => exact fun _ => rfl
    | cons r rest ih => exact fun p => (ih (p.grant r)).trans (grant_running p r)
  exact all _ { p with phase, ledger? := some l }

lemma fixOne_running (s : Surroundings) (d : Diagnostic) (l : Ledger) (p : Processor) :
    (fixOne s d l p).1.running = p.running := by
  have told : (beginTurn s d l p).1.running = p.running := announce_running s _ _ _ _ _
  rw [fixOne_eq]
  obtain ⟨⟨archive, entered⟩, -⟩ := settle_entered s.accepts d (beginTurn s d l p).2
    { (beginTurn s d l p).1 with
      cache := ((beginTurn s d l p).1.cache.zone (beginTurn s d l p).2.code d).1 }
    (attempt s.accepts (beginTurn s d l p).1.registry (beginTurn s d l p).2.code d)
  rw [entered]
  exact told

lemma closing_running (s : Surroundings) (e : Ending) (l : Ledger) (p : Processor) :
    (closing s e l p).1.running = false := by
  rw [closing, close]
  split <;> exact announce_running s _ _ _ _ _

/-- Others leave it to runs whether one is under way. -/
lemma undergo_running (p : Processor) (d : Deed) : (p.undergo d).running = p.running := by
  cases d with
  | request r => exact grant_running p r
  | revert accepts code given =>
      rw [Processor.undergo]
      split <;> rfl
  | _ => rfl

/-- A processor is in step with itself as long as it is as it was made, and a run
is under way on it or none is. -/
def Standing (registry : Registry) (settings : Config.Settings) (running : Bool)
    (p q : Processor) : Prop :=
  q = p ∧ p.running = running ∧ Made registry settings p

/-- Runs, and whatever others do, leave a processor as it was made. -/
lemma lasting_made (registry : Registry) (settings : Config.Settings) :
    Lasting (Standing registry settings true) (Standing registry settings false) Unbusy
      fun _ => True where
  abides s :=
    { sees := by
        rintro p q ⟨rfl, -⟩
        exact ⟨rfl, rfl, rfl⟩
      showing := by
        rintro p q l ⟨rfl, running, made⟩
        exact ⟨rfl, running, made.congr rfl rfl rfl rfl⟩
      cancel := by
        rintro p q ⟨rfl, running, made⟩
        exact ⟨rfl, running, made.grant .cancel⟩
      turn := by
        rintro p q l d ⟨rfl, running, made⟩ good
        exact ⟨⟨rfl, (fixOne_running s d l _).trans running, made.fixOne s d l⟩, rfl,
          good.turn s d _⟩
      entry := by
        rintro l m write good
        cases write <;> exact good
      idle := by
        rintro p q ⟨rfl, idle, -⟩
        exact ⟨idle, idle⟩
      opens := by
        rintro p q job ⟨rfl, -, made⟩
        refine ⟨⟨rfl, ?_, made.openRun s job⟩, rfl, by simp [Unbusy, openRun, announce]⟩
        exact announce_running s _ _ _ job.books (job.ready _)
      closes := by
        rintro p q l e ⟨rfl, -, made⟩ good
        exact ⟨⟨rfl, closing_running s e l _, made.closing s e l⟩, rfl, good.closing s e _⟩ }
  runs := by
    rintro p q ⟨rfl, running, -⟩
    exact ⟨running, running⟩
  done := by
    rintro p q d - ⟨rfl, running, made⟩
    exact ⟨rfl, (undergo_running _ d).trans running, made.undergo d⟩
  done_idle := by
    rintro p q d - ⟨rfl, idle, made⟩
    exact ⟨rfl, (undergo_running _ d).trans idle, made.undergo d⟩

/-- A history of a processor without a past is in step with itself. -/
lemma abreast_start (registry : Registry) (settings : Config.Settings) :
    Abreast (Standing registry settings true) (Standing registry settings false) Unbusy
      (.start registry settings) (.start registry settings) :=
  .idle rfl rfl ⟨rfl, rfl, .fresh registry settings⟩

/-- Whatever happens on a processor, it stays as it was made. -/
lemma made_after (registry : Registry) (settings : Config.Settings) (events : List Event) :
    Made registry settings (History.after registry settings events).processor := by
  obtain ⟨abreast, -⟩ := (abreast_start registry settings).acts (lasting_made registry settings)
    events fun _ _ => trivial
  cases abreast with
  | idle _ _ same => exact same.2.2
  | busy _ _ _ same => exact same.2.2

end LintRepair.Batch
