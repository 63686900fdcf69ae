/-
What the turn of a diagnostic does.

* `Repairs`: a text is a repair of another for a diagnostic, checked;
  `attempt_cases`: an attempt makes one, or fails in one of three ways;
* `Sound`: the invariant between the books of a run and the archive of its
  processor;
* `Harmless`: the recoveries that leave text and repairs as they are;
  `recover_harmless`: no other ones are made where the books are sound;
* `Outcome`, `Settled`: the two ways in which a turn can end, and what it
  leaves; `fixOne_settled`: every turn ends so, with sound books;
* `Entered`: what a turn enters into books, sound or not.
-/
import LintRepair.Proofs.Batch.Walk

namespace LintRepair.Batch

open Text Lexical Check Repair
open Processor (Interlude interlude_foldl_grant)

variable {accepts : Acceptor} {registry : Registry} {code after : Text} {d : Diagnostic}
variable {s : Surroundings} {l m : Ledger} {p q : Processor}

/-! ### Attempts -/

/-- A text is a repair of another one for a diagnostic: the position is safe to
edit, an enabled fixer takes the diagnostic on and makes the text, and the text
is a program. -/
def Repairs (accepts : Acceptor) (registry : Registry) (d : Diagnostic)
    (before after : Text) : Prop :=
  (zone before d).isSafe = true ∧ ∃ f result, registry.fixer? d.rule = some f ∧
    f.canFix before d = .ok true ∧ f.fix before d = .ok result ∧
    result.isSuccess = true ∧ result.code = after ∧ isProgram accepts after = true

lemma Repairs.isProgram (h : Repairs accepts registry d code after) :
    isProgram accepts after = true := by
  obtain ⟨-, f, result, -, -, -, -, -, program⟩ := h
  exact program

lemma isProgram_iff : isProgram accepts code = true ↔ syntaxFault? accepts code = none :=
  Option.isNone_iff_eq_none

/-- What a fixer's result becomes as an attempt. -/
lemma assess_cases (accepts : Acceptor) (f : Fixer) (code : Text) (d : Diagnostic)
    (r : FixResult) :
    (∃ sm, sm.diagnostic = d ∧ assess accepts f code d r = .failed sm) ∨
    (∃ sm, sm.diagnostic = d ∧ isProgram accepts r.code = false ∧
      assess accepts f code d r = .broken sm r.code) ∨
    (∃ sm, sm.diagnostic = d ∧ sm.isSuccess = true ∧ r.isSuccess = true ∧
      isProgram accepts r.code = true ∧ assess accepts f code d r = .applied r.code sm) := by
  rw [assess]
  split
  · exact .inl ⟨_, rfl, rfl⟩
  · next success =>
    split
    · next fault found =>
      exact .inr (.inl ⟨_, rfl, by simp [Check.isProgram, found], rfl⟩)
    · next found =>
      exact .inr (.inr ⟨_, rfl, rfl, by simp [FixResult.isSuccess, success],
        isProgram_iff.mpr found, rfl⟩)

/-- What an attempt at a diagnostic can come to. -/
lemma attempt_cases (accepts : Acceptor) (registry : Registry) (code : Text) (d : Diagnostic) :
    (∃ sm, sm.diagnostic = d ∧ attempt accepts registry code d = .failed sm) ∨
    (∃ e, attempt accepts registry code d = .raised e) ∨
    (∃ sm after, sm.diagnostic = d ∧ isProgram accepts after = false ∧
      attempt accepts registry code d = .broken sm after) ∨
    (∃ sm after, sm.diagnostic = d ∧ sm.isSuccess = true ∧
      Repairs accepts registry d code after ∧
      attempt accepts registry code d = .applied after sm) := by
  rw [attempt]
  cases hz : (zone code d).hazard? with
  | some hazard => exact .inl ⟨_, rfl, rfl⟩
  | none =>
  cases hf : registry.fixer? d.rule with
  | none => exact .inl ⟨_, rfl, rfl⟩
  | some f =>
  dsimp only
  cases hc : f.canFix code d with
  | error e => exact .inr (.inl ⟨e, rfl⟩)
  | ok takesOn =>
  cases takesOn with
  | false => exact .inl ⟨_, rfl, rfl⟩
  | true =>
  cases hr : f.fix code d with
  | error e => exact .inr (.inl ⟨e, rfl⟩)
  | ok r =>
  rcases assess_cases accepts f code d r with
    ⟨sm, hd, h⟩ | ⟨sm, hd, broken, h⟩ | ⟨sm, hd, success, done, program, h⟩
  · exact .inl ⟨sm, hd, h⟩
  · exact .inr (.inr (.inl ⟨sm, r.code, hd, broken, h⟩))
  · have safe : (zone code d).isSafe = true := by simp [Zone.isSafe, hz]
    exact .inr (.inr (.inr ⟨sm, r.code, hd, success,
      ⟨safe, f, r, hf, hc, hr, done, rfl, program⟩, h⟩))

/-! ### Books that agree with the archive -/

/-- The books of a run agree with the archive of its processor: the text before
the run and the one behind the latest repair are kept under their names, and
the text so far is the former as long as there is no repair, and a program as
soon as there is one. -/
structure Sound (accepts : Acceptor) (l : Ledger) (p : Processor) : Prop where
  running : p.running = true
  start : p.archive.snapshot? startName = some l.start
  latest : l.applied ≠ [] →
    p.archive.snapshot? (Recovery.snapshotName l.applied.length) = some l.code
  records : l.applied = [] → p.archive.records = []
  untouched : l.applied = [] → l.code = l.start
  program : l.applied ≠ [] → isProgram accepts l.code = true
  fault : ∀ f, l.fault? ≠ some (.invalid f)

/-- Only the text, the repairs and the fault of the books matter, and whether
the processor runs and its archive. -/
lemma Sound.congr (h : Sound accepts l p) (start : m.start = l.start) (code : m.code = l.code)
    (applied : m.applied = l.applied) (fault : ∀ f, m.fault? ≠ some (.invalid f))
    (running : q.running = p.running) (archive : q.archive = p.archive) :
    Sound accepts m q where
  running := running.trans h.running
  start := by rw [archive, start]; exact h.start
  latest := by rw [archive, applied, code]; exact h.latest
  records := by rw [archive, applied]; exact h.records
  untouched := by rw [applied, code, start]; exact h.untouched
  program := by rw [applied, code]; exact h.program
  fault := fault

lemma Sound.interlude (h : Sound accepts l p) (wait : Interlude p q) : Sound accepts l q := by
  obtain ⟨stop, cache, rfl⟩ := wait
  exact h.congr rfl rfl rfl h.fault rfl rfl

lemma Sound.entry (h : Sound accepts l p) (write : Entry l m) : Sound accepts m p := by
  cases write <;> exact h.congr rfl rfl rfl h.fault rfl rfl

/-! ### Recoveries -/

/-- A recovery that leaves the text and the repairs of the books as they are. -/
inductive Harmless (l : Ledger) : Recovery → Prop
  | resumed : Harmless l (.resumed l.code)
  | snapshot : Harmless l (.snapshot l.applied.length l.code)
  | restarted : Harmless l (.restarted l.code)
  | lost (code : Text) : Harmless l (.lost code)

/-- Only the text and the repairs of the books matter. -/
lemma Harmless.congr {r : Recovery} (h : Harmless l r) (code : m.code = l.code)
    (applied : m.applied = l.applied) : Harmless m r := by
  cases h with
  | resumed => exact code ▸ .resumed
  | snapshot => exact code ▸ applied ▸ .snapshot
  | restarted => exact code ▸ .restarted
  | lost text => exact .lost text

/-- Taking a harmless recovery adds it to the books, and nothing else. -/
lemma Harmless.adopt_eq {r : Recovery} (h : Harmless l r) :
    l.adopt r = { l with recoveries := l.recoveries ++ [r] } := by
  cases h <;> simp [Ledger.adopt, Recovery.isSuccess, Recovery.code]

/-- Where the books are sound, recovering from the text so far or from one that
is no program is harmless, and leaves the archive as it is. -/
lemma recover_harmless (h : Sound accepts l p)
    (text : code = l.code ∨ isProgram accepts code = false) :
    Harmless l (recover accepts p.archive code l.applied.length).1 ∧
      (recover accepts p.archive code l.applied.length).2 = p.archive := by
  by_cases valid : isProgram accepts code = true
  · have same : code = l.code := text.resolve_right (by simp [valid])
    rw [recover, if_pos valid, same]
    exact ⟨.resumed, rfl⟩
  rw [recover, if_neg valid]
  cases ha : l.applied with
  | cons sm rest =>
      -- the latest snapshot is that of the text so far, which is a program
      have some' : l.applied ≠ [] := by simp [ha]
      have found : latestSnapshot? accepts p.archive (sm :: rest).length =
          some ((sm :: rest).length, l.code) := by
        have kept := h.latest some'
        rw [ha, List.length_cons] at kept
        rw [List.length_cons, latestSnapshot?, kept]
        simp [h.program some']
      rw [found, ← ha]
      exact ⟨.snapshot, rfl⟩
  | nil =>
      have reverted : p.archive.revert accepts code none = .error .noRecord := by
        simp [Archive.revert, h.records ha]
      rw [List.length_nil, latestSnapshot?]
      dsimp only
      rw [reverted]
      dsimp only
      rw [startSnapshot?, h.start, ← h.untouched ha]
      by_cases start : isProgram accepts l.code = true
      · rw [Option.filter_some_pos start]
        exact ⟨.restarted, rfl⟩
      · rw [Option.filter_some_neg (by simpa using start)]
        exact ⟨.lost code, rfl⟩

/-- Where the books are sound, salvage adds a harmless recovery to them, and
nothing else. -/
lemma salvage_eq (h : Sound accepts l p)
    (text : code = l.code ∨ isProgram accepts code = false) :
    ∃ r, Harmless l r ∧
      salvage accepts code l p = (p, { l with recoveries := l.recoveries ++ [r] }) := by
  obtain ⟨harmless, same⟩ := recover_harmless h text
  refine ⟨_, harmless, ?_⟩
  rw [salvage, Processor.recover]
  dsimp only
  rw [same, harmless.adopt_eq]

/-- It does so too when failures and notes have been entered into them. -/
lemma salvage_entered (h : Sound accepts l p)
    (text : code = l.code ∨ isProgram accepts code = false) (failed : List Summary)
    (notes : List Note) :
    ∃ r, Harmless l r ∧
      salvage accepts code { l with failed, notes } p =
        (p, { l with failed, notes, recoveries := l.recoveries ++ [r] }) := by
  have entered : Sound accepts { l with failed, notes } p := h.congr rfl rfl rfl h.fault rfl rfl
  obtain ⟨r, harmless, hs⟩ := salvage_eq entered text
  exact ⟨r, harmless.congr rfl rfl, hs⟩

/-! ### Turns -/

/-- Telling the observer of a run changes nothing of the processor but the
phase, and what others may change. -/
lemma announce_interlude (s : Surroundings) (running : p.running = true) (phase : Phase)
    (rule message : String) :
    Interlude { p with phase, ledger? := some l } (announce s phase rule message l p).1 :=
  interlude_foldl_grant (p := { p with phase, ledger? := some l }) running _

/-- Telling the observer of a run adds an update to the books, and a note at
most. -/
lemma announce_books (s : Surroundings) (phase : Phase) (rule message : String) :
    ∃ updates notes, (announce s phase rule message l p).2 = { l with updates, notes } :=
  ⟨_, _, rfl⟩

lemma Sound.told (h : Sound accepts l p) (s : Surroundings) (phase : Phase)
    (rule message : String) :
    Sound accepts (announce s phase rule message l p).2 (announce s phase rule message l p).1 := by
  have phased : Sound accepts l { p with phase, ledger? := some l } :=
    h.congr rfl rfl rfl h.fault rfl rfl
  have told := phased.interlude (announce_interlude s h.running phase rule message)
  exact told.congr rfl rfl rfl h.fault rfl rfl

/-- How the turn of a diagnostic ends: it is repaired, or it fails and what is
recovered is what there was. -/
inductive Outcome (accepts : Acceptor) (registry : Registry) (d : Diagnostic) (l m : Ledger) :
    Prop
  | repaired (sm : Summary) (about : sm.diagnostic = d) (success : sm.isSuccess = true)
      (repair : Repairs accepts registry d l.code m.code) (applied : m.applied = l.applied ++ [sm])
      (failed : m.failed = l.failed) (recoveries : m.recoveries = l.recoveries)
  | failed (sm : Summary) (about : sm.diagnostic = d) (code : m.code = l.code)
      (applied : m.applied = l.applied) (failed : m.failed = l.failed ++ [sm])
      (recoveries : m.recoveries = l.recoveries ∨
        ∃ r, Harmless l r ∧ m.recoveries = l.recoveries ++ [r])

/-- Only the text, the repairs, the failures and the recoveries of the books
matter. -/
lemma Outcome.congr {k n : Ledger} (h : Outcome accepts registry d l m)
    (code : k.code = l.code) (applied : k.applied = l.applied) (failed : k.failed = l.failed)
    (recoveries : k.recoveries = l.recoveries) (code' : n.code = m.code)
    (applied' : n.applied = m.applied) (failed' : n.failed = m.failed)
    (recoveries' : n.recoveries = m.recoveries) : Outcome accepts registry d k n := by
  cases h with
  | repaired sm about success repair grown same same' =>
      refine .repaired sm about success ?_ ?_ ?_ ?_
      · rwa [code, code']
      · rw [applied', grown, applied]
      · rw [failed', same, failed]
      · rw [recoveries', same', recoveries]
  | failed sm about same same' grown recovered =>
      refine .failed sm about ?_ ?_ ?_ ?_
      · rw [code', same, code]
      · rw [applied', same', applied]
      · rw [failed', grown, failed]
      · rw [recoveries', recoveries]
        exact recovered.imp id fun ⟨r, harmless, h⟩ => ⟨r, harmless.congr code applied, h⟩

/-- What entering the outcome of an attempt does to the books and the
processor. -/
structure Settled (accepts : Acceptor) (d : Diagnostic) (l : Ledger) (p : Processor)
    (m : Ledger) (q : Processor) : Prop where
  outcome : Outcome accepts p.registry d l m
  sound : Sound accepts m q
  start : m.start = l.start
  total : m.total = l.total
  attempted : m.attempted = l.attempted
  current : m.current = l.current
  registry : q.registry = p.registry

lemma snapshotName_ne_startName (n : Nat) : startName ≠ Recovery.snapshotName n := by
  intro h
  have heads := congrArg (fun t => t.toList.head?) h
  simp [startName, Recovery.snapshotName] at heads

/-- Entering a repair keeps the books sound. -/
lemma Sound.repaired (h : Sound accepts l p) (sm : Summary)
    (program : isProgram accepts after = true) (r : Record) :
    Sound accepts { l with code := after, applied := l.applied ++ [sm] }
      { p with
        archive := (p.archive.record r).takeSnapshot
          (Recovery.snapshotName (l.applied ++ [sm]).length) after } where
  running := h.running
  start := by
    rw [Archive.snapshot?_takeSnapshot, if_neg (snapshotName_ne_startName _)]
    exact h.start
  latest _ := by rw [Archive.snapshot?_takeSnapshot, if_pos rfl]
  records none := by simp at none
  untouched none := by simp at none
  program _ := program
  fault := h.fault

/-- Entering a failure behind which a recovery is made. -/
lemma settled_salvage (h : Sound accepts l p) (sm : Summary) (about : sm.diagnostic = d)
    (text : code = l.code ∨ isProgram accepts code = false) (notes : List Note) :
    ∃ m, salvage accepts code { l with failed := l.failed ++ [sm], notes } p = (p, m) ∧
      Settled accepts d l p m p := by
  obtain ⟨r, harmless, hs⟩ := salvage_entered h text (l.failed ++ [sm]) notes
  exact ⟨_, hs, .failed sm about rfl rfl rfl (.inr ⟨r, harmless, rfl⟩),
    h.congr rfl rfl rfl h.fault rfl rfl, rfl, rfl, rfl, rfl, rfl⟩

/-- A fault that halts a run is no fault of its final text. -/
lemma Settled.halt {halted : Bool} {fault : RunFault} (h : Settled accepts d l p m q)
    (other : ∀ f, fault ≠ .invalid f) :
    Settled accepts d l p { m with halted, fault? := some fault } q where
  outcome := h.outcome.congr rfl rfl rfl rfl rfl rfl rfl rfl
  sound := h.sound.congr rfl rfl rfl (fun f hf => other f (Option.some.inj hf)) rfl rfl
  start := h.start
  total := h.total
  attempted := h.attempted
  current := h.current
  registry := h.registry

/-- Entering the outcome of an attempt at the text so far. -/
lemma settle_settled (h : Sound accepts l p) :
    ∃ m q, settle accepts d l p (attempt accepts p.registry l.code d) = (q, m) ∧
      Settled accepts d l p m q := by
  rcases attempt_cases accepts p.registry l.code d with
    ⟨sm, about, ha⟩ | ⟨e, ha⟩ | ⟨sm, after, about, broken, ha⟩ |
    ⟨sm, after, about, success, repair, ha⟩
  · -- the attempt failed
    rw [ha, settle]
    exact ⟨_, _, rfl, .failed sm about rfl rfl rfl (.inl rfl),
      h.congr rfl rfl rfl h.fault rfl rfl, rfl, rfl, rfl, rfl, rfl⟩
  · -- the fixer raised an error
    obtain ⟨m, hs, settled⟩ := settled_salvage h (.failure d (.raised e) []) rfl
      (Or.inl (Eq.refl l.code)) (l.notes ++ [.raised d e])
    rw [ha, settle]
    simp only [Ledger.note, hs]
    split
    · exact ⟨_, _, rfl, settled.halt (by simp)⟩
    · exact ⟨_, _, rfl, settled⟩
  · -- the fixer made a text that is no program
    obtain ⟨m, hs, settled⟩ := settled_salvage h sm about (.inr broken) l.notes
    rw [ha, settle]
    simp only [hs]
    split
    · exact ⟨_, _, rfl, settled.halt (by simp)⟩
    · exact ⟨_, _, rfl, settled⟩
  · -- the diagnostic was repaired
    rw [ha, settle]
    exact ⟨_, _, rfl, .repaired sm about success repair rfl rfl rfl,
      h.repaired sm repair.isProgram _, rfl, rfl, rfl, rfl, rfl⟩

/-- The books with the turn of a diagnostic begun. -/
def Ledger.begin (l : Ledger) (d : Diagnostic) : Ledger :=
  { l with current := l.current + 1, attempted := l.attempted ++ [d.identity] }

/-- The processor and the books when the observer has been told of a turn. -/
def beginTurn (s : Surroundings) (d : Diagnostic) (l : Ledger) (p : Processor) :
    Processor × Ledger :=
  announce s .fixing (d.rule.getD "")
    ("Fixing " ++ ruleText d.rule ++ " at line " ++ d.line.text) (l.begin d) p

/-- The attempt of a turn is made when the observer has been told, on a
processor that remembers the context. -/
lemma fixOne_eq (s : Surroundings) (d : Diagnostic) (l : Ledger) (p : Processor) :
    fixOne s d l p =
      settle s.accepts d (beginTurn s d l p).2
        { (beginTurn s d l p).1 with
          cache := ((beginTurn s d l p).1.cache.zone (beginTurn s d l p).2.code d).1 }
        (attempt s.accepts (beginTurn s d l p).1.registry (beginTurn s d l p).2.code d) := rfl

lemma beginTurn_registry (running : p.running = true) :
    (beginTurn s d l p).1.registry = p.registry := by
  have told : Interlude _ (beginTurn s d l p).1 := announce_interlude s running _ _ _
  obtain ⟨stop, cache, same⟩ := told
  rw [same]

lemma beginTurn_settings (running : p.running = true) :
    (beginTurn s d l p).1.settings = p.settings := by
  have told : Interlude _ (beginTurn s d l p).1 := announce_interlude s running _ _ _
  obtain ⟨stop, cache, same⟩ := told
  rw [same]

/-- Taking a recovery changes text, repairs, failures and recoveries at most. -/
lemma adopt_books (l : Ledger) (r : Recovery) : ∃ code applied failed recoveries,
    l.adopt r = { l with code, applied, failed, recoveries } := by
  rw [Ledger.adopt]
  dsimp only
  split <;> exact ⟨_, _, _, _, rfl⟩

lemma adopt_fault (l : Ledger) (r : Recovery) : (l.adopt r).fault? = l.fault? := by
  obtain ⟨code, applied, failed, recoveries, adopted⟩ := adopt_books l r
  rw [adopted]

lemma adopt_questions (l : Ledger) (r : Recovery) : (l.adopt r).questions = l.questions := by
  obtain ⟨code, applied, failed, recoveries, adopted⟩ := adopt_books l r
  rw [adopted]

lemma adopt_halted (l : Ledger) (r : Recovery) : (l.adopt r).halted = l.halted := by
  obtain ⟨code, applied, failed, recoveries, adopted⟩ := adopt_books l r
  rw [adopted]

/-- Why a run ends early after the turn of a diagnostic. -/
inductive Halt (d : Diagnostic) : RunFault → Prop
  | halted : Halt d (.halted d.rule d.line)
  | aborted (text : String) : Halt d (.aborted text)

/-- What entering the outcome of an attempt makes of books, sound or not. -/
inductive Entered (d : Diagnostic) (l : Ledger) : Ledger → Prop
  | repaired (code : Text) (sm : Summary) :
      Entered d l { l with code, applied := l.applied ++ [sm] }
  | failed (sm : Summary) : Entered d l { l with failed := l.failed ++ [sm] }
  | salvaged (sm : Summary) (notes : List Note) (r : Recovery) :
      Entered d l (Ledger.adopt { l with failed := l.failed ++ [sm], notes } r)
  | halted (sm : Summary) (notes : List Note) (r : Recovery) (fault : RunFault)
      (halt : Halt d fault) :
      Entered d l
        { Ledger.adopt { l with failed := l.failed ++ [sm], notes } r with
          halted := true, fault? := some fault }

lemma Entered.questions (h : Entered d l m) : m.questions = l.questions := by
  cases h with
  | repaired | failed => rfl
  | salvaged sm notes r | halted sm notes r => exact adopt_questions _ r

/-- No fault is entered but one that halts the run, and it is halted only so. -/
lemma Entered.fault (h : Entered d l m) :
    m.fault? = l.fault? ∧ m.halted = l.halted ∨
      ∃ fault, Halt d fault ∧ m.fault? = some fault := by
  cases h with
  | repaired | failed => exact .inl ⟨rfl, rfl⟩
  | salvaged sm notes r => exact .inl ⟨adopt_fault _ r, adopt_halted _ r⟩
  | halted _ _ _ fault halt => exact .inr ⟨fault, halt, rfl⟩

/-- Of the processor entering an outcome changes the archive at most. -/
lemma settle_entered (accepts : Acceptor) (d : Diagnostic) (l : Ledger) (p : Processor)
    (a : Attempt) : (∃ archive, (settle accepts d l p a).1 = { p with archive }) ∧
      Entered d l (settle accepts d l p a).2 := by
  cases a with
  | applied code sm => exact ⟨⟨_, rfl⟩, .repaired code sm⟩
  | failed sm => exact ⟨⟨p.archive, rfl⟩, .failed sm⟩
  | broken sm code =>
      rw [settle]
      dsimp only [salvage, Processor.recover]
      split
      · exact ⟨⟨_, rfl⟩, .halted sm l.notes _ _ .halted⟩
      · exact ⟨⟨_, rfl⟩, .salvaged sm l.notes _⟩
  | raised e =>
      rw [settle]
      dsimp only [salvage, Processor.recover, Ledger.note]
      split
      · exact ⟨⟨_, rfl⟩, .halted _ _ _ _ (.aborted e.text)⟩
      · exact ⟨⟨_, rfl⟩, .salvaged _ _ _⟩

/-- A turn enters an outcome into the books in which it has begun. -/
lemma fixOne_entered (s : Surroundings) (d : Diagnostic) (l : Ledger) (p : Processor) :
    Entered d (beginTurn s d l p).2 (fixOne s d l p).2 := by
  rw [fixOne_eq]
  exact (settle_entered _ _ _ _ _).2

/-- A turn keeps the settings of the processor. -/
lemma fixOne_settings (s : Surroundings) (d : Diagnostic) (l : Ledger)
    (running : p.running = true) : (fixOne s d l p).1.settings = p.settings := by
  have told := beginTurn_settings (s := s) (d := d) (l := l) running
  rw [fixOne_eq]
  obtain ⟨⟨archive, entered⟩, -⟩ := settle_entered s.accepts d (beginTurn s d l p).2
    { (beginTurn s d l p).1 with
      cache := ((beginTurn s d l p).1.cache.zone (beginTurn s d l p).2.code d).1 }
    (attempt s.accepts (beginTurn s d l p).1.registry (beginTurn s d l p).2.code d)
  rw [entered]
  exact told

/-- A turn asks no linter. -/
lemma fixOne_questions (s : Surroundings) (d : Diagnostic) (l : Ledger) (p : Processor) :
    (fixOne s d l p).2.questions = l.questions :=
  (fixOne_entered s d l p).questions

/-- A turn enters no fault but one that halts the run, and halts it only so. -/
lemma fixOne_fault (s : Surroundings) (d : Diagnostic) (l : Ledger) (p : Processor) :
    (fixOne s d l p).2.fault? = l.fault? ∧ (fixOne s d l p).2.halted = l.halted ∨
      ∃ fault, Halt d fault ∧ (fixOne s d l p).2.fault? = some fault :=
  (fixOne_entered s d l p).fault

/-- What the turn of a diagnostic does to sound books and their processor. -/
theorem fixOne_settled (h : Sound s.accepts l p) (d : Diagnostic) :
    Settled s.accepts d (l.begin d) p (fixOne s d l p).2 (fixOne s d l p).1 := by
  have begun : Sound s.accepts (l.begin d) p := h.congr rfl rfl rfl h.fault rfl rfl
  have told : Sound s.accepts (beginTurn s d l p).2 (beginTurn s d l p).1 :=
    begun.told s _ _ _
  have still := beginTurn_registry (s := s) (d := d) (l := l) h.running
  obtain ⟨m, q, settles, settled⟩ := settle_settled (d := d)
    (told.congr (q := { (beginTurn s d l p).1 with
      cache := ((beginTurn s d l p).1.cache.zone (beginTurn s d l p).2.code d).1 })
      rfl rfl rfl told.fault rfl rfl)
  have outcome : Outcome s.accepts p.registry d (l.begin d) m := by
    rw [← still]
    exact settled.outcome.congr rfl rfl rfl rfl rfl rfl rfl rfl
  rw [fixOne_eq, settles]
  exact
    { outcome
      sound := settled.sound
      start := settled.start
      total := settled.total
      attempted := settled.attempted
      current := settled.current
      registry := settled.registry.trans still }

end LintRepair.Batch
