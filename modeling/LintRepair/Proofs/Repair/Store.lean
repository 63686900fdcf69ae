/-
What an archive holds after any steps in its use.

* `TakenBack`, `undo_eq_ok_iff`: from which text a repair can be taken back, and
  which text that gives;
* `Step`, `afterSteps`: the steps in the use of an archive;
* `Reverted`, `revert_reverted`: what comes of the archive when a repair is to be
  taken back, and cannot be, or can;
* `stacked`, `records_step`: a step does to the records of an archive what it does to
  a stack without a limit, and then drops the oldest of one too many;
* `LastStored`, `snapshot?_step`: a snapshot is the text last stored under its name;
* `afterSteps_keeps`: all of this after any steps.
-/
import LintRepair.Proofs.Repair.Archive
import LintRepair.Proofs.Text.Around

namespace LintRepair.Repair

open Text Check

variable {accepts : Acceptor} {code after : Text} {r : Record} {given : Option Record}

/-! ### Repairs taken back -/

/-- A text with a repair taken back. On the line of the repair what it left, where it
occurs first, is exchanged for what was there before; the lines above and below are
as they were; and the text is a program. -/
structure TakenBack (accepts : Acceptor) (code : Text) (r : Record) (after : Text) : Prop where
  exchanged : ∃ above front back below,
    Around code r.line.value above (front ++ (r.after ++ back)) below ∧
      (∀ k < front.length, ¬ r.after <+: (front ++ (r.after ++ back)).drop k) ∧
      lines after = above ++ (lines (front ++ (r.before ++ back)) ++ below)
  some' : r.after ≠ []
  program : isProgram accepts after = true

namespace Archive

/-- A repair is taken back exactly if that gives such a text, and with it. -/
lemma undo_eq_ok_iff : undo accepts code r = .ok after ↔ TakenBack accepts code r after := by
  constructor
  · intro undone
    rw [undo] at undone
    split at undone
    · cases undone
    next target there =>
    split at undone
    · cases undone
    next i found =>
    dsimp only at undone
    split at undone
    · cases undone
    next program =>
    split at found
    · cases found
    next some' =>
    obtain ⟨above, below, place⟩ := exists_around there
    obtain ⟨⟨back, stands⟩, first⟩ := find?_eq_some_iff.mp found
    have within : i ≤ target.length := by
      by_contra far
      rw [List.drop_of_length_le (by omega), List.append_eq_nil_iff] at stands
      exact some' (by simp [stands])
    obtain ⟨front, rfl, rfl⟩ : ∃ front, target = front ++ (r.after ++ back) ∧ i = front.length :=
      ⟨target.take i, by rw [stands, List.take_append_drop], by rw [List.length_take_of_le within]⟩
    rw [splice_middle, place.replaceLine, Option.getD_some] at undone program
    obtain rfl := Except.ok.inj undone
    exact ⟨⟨above, front, back, below, place, first, place.lines_replaced _⟩,
      by simpa using some', Option.isNone_iff_eq_none.mpr program⟩
  · rintro ⟨⟨above, front, back, below, place, first, lines_eq⟩, some', program⟩
    have found : find? r.after (front ++ (r.after ++ back)) = some front.length :=
      find?_eq_some_iff.mpr ⟨⟨back, by simp⟩, first⟩
    have whole : ended above ++ ((front ++ (r.before ++ back)) ++ begun below) = after := by
      rw [← unlines_lines after, lines_eq, ← place.lines_replaced, unlines_lines]
    rw [undo, place.line?]
    dsimp only
    rw [if_neg (by simpa using some'), found]
    dsimp only
    rw [splice_middle, place.replaceLine, Option.getD_some, whole]
    rw [isProgram, Option.isNone_iff_eq_none] at program
    rw [program]

/-- What comes of it when a repair is to be taken back: no text, and the archive as it
was, if there is no such repair or it cannot be taken back; else a text, and the archive
without the repair if that is its latest, and as it was if not. -/
inductive Reverted (accepts : Acceptor) (a : Archive) (code : Text) (given : Option Record) :
    Option Text → Archive → Prop
  | refused (never : ∀ r, (given <|> a.records.getLast?) = some r →
      ∀ after, ¬ TakenBack accepts code r after) : Reverted accepts a code given none a
  | latest {r : Record} {after : Text} (asked : given = none ∨ given = some r)
      (last : a.records.getLast? = some r) (back : TakenBack accepts code r after) :
      Reverted accepts a code given (some after) { a with records := a.records.dropLast }
  | other {r : Record} {after : Text} (asked : given = some r)
      (last : a.records.getLast? ≠ some r) (back : TakenBack accepts code r after) :
      Reverted accepts a code given (some after) a

/-! ### Steps in the use of an archive -/

/-- One step in the use of an archive. -/
inductive Step
  /-- A repair is recorded, under any number. -/
  | record (r : Record)
  /-- A repair is to be taken back from a text, the latest one unless one is given. -/
  | revert (code : Text) (given : Option Record)
  | snapshot (name : String) (code : Text)
  | clear

variable {a : Archive} {rs us : List Record} {s : Step} {ss : List Step} {limit : Int}

/-- The archive after a step; what cannot be taken back leaves it as it was. -/
def step (accepts : Acceptor) (a : Archive) : Step → Archive
  | .record r => a.record r
  | .revert code given =>
    match a.revert accepts code given with
    | .ok (_, b) => b
    | .error _ => a
  | .snapshot name code => a.takeSnapshot name code
  | .clear => a.clear

/-- A new archive with a limit after some steps. -/
def afterSteps (accepts : Acceptor) (limit : Int) (ss : List Step) : Archive :=
  ss.foldl (step accepts) { limit }

/-- The records that a step leaves on a stack without a limit: the latest one is taken
from it if it is the one to be taken back, and can be. -/
def stackStep (accepts : Acceptor) (rs : List Record) : Step → List Record
  | .record r => rs ++ [r]
  | .revert code given =>
    match rs.getLast? with
    | none => rs
    | some r =>
      if given.getD r = r ∧ (undo accepts code r).toOption.isSome then rs.dropLast else rs
  | .snapshot _ _ => rs
  | .clear => []

/-- The records that some steps leave on a stack without a limit. -/
def stacked (accepts : Acceptor) (ss : List Step) : List Record :=
  ss.foldl (stackStep accepts) []

lemma afterSteps_concat (ss : List Step) (s : Step) :
    afterSteps accepts limit (ss ++ [s]) = (afterSteps accepts limit ss).step accepts s :=
  List.foldl_concat ..

lemma stacked_concat (ss : List Step) (s : Step) :
    stacked accepts (ss ++ [s]) = stackStep accepts (stacked accepts ss) s :=
  List.foldl_concat ..

/-- What comes of an archive when a repair is to be taken back. -/
lemma revert_reverted (accepts : Acceptor) (a : Archive) (code : Text) (given : Option Record) :
    Reverted accepts a code given ((a.revert accepts code given).toOption.map Prod.fst)
      (a.step accepts (.revert code given)) := by
  rw [step, revert]
  cases asked : given <|> a.records.getLast? with
  | none => exact .refused fun r some' => by rw [asked] at some'; cases some'
  | some r =>
      dsimp only
      cases undone : undo accepts code r with
      | error fault =>
          refine .refused fun r' some' after back => ?_
          rw [asked, Option.some_inj] at some'
          rw [some', undo_eq_ok_iff.mpr back] at undone
          cases undone
      | ok after =>
          have back := undo_eq_ok_iff.mp undone
          dsimp only
          split_ifs with last
          · refine .latest ?_ last back
            cases given with
            | none => exact .inl rfl
            | some r' => exact .inr asked
          · refine .other ?_ last back
            cases given with
            | none => exact absurd asked last
            | some r' => exact asked

lemma reverted_of_ok {b : Archive} (h : a.revert accepts code given = .ok (after, b)) :
    Reverted accepts a code given (some after) b := by
  have reverted := revert_reverted accepts a code given
  rwa [step, h] at reverted

lemma not_takenBack_of_error {fault : RevertFault}
    (h : a.revert accepts code given = .error fault)
    (asked : (given <|> a.records.getLast?) = some r) : ¬ TakenBack accepts code r after := by
  have reverted := revert_reverted accepts a code given
  rw [step, h] at reverted
  cases reverted with
  | refused never => exact never r asked after

lemma exists_reverted (accepts : Acceptor) (a : Archive) (code : Text) (given : Option Record) :
    ∃ out, Reverted accepts a code given out (a.step accepts (.revert code given)) :=
  ⟨_, revert_reverted accepts a code given⟩

lemma step_limit (s : Step) : (a.step accepts s).limit = a.limit := by
  cases s with
  | record r => rfl
  | revert code given =>
      obtain ⟨out, reverted⟩ := exists_reverted accepts a code given
      generalize a.step accepts (.revert code given) = b at reverted ⊢
      cases reverted <;> rfl
  | snapshot name code => rfl
  | clear => rfl

lemma afterSteps_limit (ss : List Step) : (afterSteps accepts limit ss).limit = limit := by
  induction ss using List.reverseRecOn with
  | nil => rfl
  | append_singleton ss s ih => rw [afterSteps_concat, step_limit, ih]

/-! ### The records -/

lemma isSome_undo_iff :
    (undo accepts code r).toOption.isSome = true ↔ ∃ after, TakenBack accepts code r after := by
  simp only [← undo_eq_ok_iff]
  cases undo accepts code r <;> simp [Except.toOption]

/-- To take a repair back does to the records of an archive what it does to a stack. -/
lemma records_revert (accepts : Acceptor) (a : Archive) (code : Text) (given : Option Record) :
    (a.step accepts (.revert code given)).records =
      stackStep accepts a.records (.revert code given) := by
  obtain ⟨out, reverted⟩ := exists_reverted accepts a code given
  rw [stackStep]
  generalize a.step accepts (.revert code given) = b at reverted ⊢
  cases last : a.records.getLast? with
  | none =>
      cases reverted with
      | refused | other => rfl
      | latest _ last' => rw [last] at last'; cases last'
  | some r =>
      dsimp only
      cases reverted with
      | refused never =>
          refine (if_neg ?_).symm
          rintro ⟨asked, undone⟩
          obtain ⟨after, back⟩ := isSome_undo_iff.mp undone
          refine never r ?_ after back
          cases given with
          | none => exact last
          | some r' => exact congrArg some asked
      | latest asked last' back =>
          obtain rfl := Option.some.inj (last.symm.trans last')
          refine (if_pos ⟨?_, isSome_undo_iff.mpr ⟨_, back⟩⟩).symm
          rcases asked with rfl | rfl <;> rfl
      | other asked last' =>
          refine (if_neg ?_).symm
          rintro ⟨same, -⟩
          rw [asked, Option.getD_some] at same
          exact last' (same ▸ last)

lemma within_of_length_le (few : (rs.length : Int) ≤ limit) : within limit rs = rs :=
  if_neg (by omega)

lemma within_suffix (limit : Int) (rs : List Record) : within limit rs <:+ rs := by
  rw [within]
  split_ifs
  · exact List.tail_suffix rs
  · exact List.suffix_rfl

/-- Taking back leaves a stack as it was, or without its latest record. -/
lemma stackStep_revert (accepts : Acceptor) (rs : List Record) (code : Text)
    (given : Option Record) : stackStep accepts rs (.revert code given) = rs ∨
      stackStep accepts rs (.revert code given) = rs.dropLast := by
  rw [stackStep]
  split
  · exact .inl rfl
  · split_ifs
    · exact .inr rfl
    · exact .inl rfl

/-- A step adds at most one record. -/
lemma length_stackStep_le (accepts : Acceptor) (rs : List Record) (s : Step) :
    (stackStep accepts rs s).length ≤ rs.length + 1 := by
  cases s with
  | record r => rw [stackStep, List.length_append, List.length_singleton]
  | revert code given =>
      rcases stackStep_revert accepts rs code given with same | dropped
      · rw [same]
        exact Nat.le_succ _
      · rw [dropped, List.length_dropLast]
        omega
  | snapshot name code => exact Nat.le_succ _
  | clear => exact Nat.zero_le _

/-- A step does to the records what it does to a stack, and then drops the oldest of
one too many. -/
lemma records_step (accepts : Acceptor) (few : (a.records.length : Int) ≤ a.limit) (s : Step) :
    (a.step accepts s).records = within a.limit (stackStep accepts a.records s) := by
  cases s with
  | record r => rfl
  | revert code given =>
      rw [records_revert, within_of_length_le]
      rcases stackStep_revert accepts a.records code given with same | dropped
      · rwa [same]
      · rw [dropped, List.length_dropLast]
        omega
  | snapshot name code => exact (within_of_length_le few).symm
  | clear => exact (within_of_length_le (Int.le_trans (Int.natCast_nonneg _) few)).symm

/-- What a step does to a stack does not depend on the older records. -/
lemma stackStep_suffix (h : us <:+ rs) (s : Step) :
    stackStep accepts us s <:+ stackStep accepts rs s := by
  obtain ⟨old, rfl⟩ := h
  cases s with
  | record r => exact ⟨old, by rw [stackStep, stackStep, List.append_assoc]⟩
  | revert code given =>
      rcases List.eq_nil_or_concat' us with rfl | ⟨below, top, rfl⟩
      · exact List.nil_suffix
      -- the latest record is the same, so it is taken from both or from neither
      have last : (old ++ (below ++ [top])).getLast? = some top := by
        rw [← List.append_assoc, List.getLast?_concat]
      rw [stackStep, stackStep, last, List.getLast?_concat]
      dsimp only
      split_ifs
      · rw [← List.append_assoc, List.dropLast_concat, List.dropLast_concat]
        exact List.suffix_append old below
      · exact List.suffix_append _ _
  | snapshot name code => exact List.suffix_append old us
  | clear => exact List.suffix_rfl

/-- The records after some steps: the latest of those on a stack without a limit, and
no more than the limit. -/
lemma records_afterSteps (accepts : Acceptor) (low : 0 ≤ limit) (ss : List Step) :
    (afterSteps accepts limit ss).records <:+ stacked accepts ss ∧
      ((afterSteps accepts limit ss).records.length : Int) ≤ limit := by
  induction ss using List.reverseRecOn with
  | nil => exact ⟨List.suffix_rfl, low⟩
  | append_singleton ss s ih =>
      obtain ⟨latest, few⟩ := ih
      have next := records_step accepts (by rwa [afterSteps_limit]) s
      rw [afterSteps_concat, stacked_concat, next, afterSteps_limit]
      refine ⟨(within_suffix _ _).trans (stackStep_suffix latest s), ?_⟩
      have more := length_stackStep_le accepts (afterSteps accepts limit ss).records s
      rw [within]
      split_ifs with full
      · rw [List.length_tail]
        omega
      · exact Int.not_lt.mp full

/-- They are the whole stack as long as it has not outgrown the limit. -/
lemma records_eq_stacked {ss : List Step}
    (few : ∀ ts, ts <+: ss → ((stacked accepts ts).length : Int) ≤ limit) :
    (afterSteps accepts limit ss).records = stacked accepts ss := by
  induction ss using List.reverseRecOn with
  | nil => rfl
  | append_singleton ss s ih =>
      have same := ih fun ts start => few ts (start.trans (List.prefix_append ss [s]))
      have within' := few ss (List.prefix_append ss [s])
      have next := few _ List.prefix_rfl
      rw [stacked_concat] at next ⊢
      rw [afterSteps_concat, records_step accepts (by rwa [afterSteps_limit, same]),
        afterSteps_limit, same, within_of_length_le next]

/-! ### The snapshots -/

/-- The text last stored under a name by some steps, if none has cleared it since. -/
def LastStored (ss : List Step) (name : String) (code : Text) : Prop :=
  ∃ before behind, ss = before ++ .snapshot name code :: behind ∧
    ∀ s ∈ behind, s ≠ .clear ∧ ∀ other, s ≠ .snapshot name other

variable {name : String}

lemma lastStored_concat : LastStored (ss ++ [s]) name code ↔
    s = .snapshot name code ∨
      LastStored ss name code ∧ s ≠ .clear ∧ ∀ other, s ≠ .snapshot name other := by
  constructor
  · rintro ⟨before, behind, parts, kept⟩
    rcases List.eq_nil_or_concat' behind with rfl | ⟨behind, last, rfl⟩
    · exact .inl (List.singleton_inj.mp (List.append_inj_right' parts rfl))
    · rw [← List.cons_append, ← List.append_assoc] at parts
      obtain ⟨rfl, same⟩ := List.append_inj' parts rfl
      rw [List.singleton_inj.mp same]
      exact .inr ⟨⟨before, behind, rfl, fun s' among => kept s' (List.mem_append_left _ among)⟩,
        kept last (by simp)⟩
  · rintro (rfl | ⟨⟨before, behind, rfl, kept⟩, still⟩)
    · exact ⟨ss, [], rfl, by simp⟩
    · refine ⟨before, behind ++ [s], by simp, fun s' among => ?_⟩
      rcases List.mem_append.mp among with among | among
      · exact kept s' among
      · rw [List.mem_singleton.mp among]
        exact still

/-- What can be read under a name after a step. -/
lemma snapshot?_step (name : String) (s : Step) :
    (a.step accepts s).snapshot? name = some code ↔
      s = .snapshot name code ∨
        a.snapshot? name = some code ∧ s ≠ .clear ∧ ∀ other, s ≠ .snapshot name other := by
  cases s with
  | record r => simp [step, Archive.record, snapshot?]
  | revert text given =>
      obtain ⟨out, reverted⟩ := exists_reverted accepts a text given
      generalize a.step accepts (.revert text given) = b at reverted ⊢
      have same : b.snapshot? name = a.snapshot? name := by cases reverted <;> rfl
      simp [same]
  | snapshot other text =>
      rw [step, snapshot?_takeSnapshot]
      split_ifs with here
      · simp [here]
      · simp [Ne.symm here]
  | clear => simp [step, clear, snapshot?]

/-- A snapshot that is read is the text last stored under its name. -/
lemma snapshot?_afterSteps (ss : List Step) (name : String) (code : Text) :
    (afterSteps accepts limit ss).snapshot? name = some code ↔ LastStored ss name code := by
  induction ss using List.reverseRecOn with
  | nil => simp [afterSteps, snapshot?, LastStored]
  | append_singleton ss s ih => rw [afterSteps_concat, snapshot?_step, ih, lastStored_concat]

/-- **What an archive keeps.** After any steps, with any limit: the records are the
latest of those that the same steps leave on a stack without a limit, no more than the
limit, and all of them as long as the stack has not outgrown it. When a repair is to
be taken back, and cannot be, the archive is left as it was; when it can, the text is a
program in which just the line of the repair has changed, and the archive forgets at
most its latest repair, and that only if it is the one taken back. And what can be read
under a name is the text last stored under it. -/
theorem afterSteps_keeps (accepts : Acceptor) (low : 0 ≤ limit) (ss : List Step) :
    ((afterSteps accepts limit ss).records <:+ stacked accepts ss ∧
      ((afterSteps accepts limit ss).records.length : Int) ≤ limit ∧
      ((∀ ts, ts <+: ss → ((stacked accepts ts).length : Int) ≤ limit) →
        (afterSteps accepts limit ss).records = stacked accepts ss)) ∧
    (∀ code given, Reverted accepts (afterSteps accepts limit ss) code given
      (((afterSteps accepts limit ss).revert accepts code given).toOption.map Prod.fst)
      ((afterSteps accepts limit ss).step accepts (.revert code given))) ∧
    ∀ name code,
      (afterSteps accepts limit ss).snapshot? name = some code ↔ LastStored ss name code := by
  obtain ⟨latest, few⟩ := records_afterSteps accepts low ss
  exact ⟨⟨latest, few, records_eq_stacked⟩, revert_reverted accepts _, snapshot?_afterSteps ss⟩

/-- A repair of the first line with a number. -/
def digit (serial : Nat) : Record where
  serial := serial
  rule := none
  line := .number 1
  column := .number 1
  before := "0".toList
  after := "1".toList

/-- Three repairs of which the latest is taken back, and the one below it cannot be. -/
def usage : List Step :=
  [.record (digit 0), .snapshot "start" "1".toList, .record (digit 1), .record (digit 2),
    .revert "1".toList none, .revert "2".toList none]

theorem usage_keeps :
    (afterSteps (fun _ => true) 2 usage).records = [digit 1] ∧
    stacked (fun _ => true) usage = [digit 0, digit 1] ∧
    (afterSteps (fun _ => true) 2 usage).records <:+ stacked (fun _ => true) usage ∧
    Reverted (fun _ => true) (afterSteps (fun _ => true) 2 usage) "1".toList none
      (some "0".toList)
      ((afterSteps (fun _ => true) 2 usage).step (fun _ => true) (.revert "1".toList none)) ∧
    LastStored usage "start" "1".toList := by
  have low : (0 : Int) ≤ 2 := by decide
  obtain ⟨⟨latest, -⟩, reverted, stored⟩ := afterSteps_keeps (fun _ => true) low usage
  exact ⟨by decide +kernel, by decide +kernel, latest, reverted "1".toList none,
    (stored "start" "1".toList).mp (by decide +kernel)⟩

end Archive

end LintRepair.Repair
