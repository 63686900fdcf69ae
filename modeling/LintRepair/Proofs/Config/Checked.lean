/-
What settings hold.

* `positive_eq_ok_iff` to `command_eq_ok_iff`: what each check admits, and that it leaves
  a value as it was;
* `Admitted`, `admitted_default`: settings that satisfy every check, as the defaults do;
* `of_ofFields`: so do all that are made, and each holds what its field holds, or its
  default;
* `mistake_of_ofFields`: what is refused is a mistake in a value, apart from names that
  are no settings and commands that are no text.
-/
import LintRepair.Config.Basic
import LintRepair.Proofs.Outcome
import Mathlib.Tactic.Common

namespace LintRepair.Config

open Text Json

variable {fault e : Fault} {v : Value} {name : String} {fs : Fields} {s : Settings}

/-! ### Checks -/

lemma ofJson?_eq_some_iff {w : Whole} : Whole.ofJson? v = some w ↔ v = w.toJson := by
  constructor
  · intro read
    cases v with
    | int | bool =>
        cases read
        rfl
    | null | float | string | array | object | moment => cases read
  · rintro rfl
    exact Whole.ofJson?_toJson w

lemma quantity_ofJson?_eq_some_iff {q : Quantity} : Quantity.ofJson? v = some q ↔ v = q.toJson := by
  constructor
  · intro read
    cases v with
    | int | bool | float =>
        cases read
        rfl
    | null | string | array | object | moment => cases read
  · rintro rfl
    rcases q with (_ | _) | _ <;> rfl

lemma positive_eq_ok_iff {w : Whole} :
    positive fault v = .ok w ↔ v = w.toJson ∧ 1 ≤ w.value := by
  rw [← ofJson?_eq_some_iff, positive]
  cases Whole.ofJson? v with
  | none => simp
  | some w' =>
      dsimp only
      split
      · next less =>
        simp only [reduceCtorEq, Option.some.injEq, false_iff]
        rintro ⟨rfl, more⟩
        exact absurd less (Int.not_lt.mpr more)
      · next more =>
        simp only [Except.ok.injEq, Option.some.injEq]
        refine ⟨?_, And.left⟩
        rintro rfl
        exact ⟨rfl, Int.not_lt.mp more⟩

lemma duration_eq_ok_iff {q : Quantity} :
    duration v = .ok q ↔ v = q.toJson ∧ q.atMost 0 = false := by
  rw [← quantity_ofJson?_eq_some_iff, duration]
  cases Quantity.ofJson? v with
  | none => simp
  | some q' =>
      dsimp only
      split
      · next least =>
        simp only [reduceCtorEq, Option.some.injEq, false_iff]
        rintro ⟨rfl, more⟩
        rw [least] at more
        cases more
      · next more =>
        simp only [Except.ok.injEq, Option.some.injEq]
        refine ⟨?_, And.left⟩
        rintro rfl
        exact ⟨rfl, Bool.eq_false_iff.mpr more⟩

lemma nonEmpty_eq_ok_iff {w : String} :
    nonEmpty fault v = .ok w ↔ v = .string w ∧ w ≠ "" := by
  cases v with
  | string w' =>
      rw [nonEmpty]
      simp only [Value.string.injEq]
      split
      · next empty =>
        simp only [reduceCtorEq, false_iff]
        rintro ⟨rfl, other⟩
        exact other (String.isEmpty_iff.mp empty)
      · next other =>
        simp only [Except.ok.injEq]
        refine ⟨?_, And.left⟩
        rintro rfl
        exact ⟨rfl, fun empty => other (String.isEmpty_iff.mpr empty)⟩
  | null | bool | int | float | array | object | moment => simp [nonEmpty]

lemma mode_eq_ok_iff {m : Rules.Console.Mode} : mode v = .ok m ↔ v = .string m.word := by
  cases v with
  | string w =>
      rw [mode, Value.string.injEq]
      constructor
      · intro made
        split at made
        · next m' read =>
          cases made
          rw [Rules.Console.Mode.ofWord?] at read
          obtain ⟨same, -⟩ := List.find?_eq_some_iff_append.mp read
          rw [eq_of_beq same]
        · cases made
      · rintro rfl
        cases m <;> rfl
  | null | bool | int | float | array | object | moment => simp [mode]

/-- Names that are checked one after another. -/
lemma mapM_nonEmpty_eq_ok_iff {items : List Value} {l : List String} :
    items.mapM (nonEmpty fault) = .ok l ↔ items = l.map .string ∧ "" ∉ l := by
  constructor
  · intro made
    have both := forall₂_of_mapM made
    clear made
    induction both with
    | nil => simp
    | cons head _ ih =>
        obtain ⟨rfl, other⟩ := nonEmpty_eq_ok_iff.mp head
        obtain ⟨rfl, others⟩ := ih
        exact ⟨rfl, List.not_mem_cons_of_ne_of_not_mem other.symm others⟩
  · rintro ⟨rfl, others⟩
    induction l with
    | nil => rfl
    | cons w rest ih =>
        rw [List.mem_cons, not_or] at others
        rw [List.map_cons, List.mapM_cons, nonEmpty_eq_ok_iff.mpr ⟨rfl, Ne.symm others.1⟩,
          ih others.2]
        rfl

lemma rules_eq_ok_iff {l : List String} :
    rules v = .ok l ↔ v = .array (l.map .string) ∧ "" ∉ l := by
  cases v with
  | array items => rw [rules, mapM_nonEmpty_eq_ok_iff, Value.array.injEq]
  | null | bool | int | float | string | object | moment => simp [rules]

lemma command_eq_ok_iff {c : Option String} :
    command v = .ok c ↔ v = (c.map .string).getD .null ∧ ∀ w ∈ c, trim w.toList ≠ [] := by
  cases v with
  | null => cases c <;> simp [command]
  | string w =>
      rw [command]
      split
      · next blank =>
        simp only [reduceCtorEq, false_iff]
        rintro ⟨same, words⟩
        cases c with
        | none => cases same
        | some w' =>
            cases same
            exact words w rfl (List.isEmpty_iff.mp blank)
      · next words =>
        cases c with
        | none => simp
        | some w' =>
            simp only [Except.ok.injEq, Option.some.injEq, Option.map_some, Option.getD_some,
              Value.string.injEq, Option.mem_some_iff, forall_eq']
            refine ⟨?_, And.left⟩
            rintro rfl
            exact ⟨rfl, fun blank => words (List.isEmpty_iff.mpr blank)⟩
  | bool | int | float | array | object | moment => cases c <;> simp [command]

/-! ### All settings -/

/-- Settings that satisfy every check. The default of the timeout is a floating-point
number, about which nothing is computed here. -/
structure Admitted (s : Settings) : Prop where
  batchSize : 1 ≤ s.relintBatchSize.value
  timeout : s.relintTimeout = ({} : Settings).relintTimeout ∨ s.relintTimeout.atMost 0 = false
  fileName : s.fileName ≠ ""
  disabledRules : "" ∉ s.disabledRules
  historyLimit : 1 ≤ s.historyLimit.value
  cacheSize : 1 ≤ s.cacheSize.value
  command : ∀ w ∈ s.relintCommand, trim w.toList ≠ []

/-- Every default passes its own check. -/
lemma admitted_default : Admitted {} :=
  ⟨by decide, .inl rfl, by decide, List.not_mem_nil, by decide, by decide, by rintro w ⟨⟩⟩

/-- What a checked setting holds satisfies its check, or is its default. -/
lemma of_checked {α : Type} {standard a : α} {check : Value → Except Fault α}
    (toJson : α → Value) (P : α → Prop) (spec : ∀ v, check v = .ok a → v = toJson a ∧ P a)
    (made : checked fs name standard check = .ok a) :
    some (toJson a) = (Fields.get? fs name).or (some (toJson standard)) ∧
      (a = standard ∨ P a) := by
  rw [checked] at made
  split at made
  · next v found =>
    obtain ⟨rfl, satisfied⟩ := spec v made
    rw [found, Option.some_or]
    exact ⟨rfl, .inr satisfied⟩
  · next found =>
    cases made
    rw [found, Option.none_or]
    exact ⟨rfl, .inl rfl⟩

/-- A setting that may hold any value. -/
lemma some_getD (fs : Fields) (name : String) (standard : Value) :
    some ((Fields.get? fs name).getD standard) = (Fields.get? fs name).or (some standard) := by
  cases Fields.get? fs name <;> rfl

/-- **Settings that are made** satisfy every check, and hold what their fields hold, or
their defaults. -/
lemma of_ofFields (made : ofFields fs = .ok s) : Admitted s ∧
    ∀ name ∈ names, Fields.get? s.toFields name =
      (Fields.get? fs name).or (Fields.get? ({} : Settings).toFields name) := by
  rw [ofFields] at made
  split at made
  · cases made
  obtain ⟨-, -, made⟩ := exists_of_bind_eq_ok made
  obtain ⟨batchSize, batch, made⟩ := exists_of_bind_eq_ok made
  obtain ⟨timeout, time, made⟩ := exists_of_bind_eq_ok made
  obtain ⟨fileName, file, made⟩ := exists_of_bind_eq_ok made
  obtain ⟨mode, console, made⟩ := exists_of_bind_eq_ok made
  obtain ⟨rules, disabled, made⟩ := exists_of_bind_eq_ok made
  obtain ⟨historyLimit, history, made⟩ := exists_of_bind_eq_ok made
  obtain ⟨cacheSize, cache, made⟩ := exists_of_bind_eq_ok made
  obtain ⟨command, linter, made⟩ := exists_of_bind_eq_ok made
  cases made
  obtain ⟨batch, batch'⟩ := of_checked Whole.toJson (1 ≤ ·.value)
    (fun _ => positive_eq_ok_iff.mp) batch
  obtain ⟨time, time'⟩ := of_checked Quantity.toJson (·.atMost 0 = false)
    (fun _ => duration_eq_ok_iff.mp) time
  obtain ⟨file, file'⟩ := of_checked .string (· ≠ "") (fun _ => nonEmpty_eq_ok_iff.mp) file
  obtain ⟨console, -⟩ := of_checked (fun m => .string m.word) (fun _ => True)
    (fun _ made => ⟨mode_eq_ok_iff.mp made, trivial⟩) console
  obtain ⟨disabled, disabled'⟩ := of_checked (fun l => .array (l.map .string)) ("" ∉ ·)
    (fun _ => rules_eq_ok_iff.mp) disabled
  obtain ⟨history, history'⟩ := of_checked Whole.toJson (1 ≤ ·.value)
    (fun _ => positive_eq_ok_iff.mp) history
  obtain ⟨cache, cache'⟩ := of_checked Whole.toJson (1 ≤ ·.value)
    (fun _ => positive_eq_ok_iff.mp) cache
  obtain ⟨linter, linter'⟩ := of_checked (fun c => (c.map .string).getD .null)
    (∀ w ∈ ·, trim w.toList ≠ []) (fun _ => command_eq_ok_iff.mp) linter
  refine ⟨⟨?_, time', ?_, ?_, ?_, ?_, ?_⟩, ?_⟩
  · exact batch'.elim (fun same => same ▸ admitted_default.batchSize) id
  · exact file'.elim (fun same => same ▸ admitted_default.fileName) id
  · exact disabled'.elim (fun same => same ▸ admitted_default.disabledRules) id
  · exact history'.elim (fun same => same ▸ admitted_default.historyLimit) id
  · exact cache'.elim (fun same => same ▸ admitted_default.cacheSize) id
  · exact linter'.elim (fun same => same ▸ admitted_default.command) id
  · simp only [names, List.forall_mem_cons]
    exact ⟨some_getD fs _ _, batch, time, file, some_getD fs _ _, console, some_getD fs _ _,
      disabled, history, cache, linter, by simp⟩

/-! ### What is refused -/

lemma mistake_of_positive (value : fault.mistake = .value) (refused : positive fault v = .error e) :
    e.mistake = .value := by
  rw [positive] at refused
  split at refused
  · split at refused
    · cases refused
      exact value
    · cases refused
  · cases refused
    exact value

lemma mistake_of_duration (refused : duration v = .error e) : e.mistake = .value := by
  rw [duration] at refused
  split at refused
  · split at refused <;> cases refused
    rfl
  · cases refused
    rfl

lemma mistake_of_nonEmpty (value : fault.mistake = .value) (refused : nonEmpty fault v = .error e) :
    e.mistake = .value := by
  unfold nonEmpty at refused
  split at refused
  · split at refused
    · cases refused
      exact value
    · cases refused
  · cases refused
    exact value

lemma mistake_of_mode (refused : mode v = .error e) : e.mistake = .value := by
  unfold mode at refused
  split at refused
  · split at refused <;> cases refused
    rfl
  · cases refused
    rfl

lemma mistake_of_rules (refused : rules v = .error e) : e.mistake = .value := by
  unfold rules at refused
  split at refused
  · obtain ⟨item, -, refused⟩ := exists_of_mapM_eq_error refused
    exact mistake_of_nonEmpty rfl refused
  · cases refused
    rfl

/-- A command that is refused is blank, or no text at all. -/
lemma error_of_command (refused : command v = .error e) :
    e = .emptyCommand ∨ v.kind ∉ ["NoneType", "str"] ∧ e = .lacks v.kind "strip" := by
  cases v with
  | null => cases refused
  | string w =>
      rw [command] at refused
      split at refused
      · exact .inl (Except.error.inj refused).symm
      · cases refused
  | bool | int | float | array | object =>
      exact .inr ⟨by simp [Value.kind], (Except.error.inj refused).symm⟩
  | moment form text =>
      exact .inr ⟨by cases form <;> simp [Value.kind], (Except.error.inj refused).symm⟩

lemma exists_of_checked {α : Type} {standard : α} {check : Value → Except Fault α}
    (refused : checked fs name standard check = .error e) :
    ∃ v, Fields.get? fs name = some v ∧ check v = .error e := by
  rw [checked] at refused
  split at refused
  · next v found => exact ⟨v, found, refused⟩
  · cases refused

/-- A check that refuses only mistakes in a value, and the steps behind it. -/
lemma mistake_or_later {α β : Type} {standard : α} {check : Value → Except Fault α}
    {later : α → Except Fault β} (value : ∀ v, check v = .error e → e.mistake = .value)
    (refused : checked fs name standard check >>= later = .error e) :
    e.mistake = .value ∨ ∃ a, later a = .error e := by
  rcases bind_eq_error_iff.mp refused with refused | ⟨a, -, refused⟩
  · obtain ⟨v, -, refused⟩ := exists_of_checked refused
    exact .inl (value v refused)
  · exact .inr ⟨a, refused⟩

/-- **What is refused** is a mistake in a value, apart from names that are no settings
and commands that are no text. -/
lemma mistake_of_ofFields (refused : ofFields fs = .error e) :
    e.mistake = .value ∨ (∃ f ∈ fs, f.1 ∉ names) ∨
      ∃ v, Fields.get? fs "relint_command" = some v ∧ v.kind ∉ ["NoneType", "str"] ∧
        e = .lacks v.kind "strip" := by
  rw [ofFields] at refused
  split at refused
  · next f found =>
    exact .inr (.inl ⟨f, List.mem_of_find?_eq_some found, by simpa using List.find?_some found⟩)
  obtain mistake | ⟨_, refused⟩ := mistake_or_later (fun _ => mistake_of_positive rfl) refused
  · exact .inl mistake
  obtain mistake | ⟨_, refused⟩ := mistake_or_later (fun _ => mistake_of_duration) refused
  · exact .inl mistake
  obtain mistake | ⟨_, refused⟩ := mistake_or_later (fun _ => mistake_of_nonEmpty rfl) refused
  · exact .inl mistake
  obtain mistake | ⟨_, refused⟩ := mistake_or_later (fun _ => mistake_of_mode) refused
  · exact .inl mistake
  obtain mistake | ⟨_, refused⟩ := mistake_or_later (fun _ => mistake_of_rules) refused
  · exact .inl mistake
  obtain mistake | ⟨_, refused⟩ := mistake_or_later (fun _ => mistake_of_positive rfl) refused
  · exact .inl mistake
  obtain mistake | ⟨_, refused⟩ := mistake_or_later (fun _ => mistake_of_positive rfl) refused
  · exact .inl mistake
  rcases bind_eq_error_iff.mp refused with refused | ⟨_, -, refused⟩
  · obtain ⟨v, found, refused⟩ := exists_of_checked refused
    rcases error_of_command refused with rfl | ⟨other, rfl⟩
    · exact .inl rfl
    · exact .inr (.inr ⟨v, found, other, rfl⟩)
  · cases refused

end LintRepair.Config
