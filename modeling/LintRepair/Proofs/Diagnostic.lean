/-
Diagnostics as JSON and back.

* `Diagnostic.Settled`: the ends of a diagnostic are there or not, but they are not null, with
  `Diagnostic.settled_iff`: such diagnostics are those that are read;
* `Diagnostic.Settled.ofJson_toJson`: each of them is read from the object that is written for it;
* `EntryOf`, `ReportOf`: the messages of an entry of a report, and of a report;
* `diagnosticsOf_eq`: a report is read as its messages are, one after the other, with
  `exists_reportOf`: nothing else is read;
* `diagnosticsOf_survives`: diagnostics survive being written, in a report of whatever shape.
-/
import LintRepair.Diagnostic.Json
import LintRepair.Proofs.Outcome
import Mathlib.Tactic.Common

namespace LintRepair

open Json

variable {v : Value} {d : Diagnostic} {ds : List Diagnostic} {ms : List Value}

/-! ### One diagnostic -/

/-- The ends of a diagnostic are there or not, but they are not null. -/
structure Diagnostic.Settled (d : Diagnostic) : Prop where
  endLine : d.endLine ≠ some .null
  endColumn : d.endColumn ≠ some .null

/-- What is read has its ends in order. -/
lemma Diagnostic.settled_of_ofJson (ok : Diagnostic.ofJson v = .ok d) : d.Settled := by
  unfold Diagnostic.ofJson at ok
  split at ok
  · split at ok
    · obtain rfl := Except.ok.inj ok
      exact ⟨Value.present?_ne_null _, Value.present?_ne_null _⟩
    · cases ok
  · cases ok

/-- The word for a severity stands for it. -/
lemma Severity.ofJson_word (s : Severity) : Severity.ofJson (some (.string s.word)) = s := by
  cases s <;> rfl

/-- **A diagnostic survives**: it is read from the object that is written for it. Only the ends
are fields that this object may lack, and those that it lacks are missing. -/
lemma Diagnostic.Settled.ofJson_toJson (h : d.Settled) : Diagnostic.ofJson d.toJson = .ok d := by
  have line : (d.toJson.field? "line").bind Whole.ofJson? = some d.line :=
    Whole.ofJson?_toJson d.line
  have column : (d.toJson.field? "column").bind Whole.ofJson? = some d.column :=
    Whole.ofJson?_toJson d.column
  have rule : eitherField d.toJson "ruleId" "rule_id" = some (ruleJson d.rule) := rfl
  have message : d.toJson.field? "message" = some (.string d.message) := rfl
  have severity : d.toJson.field? "severity" = some (.string d.severity.word) := rfl
  have endLine : eitherField d.toJson "endLine" "end_line" = d.endLine := by
    rw [toJson]
    cases d.endLine <;> cases d.endColumn <;> rfl
  have endColumn : eitherField d.toJson "endColumn" "end_column" = d.endColumn := by
    rw [toJson]
    cases d.endLine <;> cases d.endColumn <;> rfl
  obtain ⟨fs, object⟩ : ∃ fs, d.toJson = .object fs := ⟨_, rfl⟩
  rw [object] at line column rule message severity endLine endColumn ⊢
  rw [Diagnostic.ofJson, line, column, rule, message, severity, endLine, endColumn,
    Severity.ofJson_word, Value.present?_of_ne_null h.endLine,
    Value.present?_of_ne_null h.endColumn]
  clear * -
  obtain ⟨rule⟩ := d
  cases rule <;> rfl

/-- The diagnostics that are read are those whose ends are in order. -/
lemma Diagnostic.settled_iff : d.Settled ↔ ∃ v, Diagnostic.ofJson v = .ok d :=
  ⟨fun h => ⟨d.toJson, h.ofJson_toJson⟩, fun ⟨_, ok⟩ => settled_of_ofJson ok⟩

/-- Diagnostics that are written one by one are read one by one. -/
lemma mapM_ofJson_toJson (settled : ∀ d ∈ ds, d.Settled) :
    (ds.map Diagnostic.toJson).mapM Diagnostic.ofJson = .ok ds := by
  refine mapM_of_forall₂ ?_
  rw [List.forall₂_map_left_iff, List.forall₂_same]
  exact fun d among => (settled d among).ofJson_toJson

/-! ### Reports -/

/-- The messages of an entry of a report: those of a result, or the entry itself. -/
inductive EntryOf : Value → List Value → Prop
  | result {v : Value} {ms : List Value} (holds : v.field? "messages" = some (.array ms)) :
    EntryOf v ms
  | message {v : Value} (bare : v.field? "messages" = none) : EntryOf v [v]

/-- The messages of a report: those of one result, or of its entries one after the other. -/
inductive ReportOf : Value → List Value → Prop
  | result {v : Value} {ms : List Value} (holds : v.field? "messages" = some (.array ms)) :
    ReportOf v ms
  | entries {es : List Value} {mss : List (List Value)} (each : List.Forall₂ EntryOf es mss) :
    ReportOf (.array es) mss.flatten

lemma diagnosticsOfEntry_eq (h : EntryOf v ms) :
    diagnosticsOfEntry v = ms.mapM Diagnostic.ofJson := by
  rw [diagnosticsOfEntry]
  cases h with
  | result holds => rw [holds]
  | message bare =>
      rw [bare, List.mapM_cons, List.mapM_nil]
      rfl

/-- An entry of which diagnostics are read has messages. -/
lemma exists_entryOf (ok : diagnosticsOfEntry v = .ok ds) : ∃ ms, EntryOf v ms := by
  rw [diagnosticsOfEntry] at ok
  split at ok
  · next ms holds => exact ⟨ms, .result holds⟩
  · cases ok
  · next bare => exact ⟨[v], .message bare⟩

/-- Only objects have fields. -/
lemma exists_object {key : String} {field : Value} (holds : v.field? key = some field) :
    ∃ fs, v = .object fs := by
  cases v with
  | object fs => exact ⟨fs, rfl⟩
  | _ => cases holds

/-- **A report is read as its messages are**, one after the other. -/
lemma diagnosticsOf_eq (h : ReportOf v ms) : diagnosticsOf v = ms.mapM Diagnostic.ofJson := by
  cases h with
  | result holds =>
      obtain ⟨fs, rfl⟩ := exists_object holds
      rw [diagnosticsOf, if_pos (by rw [holds]; rfl)]
      exact diagnosticsOfEntry_eq (.result holds)
  | @entries es mss each =>
      have same : es.mapM diagnosticsOfEntry = mss.mapM (List.mapM Diagnostic.ofJson) := by
        induction each with
        | nil => rfl
        | cons head _ ih => rw [List.mapM_cons, List.mapM_cons, diagnosticsOfEntry_eq head, ih]
      rw [diagnosticsOf, same, mapM_flatten]

/-- What is read is such a report. -/
lemma exists_reportOf (ok : diagnosticsOf v = .ok ds) : ∃ ms, ReportOf v ms := by
  unfold diagnosticsOf at ok
  split at ok
  · split_ifs at ok with isResult
    obtain ⟨ms, entry⟩ := exists_entryOf ok
    cases entry with
    | result holds => exact ⟨ms, .result holds⟩
    | message bare =>
        rw [bare] at isResult
        cases isResult
  · next es =>
    obtain ⟨dss, mapped, -⟩ := exists_of_bind_eq_ok ok
    have each : List.Forall₂ (fun e ds => diagnosticsOfEntry e = .ok ds) es dss :=
      forall₂_of_mapM mapped
    suffices some' : ∃ mss, List.Forall₂ EntryOf es mss by
      obtain ⟨mss, each⟩ := some'
      exact ⟨mss.flatten, .entries each⟩
    clear ok mapped
    induction each with
    | nil => exact ⟨[], .nil⟩
    | cons head _ ih =>
        obtain ⟨ms, first⟩ := exists_entryOf head
        obtain ⟨mss, others⟩ := ih
        exact ⟨ms :: mss, .cons first others⟩
  · cases ok

/-- A list of messages is a report of them. -/
lemma reportOf_of_bare (bare : ∀ m ∈ ms, m.field? "messages" = none) : ReportOf (.array ms) ms := by
  have each : List.Forall₂ EntryOf ms (ms.map ([·])) := by
    rw [List.forall₂_map_right_iff, List.forall₂_same]
    exact fun m among => .message (bare m among)
  have whole : (ms.map ([·])).flatten = ms := by
    rw [← List.flatMap_def, List.flatMap_singleton']
  have report := ReportOf.entries each
  rwa [whole] at report

/-- The object that is written for a diagnostic is no result. -/
lemma Diagnostic.field?_messages_toJson (d : Diagnostic) : d.toJson.field? "messages" = none := by
  rw [toJson]
  cases d.endLine <;> cases d.endColumn <;> rfl

/-- Reports put together are read one after the other. -/
lemma diagnosticsOf_append (es es' : List Value) :
    diagnosticsOf (.array (es ++ es')) = do
      let ds ← diagnosticsOf (.array es)
      let ds' ← diagnosticsOf (.array es')
      return ds ++ ds' := by
  simp [diagnosticsOf]

/-- **Diagnostics survive being written.** A diagnostic that was read is read again from the
object that is written for it. So are any number of them, in their order, from a list of their
objects, from one result with these as its messages, and from results and messages in whatever
order that hold these one after the other; and nothing is read but what is such a report of
messages that are read. Of two reports put together the diagnostics of both are read, and if
there is a fault in either of them there is one in both together. -/
theorem diagnosticsOf_survives :
    (∀ v d, Diagnostic.ofJson v = .ok d → Diagnostic.ofJson d.toJson = .ok d) ∧
    (∀ ds : List Diagnostic, (∀ d ∈ ds, ∃ v, Diagnostic.ofJson v = .ok d) →
      diagnosticsOf (.array (ds.map Diagnostic.toJson)) = .ok ds ∧
      (∀ v, v.field? "messages" = some (.array (ds.map Diagnostic.toJson)) →
        diagnosticsOf v = .ok ds) ∧
      ∀ es mss, List.Forall₂ EntryOf es mss → mss.flatten = ds.map Diagnostic.toJson →
        diagnosticsOf (.array es) = .ok ds) ∧
    (∀ v ds, diagnosticsOf v = .ok ds ↔
      ∃ ms, ReportOf v ms ∧ List.Forall₂ (fun m d => Diagnostic.ofJson m = .ok d) ms ds) ∧
    ∀ es es',
      (∀ ds ds', diagnosticsOf (.array es) = .ok ds → diagnosticsOf (.array es') = .ok ds' →
        diagnosticsOf (.array (es ++ es')) = .ok (ds ++ ds')) ∧
      ((∃ fault, diagnosticsOf (.array (es ++ es')) = .error fault) ↔
        (∃ fault, diagnosticsOf (.array es) = .error fault) ∨
          ∃ fault, diagnosticsOf (.array es') = .error fault) := by
  refine ⟨fun v d ok => (Diagnostic.settled_of_ofJson ok).ofJson_toJson, fun ds ok => ?_,
    fun v ds => ?_, fun es es' => ?_⟩
  · have settled : ∀ d ∈ ds, d.Settled := fun d among => Diagnostic.settled_iff.mpr (ok d among)
    have written := mapM_ofJson_toJson settled
    have bare : ∀ m ∈ ds.map Diagnostic.toJson, m.field? "messages" = none :=
      List.forall_mem_map.mpr fun d _ => d.field?_messages_toJson
    refine ⟨?_, fun v holds => ?_, fun es mss each whole => ?_⟩
    · rw [diagnosticsOf_eq (reportOf_of_bare bare), written]
    · rw [diagnosticsOf_eq (.result holds), written]
    · rw [diagnosticsOf_eq (.entries each), whole, written]
  · constructor
    · intro ok
      obtain ⟨ms, report⟩ := exists_reportOf ok
      rw [diagnosticsOf_eq report] at ok
      exact ⟨ms, report, forall₂_of_mapM ok⟩
    · rintro ⟨ms, report, each⟩
      rw [diagnosticsOf_eq report, mapM_of_forall₂ each]
  · rw [diagnosticsOf_append]
    cases diagnosticsOf (.array es) with
    | error fault => simp [bind, Except.bind]
    | ok ds => cases diagnosticsOf (.array es') <;> simp [bind, Except.bind, pure, Except.pure]

/-- A message with a flag for a line, no end line and an end column. -/
def flagged : Value := .object [("rule_id", .string "semi"), ("line", .bool true),
  ("column", .int 3), ("endLine", .null), ("end_line", .int 2), ("end_column", .int 4),
  ("severity", .int 1)]

theorem diagnosticsOf_survives_flagged : ∃ d, Diagnostic.ofJson flagged = .ok d ∧
    Diagnostic.ofJson d.toJson = .ok d ∧
    diagnosticsOf (.object [("messages", .array [d.toJson, d.toJson])]) = .ok [d, d] ∧
    diagnosticsOf (.array [.object [("messages", .array [d.toJson])], d.toJson]) = .ok [d, d] ∧
    diagnosticsOf (.array ([flagged] ++ [d.toJson])) = .ok ([d] ++ [d]) := by
  obtain ⟨one, many, -, both⟩ := diagnosticsOf_survives
  let d : Diagnostic :=
    { rule := some "semi", message := "", line := .flag true, column := 3
      endColumn := some (.int 4), severity := .warning }
  have ok : Diagnostic.ofJson flagged = .ok d := rfl
  have all : ∀ d' ∈ [d, d], ∃ v, Diagnostic.ofJson v = .ok d' := by
    intro d' among
    obtain rfl : d' = d := by simpa using among
    exact ⟨flagged, ok⟩
  obtain ⟨-, result, entries⟩ := many [d, d] all
  refine ⟨d, ok, one flagged d ok, result _ rfl, ?_, (both [flagged] [d.toJson]).1 [d] [d] rfl rfl⟩
  exact entries _ [[d.toJson], [d.toJson]] (.cons (.result rfl) (.cons (.message rfl) .nil)) rfl

end LintRepair
