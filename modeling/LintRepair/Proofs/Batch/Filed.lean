/-
How a report files the failures of a run.

* `quotientBits_lt`: a share that is not too large has a finite number near it;
* `lookup_tallies`: a tally counts each name as often as it occurs;
* `Files`: a report names the kinds of failures one by one, and counts them;
  `files_of_report`: it does so by their messages;
* `process_filed`: in a run each failure has the cause that it names, and it is filed
  under the kind of that cause just if its wording is legible;
* `process_filed_not`: the name of a rule can divert it.
-/
import LintRepair.Proofs.Batch.Category
import LintRepair.Proofs.Batch.Grounds
import LintRepair.Proofs.Keyed
import Mathlib.Algebra.Group.Nat.Defs
import Mathlib.Data.List.Count

namespace LintRepair

/-! ### Shares -/

namespace Number

lemma lead_bounds (num den : Nat) :
    lead num den ≤ Nat.log2 num - Nat.log2 den ∧
      (Nat.log2 num : Int) - Nat.log2 den - 1 ≤ lead num den := by
  rw [lead]
  split <;> omega

lemma roundDiv_le (num den : Nat) : roundDiv num den ≤ num / den + 1 := by
  rw [roundDiv]
  split
  · omega
  · split <;> omega

/-- A quotient that is not too large is near a finite number. -/
lemma quotientBits_lt {num den : Nat} (bound : num < 2 ^ 200 * den) :
    quotientBits num den < infinityBits := by
  have some' : den ≠ 0 := by
    rintro rfl
    exact absurd bound (Nat.not_lt_zero num)
  rw [quotientBits]
  split
  · decide
  · next positive =>
    dsimp only
    obtain ⟨above, below⟩ := lead_bounds num den
    have low : 2 ^ Nat.log2 num ≤ num := Nat.log2_self_le positive
    have high : num < 2 ^ (Nat.log2 num + 1) := Nat.lt_log2_self
    have low' : 2 ^ Nat.log2 den ≤ den := Nat.log2_self_le some'
    have high' : den < 2 ^ (Nat.log2 den + 1) := Nat.lt_log2_self
    generalize Nat.log2 num = a at *
    generalize Nat.log2 den = b at *
    generalize lead num den = leading at *
    have close : a < 200 + (b + 1) := by
      refine (Nat.pow_lt_pow_iff_right (a := 2) (by decide)).mp ?_
      rw [Nat.pow_add]
      exact low.trans_lt (bound.trans (Nat.mul_lt_mul_of_pos_left high' (Nat.two_pow_pos _)))
    obtain ⟨e, he⟩ : ∃ e, e = max (leading - 52) (-1074) := ⟨_, rfl⟩
    rw [← he]
    -- the mantissa stays within two digits of its place
    have mantissa : num * pow 2 (-e) < 2 ^ 54 * (den * pow 2 e) := by
      have shift : a + 1 + (-e).toNat ≤ 54 + (b + e.toNat) := by omega
      calc num * 2 ^ (-e).toNat
        _ < 2 ^ (a + 1) * 2 ^ (-e).toNat := Nat.mul_lt_mul_of_pos_right high (Nat.two_pow_pos _)
        _ = 2 ^ (a + 1 + (-e).toNat) := (Nat.pow_add ..).symm
        _ ≤ 2 ^ (54 + (b + e.toNat)) := Nat.pow_le_pow_right (by decide) shift
        _ = 2 ^ 54 * (2 ^ b * 2 ^ e.toNat) := by rw [Nat.pow_add, Nat.pow_add]
        _ ≤ 2 ^ 54 * (den * 2 ^ e.toNat) :=
            Nat.mul_le_mul_left _ (Nat.mul_le_mul_right _ low')
    have digits := roundDiv_le (num * pow 2 (-e)) (den * pow 2 e)
    have quotient : num * pow 2 (-e) / (den * pow 2 e) < 2 ^ 54 :=
      Nat.div_lt_of_lt_mul (by rwa [Nat.mul_comm (2 ^ 54)] at mantissa)
    have exponent : (e + 1074).toNat ≤ 2022 := by omega
    have place : (e + 1074).toNat * pow 2 52 ≤ 2022 * 2 ^ 52 := Nat.mul_le_mul_right _ exponent
    have infinite : infinityBits = 2047 * 2 ^ 52 := rfl
    omega

end Number

namespace Batch

open Text Lexical Check Repair
open Processor (Interlude)

variable {s : Surroundings} {job : Job} {l : Ledger} {p q : Processor}
variable {trail : List Processor} {sm : Summary}

/-! ### Tallies -/

/-- One more name is counted once more. -/
lemma tallies_concat (names : List String) (name : String) :
    tallies (names ++ [name]) =
      Keyed.put name (((tallies names).lookup name).getD 0 + 1) (tallies names) := by
  rw [tallies, List.foldl_append]
  rfl

/-- A tally counts each name as often as it occurs. -/
lemma lookup_tallies (names : List String) (name : String) :
    (tallies names).lookup name =
      if names.count name = 0 then none else some (names.count name) := by
  induction names using List.reverseRecOn with
  | nil => rfl
  | append_singleton names last ih =>
      rw [tallies_concat, Keyed.lookup_put, List.count_append]
      by_cases own : name = last
      · subst own
        rw [if_pos rfl, ih, List.count_singleton_self, if_neg (Nat.succ_ne_zero _)]
        split
        · next absent => rw [absent, Option.getD_none]
        · rfl
      · have apart : List.count name [last] = 0 := List.count_eq_zero.mpr (by simpa using own)
        rw [if_neg own, ih, apart, Nat.add_zero]

/-! ### Reports -/

/-- A report files failures under some kinds: it names them one by one, and tells of each
kind that occurs how many there are. -/
structure Files (v : Json.Value) (kinds : List Category) : Prop where
  details : ∃ failures details, v.field? "failed_fixes" = some failures ∧
    failures.field? "details" = some (.array details) ∧
    details.map (·.field? "category") = kinds.map fun k => some (.string k.word)
  reasons : ∃ failures reasons, v.field? "failed_fixes" = some failures ∧
    failures.field? "by_reason" = some reasons ∧
    ∀ k : Category, reasons.field? k.word =
      if kinds.count k = 0 then none else some (.int (kinds.count k))

lemma word_injective : Function.Injective Category.word := by
  intro a b same
  cases a <;> cases b <;> first | rfl | exact absurd same (by decide +kernel)

/-- In a tally of names as JSON. -/
lemma field?_tallyJson (names : List String) (name : String) :
    (tallyJson names).field? name =
      if names.count name = 0 then none else some (.int (names.count name)) := by
  have written : (tallyJson names).field? name =
      ((tallies names).lookup name).map fun n : Nat => Json.Value.int n := by
    rw [tallyJson, Json.Value.field?, Json.Fields.get?]
    exact Keyed.lookup_map (fun n : Nat => Json.Value.int n) (tallies names) name
  rw [written, lookup_tallies]
  split <;> rfl

/-- A report files failures by their messages. -/
lemma files_of_report {f : Facts} {v : Json.Value} (told : f.report = .ok v) :
    Files v (f.failed.map Item.category) := by
  rw [Facts.report] at told
  cases rate : f.successRate with
  | error fault =>
    rw [rate] at told
    cases told
  | ok share =>
    rw [rate] at told
    cases told
    refine ⟨⟨_, _, rfl, rfl, ?_⟩, _, _, rfl, rfl, fun k => ?_⟩
    · rw [List.map_map, List.map_map]
      rfl
    · rw [field?_tallyJson, ← List.count_map_of_injective _ _ word_injective, List.map_map]
      rfl

/-- There is a report on a run, unless it has made very many more repairs than there were
diagnostics. -/
lemma exists_report {r : Result} (time? : Option Json.Quantity)
    (few : r.total = 0 ∨ r.applied.length < 2 ^ 200 * r.total) :
    ∃ v, (r.facts time?).report = .ok v := by
  have rate : ∃ share, (r.facts time?).successRate = .ok share := by
    unfold Facts.successRate
    split
    · exact ⟨_, rfl⟩
    · next some' =>
      have counted : r.total ≠ 0 := fun none => some' (congrArg Int.ofNat none)
      have finite := Number.quotientBits_lt (few.resolve_left counted)
      have near : Number.quotient? (r.facts time?).fixed.value (r.facts time?).total.value =
          some _ := if_neg (Nat.not_le.mpr finite)
      rw [near]
      exact ⟨_, rfl⟩
  obtain ⟨share, rate⟩ := rate
  rw [Facts.report, rate]
  exact ⟨_, rfl⟩

/-! ### Runs -/

/-- **How the failures of a run are filed.** In every accepted run, each failure tells of a
cause, and it is the one that there was: no fixer for the rule was switched on, or else,
on a text to which the run had come, its position was unsafe, the fixer did not take it
on, refused it, made what is no program or raised an error, or the run was cancelled
or halted before its turn. There is a report on the run, unless it has made
some `2 ^ 200` repairs for each diagnostic, which files the failures one by one; and it
files each under the kind of its cause just if the wording of the cause is legible. -/
theorem process_filed {r : Result}
    (run : (process s job p).Runs Interlude trail q (r, some l)) (time? : Option Json.Quantity) :
    (r.total ≠ 0 ∧ 2 ^ 200 * r.total ≤ r.applied.length ∨
      ∃ v, (r.facts time?).report = .ok v ∧ Files v (r.failed.map (·.item.category))) ∧
    ∀ sm ∈ r.failed, ∃ cause, sm.verdict = .failed cause ∧
      Grounds s.accepts p.registry (job.code :: shownTexts trail) (r.fault? = some .cancelled)
        (∃ d fault, Halt d fault ∧ r.fault? = some fault) sm.diagnostic cause ∧
      ∀ k, cause.category? = some k → (sm.item.category = k ↔ cause.Legible sm.diagnostic) := by
  refine ⟨?_, fun sm among => ?_⟩
  · by_cases few : r.total = 0 ∨ r.applied.length < 2 ^ 200 * r.total
    · obtain ⟨v, told⟩ := exists_report time? few
      refine .inr ⟨v, told, ?_⟩
      have files := files_of_report told
      rwa [show (r.facts time?).failed = r.failed.map Summary.item from rfl, List.map_map] at files
    · rw [not_or, Nat.not_lt] at few
      exact .inl few
  · obtain ⟨cause, verdict, grounds⟩ := process_grounded run sm among
    refine ⟨cause, verdict, grounds, fun k kind => ?_⟩
    have worded : sm.item.message = cause.message sm.diagnostic := by
      rw [Summary.item, Summary.message, verdict]
    rw [Item.category, worded]
    exact categorize_message_iff kind

/-- A fixer that takes every diagnostic on, and declines it for a reason. -/
def declining (rule reason : String) : Fixer where
  kind := "Declining"
  rule := rule
  complexity := "simple"
  description := ""
  canFix _ _ := .ok true
  fix code _ := .ok { code, refusal? := some (.declined (some reason)) }
  validates _ _ := true

/-- A processor with such a fixer. -/
def clerk : Processor :=
  .fresh (Registry.empty.registerAll [declining "no-var" "'a' is used outside its block"]) {}

/-- Two diagnostics, of which one has no fixer. -/
def petition : Job where
  code := "var a_b".toList
  diagnostics :=
    [{ rule := some "camelcase", message := "", line := 1, column := 5 },
      { rule := some "no-var", message := "", line := 1, column := 1 }]

lemma prepare_petition :
    clerk.prepare petition.diagnostics =
      [{ rule := some "no-var", message := "", line := 1, column := 1 }] := by
  have first : clerk.registry.isFixable (some "camelcase") = false := rfl
  have second : clerk.registry.isFixable (some "no-var") = true := rfl
  -- Not `petition` as a whole: its code stays closed.
  have listed : petition.diagnostics =
    [{ rule := some "camelcase", message := "", line := 1, column := 5 },
      { rule := some "no-var", message := "", line := 1, column := 1 }] := rfl
  rw [Processor.prepare, listed]
  simp [first, second]

lemma finish_petition :
    (process lenient petition clerk).finish.2.1.failed.map (·.item.category) =
        [.noFixer, .fixerLimitation] ∧
      (process lenient petition clerk).finish.2.1.applied.length = 0 ∧
      (process lenient petition clerk).finish.2.1.total = 2 := by
  rw [process_idle rfl, work_onePass rfl, pass_eq,
    Processor.prepare_congr (openRun_registry _ _ _), prepare_petition]
  decide +kernel

theorem petition_filed : ∃ trail q l r v,
    (process lenient petition clerk).Runs Interlude trail q (r, some l) ∧
    (r.facts none).report = .ok v ∧ Files v [.noFixer, .fixerLimitation] ∧
    ∀ sm ∈ r.failed, ∃ cause, sm.verdict = .failed cause ∧
      ∀ k, cause.category? = some k → (sm.item.category = k ↔ cause.Legible sm.diagnostic) := by
  obtain ⟨trail, l, run⟩ := exists_run lenient petition (p := clerk) rfl
  obtain ⟨kinds, applied, total⟩ := finish_petition
  obtain ⟨report, filed⟩ := process_filed run none
  have few : ¬ 2 ^ 200 * (process lenient petition clerk).finish.2.1.total ≤
      (process lenient petition clerk).finish.2.1.applied.length := by
    rw [applied, total, Nat.not_le]
    exact Nat.mul_pos (Nat.two_pow_pos 200) Nat.two_pos
  rw [kinds] at report
  obtain ⟨v, told, files⟩ := report.resolve_left fun many => few many.2
  refine ⟨trail, _, l, _, v, run, told, files, fun sm among => ?_⟩
  obtain ⟨cause, verdict, -, legible⟩ := filed sm among
  exact ⟨cause, verdict, legible⟩

/-- A processor without fixers. -/
def unequipped : Processor := .fresh Registry.empty {}

/-- A diagnostic of a rule with a telling name. -/
def ban : Job where
  code := "with (a) b();".toList
  diagnostics :=
    [{ rule := some "no-restricted-syntax", message := "Using 'WithStatement' is not allowed."
       line := 1, column := 1 }]

lemma prepare_ban : unequipped.prepare ban.diagnostics = [] := by
  have none (d : Diagnostic) : unequipped.registry.isFixable d.rule = false := by
    cases d.rule <;> rfl
  simp only [Processor.prepare, none, List.filter_false, List.mergeSort_nil]

lemma finish_ban :
    (process lenient ban unequipped).finish.2.1.failed.map
      (fun sm => (sm.diagnostic.rule, sm.item.category)) =
        [(some "no-restricted-syntax", .validationError)] := by
  rw [process_idle rfl, work_onePass rfl, pass_eq,
    Processor.prepare_congr (openRun_registry _ _ _), prepare_ban]
  decide +kernel

/-- Not every failure of a rule without a fixer is filed as that. -/
theorem process_filed_not : ¬ ∀ (s : Surroundings) (job : Job) (p q : Processor)
    (trail : List Processor) (r : Result) (l : Ledger),
    (process s job p).Runs Interlude trail q (r, some l) →
      ∀ sm ∈ r.failed, p.registry.fixer? sm.diagnostic.rule = none →
        sm.item.category = .noFixer := by
  intro all
  obtain ⟨trail, l, run⟩ := exists_run lenient ban (p := unequipped) rfl
  have filed : (some "no-restricted-syntax", Category.validationError) ∈
      (process lenient ban unequipped).finish.2.1.failed.map
        (fun sm => (sm.diagnostic.rule, sm.item.category)) := by
    rw [finish_ban]
    exact List.mem_singleton_self _
  obtain ⟨sm, among, same⟩ := List.mem_map.mp filed
  obtain ⟨rule, kind⟩ := Prod.mk.inj same
  have wanted := all _ _ _ _ _ _ _ run sm among (by rw [rule]; rfl)
  rw [kind] at wanted
  cases wanted

end Batch

end LintRepair
