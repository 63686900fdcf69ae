/-
The account of a run by one pass: every diagnostic is either repaired or
failed, once.

* `Settles`: what a part of a run enters for the diagnostics it is about;
* `Turns.settles`: the turns of some diagnostics settle each of them, in their
  order, however they end;
* `process_accounts`: so does every run by one pass, and the repairs come
  bottom to top.
-/
import LintRepair.Batch.Json
import LintRepair.Proofs.Batch.Replay

namespace LintRepair

/-- One position is further down than another, or on its line and not to the
left of it. -/
def Identity.Behind (a b : Identity) : Prop :=
  b.line < a.line ∨ b.line = a.line ∧ b.column ≤ a.column

lemma Identity.Behind.trans {a b c : Identity} (h : a.Behind b) (h' : b.Behind c) :
    a.Behind c := by
  rw [Behind] at *
  omega

lemma Identity.behind_total (a b : Identity) : a.Behind b ∨ b.Behind a := by
  rw [Behind, Behind]
  omega

lemma Identity.Behind.line_le {a b : Identity} (h : a.Behind b) : b.line ≤ a.line := by
  rw [Behind] at h
  omega

namespace Batch

open scoped List
open Text Lexical Check Repair
open Processor (Interlude)

variable {accepts : Acceptor} {registry : Registry}
variable {s : Surroundings} {job : Job} {l m n : Ledger} {p q : Processor}
variable {trail : List Processor} {ds es : List Diagnostic}

/-! ### The order of turns -/

lemma before_iff {a b : Diagnostic} :
    Processor.before a b = true ↔ Identity.Behind a.identity b.identity := by
  simp only [Processor.before, Identity.Behind, Diagnostic.identity, Bool.or_eq_true,
    Bool.and_eq_true, decide_eq_true_eq, beq_iff_eq]
  constructor
  · rintro (h | ⟨h, h'⟩)
    · exact .inl h
    · exact .inr ⟨h.symm, h'⟩
  · rintro (h | ⟨h, h'⟩)
    · exact .inl h
    · exact .inr ⟨h.symm, h'⟩

lemma before_trans (a b c : Diagnostic) (h : Processor.before a b = true)
    (h' : Processor.before b c = true) : Processor.before a c = true :=
  before_iff.mpr ((before_iff.mp h).trans (before_iff.mp h'))

lemma before_total (a b : Diagnostic) : (Processor.before a b || Processor.before b a) = true := by
  rw [Bool.or_eq_true, before_iff, before_iff]
  exact Identity.behind_total a.identity b.identity

/-- Turns are taken bottom to top, and right to left. -/
lemma pairwise_prepare (p : Processor) (ds : List Diagnostic) :
    ((p.prepare ds).map Diagnostic.identity).Pairwise Identity.Behind := by
  have sorted := List.pairwise_mergeSort before_trans before_total
    (ds.filter fun d => p.registry.isFixable d.rule)
  rw [List.pairwise_map]
  exact sorted.imp before_iff.mp

/-- Every diagnostic either has no fixer or gets a turn. -/
lemma unfixable_append_prepare_perm (p : Processor) (ds : List Diagnostic) :
    (p.unfixable ds ++ p.prepare ds).Perm ds := by
  have parted := List.filter_append_perm (fun d => p.registry.isFixable d.rule) ds
  have sorted : (p.prepare ds).Perm (ds.filter fun d => p.registry.isFixable d.rule) :=
    List.mergeSort_perm _ _
  calc p.unfixable ds ++ p.prepare ds
    _ ~ p.unfixable ds ++ ds.filter fun d => p.registry.isFixable d.rule := sorted.append_left _
    _ ~ (ds.filter fun d => p.registry.isFixable d.rule) ++ p.unfixable ds := List.perm_append_comm
    _ ~ ds := parted

/-! ### Diagnostics that are settled -/

/-- Between two moments of a run some diagnostics are settled: each is entered
once, as repaired or as failed, and those that are repaired in their order. -/
structure Settles (ds : List Diagnostic) (l m : Ledger) : Prop where
  entered : ∃ repaired failed, m.applied = l.applied ++ repaired ∧ m.failed = l.failed ++ failed ∧
    ((repaired ++ failed).map Summary.identity).Perm (ds.map Diagnostic.identity) ∧
    (repaired.map Summary.identity).Sublist (ds.map Diagnostic.identity)
  total : m.total = l.total

/-- Of two lists that are each in two parts, the parts go together in pairs. -/
lemma append_append_perm {α : Type} (a b c d : List α) :
    (a ++ b ++ (c ++ d)).Perm (a ++ c ++ (b ++ d)) := by
  rw [List.append_assoc, List.append_assoc]
  refine List.Perm.append_left a ?_
  rw [← List.append_assoc, ← List.append_assoc]
  exact List.Perm.append_right d List.perm_append_comm

lemma Settles.nil (l : Ledger) : Settles [] l l :=
  ⟨⟨[], [], by simp, by simp, by simp, by simp⟩, rfl⟩

/-- What is settled in two parts is settled in all. -/
lemma Settles.append (h : Settles ds l m) (h' : Settles es m n) : Settles (ds ++ es) l n := by
  obtain ⟨⟨repaired, failed, applied, grown, perm, sub⟩, total⟩ := h
  obtain ⟨⟨repaired', failed', applied', grown', perm', sub'⟩, total'⟩ := h'
  refine ⟨⟨repaired ++ repaired', failed ++ failed', ?_, ?_, ?_, ?_⟩, total'.trans total⟩
  · rw [applied', applied, List.append_assoc]
  · rw [grown', grown, List.append_assoc]
  · have mixed := append_append_perm repaired repaired' failed failed'
    have parts := perm.append perm'
    rw [← List.map_append, ← List.map_append] at parts
    exact (mixed.map Summary.identity).trans parts
  · rw [List.map_append, List.map_append]
    exact sub.append sub'

/-- Diagnostics that get no turn are settled by failures. -/
lemma settles_failAll (l : Ledger) (cause : Cause) (ds : List Diagnostic) :
    Settles ds l (l.failAll cause ds) := by
  refine ⟨⟨[], ds.map fun d => .failure d cause [], by simp [Ledger.failAll], rfl, ?_, ?_⟩, rfl⟩
  · rw [List.nil_append, List.map_map]
    exact .refl _
  · exact List.nil_sublist _

/-- A turn settles its diagnostic. -/
lemma Settled.settles {d : Diagnostic} (h : Settled accepts d l p m q) : Settles [d] l m := by
  refine ⟨?_, h.total⟩
  cases h.outcome with
  | repaired sm about _ _ applied failed _ =>
      subst about
      exact ⟨[sm], [], applied, by simp [failed], .refl _, .refl _⟩
  | failed sm about _ applied failed _ =>
      subst about
      exact ⟨[], [sm], by simp [applied], failed, .refl _, List.nil_sublist _⟩

/-- Of the earlier moment only the summaries and the total matter. -/
lemma Settles.congr (h : Settles ds l n) (applied : m.applied = l.applied)
    (failed : m.failed = l.failed) (total : m.total = l.total) : Settles ds m n where
  entered := by
    rw [applied, failed]
    exact h.entered
  total := h.total.trans total.symm

/-- The turns of some diagnostics settle them, whether they go through or are
halted or cancelled. -/
lemma Turns.settles {e : Ending} (h : Turns s ds l p trail m q e) (sound : Sound s.accepts l p) :
    Settles ds l m := by
  induction h with
  | done l p => exact .nil l
  | cancelled _ d ds l => exact settles_failAll l .cancelled (d :: ds)
  | halted _ _ d ds => exact settles_failAll _ .skipped (d :: ds)
  | @turn l _ p _ _ _ _ _ d _ _ wait _ ih =>
      have head : Settles [d] l (fixOne s d l p).2 :=
        (fixOne_settled sound d).settles.congr rfl rfl rfl
      exact head.append (ih (sound.turn wait))

end Batch

end LintRepair
