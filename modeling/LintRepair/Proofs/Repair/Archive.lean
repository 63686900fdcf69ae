/-
Archives that differ in the numbers of their records only.

* `Archive.revert_limit`: taking a repair back keeps the limit of an archive;
* `Archive.Alike`: the same limit and snapshots, and the same records but for their
  serial numbers;
* `Alike.takeSnapshot`, `Alike.record`, `Alike.clear`: what is kept keeps archives
  alike;
* `Alike.revert`: the latest repair is taken back from both, or from neither.
-/
import Mathlib.Tactic.Common
import LintRepair.Repair.Archive

namespace LintRepair.Repair

open Text Check

/-- A record without its serial number. -/
def Record.unnumbered (r : Record) : Record := { r with serial := 0 }

namespace Archive

variable {accepts : Acceptor} {a b : Archive} {code : Text}

lemma revert_limit {after : Text} {given : Option Record}
    (h : a.revert accepts code given = .ok (after, b)) : b.limit = a.limit := by
  rw [revert] at h
  split at h
  · cases h
  split at h
  · cases h
  split at h <;> cases h <;> rfl

/-- The latest repair is taken back if there is one, and then forgotten. -/
lemma revert_latest (accepts : Acceptor) (a : Archive) (code : Text) :
    a.revert accepts code none =
      match a.records.getLast? with
      | none => .error .noRecord
      | some r => (undo accepts code r).map fun after =>
          (after, { a with records := a.records.dropLast }) := by
  have latest : (none <|> a.records.getLast?) = a.records.getLast? := rfl
  rw [revert, latest]
  cases a.records.getLast? with
  | none => rfl
  | some r =>
      dsimp only
      cases undo accepts code r with
      | error fault => rfl
      | ok after => exact if_pos rfl

/-- Which records are within a limit does not depend on what they say. -/
lemma map_within (f : Record → Record) (limit : Int) (rs : List Record) :
    (within limit rs).map f = within limit (rs.map f) := by
  rw [within, within, List.length_map]
  split
  · exact List.map_tail
  · rfl

/-- Two archives that differ in the serial numbers of their records at most. -/
structure Alike (a b : Archive) : Prop where
  limit : b.limit = a.limit
  records : b.records.map Record.unnumbered = a.records.map Record.unnumbered
  snapshots : b.snapshots = a.snapshots

namespace Alike

lemma snapshot? (h : a.Alike b) (name : String) : b.snapshot? name = a.snapshot? name := by
  rw [Archive.snapshot?, Archive.snapshot?, h.snapshots]

lemma takeSnapshot (h : a.Alike b) (name : String) (code : Text) :
    (a.takeSnapshot name code).Alike (b.takeSnapshot name code) where
  limit := h.limit
  records := h.records
  snapshots := by rw [Archive.takeSnapshot, Archive.takeSnapshot, h.snapshots]

lemma record (h : a.Alike b) {r r' : Record} (same : r'.unnumbered = r.unnumbered) :
    (a.record r).Alike (b.record r') where
  limit := h.limit
  records := by
    rw [Archive.record, Archive.record, map_within, map_within, List.map_append, List.map_append,
      h.records, h.limit, List.map_singleton, List.map_singleton, same]
  snapshots := h.snapshots

/-- Archives with the same limit are alike when they have been cleared. -/
lemma clear (h : b.limit = a.limit) : a.clear.Alike b.clear := ⟨h, rfl, rfl⟩

/-- The latest records of archives that are alike. -/
lemma getLast? (h : a.Alike b) :
    b.records.getLast?.map Record.unnumbered = a.records.getLast?.map Record.unnumbered := by
  rw [← List.getLast?_map, ← List.getLast?_map, h.records]

/-- The latest repair is taken back from both archives, with the same text and so
that they stay alike, or it cannot be taken back from either of them. -/
lemma revert (h : a.Alike b) (accepts : Acceptor) (code : Text) :
    (∃ fault, a.revert accepts code none = .error fault ∧
      b.revert accepts code none = .error fault) ∨
    ∃ after a' b', a.revert accepts code none = .ok (after, a') ∧
      b.revert accepts code none = .ok (after, b') ∧ a'.Alike b' := by
  have last := h.getLast?
  rw [revert_latest, revert_latest]
  cases ha : a.records.getLast? with
  | none =>
      rw [ha, Option.map_none, Option.map_eq_none_iff] at last
      exact .inl ⟨.noRecord, rfl, by rw [last]⟩
  | some r =>
      rw [ha, Option.map_some] at last
      obtain ⟨r', hb, same⟩ := Option.map_eq_some_iff.mp last
      have undone : undo accepts code r' = undo accepts code r := by
        -- the number of a record does not show when it is taken back
        calc undo accepts code r'
          _ = undo accepts code r'.unnumbered := rfl
          _ = undo accepts code r.unnumbered := by rw [same]
          _ = undo accepts code r := rfl
      rw [hb]
      dsimp only
      rw [undone]
      cases undo accepts code r with
      | error fault => exact .inl ⟨fault, rfl, rfl⟩
      | ok after =>
          refine .inr ⟨after, _, _, rfl, rfl, h.limit, ?_, h.snapshots⟩
          simpa [List.map_dropLast] using congrArg List.dropLast h.records

end Alike

end Archive

end LintRepair.Repair
