/-
Lists under distinct names.

* `Keyed.Distinct`: no name is used twice; `Distinct.put`: writing a value keeps that;
* `Keyed.lookup_filter`: what is found among values under certain names;
* `Keyed.Distinct.lookup_eq_some_iff`: what is found under a name is then what stands
  there.
-/
import LintRepair.Keyed
import Mathlib.Data.List.Nodup

namespace LintRepair.Keyed

variable {α : Type} {l : Keyed α} {name : String} {a : α}

/-- No name is used twice. -/
def Distinct (l : Keyed α) : Prop := (l.map Prod.fst).Nodup

instance : Decidable (Distinct l) := inferInstanceAs (Decidable (l.map Prod.fst).Nodup)

/-- A value is written in its place, or behind all others. -/
lemma map_fst_put (name : String) (a : α) (l : Keyed α) :
    (put name a l).map Prod.fst =
      if name ∈ l.map Prod.fst then l.map Prod.fst else l.map Prod.fst ++ [name] := by
  induction l with
  | nil => simp [put]
  | cons e rest ih =>
      obtain ⟨n, b⟩ := e
      rw [put]
      by_cases here : n = name
      · simp [here]
      · rw [if_neg here, List.map_cons, ih]
        by_cases later : name ∈ rest.map Prod.fst
        · simp [later]
        · simp [later, Ne.symm here]

/-- What holds of all values under their names holds after one more is written. -/
lemma forall_mem_put {P : String × α → Prop} (all : ∀ e ∈ l, P e) (own : P (name, a)) :
    ∀ e ∈ put name a l, P e := by
  induction l with
  | nil => simpa [put] using own
  | cons e rest ih =>
      obtain ⟨n, b⟩ := e
      rw [List.forall_mem_cons] at all
      rw [put]
      split
      · next here => exact List.forall_mem_cons.mpr ⟨here ▸ own, all.2⟩
      · exact List.forall_mem_cons.mpr ⟨all.1, ih all.2⟩

lemma Distinct.put (h : Distinct l) (name : String) (a : α) : Distinct (put name a l) := by
  rw [Distinct, map_fst_put]
  split
  · exact h
  · next absent => exact List.concat_eq_append ▸ h.concat absent

lemma Distinct.filter (h : Distinct l) (p : String × α → Bool) : Distinct (l.filter p) :=
  h.sublist (List.filter_sublist.map Prod.fst)

/-- What is found among changed values is the change of what is found. -/
lemma lookup_map {β : Type} (f : α → β) (l : Keyed α) (name : String) :
    (l.map fun e => (e.1, f e.2)).lookup name = (l.lookup name).map f := by
  induction l with
  | nil => rfl
  | cons e rest ih =>
      rw [List.map_cons, lookup_cons, lookup_cons, ih]
      split <;> rfl

lemma lookup_eq_none_of_notMem (absent : name ∉ l.map Prod.fst) : l.lookup name = none := by
  refine List.lookup_eq_none_iff.mpr fun e among => ?_
  rw [bne_iff_ne]
  rintro rfl
  exact absent (List.mem_map_of_mem among)

lemma lookup_filter (p : String → Bool) (l : Keyed α) (name : String) :
    (l.filter fun e => p e.1).lookup name = if p name then l.lookup name else none := by
  induction l with
  | nil => simp
  | cons e rest ih =>
      rw [lookup_cons]
      by_cases here : name = e.1
      · by_cases kept : p e.1 = true
        · simp [kept, here, lookup_cons]
        · simpa [kept, here] using ih
      · by_cases kept : p e.1 = true
        · simp [kept, here, lookup_cons, ih]
        · simp [kept, here, ih]

/-- A value may be added under a name without one. -/
lemma Distinct.concat (h : Distinct l) (absent : l.lookup name = none) (a : α) :
    Distinct (l ++ [(name, a)]) := by
  have unused : name ∉ l.map Prod.fst := by
    intro used
    obtain ⟨e, stands, rfl⟩ := List.mem_map.mp used
    simpa using List.lookup_eq_none_iff.mp absent e stands
  rw [Distinct, List.map_append, List.map_singleton]
  exact List.concat_eq_append ▸ List.Nodup.concat unused h

/-- Under distinct names a value is found exactly where it stands. -/
lemma Distinct.lookup_eq_some_iff (h : Distinct l) : l.lookup name = some a ↔ (name, a) ∈ l := by
  refine ⟨mem_of_lookup, fun stands => ?_⟩
  obtain ⟨before, after, rfl⟩ := List.append_of_mem stands
  refine List.lookup_eq_some_iff.mpr ⟨before, after, rfl, fun e among => ?_⟩
  rw [Distinct, List.map_append, List.nodup_append] at h
  have other := h.2.2 e.1 (List.mem_map_of_mem among) name (by simp)
  simpa using other.symm

end LintRepair.Keyed
