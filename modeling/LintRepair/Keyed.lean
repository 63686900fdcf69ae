/-
Lists of values under names, in the order in which the names were first used.

* `Keyed.put`: writes a value, in its place if the name is there and at the end
  if not;
* `lookup_cons`, `lookup_put`: what can be looked up afterwards.
-/

namespace LintRepair

/-- Values under names. -/
abbrev Keyed (α : Type) := List (String × α)

namespace Keyed

variable {α : Type}

/-- The list with a value written under a name. -/
def put (name : String) (a : α) : Keyed α → Keyed α
  | [] => [(name, a)]
  | (n, b) :: rest => if n = name then (n, a) :: rest else (n, b) :: put name a rest

theorem lookup_cons (e : String × α) (l : Keyed α) (name : String) :
    List.lookup name (e :: l) = if name = e.1 then some e.2 else List.lookup name l := by
  obtain ⟨n, b⟩ := e
  rw [List.lookup_cons]
  by_cases h : name = n
  · simp [h]
  · have : (name == n) = false := by simp [h]
    simp [this, h]

theorem lookup_put (name other : String) (a : α) (l : Keyed α) :
    List.lookup other (put name a l) =
      if other = name then some a else List.lookup other l := by
  induction l with
  | nil => simp [put, lookup_cons]
  | cons e rest ih =>
    obtain ⟨n, b⟩ := e
    rw [put]
    split
    · next hn => by_cases h : other = n <;> simp_all [lookup_cons]
    · next hn =>
      rw [lookup_cons, lookup_cons, ih]
      by_cases h : other = n
      · subst h
        simp [hn]
      · simp [h]

theorem mem_of_lookup {κ : Type} [BEq κ] [LawfulBEq κ] {k : κ} {a : α} {l : List (κ × α)}
    (h : List.lookup k l = some a) : (k, a) ∈ l := by
  induction l with
  | nil => simp at h
  | cons e rest ih =>
    obtain ⟨k', b⟩ := e
    rw [List.lookup_cons] at h
    split at h
    · next hk =>
      obtain rfl := eq_of_beq hk
      obtain rfl := Option.some.inj h
      exact List.mem_cons_self
    · exact List.mem_cons_of_mem _ (ih h)

end Keyed

end LintRepair
