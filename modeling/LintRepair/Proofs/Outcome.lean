/-
Computations that may fail.

* `exists_of_bind_eq_ok`, `exists_of_map_eq_ok`: what ends well ended well in each
  step; `bind_eq_error_iff`: what fails failed in one of them;
* `forall₂_of_mapM`, `mapM_of_forall₂`, `exists_of_mapM_eq_error`: a list that is mapped item by
  item; `mapM_flatten`: one that is put together from others;
* `exists_of_forall₂`, `pairwise_of_forall₂`: what the items of two lists have to do
  with each other.
-/
import Mathlib.Data.List.Forall2

namespace LintRepair

variable {ε α β : Type}

/-! ### Steps -/

/-- A step that succeeds before another one. -/
lemma exists_of_bind_eq_ok {x : Except ε α} {f : α → Except ε β} {b : β}
    (ran : x >>= f = .ok b) : ∃ a, x = .ok a ∧ f a = .ok b := by
  cases x with
  | error e => cases ran
  | ok a => exact ⟨a, rfl, ran⟩

/-- Two steps fail in the first or in the second one. -/
lemma bind_eq_error_iff {x : Except ε α} {f : α → Except ε β} {e : ε} :
    x >>= f = .error e ↔ x = .error e ∨ ∃ a, x = .ok a ∧ f a = .error e := by
  cases x <;> simp [bind, Except.bind]

/-- A result that is changed afterwards. -/
lemma exists_of_map_eq_ok {x : Except ε α} {f : α → β} {b : β} (ran : x.map f = .ok b) :
    ∃ a, x = .ok a ∧ f a = b := by
  cases x with
  | error e => cases ran
  | ok a => exact ⟨a, rfl, Except.ok.inj ran⟩

/-! ### Lists -/

/-- A list that is mapped to another one, where that may fail, goes with it item by
item. -/
lemma forall₂_of_mapM {f : α → Except ε β} {as : List α} {bs : List β}
    (mapped : as.mapM f = .ok bs) : List.Forall₂ (fun a b => f a = .ok b) as bs := by
  induction as generalizing bs with
  | nil =>
      cases mapped
      exact .nil
  | cons a rest ih =>
      rw [List.mapM_cons] at mapped
      obtain ⟨b, head, mapped⟩ := exists_of_bind_eq_ok mapped
      obtain ⟨others, tail, mapped⟩ := exists_of_bind_eq_ok mapped
      cases mapped
      exact .cons head (ih tail)

/-- The other way round, where each item is mapped so is the list. -/
lemma mapM_of_forall₂ {f : α → Except ε β} {as : List α} {bs : List β}
    (each : List.Forall₂ (fun a b => f a = .ok b) as bs) : as.mapM f = .ok bs := by
  induction each with
  | nil => rfl
  | cons head _ ih =>
      rw [List.mapM_cons, head, ih]
      rfl

/-- Lists put together are mapped one after the other. -/
lemma mapM_flatten (f : α → Except ε β) (ass : List (List α)) :
    ass.flatten.mapM f = do return (← ass.mapM (List.mapM f)).flatten := by
  induction ass with
  | nil => rfl
  | cons as rest ih =>
      rw [List.flatten_cons, List.mapM_append, List.mapM_cons, ih]
      simp

/-- A list that is not mapped has an item that is not. -/
lemma exists_of_mapM_eq_error {f : α → Except ε β} {as : List α} {e : ε}
    (failed : as.mapM f = .error e) : ∃ a ∈ as, f a = .error e := by
  induction as with
  | nil => cases failed
  | cons a rest ih =>
      rw [List.mapM_cons, bind_eq_error_iff] at failed
      rcases failed with first | ⟨b, -, failed⟩
      · exact ⟨a, List.mem_cons_self, first⟩
      rcases bind_eq_error_iff.mp failed with later | ⟨bs, -, failed⟩
      · obtain ⟨a', among, own⟩ := ih later
        exact ⟨a', List.mem_cons_of_mem _ among, own⟩
      · cases failed

/-- Each item of the second list goes with one of the first. -/
lemma exists_of_forall₂ {R : α → β → Prop} {as : List α} {bs : List β}
    (both : List.Forall₂ R as bs) : ∀ b ∈ bs, ∃ a ∈ as, R a b := by
  induction both with
  | nil => simp
  | cons head _ ih =>
      rintro b (_ | ⟨_, later⟩)
      · exact ⟨_, List.mem_cons_self, head⟩
      · obtain ⟨a, among, related⟩ := ih b later
        exact ⟨a, List.mem_cons_of_mem _ among, related⟩

/-- Each item of the first list goes with one of the second. -/
lemma exists_of_forall₂' {R : α → β → Prop} {as : List α} {bs : List β}
    (both : List.Forall₂ R as bs) : ∀ a ∈ as, ∃ b ∈ bs, R a b :=
  exists_of_forall₂ (R := flip R) (List.Forall₂.flip both)

/-- What holds of the items of the first list in their order carries over to the
second. -/
lemma pairwise_of_forall₂ {R : α → β → Prop} {S : α → α → Prop}
    {T : β → β → Prop} {as : List α} {bs : List β} (both : List.Forall₂ R as bs)
    (carries : ∀ a a' b b', R a b → R a' b' → S a a' → T b b') (order : as.Pairwise S) :
    bs.Pairwise T := by
  induction both with
  | nil => exact .nil
  | cons head tail ih =>
      rw [List.pairwise_cons] at order
      refine .cons (fun b among => ?_) (ih order.2)
      obtain ⟨a, before, related⟩ := exists_of_forall₂ tail b among
      exact carries _ a _ b head related (order.1 a before)

end LintRepair
