/-
What stands behind an offset does not tell on it.

* `State.after_eq_of_take_eq`: texts that agree up to the character at an offset, which is the
  one that the scanner looks ahead at, lead to the same state there;
* `kind_eq_of_take_eq`: so the characters before it are of the same kinds;
* `zone_eq_of_take_eq`: and the position of that offset gets the same verdict;
* `Cache.classify_session`: what a cache answers, whatever it was asked for before;
* `classify_causal`: no edit behind an offset changes what is answered about it.
-/
import LintRepair.Proofs.Lexical.Cache
import LintRepair.Proofs.Lexical.Offset
import LintRepair.Proofs.Text.Position

namespace LintRepair.Lexical

open Text

variable {t u : Text} {i j : Nat}

/-! ### The scanner -/

/-- **One character ahead.** Two texts that agree on one character more than has been read lead
from a state to the same one. -/
lemma State.after_eq_of_take_eq (st : State) (alike : t.take (i + 1) = u.take (i + 1)) :
    st.after t i = st.after u i := by
  induction t generalizing u i st with
  | nil =>
      rw [List.take_nil, eq_comm, List.take_eq_nil_iff] at alike
      rw [alike.resolve_left i.succ_ne_zero]
  | cons c rest ih =>
      cases u with
      | nil => cases alike
      | cons c' rest' =>
          rw [List.take_succ_cons, List.take_succ_cons, List.cons.injEq] at alike
          obtain ⟨rfl, alike⟩ := alike
          cases i with
          | zero => rfl
          | succ i =>
              -- The character ahead of the first one is among those that agree.
              have next : rest.head? = rest'.head? := by
                rw [List.head?_eq_getElem?, List.head?_eq_getElem?]
                exact getElem?_eq_of_take_eq alike i.succ_pos
              rw [State.after, State.after, next]
              exact ih _ alike

lemma contextAt_eq_of_take_eq (alike : t.take (i + 1) = u.take (i + 1)) :
    contextAt t i = contextAt u i :=
  congrArg State.context (State.after_eq_of_take_eq {} alike)

/-- A character is told by the state before it and by the one behind it. -/
lemma kind_eq_of_take_eq (alike : t.take (i + 1) = u.take (i + 1)) (before : j < i) :
    (kinds t)[j]? = (kinds u)[j]? := by
  have state : stateAt t j = stateAt u j :=
    State.after_eq_of_take_eq {} (take_eq_of_le alike (by omega))
  rw [getElem?_kinds, getElem?_kinds, state, getElem?_eq_of_take_eq alike (by omega),
    getElem?_eq_of_take_eq alike (by omega)]

/-- The verdict on a position is kept, if the text is kept up to the character there. -/
lemma zone_eq_of_take_eq {d : Diagnostic} (alike : t.take (i + 1) = u.take (i + 1))
    (place : absoluteOffset t d.line.value d.column.value = .ok i) : zone t d = zone u d := by
  rw [zone, zone, place, absoluteOffset_eq_of_take_eq (take_eq_of_le alike i.le_succ) place]
  exact congrArg zoneOf (contextAt_eq_of_take_eq alike)

/-! ### A cache without room -/

namespace Cache

variable {capacity : Int} {c : Cache}

/-- A cache that has no room, and so holds nothing. -/
structure Roomless (capacity : Int) (c : Cache) : Prop where
  full : capacity < 1
  capacity_eq : c.capacity = capacity
  found : c.found = []

namespace Roomless

lemma turnTo (h : Roomless capacity c) (t : Text) : Roomless capacity (c.turnTo t) := by
  refine ⟨h.full, (turnTo_capacity c t).trans h.capacity_eq, ?_⟩
  rw [Cache.turnTo]
  split_ifs
  · exact h.found
  · rfl

/-- It gives no context, and is not changed but for the text that it was asked about. -/
lemma classify (h : Roomless capacity c) (t : Text) (offset : Int) :
    c.classify t offset = (c.turnTo t, .error .noRoom) := by
  have turned := h.turnTo t
  have none' : ∀ i ctx, (c.turnTo t).remember i ctx = none := by
    intro i ctx
    have full : ¬ ((c.turnTo t).size : Int) < (c.turnTo t).capacity := by
      rw [turned.capacity_eq]
      have := turned.full
      omega
    rw [remember, if_neg full, turned.found]
  rw [Cache.classify]
  simp only [turned.found, List.lookup_nil, none']

lemma ask (h : Roomless capacity c) (q : Query) : Roomless capacity (c.ask q).1 := by
  have asked : ∀ t offset, Roomless capacity (c.classify t offset).1 := by
    intro t offset
    rw [h.classify]
    exact h.turnTo t
  cases q with
  | context t offset => exact asked t offset
  | position t line column =>
      rw [Cache.ask, position]
      split
      · exact h
      · exact asked t _
  | zone t d =>
      rw [Cache.ask, Cache.zone]
      split
      · exact h
      · exact asked t _
  | clear => exact ⟨h.full, h.capacity_eq, rfl⟩

lemma session (h : Roomless capacity c) (qs : List Query) :
    Roomless capacity (c.session qs).1 := by
  induction qs generalizing c with
  | nil => exact h
  | cons q qs ih => exact ih (h.ask q)

end Roomless

/-- **Whatever it was asked for before**, a cache gives the context of a scan, or none if it has
no room for a context. -/
lemma classify_session (capacity : Int) (qs : List Query) (t : Text) (i : Nat) :
    ((Cache.session { capacity } qs).1.classify t i).2 =
      if 1 ≤ capacity then .ok (contextAt t i) else .error .noRoom := by
  split_ifs with room
  · have start : Ready capacity { capacity } := .empty (by omega) none
    rw [(start.session qs).1.classify_ok, contextAt_clampOffset]
  · have start : Roomless capacity { capacity } := ⟨by omega, rfl, rfl⟩
    rw [(start.session qs).classify]

/-- So it is with the verdict on a position that has an offset. -/
lemma zone_session (capacity : Int) (qs : List Query) {d : Diagnostic}
    (place : absoluteOffset t d.line.value d.column.value = .ok i) :
    ((Cache.session { capacity } qs).1.zone t d).2 =
      if 1 ≤ capacity then .ok (Lexical.zone t d) else .error .noRoom := by
  rw [Cache.zone, Lexical.zone, place]
  dsimp only
  rw [classify_session]
  split_ifs <;> rfl

end Cache

/-! ### Causality -/

/-- **Causality.** The context at an offset, as it is asked for after whatever else, and the kinds
of the characters before it are those of every text that agrees up to the character there. So an
edit behind that character leaves the offset as safe as it was, and a diagnostic there gets the
verdict that it got. -/
theorem classify_causal (t : Text) (i : Nat) :
    (∀ u : Text, t.take (i + 1) = u.take (i + 1) →
      (∀ capacity qs qs', ((Cache.session { capacity } qs).1.classify t i).2 =
        ((Cache.session { capacity } qs').1.classify u i).2) ∧
      (∀ capacity qs, 1 ≤ capacity →
        ((Cache.session { capacity } qs).1.classify t i).2 = .ok (contextAt u i)) ∧
      ∀ j < i, (kinds t)[j]? = (kinds u)[j]?) ∧
    ∀ (lo hi : Int) (new u : Text), (i : Int) < lo → replaceRange t lo hi new = some u →
      (contextAt u i).isCode = (contextAt t i).isCode ∧
      ∀ d : Diagnostic, absoluteOffset t d.line.value d.column.value = .ok i →
        zone u d = zone t d ∧
        ∀ capacity qs qs', ((Cache.session { capacity } qs).1.zone u d).2 =
          ((Cache.session { capacity } qs').1.zone t d).2 := by
  constructor
  · intro u alike
    have same := contextAt_eq_of_take_eq alike
    refine ⟨fun capacity qs qs' => ?_, fun capacity qs room => ?_, fun j => kind_eq_of_take_eq alike⟩
    · rw [Cache.classify_session, Cache.classify_session, same]
    · rw [Cache.classify_session, if_pos room, same]
  · intro lo hi new u behind edit
    have alike : t.take (i + 1) = u.take (i + 1) :=
      take_eq_of_replaceRange (by omega) edit
    refine ⟨congrArg Context.isCode (contextAt_eq_of_take_eq alike.symm), fun d place => ?_⟩
    have place' := absoluteOffset_eq_of_take_eq (take_eq_of_le alike i.le_succ) place
    have verdict := zone_eq_of_take_eq alike place
    refine ⟨verdict.symm, fun capacity qs qs' => ?_⟩
    rw [Cache.zone_session capacity qs place', Cache.zone_session capacity qs' place, verdict]

/-- A text with a template, of which the part behind an interpolation is exchanged for the start
of a comment. -/
theorem classify_causal_interpolation :
    let t := "\x60$\x7b a + b \x7d\x60".toList
    let u := "\x60$\x7b a/* b".toList
    let d : Diagnostic := { rule := none, message := "", line := 1, column := 5 }
    (t.take 5 = u.take 5 ∧ ∀ j < 4, (kinds t)[j]? = (kinds u)[j]?) ∧
      ((4 : Int) < 5 ∧ replaceRange t 5 12 "/* b".toList = some u ∧
        absoluteOffset t d.line.value d.column.value = .ok 4 ∧ zone u d = zone t d) := by
  intro t u d
  have alike : t.take 5 = u.take 5 := by decide
  have edit : replaceRange t 5 12 "/* b".toList = some u := by decide
  have place : absoluteOffset t d.line.value d.column.value = .ok 4 := by rfl
  obtain ⟨agree, edits⟩ := classify_causal t 4
  exact ⟨⟨alike, (agree u alike).2.2⟩, by decide, edit, place,
    ((edits 5 12 _ u (by decide) edit).2 d place).1⟩

/-- The character at the offset does tell on it. -/
example : contextAt "/ b".toList 1 ≠ contextAt "// b".toList 1 := by decide

end LintRepair.Lexical
