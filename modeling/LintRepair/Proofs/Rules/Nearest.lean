/-
Which semicolon is taken out.

* `SemicolonAt`: a semicolon of code stands on the diagnostic's line;
* `Nearest`: it is near the column, and none is nearer;
* `extra?_eq_some_iff`: the one that is found is at the column, or the leftmost of those near it;
* `eq_eraseIdx_of_takeOut`: the text without it;
* `removed_of_fix`: when the one that a repair takes out is the nearest.
-/
import LintRepair.Grammar.Statement
import LintRepair.Proofs.Rules.Above
import LintRepair.Proofs.Rules.Blanks

namespace LintRepair.Rules

open Text Lexical Code Check Repair

variable {accepts : Acceptor} {o : Options} {f : Fixer} {r : FixResult} {code after : Text}
  {d : Diagnostic} {i : Nat}

/-! ### Semicolons of a line -/

/-- A semicolon of code stands at an offset of the diagnostic's line. -/
structure SemicolonAt (code : Text) (d : Diagnostic) (i : Nat) : Prop where
  within : i < (lineOf code d).length
  here : code[lineStartOf code d + i]? = some ';'
  code : (kinds code)[lineStartOf code d + i]? = some .code

instance (code : Text) (d : Diagnostic) (i : Nat) : Decidable (SemicolonAt code d i) :=
  decidable_of_iff (i < (lineOf code d).length ∧ code[lineStartOf code d + i]? = some ';' ∧
      (kinds code)[lineStartOf code d + i]? = some .code)
    ⟨fun ⟨within, here, code⟩ => ⟨within, here, code⟩, fun ⟨within, here, code⟩ =>
      ⟨within, here, code⟩⟩

/-- A semicolon of the line is near the column, and no other one is nearer. -/
structure Nearest (code : Text) (d : Diagnostic) (i : Nat) : Prop where
  stands : SemicolonAt code d i
  near : gap (columnOf d) i ≤ Semicolon.searchRadius
  least : ∀ j, SemicolonAt code d j → gap (columnOf d) i ≤ gap (columnOf d) j

lemma getElem?_maskedLineOf_iff {above below : List Text} {l : Text}
    (h : Around code d.line.value above l below) :
    (maskedLineOf code d)[i]? = some ';' ↔ SemicolonAt code d i := by
  have line : lineOf code d = l := h.getLine
  rw [maskedLineOf, h.maskedLine, List.getElem?_take]
  split
  · next within =>
    rw [List.getElem?_drop, getElem?_mask_eq_iff rfl (by decide)]
    exact ⟨fun ⟨here, code⟩ => ⟨line ▸ within, here, code⟩, fun ⟨_, here, code⟩ => ⟨here, code⟩⟩
  · next outside =>
    exact iff_of_false (by simp) fun h => outside (line ▸ h.within)

lemma length_maskedLineOf {above below : List Text} {l : Text}
    (h : Around code d.line.value above l below) :
    (maskedLineOf code d).length = (lineOf code d).length := by
  have line : lineOf code d = l := h.getLine
  rw [maskedLineOf, h.length_maskedLine, line]

/-! ### The one that is found -/

/-- The search for one near a column goes from left to right. -/
lemma find?_window_eq_some_iff {column : Int} {length : Nat} {p : Nat → Bool} :
    ((List.range (min length (column + Semicolon.searchRadius + 1).toNat)).drop
        (column - Semicolon.searchRadius).toNat).find? p = some i ↔
      p i = true ∧ i < length ∧ gap column i ≤ Semicolon.searchRadius ∧
        ∀ j < i, p j = true → Semicolon.searchRadius < gap column j := by
  rw [List.range_eq_range', List.drop_range', List.find?_range'_eq_some, List.mem_range'_1]
  simp only [gap]
  generalize Semicolon.searchRadius = radius
  constructor
  · rintro ⟨found, within, others⟩
    refine ⟨found, by omega, by omega, fun j before found' => ?_⟩
    by_contra near
    have none' := others j (by omega) before
    rw [found'] at none'
    cases none'
  · rintro ⟨found, within, near, others⟩
    refine ⟨found, by omega, fun j low before => ?_⟩
    rw [Bool.not_eq_true', Bool.eq_false_iff]
    intro found'
    have far := others j before found'
    omega

/-- **The one found** is the one at the column, else the leftmost of those near it. -/
theorem extra?_eq_some_iff {above below : List Text} {l : Text}
    (h : Around code d.line.value above l below) :
    Semicolon.extra? code d = some i ↔ SemicolonAt code d i ∧
      (columnOf d = i ∨ (∀ j, SemicolonAt code d j → columnOf d ≠ j) ∧
        gap (columnOf d) i ≤ Semicolon.searchRadius ∧
          ∀ j < i, SemicolonAt code d j → Semicolon.searchRadius < gap (columnOf d) j) := by
  have semicolon : ∀ j, ((maskedLineOf code d)[j]? == some ';') = true ↔ SemicolonAt code d j :=
    fun j => by rw [beq_iff_eq, getElem?_maskedLineOf_iff h]
  simp only [Semicolon.extra?]
  split_ifs with there
  · obtain ⟨low, there⟩ := there
    rw [semicolon] at there
    have column : ((columnOf d).toNat : Int) = columnOf d := Int.toNat_of_nonneg low
    rw [Option.some_inj]
    constructor
    · rintro rfl
      exact ⟨there, .inl column.symm⟩
    · rintro ⟨_, here | ⟨others, _⟩⟩
      · rw [here, Int.toNat_natCast]
      · exact absurd column.symm (others _ there)
  · have others : ∀ j, SemicolonAt code d j → columnOf d ≠ j := by
      intro j stands column
      exact there ⟨by omega, (semicolon _).mpr (by rwa [column, Int.toNat_natCast])⟩
    rw [find?_window_eq_some_iff, semicolon, length_maskedLineOf h]
    simp only [semicolon]
    constructor
    · rintro ⟨stands, _, near, leftmost⟩
      exact ⟨stands, .inr ⟨others, near, leftmost⟩⟩
    · rintro ⟨stands, here | ⟨_, near, leftmost⟩⟩
      · exact absurd here (others i stands)
      · exact ⟨stands, stands.within, near, leftmost⟩

/-- It is the nearest unless one behind it is nearer. -/
lemma nearest_iff_of_extra? {above below : List Text} {l : Text}
    (h : Around code d.line.value above l below) (found : Semicolon.extra? code d = some i) :
    Nearest code d i ↔ ∀ j, SemicolonAt code d j → i < j → 2 * columnOf d ≤ i + j := by
  obtain ⟨stands, here⟩ := (extra?_eq_some_iff h).mp found
  have near : gap (columnOf d) i ≤ Semicolon.searchRadius := by
    rcases here with column | ⟨_, near, _⟩
    · simp [gap, column]
    · exact near
  constructor
  · rintro ⟨_, _, least⟩ j other behind
    have less := least j other
    simp only [gap] at less
    omega
  · refine fun behind => ⟨stands, near, fun j other => ?_⟩
    rcases lt_trichotomy j i with before | rfl | after
    · rcases here with column | ⟨_, _, leftmost⟩
      · simp [gap, column]
      · exact near.trans (leftmost j before other).le
    · exact Nat.le_refl _
    · have balanced := behind j other after
      simp only [gap]
      rcases here with column | ⟨others, _, _⟩ <;> omega

/-! ### Taking it out -/

/-- The text is left without the character at an offset of the line. -/
lemma eq_eraseIdx_of_takeOut {above below : List Text} {l : Text}
    (h : Around code d.line.value above l below) (within : i < (lineOf code d).length)
    (edit : Semicolon.takeOut code d i = .ok after) :
    after = code.eraseIdx (lineStartOf code d + i) := by
  have line : lineOf code d = l := h.getLine
  rw [line] at within
  have start : lineStartOf code d = (ended above).length := h.lineStart
  rw [setLine_eq h edit, line, start]
  conv_rhs => rw [h.eq]
  rw [List.eraseIdx_append_of_length_le (Nat.le_add_right _ _), Nat.add_sub_cancel_left,
    List.eraseIdx_append_of_lt_length within]

/-- **One too many.** A repair by the built-in fixer of `semi`, unless a semicolon is missing,
takes out one semicolon of the line: the one at the column if there is one, else the leftmost
of those near it. That is the nearest just if none behind it is nearer. -/
theorem removed_of_fix (builtin : builtin? accepts o "semi" = some f) (fix : f.fix code d = .ok r)
    (success : r.isSuccess = true) (extra : Semicolon.isMissing d.message = false) :
    ∃ i, SemicolonAt code d i ∧ r.code = code.eraseIdx (lineStartOf code d + i) ∧
      (columnOf d = i ∨ (∀ j, SemicolonAt code d j → columnOf d ≠ j) ∧
        gap (columnOf d) i ≤ Semicolon.searchRadius ∧
          ∀ j < i, SemicolonAt code d j → Semicolon.searchRadius < gap (columnOf d) j) ∧
      (Nearest code d i ↔ ∀ j, SemicolonAt code d j → i < j → 2 * columnOf d ≤ i + j) := by
  cases builtin
  obtain ⟨takesOn, edit, -⟩ := edit_of_fixer fix success
  obtain ⟨l, there⟩ := Option.isSome_iff_exists.mp (line?_isSome_of_canFix takesOn)
  obtain ⟨above, below, around⟩ := exists_around there
  simp only [Semicolon.semi, extra, Bool.false_eq_true, if_false] at edit
  split at edit
  · cases edit
  next i found =>
  obtain ⟨stands, place⟩ := (extra?_eq_some_iff around).mp found
  exact ⟨i, stands, eq_eraseIdx_of_takeOut around stands.within edit, place,
    nearest_iff_of_extra? around found⟩

/-- A semicolon too many, a little before the second of three. -/
def doubled : Diagnostic :=
  { rule := some "semi", message := "Unnecessary semicolon.", line := 2, column := 3 }

theorem removed_of_fix_doubled :
    let code := "x;\na();; b();".toList
    ∃ f r i, builtin? Grammar.accepts {} "semi" = some f ∧ f.fix code doubled = .ok r ∧
      r.isSuccess = true ∧ Semicolon.isMissing doubled.message = false ∧
      r.code = "x;\na(); b();".toList ∧ Nearest code doubled i ∧
      r.code = code.eraseIdx (3 + i) := by
  intro code
  let f := simple Grammar.accepts "SemiFixer" "semi"
    "Insert or remove statement-terminating semicolons" Semicolon.semi
  have builtin : builtin? Grammar.accepts {} "semi" = some f := rfl
  have fix : f.fix code doubled = .ok { code := "x;\na(); b();".toList } := by decide +kernel
  have extra : Semicolon.isMissing doubled.message = false := by decide
  obtain ⟨i, stands, removed, -, nearest⟩ := removed_of_fix builtin fix rfl extra
  have start : lineStartOf code doubled = 3 := by decide
  refine ⟨f, _, i, builtin, fix, rfl, extra, rfl, nearest.mpr fun j _ behind => ?_, start ▸ removed⟩
  have low : 3 ≤ i := by
    by_contra before
    have none' : ∀ i < 3, code[lineStartOf code doubled + i]? ≠ some ';' := by decide
    exact none' i (by omega) stands.here
  have column : columnOf doubled = 2 := rfl
  omega

/-- Two statements in a line, each with a semicolon too many, and the diagnostic at the end of
the second. -/
theorem removed_of_fix_not : ¬ ∀ (code : Text) (d : Diagnostic) (f : Fixer) (r : FixResult),
    builtin? Grammar.accepts {} "semi" = some f → f.fix code d = .ok r → r.isSuccess = true →
      Semicolon.isMissing d.message = false →
      ∃ i, Nearest code d i ∧ r.code = code.eraseIdx (lineStartOf code d + i) := by
  intro always
  let code := "a();; b();;".toList
  let d : Diagnostic :=
    { rule := some "semi", message := "Unnecessary semicolon.", line := 1, column := 9 }
  obtain ⟨i, nearest, removed⟩ := always code d _ { code := "a(); b();;".toList } rfl
    (by decide +kernel) rfl (by decide)
  have next : SemicolonAt code d 9 := by decide +kernel
  have less : gap (columnOf d) i ≤ gap (columnOf d) 9 := nearest.least 9 next
  have column : columnOf d = 8 := rfl
  have stays : ∀ i < 10, 7 ≤ i →
      "a(); b();;".toList ≠ code.eraseIdx (lineStartOf code d + i) := by decide
  simp only [gap, column] at less
  exact stays i (by omega) (by omega) removed

end LintRepair.Rules
