/-
Where a name occurs in masked text.

* `OccursAt`: a name stands at an offset by itself, and is not that of a member;
* `StandsAt`: a word stands so, whatever it is the name of; `StandsAt.mem_wordOffsetsFrom`:
  a search for words finds it;
* `KeyAt`: it may be the key of a property;
* `OccursAt.mem_findOccurrences`: else it is among the occurrences of the name, as a use
  if it is not one of the names that a declaration binds.
-/
import LintRepair.Code.Occurrence
import LintRepair.Proofs.Text.Cut

namespace LintRepair.Code

open Text

variable {m name : Text} {o lo hi : Nat}

/-! ### Names -/

/-- What stands before a name is the dot of a member, and not the three of a
spread. -/
def FollowsDot (before : Text) : Prop :=
  endsWith (trimRight before) ['.'] = true ∧ endsWith (trimRight before) ['.', '.', '.'] = false
  deriving Decidable

/-- A name stands at an offset of masked text, no part of another, and is not
that of a member. -/
structure OccursAt (m name : Text) (o : Nat) : Prop where
  here : name <+: m.drop o
  apart : endsIn isName (m.take o) = false
  ends : startsIn isName (m.drop (o + name.length)) = false
  free : ¬ FollowsDot (m.take o)

lemma all_isName_of_isIdentifier (identifier : isIdentifier name = true) :
    ∀ c ∈ name, isName c = true := by
  cases name with
  | nil => cases identifier
  | cons c rest =>
      rw [isIdentifier, Bool.and_eq_true, List.all_eq_true] at identifier
      rintro d (_ | ⟨_, later⟩)
      · exact isName_of_isNameStart identifier.1
      · exact identifier.2 d later

lemma ne_nil_of_isIdentifier (identifier : isIdentifier name = true) : name ≠ [] := by
  rintro rfl
  cases identifier

/-! ### The search for words -/

/-- A word stands at an offset of masked text: no name goes on behind it, and no character
of the class `barred` stands before it. -/
structure StandsAt (barred : Char → Bool) (m word : Text) (o : Nat) : Prop where
  here : word <+: m.drop o
  apart : endsIn barred (m.take o) = false
  ends : startsIn isName (m.drop (o + word.length)) = false

variable {barred : Char → Bool} {word : Text}

/-- A search finds each word by itself that starts behind the characters to be
skipped. -/
lemma mem_wordOffsetsFrom {before behind : Text} (some' : word ≠ [])
    (letters : ∀ c ∈ word, barred c = true) (ends : startsIn isName behind = false) :
    ∀ (prev : Option Char) (offset skipped : Nat), skipped ≤ before.length →
      (before.getLast?.or prev).any barred = false →
      offset + before.length ∈
        wordOffsetsFrom barred word prev offset skipped (before ++ (word ++ behind)) := by
  have fits (rest : Text) (same : rest = word ++ behind) : startsWithWord word rest = true := by
    rw [startsWithWord, same, List.drop_left, ends]
    simp
  induction before with
  | nil =>
      intro prev offset skipped behind' apart
      obtain rfl := Nat.le_zero.mp behind'
      obtain ⟨w, ws, shape⟩ := List.exists_cons_of_ne_nil some'
      have here := fits _ rfl
      rw [shape, List.cons_append] at here
      rw [shape, List.nil_append, List.cons_append, wordOffsetsFrom, if_pos]
      · exact List.mem_cons_self
      · simpa [here] using apart
  | cons c before ih =>
      intro prev offset skipped behind' apart
      have apart' : (before.getLast?.or (some c)).any barred = false := by
        rw [List.getLast?_cons] at apart
        cases last : before.getLast? <;> simpa [last] using apart
      have shift : offset + (c :: before).length = offset + 1 + before.length := by
        rw [List.length_cons]
        omega
      rw [shift, List.cons_append]
      cases skipped with
      | succ n =>
          rw [wordOffsetsFrom]
          exact ih _ _ _ (Nat.le_of_succ_le_succ behind') apart'
      | zero =>
          rw [wordOffsetsFrom]
          split_ifs with found
          · -- an occurrence over the place would have a character of the word before it
            refine List.mem_cons_of_mem _ (ih _ _ _ (Nat.sub_le_of_le_add ?_) apart')
            by_contra long
            rw [Bool.and_eq_true, startsWithWord, Bool.and_eq_true, List.isPrefixOf_iff_prefix]
              at found
            have part : c :: before <+: word :=
              List.prefix_of_prefix_length_le (List.prefix_append _ (word ++ behind)) found.2.1
                (by rw [List.length_cons]; omega)
            have last := part.subset (List.getLast_mem (List.cons_ne_nil c before))
            rw [List.getLast?_eq_some_getLast (List.cons_ne_nil c before)] at apart
            simp [letters _ last] at apart
          · exact ih _ _ _ (Nat.zero_le _) apart'

/-- A word is found no earlier than where the search starts. -/
lemma offset_le_of_mem_wordOffsetsFrom {prev : Option Char} {offset skipped : Nat} {t : Text}
    (found : o ∈ wordOffsetsFrom barred word prev offset skipped t) : offset ≤ o := by
  induction t generalizing prev offset skipped with
  | nil =>
      rw [wordOffsetsFrom] at found
      split at found
      · rw [List.mem_singleton] at found
        omega
      · cases found
  | cons c rest ih =>
      cases skipped with
      | succ n => exact Nat.le_of_succ_le (ih found)
      | zero =>
          rw [wordOffsetsFrom] at found
          split at found
          · rcases List.mem_cons.mp found with rfl | later
            · exact Nat.le_refl _
            · exact Nat.le_of_succ_le (ih later)
          · exact Nat.le_of_succ_le (ih found)

/-- Words are found in order. -/
lemma pairwise_wordOffsetsFrom {prev : Option Char} {offset skipped : Nat} {t : Text} :
    (wordOffsetsFrom barred word prev offset skipped t).Pairwise (· < ·) := by
  induction t generalizing prev offset skipped with
  | nil =>
      rw [wordOffsetsFrom]
      split
      · exact List.pairwise_singleton _ _
      · exact .nil
  | cons c rest ih =>
      cases skipped with
      | succ n => exact ih
      | zero =>
          rw [wordOffsetsFrom]
          split
          · exact .cons (fun o later => offset_le_of_mem_wordOffsetsFrom later) ih
          · exact ih

/-- What is found is the word, with no name behind it and no barred character before it. -/
lemma exists_of_mem_wordOffsetsFrom (some' : word ≠ []) {prev : Option Char}
    {offset skipped : Nat} {t : Text}
    (found : o ∈ wordOffsetsFrom barred word prev offset skipped t) :
    ∃ before behind, t = before ++ (word ++ behind) ∧ o = offset + before.length ∧
      startsIn isName behind = false ∧ (before.getLast?.or prev).any barred = false := by
  induction t generalizing prev offset skipped with
  | nil => simp [wordOffsetsFrom, some'] at found
  | cons c rest ih =>
      have later {skipped : Nat}
          (found : o ∈ wordOffsetsFrom barred word (some c) (offset + 1) skipped rest) :
          ∃ before behind, c :: rest = before ++ (word ++ behind) ∧ o = offset + before.length ∧
            startsIn isName behind = false ∧ (before.getLast?.or prev).any barred = false := by
        obtain ⟨before, behind, rfl, rfl, ends, apart⟩ := ih found
        refine ⟨c :: before, behind, rfl, by rw [List.length_cons]; omega, ends, ?_⟩
        rw [List.getLast?_cons]
        cases last : before.getLast? <;> simpa [last] using apart
      cases skipped with
      | succ n => exact later found
      | zero =>
          rw [wordOffsetsFrom] at found
          split at found
          · next here =>
            rcases List.mem_cons.mp found with rfl | found
            · rw [Bool.and_eq_true, startsWithWord, Bool.and_eq_true, List.isPrefixOf_iff_prefix]
                at here
              obtain ⟨apart, ⟨behind, shape⟩, ends⟩ := here
              rw [← shape, List.drop_left] at ends
              exact ⟨[], behind, shape.symm, rfl, by simpa using ends, by simpa using apart⟩
            · exact later found
          · exact later found

/-- It stands at its offset. -/
lemma prefix_of_mem_wordOffsetsFrom {prev : Option Char} {offset skipped : Nat} {t : Text}
    (found : o ∈ wordOffsetsFrom barred word prev offset skipped t) :
    word <+: t.drop (o - offset) := by
  by_cases some' : word = []
  · rw [some']
    exact List.nil_prefix
  · obtain ⟨before, behind, rfl, rfl, -⟩ := exists_of_mem_wordOffsetsFrom some' found
    rw [Nat.add_sub_cancel_left, List.drop_left]
    exact List.prefix_append word behind

/-- A word between two texts. -/
lemma standsAt_append {before behind : Text} (apart : endsIn barred before = false)
    (ends : startsIn isName behind = false) :
    StandsAt barred (before ++ (word ++ behind)) word before.length where
  here := by
    rw [List.drop_left]
    exact List.prefix_append word behind
  apart := by rwa [List.take_left]
  ends := by rwa [← List.drop_drop, List.drop_left, List.drop_left]

namespace StandsAt

/-- A word stands in the text. -/
lemma le_length (h : StandsAt barred m word o) (some' : word ≠ []) :
    o + word.length ≤ m.length := by
  have shorter := h.here.length_le
  have longer := List.length_pos_iff.mpr some'
  rw [List.length_drop] at shorter
  omega

/-- What stands between two offsets around a word. -/
lemma cut (h : StandsAt barred m word o) (some' : word ≠ []) (low : lo ≤ o)
    (high : o + word.length ≤ hi) :
    (m.take hi).drop lo = slice m lo o ++ (word ++ slice m (o + word.length) hi) := by
  obtain ⟨behind, shape⟩ := h.here
  have within := h.le_length some'
  have rest : m.drop (o + word.length) = behind := by
    rw [← List.drop_drop, ← shape, List.drop_left]
  have length := length_slice low (Nat.le_trans (Nat.le_add_right _ _) within)
  have whole : hi - lo = (slice m lo o).length + (word.length + (hi - (o + word.length))) := by
    rw [length]
    omega
  rw [List.drop_take, drop_eq_slice_append low, ← shape, whole, List.take_length_add_append,
    List.take_length_add_append, slice, slice, rest]

/-- A word stands by itself also between two offsets. -/
lemma between (h : StandsAt barred m word o) (some' : word ≠ []) (low : lo ≤ o)
    (high : o + word.length ≤ hi) :
    ∃ behind, (m.take hi).drop lo = slice m lo o ++ (word ++ behind) ∧
      startsIn isName behind = false ∧
      ((slice m lo o).getLast?.or (m.take lo).getLast?).any barred = false := by
  refine ⟨_, h.cut some' low high, ?_, ?_⟩
  · have ends := h.ends
    rw [slice]
    cases hi - (o + word.length) with
    | zero => rfl
    | succ n =>
        cases behind : m.drop (o + word.length) with
        | nil => rfl
        | cons c rest =>
            rw [behind] at ends
            exact ends
  · rw [← List.getLast?_append, slice, ← List.take_add, Nat.add_sub_cancel' low]
    exact h.apart

/-- A search between two offsets finds each word by itself there. -/
lemma mem_wordOffsetsFrom (h : StandsAt barred m word o) (some' : word ≠ [])
    (letters : ∀ c ∈ word, barred c = true) (low : lo ≤ o) (high : o + word.length ≤ hi) :
    o ∈ wordOffsetsFrom barred word (if lo = 0 then none else (m.take hi)[lo - 1]?) lo 0
      ((m.take hi).drop lo) := by
  have within := h.le_length some'
  obtain ⟨behind, cut, ends, apart⟩ := h.between some' low high
  have before : (if lo = 0 then none else (m.take hi)[lo - 1]?) = (m.take lo).getLast? := by
    rw [← getLast?_take_of_le (by rw [List.length_take]; omega), List.take_take,
      Nat.min_eq_left (by omega)]
  have found := Code.mem_wordOffsetsFrom some' letters ends _ lo 0 (Nat.zero_le _) apart
  rw [before, cut]
  rwa [length_slice low (by omega), Nat.add_sub_cancel' low] at found

/-- A search of the whole text finds each word by itself. -/
lemma mem_wordOffsets (h : StandsAt isName m word o) (some' : word ≠ [])
    (letters : ∀ c ∈ word, isName c = true) : o ∈ wordOffsets word m := by
  have found := h.mem_wordOffsetsFrom some' letters (Nat.zero_le o) (h.le_length some')
  rwa [List.take_length] at found

end StandsAt

namespace OccursAt

/-- A name that occurs stands by itself. -/
lemma standsAt (h : OccursAt m name o) : StandsAt isName m name o := ⟨h.here, h.apart, h.ends⟩

/-- A name stands in the text. -/
lemma le_length (h : OccursAt m name o) (some' : name ≠ []) : o + name.length ≤ m.length :=
  h.standsAt.le_length some'

/-- A name stands by itself also between two offsets. -/
lemma between (h : OccursAt m name o) (some' : name ≠ []) (low : lo ≤ o)
    (high : o + name.length ≤ hi) :
    ∃ behind, (m.take hi).drop lo = slice m lo o ++ (name ++ behind) ∧
      startsIn isName behind = false ∧
      ((slice m lo o).getLast?.or (m.take lo).getLast?).any isName = false :=
  h.standsAt.between some' low high

/-- A search between two offsets finds each occurrence there. -/
lemma mem_wordOffsetsBetween (h : OccursAt m name o) (identifier : isIdentifier name = true)
    (low : lo ≤ o) (high : o + name.length ≤ hi) : o ∈ wordOffsetsBetween name m lo hi :=
  h.standsAt.mem_wordOffsetsFrom (ne_nil_of_isIdentifier identifier)
    (all_isName_of_isIdentifier identifier) low high

end OccursAt

/-! ### Members and keys -/

/-- The name of a member follows its dot. -/
lemma followsDot_of_isPropertyAccess (member : isPropertyAccess m o = true) :
    FollowsDot (m.take o) := by
  have solid {rest : Text} (dot : (m.take o).reverse.dropWhile isSpaceOrTab = '.' :: rest) :
      trimRight (m.take o) = rest.reverse ++ ['.'] := by
    have blanks : ∀ c ∈ (m.take o).reverse.takeWhile isSpaceOrTab, isBlank c = true :=
      fun c among => isBlank_of_isSpaceOrTab (List.mem_takeWhile_imp among)
    have whole := List.takeWhile_append_dropWhile (p := isSpaceOrTab) (l := (m.take o).reverse)
    rw [dot] at whole
    rw [trimRight, dropEndWhile, ← whole, List.dropWhile_append_of_pos blanks,
      List.dropWhile_cons_of_neg (by decide), List.reverse_cons]
  unfold isPropertyAccess at member
  split at member
  · cases member
  · next rest other dot =>
    rw [FollowsDot, solid dot]
    refine ⟨by simp [endsWith], Bool.eq_false_iff.mpr fun spread => ?_⟩
    rw [endsWith, List.isSuffixOf_iff_suffix] at spread
    obtain ⟨before, shape⟩ := spread
    have ends := congrArg List.reverse shape
    simp only [List.reverse_append, List.reverse_reverse, List.reverse_cons, List.reverse_nil,
      List.nil_append, List.cons_append, List.cons.injEq, true_and] at ends
    exact other _ ends.symm
  · cases member

/-- A colon stands behind a name, and a comma or an opening brace before it. -/
def KeyAt (m name : Text) (o : Nat) : Prop :=
  startsIn (· == ':') (trimLeft (m.drop (o + name.length))) = true ∧
    endsIn (fun c => c == '{' || c == ',') (trimRight (m.take o)) = true
  deriving Decidable

/-- The key of a property stands so. -/
lemma keyAt_of_isObjectKey (key : isObjectKey m name o = true) : KeyAt m name o := by
  unfold isObjectKey at key
  split at key
  · next rest colon =>
    rw [Bool.and_eq_true] at key
    exact ⟨by rw [colon]; rfl, key.2⟩
  · cases key

/-! ### Occurrences -/

/-- What is neither a key nor bound by the declaration is among the occurrences of
its name, as a use. -/
lemma OccursAt.mem_findOccurrences {d : Declaration} (h : OccursAt m name o) (span : Span)
    (identifier : isIdentifier name = true) (low : span.start ≤ o)
    (high : o + name.length ≤ span.stop) (keyless : ¬ KeyAt m name o)
    (used : d.start ≤ o → o < d.stop → isDeclaredTarget m name o d = false) :
    classifyOccurrence m name o ∈ findOccurrences m name span (some d) := by
  refine List.mem_filterMap.mpr ⟨o, h.mem_wordOffsetsBetween identifier low high, ?_⟩
  have skipped : (isPropertyAccess m o || isObjectKey m name o) = false := by
    rw [Bool.or_eq_false_iff, ← Bool.not_eq_true, ← Bool.not_eq_true]
    exact ⟨fun member => h.free (followsDot_of_isPropertyAccess member),
      fun key => keyless (keyAt_of_isObjectKey key)⟩
  rw [skipped, if_neg Bool.false_ne_true]
  dsimp only
  split_ifs with bound
  · simp only [Bool.and_eq_true, decide_eq_true_eq] at bound
    rw [used bound.1.1 bound.1.2] at bound
    cases bound.2
  · rfl

end LintRepair.Code
