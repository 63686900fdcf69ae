/-
An edit of a text, and how the scanner reads what stands around it.

* `exists_mask_append`: before an edit the text is masked as it was, and read up to the
  same state;
* `State.startsIn_masks_forget`, `State.startsIn_masks_blanks`: whether the scanner is in a
  word, or blanks before it, do not tell on the first character that it leaves unmasked;
* `State.Near`: neither does anything but what it is inside of, and whether an operand may
  follow.
-/
import LintRepair.Proofs.Lexical.Blank
import LintRepair.Proofs.Lexical.Restart

namespace LintRepair.Lexical

open Text Kind

variable {before rest rest' t : Text} {st : State} {c : Char} {n : Nat}

/-! ### Before an edit -/

/-- **Before an edit**, where it does not tell on the last character there, the text is
masked as it was, and the scanner is led to the same state. -/
lemma exists_mask_append (before : Text)
    (alike : ∀ c ∈ before.getLast?, ∀ st : State, st.step c rest.head? = st.step c rest'.head?) :
    ∃ front st, front.length = before.length ∧
      mask (before ++ rest) = front ++ st.masks rest ∧
      mask (before ++ rest') = front ++ st.masks rest' ∧
      stateAt (before ++ rest) before.length = st ∧ stateAt (before ++ rest') before.length = st := by
  obtain ⟨ms, st, read, rfl⟩ := exists_reads rest before {}
  have read' := read.alike alike
  exact ⟨_, st, by simp, masks_of_reads read, masks_of_reads read', read.stateAt, read'.stateAt⟩

namespace State

lemma masks_cons (st : State) (c : Char) (rest : Text) : st.masks (c :: rest) =
    (st.step c rest.head?).1.masked c :: (st.step c rest.head?).2.masks rest := rfl

@[simp]
lemma length_masks (st : State) (t : Text) : (st.masks t).length = t.length := by
  simp [masks]

/-! ### Whether the scanner is in a word -/

/-- The first character that is not masked is the same, in a word and out of it. -/
lemma startsIn_masks_forget (p : Char → Bool) (st : State) (t : Text) (n : Nat) :
    startsIn p (trimLeft ((st.forget.masks t).take n)) =
      startsIn p (trimLeft ((st.masks t).take n)) := by
  induction t generalizing st n with
  | nil => rfl
  | cons c rest ih =>
      cases n with
      | zero => rfl
      | succ n =>
          rw [masks_cons, masks_cons, List.take_succ_cons, List.take_succ_cons]
          by_cases name : st.InCode ∧ isName c = true
          · -- A character of a word is the first one that is not masked.
            obtain ⟨inCode, name⟩ := name
            have solid : isBlank c = false := by
              by_contra blank
              rw [isName_of_isBlank (by simpa using blank)] at name
              cases name
            rw [inCode.step_name name, inCode.forget.step_name name,
              @Kind.masked_of_isKept .code c rfl]
            simp [trimLeft, solid, startsIn]
          · have other : st.InCode → isName c = false := fun inCode => by simpa [inCode] using name
            rw [step_forget other]
            generalize (st.step c rest.head?).1.masked c = b
            by_cases blank : isBlank b = true
            · simpa only [trimLeft, List.dropWhile_cons_of_pos blank] using ih _ n
            · simp [trimLeft, blank, startsIn]

/-- A blank that stands alone at most ends the word that the scanner is in. -/
lemma step_blank_of_joined (consistent : st.Consistent) (tidy : st.Tidy) (alone : st.joined = none)
    (blank : isBlank c = true) (feed : c ≠ '\n') :
    (st.step c rest.head?).2 = st ∨ (st.step c rest.head?).2 = st.forget := by
  have same : { st with joined := none } = st := by rw [← alone]
  cases literal : st.mode.isLiteral with
  | true => exact .inl ((step_blank_of_isLiteral consistent tidy literal blank feed).2.trans same)
  | false =>
    rcases isComment_or_code literal with comment | mode
    · have star : c ≠ '*' := ne_of_isBlank blank (by decide)
      cases mode : st.mode with
      | lineComment => exact .inl (by simp [step, alone, mode, feed])
      | blockComment => exact .inl (by simp [step, alone, mode, star])
      | code | string quote | regex inClass | template =>
          rw [mode] at comment
          cases comment
    · exact .inr (congrArg Prod.snd (InCode.step_blank ⟨mode, alone⟩ blank))

/-- Blanks before a text do not tell on the first character of it that is not masked. -/
lemma startsIn_masks_blanks {blanks : Text} (p : Char → Bool) (consistent : st.Consistent)
    (tidy : st.Tidy) (alone : st.joined = none) (blank : ∀ c ∈ blanks, isBlank c = true)
    (feed : '\n' ∉ blanks) :
    startsIn p (trimLeft ((st.masks (blanks ++ rest)).take (blanks.length + n))) =
      startsIn p (trimLeft ((st.masks rest).take n)) := by
  induction blanks generalizing st with
  | nil => rw [List.nil_append, List.length_nil, Nat.zero_add]
  | cons c blanks ih =>
      rw [List.mem_cons, not_or] at feed
      have first := isBlank_masked_of_isBlank (st.step c (blanks ++ rest).head?).1
        (blank c List.mem_cons_self)
      have later := fun (st : State) consistent tidy alone =>
        @ih st consistent tidy alone (fun c hc => blank c (List.mem_cons_of_mem _ hc)) feed.2
      rw [List.cons_append, masks_cons, List.length_cons, Nat.succ_add, List.take_succ_cons,
        trimLeft, List.dropWhile_cons_of_pos first, ← trimLeft]
      rcases @step_blank_of_joined (blanks ++ rest) _ _ consistent tidy alone
        (blank c List.mem_cons_self) (Ne.symm feed.1) with same | same
      · rw [same, later st consistent tidy alone]
      · have forget : st.forget.Consistent ∧ st.forget.Tidy :=
          same ▸ ⟨consistent.step c _, tidy.step c _⟩
        rw [same, later st.forget forget.1 forget.2 alone, startsIn_masks_forget]

/-! ### The first character that is not masked -/

/-- States inside of the same, in which a slash is read alike. -/
structure Near (st st' : State) : Prop where
  mode : st'.mode = st.mode
  joined : st'.joined = st.joined
  allowed : st'.regexAllowed = st.regexAllowed

variable {st' : State} {next : Option Char}

lemma Near.stepCode (h : Near st st') (inCode : st.InCode) :
    (st'.step c next).1 = (st.step c next).1 ∧
      (isBlank ((st.step c next).1.masked c) = true → Near (st.step c next).2 (st'.step c next).2) := by
  have inCode' : st'.InCode := ⟨h.mode.trans inCode.mode, h.joined.trans inCode.alone⟩
  by_cases blank : isBlank c = true
  · rw [inCode.step_blank blank, inCode'.step_blank blank]
    exact ⟨rfl, fun _ => ⟨h.mode, h.joined, h.allowed⟩⟩
  rw [inCode.step_eq, inCode'.step_eq, stepCode_eq, stepCode_eq, h.allowed]
  have solid : ∀ {kind : Kind}, kind.isKept = true → isBlank (kind.masked c) ≠ true :=
    fun kept => by rwa [Kind.masked_of_isKept kept]
  split_ifs with line block regex
  · exact ⟨rfl, fun _ => ⟨rfl, rfl, rfl⟩⟩
  · exact ⟨rfl, fun _ => ⟨rfl, rfl, rfl⟩⟩
  · exact ⟨rfl, fun _ => ⟨rfl, h.joined, rfl⟩⟩
  all_goals exact ⟨rfl, fun masked => absurd masked (solid rfl)⟩

/-- A character is read alike, and what is masked leads to such states again. -/
lemma Near.step (h : Near st st') :
    (st'.step c next).1 = (st.step c next).1 ∧
      (isBlank ((st.step c next).1.masked c) = true → Near (st.step c next).2 (st'.step c next).2) := by
  obtain ⟨mode, joined, allowed⟩ := h
  cases alone : st.joined with
  | some kind =>
      simp only [State.step, alone, joined.trans alone]
      exact ⟨trivial, fun _ => ⟨mode, rfl, allowed⟩⟩
  | none =>
    cases inside : st.mode with
    | code => exact Near.stepCode ⟨mode, joined, allowed⟩ ⟨inside, alone⟩
    | lineComment | blockComment =>
        simp only [State.step, alone, joined.trans alone, inside, mode.trans inside]
        split_ifs <;> exact ⟨rfl, fun _ => ⟨by simp [inside, mode], by simp [alone, joined], allowed⟩⟩
    | string quote =>
        simp only [State.step, alone, joined.trans alone, inside, mode.trans inside, stepString]
        split_ifs <;> exact ⟨rfl, fun _ => ⟨by simp [inside, mode], by simp [alone, joined],
          by simp [allowed]⟩⟩
    | regex inClass =>
        simp only [State.step, alone, joined.trans alone, inside, mode.trans inside, stepRegex]
        split_ifs <;> exact ⟨rfl, fun _ => ⟨by simp [inside, mode], by simp [alone, joined],
          by simp [allowed]⟩⟩
    | template =>
        simp only [State.step, alone, joined.trans alone, inside, mode.trans inside, stepTemplate]
        split_ifs <;> exact ⟨rfl, fun _ => ⟨by simp [inside, mode], by simp [alone, joined],
          by simp [allowed]⟩⟩

/-- **The first character that is not masked** is the same. -/
lemma Near.startsIn_masks (h : Near st st') (p : Char → Bool) (t : Text) :
    startsIn p (trimLeft (st'.masks t)) = startsIn p (trimLeft (st.masks t)) := by
  induction t generalizing st st' with
  | nil => rfl
  | cons c rest ih =>
      obtain ⟨same, near⟩ := @Near.step st c st' rest.head? h
      rw [masks_cons, masks_cons, same]
      by_cases blank : isBlank ((st.step c rest.head?).1.masked c) = true
      · simpa only [trimLeft, List.dropWhile_cons_of_pos blank] using ih (near blank)
      · simp [trimLeft, blank, startsIn]

end State

end LintRepair.Lexical
