/-
The target of a binding, and what stands around it.

* `Ending`: blanks, and a value behind an equals sign if there is one;
* `Tight`: how a target can be told from what stands around it;
* `tight_of_isIdentifier`, `Standing.tight`: a name can, and so can a text that stands by itself,
  in brackets;
* `Tight.target`, `Tight.namesWithin_eq`: so between blanks and a value the same names are found.
-/
import LintRepair.Proofs.Code.Standing
import LintRepair.Proofs.Lexical.Edit

namespace LintRepair.Code

open Text Lexical

variable {t u v b e x : Text} {sep : Char} {depth : Nat} {value : Text → Prop}

/-! ### What stands behind a target -/

/-- Nothing but blanks. -/
def Blank (b : Text) : Prop := ∀ c ∈ b, isBlank c = true

instance : DecidablePred Blank := fun b => List.decidableBAll _ b

lemma blank_nil : Blank [] := List.forall_mem_nil _

/-- A value behind an equals sign: the sign is not the start of another operator. -/
def Assigned (e : Text) : Prop := startsIn (fun c => c == '=' || c == '>') e = false

instance : DecidablePred Assigned := fun e => inferInstanceAs (Decidable (startsIn _ e = false))

/-- What stands behind a target: blanks, and then an equals sign with a value if it has one. -/
inductive Ending (value : Text → Prop) : Text → Prop
  | bare {b : Text} (blank : Blank b) : Ending value b
  | valued {b e : Text} (blank : Blank b) (assigned : value e) : Ending value (b ++ '=' :: e)

/-- The start of a value may be assigned as well. -/
lemma Assigned.of_prefix (h : Assigned e) (start : u <+: e) : Assigned u := by
  cases u with
  | nil => rfl
  | cons c u =>
      obtain ⟨rest, rfl⟩ := start
      exact h

/-- So it may be masked. -/
lemma Assigned.head?_masks (h : Assigned e) (st : State) :
    (st.masks e).head? ≠ some '=' ∧ (st.masks e).head? ≠ some '>' := by
  cases e with
  | nil => exact ⟨nofun, nofun⟩
  | cons c e =>
      have start : ¬ (c = '=' ∨ c = '>') := by
        rintro (rfl | rfl) <;> cases h
      rw [State.masks_cons, List.head?_cons, Kind.masked]
      split_ifs
      · simpa using start
      · decide

namespace Ending

lemma mono {value' : Text → Prop} (h : Ending value u) (imp : ∀ e, value e → value' e) :
    Ending value' u := by
  cases h with
  | bare blank => exact .bare blank
  | valued blank assigned => exact .valued blank (imp _ assigned)

lemma neutral (h : Ending value u) : Neutral u.head? := by
  have equals : Neutral (some '=') := by decide
  cases h with
  | bare blank =>
      cases u with
      | nil => exact neutral_none
      | cons c u => exact neutral_of_isBlank (blank c List.mem_cons_self)
  | @valued b e blank =>
      cases b with
      | nil => exact equals
      | cons c b => exact neutral_of_isBlank (blank c List.mem_cons_self)

/-- Its start may stand there as well. -/
lemma take (h : Ending Assigned u) (n : Nat) : Ending Assigned (u.take n) := by
  cases h with
  | bare blank => exact .bare fun c among => blank c (List.mem_of_mem_take among)
  | @valued b e blank assigned =>
      rw [List.take_append]
      have blank' : Blank (b.take n) := fun c among => blank c (List.mem_of_mem_take among)
      cases n - b.length with
      | zero => simpa using bare blank'
      | succ n' =>
          rw [List.take_succ_cons]
          exact .valued blank' (assigned.of_prefix (List.take_prefix _ _))

lemma trimRight (h : Ending Assigned u) : Ending Assigned (trimRight u) := by
  have start : Text.trimRight u <+: u := List.rdropWhile_prefix isBlank u
  rw [List.prefix_iff_eq_take.mp start]
  exact h.take _

end Ending

/-! ### Targets -/

/-- What a target starts with. -/
def opensTarget (c : Char) : Bool := isNameStart c || c == '[' || c == '{'

/-- What a target ends with. -/
def closesTarget (c : Char) : Bool := isName c || c == ']' || c == '}'

/-- A text that can be told from what stands around it: it stands by itself with no divider outside
brackets, and it starts and ends as a target does, also where it is masked. -/
structure Tight (v : Text) : Prop where
  piece : ∀ sep ∈ dividers, Piece sep v
  first : startsIn opensTarget v = true
  last : endsIn closesTarget v = true
  masked : endsIn closesTarget (mask v) = true

lemma Tight.standing (h : Tight v) : Standing v := (h.piece ',' (by decide)).standing

/-- Blanks around a text are cut, up to one of another text behind it. -/
lemma trim_append (blank : Blank b) (first : startsIn isBlank t = false) (some' : t ≠ [])
    (last : endsIn isBlank t = false) (u : Text) : trim (b ++ (t ++ u)) = t ++ trimRight u := by
  rw [trim, trimLeft_append blank (by rwa [startsIn_append some']), trimRight_append_of_solid last]

lemma trimRight_of_blank (blank : Blank b) : trimRight b = [] := trimRight_append [] blank

lemma trim_of_blank (blank : Blank b) : trim b = [] := by
  have left := trimLeft_append (t := []) blank rfl
  rw [List.append_nil] at left
  rw [trim, left]
  rfl

lemma isBlank_of_opensTarget {c : Char} (opens : opensTarget c = true) : isBlank c = false := by
  rw [Bool.eq_false_iff]
  intro blank
  have other := isName_of_isBlank blank
  rw [opensTarget, Bool.or_eq_true, Bool.or_eq_true, beq_iff_eq, beq_iff_eq] at opens
  rcases opens with (name | rfl) | rfl
  · rw [isName_of_isNameStart name] at other
    cases other
  · exact absurd blank (by decide)
  · exact absurd blank (by decide)

lemma isBlank_of_closesTarget {c : Char} (closes : closesTarget c = true) : isBlank c = false := by
  rw [Bool.eq_false_iff]
  intro blank
  have other := isName_of_isBlank blank
  rw [closesTarget, Bool.or_eq_true, Bool.or_eq_true, beq_iff_eq, beq_iff_eq] at closes
  rcases closes with (name | rfl) | rfl
  · rw [name] at other
    cases other
  · exact absurd blank (by decide)
  · exact absurd blank (by decide)

/-- Where the targets are the same, so are the names that are found. -/
lemma Target.namesWithin_eq (h : Target t v) (h' : Target u v) :
    namesWithin depth t = namesWithin depth u := by
  cases depth with
  | zero => rfl
  | succ depth => rw [namesWithin, namesWithin, h.eq, h'.eq]

/-- A text without a value behind it. -/
lemma target_of_bare (trimmed : trim t = v) (dotless : startsWith v dots = false)
    (valueless : ∀ i, ¬ AssignsAt (mask v) i) : Target t v := by
  subst trimmed
  exact .bare dotless valueless

/-- A text with one. -/
lemma target_of_valued {m : Text} (trimmed : trim t = u ++ '=' :: e)
    (masked : mask (u ++ '=' :: e) = mask u ++ '=' :: m)
    (dotless : startsWith (u ++ '=' :: e) dots = false) (level : nesting (mask u) = 0)
    (whole : Whole '=' (mask u)) (sign : assigns (mask u).getLast? m.head? = true) :
    Target t (trim u) := by
  have value : AssignsAt (mask (trim t)) u.length := by
    rw [trimmed, masked, ← length_mask u]
    exact assignsAt_append.mpr ⟨rfl, level, sign⟩
  have first : ∀ i < u.length, ¬ AssignsAt (mask (trim t)) i := by
    rintro i before ⟨here, outside, -⟩
    rw [← length_mask u] at before
    rw [trimmed, masked] at here outside
    rw [List.getElem?_append_left before] at here
    rw [List.take_append_of_le_length (Nat.le_of_lt before)] at outside
    exact whole i ⟨here, outside⟩
  have target := Target.valued (trimmed ▸ dotless) value first
  rwa [trimmed, List.take_left] at target

namespace Tight

lemma ne_nil (h : Tight v) : v ≠ [] := by
  rintro rfl
  cases h.first

/-- Its first character. -/
lemma exists_eq_cons (h : Tight v) : ∃ c v', v = c :: v' ∧ opensTarget c = true := by
  obtain ⟨c, v', rfl⟩ := List.exists_cons_of_ne_nil h.ne_nil
  exact ⟨c, v', rfl, h.first⟩

lemma solid (h : Tight v) : startsIn isBlank v = false := by
  obtain ⟨c, v', rfl, opens⟩ := h.exists_eq_cons
  exact isBlank_of_opensTarget opens

lemma solid_last (h : Tight v) : endsIn isBlank v = false := by
  have last := h.last
  rw [endsIn] at last ⊢
  obtain ⟨c, here, closes⟩ := (Option.any_eq_true _ _).mp last
  rw [here]
  exact isBlank_of_closesTarget closes

lemma trim_eq (h : Tight v) (blank : Blank b) (u : Text) :
    trim (b ++ (v ++ u)) = v ++ trimRight u :=
  trim_append blank h.solid h.ne_nil h.solid_last u

lemma trim_bare (h : Tight v) (blank : Blank b) (blank' : Blank u) : trim (b ++ (v ++ u)) = v := by
  rw [h.trim_eq blank, trimRight_of_blank blank', List.append_nil]

lemma dotless (h : Tight v) (u : Text) : startsWith (v ++ u) dots = false := by
  obtain ⟨c, v', rfl, opens⟩ := h.exists_eq_cons
  have other : ('.' == c) = false := by
    rw [beq_eq_false_iff_ne]
    rintro rfl
    cases opens
  rw [startsWith, dots, List.cons_append, List.isPrefixOf_cons_cons, other, Bool.false_and]

/-- It takes no value. -/
lemma valueless (h : Tight v) (i : Nat) : ¬ AssignsAt (mask v) i :=
  fun stands => (h.piece '=' (by decide)).whole i ⟨stands.1, stands.2.1⟩

/-- An equals sign behind it assigns, also behind blanks. -/
lemma assigns (h : Tight v) (blank : Blank b) {next : Option Char} (equals : next ≠ some '=')
    (arrow : next ≠ some '>') : assigns (mask v ++ b).getLast? next = true := by
  have other : ∀ c ∈ (mask v ++ b).getLast?, isBlank c = true ∨ closesTarget c = true := by
    intro c last
    rw [Option.mem_def, List.getLast?_append] at last
    cases blanks : b.getLast? with
    | some d =>
        rw [blanks, Option.some_or, Option.some_inj] at last
        exact .inl (last ▸ blank d (List.mem_of_getLast? blanks))
    | none =>
        have masked := h.masked
        rw [blanks, Option.none_or] at last
        rw [endsIn, last] at masked
        exact .inr masked
  have solid : ∀ c ∈ ['=', '!', '<', '>'], ¬ (isBlank c = true ∨ closesTarget c = true) :=
    List.all_iff_forall_prop.mp (by decide)
  have apart : ∀ c ∈ ['=', '!', '<', '>'], ((mask v ++ b).getLast? == some c) = false := by
    intro c among
    rw [beq_eq_false_iff_ne]
    exact fun last => solid c among (other c last)
  rw [Code.assigns, beq_eq_false_iff_ne.mpr equals, beq_eq_false_iff_ne.mpr arrow,
    apart '=' (by decide), apart '!' (by decide), apart '<' (by decide), apart '>' (by decide)]
  rfl

/-- **A target** is told from the blanks around it and the value behind it. -/
lemma target (h : Tight v) (blank : Blank b) (ending : Ending Assigned u) :
    Target (b ++ (v ++ u)) v := by
  have trimmed := h.trim_eq blank u
  cases ending with
  | bare blank' =>
      have dotless := h.dotless []
      rw [List.append_nil] at dotless
      rw [trimRight_of_blank blank', List.append_nil] at trimmed
      exact target_of_bare trimmed dotless h.valueless
  | @valued b' e blank' assigned =>
      obtain ⟨masked, standing⟩ := h.standing.append_blanks blank'
      have piece := (h.piece '=' (by decide)).append_blanks (by decide) blank'
      obtain ⟨st, -, passes⟩ := standing.exists_mask_divider (c := '=') (by decide) (trimRight e)
      have mask_eq : mask (v ++ b' ++ '=' :: trimRight e) =
          mask (v ++ b') ++ '=' :: st.masks (trimRight e) := by
        rw [List.append_cons, List.append_cons (mask _)]
        exact passes.masks
      have solid : endsIn isBlank (b' ++ ['=']) = false := by
        rw [endsIn_append (List.cons_ne_nil _ _)]
        decide
      have parts : v ++ trimRight (b' ++ '=' :: e) = v ++ b' ++ '=' :: trimRight e := by
        rw [List.append_cons, trimRight_append_of_solid solid]
        simp
      rw [parts] at trimmed
      have assigned' : Assigned (trimRight e) :=
        assigned.of_prefix (List.rdropWhile_prefix isBlank e)
      obtain ⟨equals, arrow⟩ := assigned'.head?_masks st
      have dotless := h.dotless (b' ++ '=' :: trimRight e)
      rw [← List.append_assoc] at dotless
      have target := target_of_valued trimmed mask_eq dotless standing.paired.nesting piece.whole
        (masked ▸ h.assigns blank' equals arrow)
      rwa [← List.nil_append (v ++ b'), h.trim_bare blank_nil blank'] at target

/-- It is told from nothing. -/
lemma alone (h : Tight v) : Target v v := by
  simpa using h.target blank_nil (.bare blank_nil)

/-- The same names are found in it by itself. -/
lemma namesWithin_eq (h : Tight v) (blank : Blank b) (ending : Ending Assigned u) :
    namesWithin depth (b ++ (v ++ u)) = namesWithin depth v :=
  (h.target blank ending).namesWithin_eq h.alone

/-- With such a value behind it, it is one item of a list, and no colon stands in it. -/
lemma piece_append (h : Tight v) (blank : Blank b) (ending : Ending (Piece sep) u)
    (divider : sep ∈ [',', ':']) : Piece sep (b ++ (v ++ u)) := by
  have other : ∀ sep ∈ [',', ':'], sep ∈ dividers ∧ sep ≠ '=' :=
    List.all_iff_forall_prop.mp (by decide)
  obtain ⟨divider, other⟩ := other sep divider
  have piece := h.piece sep divider
  cases ending with
  | bare blank' => exact (piece.append_blanks divider blank').blanks_append divider blank
  | valued blank' value =>
      rw [← List.append_assoc v]
      have valued := (piece.append_blanks divider blank').append_divider (by decide) other value
      exact valued.blanks_append divider blank

end Tight

/-- A name is tight. -/
lemma tight_of_isIdentifier (identifier : isIdentifier x = true) : Tight x := by
  have some' := ne_nil_of_isIdentifier identifier
  have last : endsIn closesTarget x = true := by
    rw [endsIn, List.getLast?_eq_some_getLast some', Option.any_some, closesTarget,
      all_isName_of_isIdentifier identifier _ (List.getLast_mem some')]
    rfl
  obtain ⟨masked, -⟩ := standing_of_isIdentifier identifier
  refine ⟨fun _ => piece_of_isIdentifier identifier, ?_, last, by rwa [masked]⟩
  obtain ⟨c, x, rfl⟩ := List.exists_cons_of_ne_nil some'
  rw [isIdentifier, Bool.and_eq_true] at identifier
  simp [startsIn, opensTarget, identifier.1]

/-- So is a text that stands by itself, in brackets. -/
lemma Standing.tight {o c : Char} (h : Standing t) (pair : (o, c) ∈ enclosures) :
    Tight (o :: (t ++ [c])) := by
  have edges : ∀ pair ∈ enclosures, opensTarget pair.1 = true ∧ closesTarget pair.2 = true := by
    decide
  obtain ⟨opens, closes⟩ := edges _ pair
  have last (m : Text) : endsIn closesTarget (o :: (m ++ [c])) = true := by
    rw [← List.cons_append, endsIn_append (List.cons_ne_nil _ _)]
    exact closes
  obtain ⟨masked, -⟩ := h.enclosed pair
  exact ⟨fun _ => h.piece pair, opens, last t, masked ▸ last (mask t)⟩

end LintRepair.Code
