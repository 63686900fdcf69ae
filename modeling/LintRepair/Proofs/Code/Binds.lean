/-
The names that a declaration binds.

* `Target`, `Item`, `Property`: the target of a binding, an item of a list, and what a
  property of an object pattern binds, told by brackets, commas, colons and equals signs;
* `Binds`: a target binds a name, itself or in a pattern;
* `Binds.mem_bindingNames`: a name that is bound is found, however deep;
* `BindsAt`: a declaration binds a name in a declarator; `BindsAt.mem_names` and
  `BindsAt.le_stop`: it is among the names of the declaration, and ends in it.
-/
import LintRepair.Code.Declaration
import LintRepair.Proofs.Code.Items
import LintRepair.Proofs.Text.Cut

namespace LintRepair.Code

open Text Lexical

variable {name t u c inner code : Text} {depth offset e : Nat} {d : Declaration}

/-! ### The parts of a pattern -/

/-- The three dots before a rest element. -/
def dots : Text := ['.', '.', '.']

/-- The target of a binding: what is left of its text without blanks at the ends, without
the value behind it, and without the dots of a rest element, which takes no value. -/
inductive Target (t : Text) : Text → Prop
  | bare (dotless : startsWith (trim t) dots = false)
      (valueless : ∀ k, ¬ AssignsAt (mask (trim t)) k) : Target t (trim t)
  | valued {k : Nat} (dotless : startsWith (trim t) dots = false)
      (value : AssignsAt (mask (trim t)) k) (first : ∀ i < k, ¬ AssignsAt (mask (trim t)) i) :
      Target t (trim ((trim t).take k))
  | rest {u : Text} (dotted : trim t = dots ++ u)
      (valueless : ∀ k, ¬ AssignsAt (mask (trim u)) k) : Target t (trim u)

/-- A text is an item of a list. -/
def Item (sep : Char) (t p : Text) : Prop :=
  ∃ i j, Part sep (mask t) i j ∧ p = trim (slice t i j)

/-- What a property of an object pattern binds: what stands behind its colon, or
itself if there is none. -/
inductive Property (p : Text) : Text → Prop
  | shorthand (keyless : ∀ k, ¬ Separates ':' (mask p) k) : Property p p
  | keyed {k l : Nat} (dotless : startsWith p dots = false) (key : Part ':' (mask p) 0 k)
      (target : Part ':' (mask p) (k + 1) l) : Property p (trim (slice p (k + 1) l))

/-- A target binds a name. -/
inductive Binds (name : Text) : Text → Prop
  | itself {t : Text} (target : Target t name) : Binds name t
  | element {t inner p : Text} (target : Target t ('[' :: (inner ++ [']'])))
      (item : Item ',' inner p) (binds : Binds name p) : Binds name t
  | property {t inner p u : Text} (target : Target t ('{' :: (inner ++ ['}'])))
      (item : Item ',' inner p) (property : Property p u) (binds : Binds name u) : Binds name t

/-! ### What is bound is found -/

lemma withoutDots_of_dotless (dotless : startsWith t dots = false) : withoutDots t = t := by
  unfold withoutDots
  split
  · simp [startsWith, dots] at dotless
  · rfl

lemma Target.eq (h : Target t c) : withoutValue (withoutDots (trim t)) = c := by
  cases h with
  | bare dotless valueless =>
      rw [withoutDots_of_dotless dotless, withoutValue, topLevelAssignment?_eq_none valueless]
  | valued dotless value first =>
      rw [withoutDots_of_dotless dotless, withoutValue, topLevelAssignment?_eq_some value first]
  | @rest u dotted valueless =>
      have dotless : withoutDots (trim t) = trim u := by rw [dotted]; rfl
      rw [dotless, withoutValue, topLevelAssignment?_eq_none valueless]

lemma Target.length_le (h : Target t c) : c.length ≤ t.length := by
  have whole := length_trim_le t
  cases h with
  | bare => exact whole
  | valued =>
      exact Nat.le_trans (length_trim_le _) (Nat.le_trans (List.length_take_le' _ _) whole)
  | @rest u dotted =>
      have shorter := length_trim_le u
      rw [dotted, List.length_append] at whole
      omega

lemma Target.trim_ne_nil (h : Target t c) (some' : c ≠ []) : trim t ≠ [] := by
  intro empty
  cases h with
  | bare => exact some' empty
  | valued =>
      rw [empty, List.take_nil] at some'
      exact some' rfl
  | rest dotted => rw [empty] at dotted; cases dotted

lemma Binds.trim_ne_nil (identifier : isIdentifier name = true) (h : Binds name t) :
    trim t ≠ [] := by
  cases h with
  | itself target =>
      refine target.trim_ne_nil ?_
      rintro rfl
      cases identifier
  | element target => exact target.trim_ne_nil (List.cons_ne_nil _ _)
  | property target => exact target.trim_ne_nil (List.cons_ne_nil _ _)

lemma Property.length_le (h : Property t u) : u.length ≤ t.length := by
  cases h with
  | shorthand => exact Nat.le_refl _
  | keyed => exact Nat.le_trans (length_trim_le _) (length_slice_le _ _ _)

/-- The target that a property names is found. -/
lemma Property.trim_eq (h : Property t u) : trim (propertyTarget t) = trim u := by
  have plain : Unbracketed ':' := by decide
  have lengths := length_mask t
  unfold propertyTarget
  cases h with
  | shorthand keyless =>
      split_ifs
      · rfl
      · rw [splitTopLevel, splitTopLevelOn, splitMasked_of_only lengths (part_of_none keyless)]
  | @keyed k l dotless key target =>
      rw [dots] at dotless
      rw [dotless, if_neg Bool.false_ne_true]
      have separates : Separates ':' (mask t) k :=
        (target.first.resolve_left (Nat.succ_ne_zero k)).2
      have second := head?_splitMasked (t := t.drop (k + 1)) plain (by simp) (target.drop plain)
      rw [splitTopLevel, splitTopLevelOn, splitMasked_of_first plain lengths key separates]
      obtain ⟨others, shape⟩ := List.head?_eq_some_iff.mp second
      rw [shape, trim_trim]
      rfl

lemma namesWithin_congr (same : trim t = trim u) : namesWithin depth t = namesWithin depth u := by
  cases depth with
  | zero => rfl
  | succ depth => rw [namesWithin, namesWithin, same]

lemma isEnclosed_cons (opener closer : Char) (inner : Text) :
    isEnclosed opener closer (opener :: (inner ++ [closer])) = true := by
  simp [isEnclosed, startsIn, endsIn, List.getLast?_cons]

lemma inside_cons (opener closer : Char) (inner : Text) :
    inside (opener :: (inner ++ [closer])) = inner := by
  simp [inside]

/-- An identifier starts with no bracket. -/
lemma isEnclosed_of_isIdentifier (identifier : isIdentifier name = true) {opener closer : Char}
    (bracket : isNameStart opener = false) : isEnclosed opener closer name = false := by
  cases name with
  | nil => rfl
  | cons c rest =>
      rw [isIdentifier, Bool.and_eq_true] at identifier
      have other : c ≠ opener := by
        rintro rfl
        rw [bracket] at identifier
        cases identifier.1
      simp [isEnclosed, startsIn, other]

/-- An item of what a target encloses is shorter than the text around it. -/
lemma length_item_lt {opener closer sep : Char} {p : Text}
    (target : Target t (opener :: (inner ++ [closer]))) (item : Item sep inner p) :
    p.length < t.length := by
  obtain ⟨i, j, -, rfl⟩ := item
  have whole := target.length_le
  have shorter := Nat.le_trans (length_trim_le _) (length_slice_le inner i j)
  rw [List.length_cons, List.length_append, List.length_singleton] at whole
  omega

/-- A name that is bound is found, if patterns are opened deep enough. -/
lemma Binds.mem_namesWithin (identifier : isIdentifier name = true) (h : Binds name t) :
    ∀ depth, t.length < depth → name ∈ namesWithin depth t := by
  have comma : Unbracketed ',' := by decide
  induction h with
  | itself target =>
      rintro (_ | depth) deep
      · exact absurd deep (Nat.not_lt_zero _)
      · have braceless : isEnclosed '{' '}' name = false :=
          isEnclosed_of_isIdentifier identifier (by decide)
        have bracketless : isEnclosed '[' ']' name = false :=
          isEnclosed_of_isIdentifier identifier (by decide)
        simp [namesWithin, target.eq, braceless, bracketless, identifier]
  | @element t inner p target item binds ih =>
      rintro (_ | depth) deep
      · exact absurd deep (Nat.not_lt_zero _)
      · have shorter := length_item_lt target item
        have found := ih depth (by omega)
        have some' := binds.trim_ne_nil identifier
        obtain ⟨i, j, part, rfl⟩ := item
        rw [trim_trim] at some'
        rw [namesWithin_congr (trim_trim _)] at found
        rw [namesWithin]
        simp only [target.eq, isEnclosed_cons, inside_cons, if_true]
        rw [if_neg (by exact Bool.false_ne_true)]
        refine List.mem_flatMap.mpr ⟨_, part.mem_splitTopLevel comma, ?_⟩
        rwa [if_neg (by simpa using some')]
  | @property t inner p u target item property binds ih =>
      rintro (_ | depth) deep
      · exact absurd deep (Nat.not_lt_zero _)
      · have shorter := length_item_lt target item
        have found := ih depth (Nat.lt_of_le_of_lt property.length_le (by omega))
        rw [← namesWithin_congr property.trim_eq] at found
        have some' : p ≠ [] := by
          rintro rfl
          have empty := List.length_eq_zero_iff.mp (Nat.le_zero.mp property.length_le)
          subst empty
          exact binds.trim_ne_nil identifier rfl
        obtain ⟨i, j, part, rfl⟩ := item
        rw [namesWithin]
        simp only [target.eq, isEnclosed_cons, inside_cons, if_true]
        refine List.mem_flatMap.mpr ⟨_, part.mem_splitTopLevel comma, ?_⟩
        rwa [if_neg (by simpa using some')]

/-- A name that is bound is among those of the target, whose length bounds the depth. -/
lemma Binds.mem_bindingNames (identifier : isIdentifier name = true) (h : Binds name t) :
    name ∈ bindingNames t :=
  h.mem_namesWithin identifier _ (Nat.lt_succ_self _)

/-- Every name that is found is an identifier. -/
lemma isIdentifier_of_mem_namesWithin {target : Text} :
    ∀ depth, name ∈ namesWithin depth target → isIdentifier name = true := by
  intro depth
  induction depth generalizing target with
  | zero => exact fun found => absurd found List.not_mem_nil
  | succ depth ih =>
      intro found
      rw [namesWithin] at found
      dsimp only at found
      split_ifs at found with braces brackets identifier
      · obtain ⟨part, -, inside⟩ := List.mem_flatMap.mp found
        split_ifs at inside
        · exact absurd inside List.not_mem_nil
        · exact ih inside
      · obtain ⟨part, -, inside⟩ := List.mem_flatMap.mp found
        split_ifs at inside
        · exact absurd inside List.not_mem_nil
        · exact ih inside
      · rw [List.mem_singleton.mp found]
        exact identifier
      · exact absurd found List.not_mem_nil

lemma isIdentifier_of_mem_bindingNames {target : Text} (found : name ∈ bindingNames target) :
    isIdentifier name = true :=
  isIdentifier_of_mem_namesWithin _ found

/-! ### Declarations -/

namespace Declaration

/-- Where the declarators start, behind the keyword. -/
def bodyStart (d : Declaration) : Nat := d.start + d.keyword.length

/-- The text of the declarators, without the semicolons and blanks behind them. -/
def body (d : Declaration) (code : Text) : Text :=
  dropEndWhile (· == ';') (trimRight (slice code d.bodyStart d.stop))

/-- The head of a loop over elements or keys that the declaration stands in: where its
target ends, and the kind of loop. -/
def passage? (d : Declaration) (m : Text) : Option (Nat × ForKind) :=
  if endsWithForHead (m.take d.start) then passageIn (slice m d.bodyStart d.stop) else none

end Declaration

/-- A declaration binds a name, in a declarator that ends at an offset: in one of its
list, or in the only target if it stands in the head of such a loop. -/
inductive BindsAt (code : Text) (d : Declaration) (name : Text) : Nat → Prop
  | listed {i j : Nat} (list : d.passage? (mask code) = none)
      (part : Part ',' (mask (d.body code)) i j)
      (binds : Binds name (trim (slice (d.body code) i j))) : BindsAt code d name (d.bodyStart + j)
  | passed {n : Nat} {kind : ForKind} (head : d.passage? (mask code) = some (n, kind))
      (binds : Binds name (slice code d.bodyStart (d.bodyStart + n))) :
      BindsAt code d name (d.bodyStart + n)

/-- The only declarator of a list ends where the list does. -/
lemma bindsAt_of_single (list : d.passage? (mask code) = none) (body : d.body code = t)
    (single : ',' ∉ mask t) (binds : Binds name (trim t)) :
    BindsAt code d name (d.bodyStart + t.length) := by
  have part : Part ',' (mask (d.body code)) 0 t.length := by
    rw [body, ← length_mask]
    exact part_of_none fun k => not_separates_of_notMem single
  refine .listed list part ?_
  rwa [body, slice_zero_length]

/-- The target in the head of a loop ends in the text. -/
lemma le_of_passageFrom {moved n : Nat} {kind : ForKind}
    (found : passageFrom moved t = some (n, kind)) : n ≤ moved + t.length := by
  induction t generalizing moved with
  | nil => cases found
  | cons c rest ih =>
      simp only [passageFrom] at found
      split at found
      · cases found
        exact Nat.le_add_right _ _
      · split_ifs at found
        have := ih found
        rw [List.length_cons]
        omega

lemma le_of_passageIn {n : Nat} {kind : ForKind} (found : passageIn t = some (n, kind)) :
    n ≤ t.length := by
  rw [passageIn] at found
  obtain ⟨j, among, target⟩ := List.exists_of_findSome?_eq_some found
  obtain ⟨⟨n', _⟩, ends, same⟩ := Option.map_eq_some_iff.mp target
  cases same
  have within : j ≤ t.length := by
    have blanks := (List.takeWhile_prefix (l := t) isBlank).length_le
    rw [List.mem_reverse, List.mem_range] at among
    exact Nat.le_trans (Nat.le_of_lt_succ among) blanks
  have := le_of_passageFrom ends
  rw [List.length_drop] at this
  omega

lemma Binds.ne_nil (identifier : isIdentifier name = true) (h : Binds name t) : t ≠ [] := by
  rintro rfl
  exact h.trim_ne_nil identifier rfl

/-- A declarator that binds a name ends in the declaration. -/
lemma BindsAt.le_stop (identifier : isIdentifier name = true) (h : BindsAt code d name e) :
    e ≤ d.stop := by
  cases h with
  | @listed i j list part binds =>
      have short : (d.body code).length ≤ (slice code d.bodyStart d.stop).length :=
        Nat.le_trans (length_dropEndWhile_le _ _) (length_dropEndWhile_le _ _)
      have some' : slice code d.bodyStart d.stop ≠ [] := by
        intro empty
        rw [empty] at short
        have none' : d.body code = [] := List.length_eq_zero_iff.mp (Nat.le_zero.mp short)
        rw [none', slice, List.drop_nil, List.take_nil] at binds
        exact binds.ne_nil identifier rfl
      have last := part.le_length
      have first := lt_of_slice_ne_nil some'
      rw [length_mask] at last
      rw [slice, List.length_take] at short
      omega
  | @passed n kind head binds =>
      have some' := lt_of_slice_ne_nil (binds.ne_nil identifier)
      rw [Declaration.passage?] at head
      split_ifs at head
      have last := le_of_passageIn head
      rw [slice, List.length_take] at last
      omega

section Parse

variable (code masked : Text) (offset : Nat)

lemma start_parseDeclaration : (parseDeclaration code masked offset).start = offset := by
  rw [parseDeclaration]
  split <;> rfl

lemma bodyStart_parseDeclaration : (parseDeclaration code masked offset).bodyStart =
    offset + ((masked.drop offset).takeWhile fun c => 'a' ≤ c && c ≤ 'z').length := by
  rw [parseDeclaration]
  split <;> rfl

lemma stop_parseDeclaration : (parseDeclaration code masked offset).stop =
    statementEnd masked (parseDeclaration code masked offset).bodyStart := by
  rw [bodyStart_parseDeclaration, parseDeclaration]
  split <;> rfl

lemma names_of_passage {n : Nat} {kind : ForKind}
    (head : (parseDeclaration code masked offset).passage? masked = some (n, kind)) :
    (parseDeclaration code masked offset).names =
      bindingNames (slice code (parseDeclaration code masked offset).bodyStart
        ((parseDeclaration code masked offset).bodyStart + n)) := by
  rw [Declaration.passage?, stop_parseDeclaration, bodyStart_parseDeclaration,
    start_parseDeclaration] at head
  rw [bodyStart_parseDeclaration, parseDeclaration]
  simp only [head]

lemma names_of_list (list : (parseDeclaration code masked offset).passage? masked = none) :
    (parseDeclaration code masked offset).names =
      (((splitTopLevel ',' ((parseDeclaration code masked offset).body code)).map
        trim).filter (! ·.isEmpty)).flatMap bindingNames := by
  rw [Declaration.passage?, stop_parseDeclaration, bodyStart_parseDeclaration,
    start_parseDeclaration] at list
  rw [Declaration.body, stop_parseDeclaration, bodyStart_parseDeclaration, parseDeclaration]
  simp only [list]

end Parse

/-- A name that a declaration binds is among its names. -/
lemma BindsAt.mem_names (identifier : isIdentifier name = true)
    (h : BindsAt code (parseDeclaration code (mask code) offset) name e) :
    name ∈ (parseDeclaration code (mask code) offset).names := by
  cases h with
  | listed list part binds =>
      rw [names_of_list _ _ _ list]
      have some' := binds.trim_ne_nil identifier
      rw [trim_trim] at some'
      refine List.mem_flatMap.mpr ⟨_, List.mem_filter.mpr ⟨?_, ?_⟩, binds.mem_bindingNames identifier⟩
      · exact List.mem_map_of_mem (part.mem_splitTopLevel (by decide))
      · simpa using some'
  | passed head binds =>
      rw [names_of_passage _ _ _ head]
      exact binds.mem_bindingNames identifier

end LintRepair.Code
