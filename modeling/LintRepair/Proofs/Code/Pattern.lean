/-
What a binding pattern binds.

* `Pattern`: a text is a target, or an element or a property of a pattern, and binds names;
* `Pattern.tight`: every target can be told from what stands around it;
* `Pattern.found_eq`: its names are found, and in their order;
* `bindingNames_of_pattern`: so are those of a target with blanks before it and with a value
  behind it.
-/
import LintRepair.Proofs.Code.Target

namespace LintRepair.Code

open Text Lexical

variable {t u v b k x : Text} {depth : Nat} {names : List Text} {plain : Text → Prop}

/-! ### Patterns -/

/-- A default value: it stands by itself, and as one item of a list. -/
structure Default (e : Text) : Prop where
  assigned : Assigned e
  item : Piece ',' e

/-- The key of a property. -/
structure Key (k : Text) : Prop where
  solid : startsIn isBlank k = false
  dotless : startsWith k dots = false
  item : Piece ',' k
  single : Piece ':' k

/-- Where a pattern stands: as a target, or as an element of an array pattern or a property of
an object pattern. -/
inductive Form
  | target
  | element
  | property
  deriving DecidableEq

/-- **The grammar of binding patterns.** A text is a part of a pattern and binds names in their
order. The value of a property that is its own key is one of a class. -/
inductive Pattern (plain : Text → Prop) : Form → Text → List Text → Prop
  | name {x : Text} (identifier : isIdentifier x = true) : Pattern plain .target x [x]
  | array {ps : List (Text × List Text)} (elements : ∀ p ∈ ps, Pattern plain .element p.1 p.2) :
      Pattern plain .target ('[' :: ([','].intercalate (ps.map Prod.fst) ++ [']']))
        (ps.flatMap Prod.snd)
  | object {ps : List (Text × List Text)} (properties : ∀ p ∈ ps, Pattern plain .property p.1 p.2) :
      Pattern plain .target ('{' :: ([','].intercalate (ps.map Prod.fst) ++ ['}']))
        (ps.flatMap Prod.snd)
  | hole {form : Form} {b : Text} (listed : form ≠ .target) (blank : Blank b) :
      Pattern plain form b []
  | element {b v u : Text} {names : List Text} (blank : Blank b)
      (target : Pattern plain .target v names) (ending : Ending Default u) :
      Pattern plain .element (b ++ (v ++ u)) names
  | shorthand {b x u : Text} (blank : Blank b) (identifier : isIdentifier x = true)
      (ending : Ending (fun e => Default e ∧ plain e) u) :
      Pattern plain .property (b ++ (x ++ u)) [x]
  | renamed {b k b' v u : Text} {names : List Text} (blank : Blank b) (key : Key k)
      (blank' : Blank b') (target : Pattern plain .target v names) (ending : Ending Default u) :
      Pattern plain .property (b ++ (k ++ ':' :: (b' ++ (v ++ u)))) names
  | rest {form : Form} {b b' v b'' : Text} {names : List Text} (listed : form ≠ .target)
      (blank : Blank b) (blank' : Blank b') (target : Pattern plain .target v names)
      (blank'' : Blank b'') : Pattern plain form (b ++ (dots ++ (b' ++ (v ++ b'')))) names

/-! ### Lists -/

lemma standing_nil : Standing [] := by decide

/-- Texts that stand by themselves do so with commas between them. -/
lemma standing_items {qs : List Text} (pieces : ∀ q ∈ qs, Standing q) :
    Standing ([','].intercalate qs) := by
  induction qs with
  | nil => exact standing_nil
  | cons q qs ih =>
      cases qs with
      | nil => simpa using pieces q List.mem_cons_self
      | cons q' qs =>
          rw [intercalate_comma]
          exact ((pieces q List.mem_cons_self).append_divider (by decide)
            (ih fun p among => pieces p (List.mem_cons_of_mem _ among))).2

lemma length_le_intercalate {qs : List Text} (among : t ∈ qs) :
    t.length ≤ ([','].intercalate qs).length := by
  induction qs with
  | nil => cases among
  | cons q qs ih =>
      cases qs with
      | nil =>
          obtain rfl := List.mem_singleton.mp among
          simp
      | cons q' qs =>
          rw [intercalate_comma, List.length_append, List.length_cons]
          rcases List.mem_cons.mp among with rfl | later
          · exact Nat.le_add_right _ _
          · have := ih later
            omega

/-- What is found in the items of a list, if nothing is found in an empty one. -/
lemma flatMap_splitTopLevel {qs : List Text} {f : Text → List Text} (none' : f [] = [])
    (pieces : ∀ q ∈ qs, Piece ',' q) :
    (splitTopLevel ',' ([','].intercalate qs)).flatMap f = qs.flatMap f := by
  by_cases some' : qs = []
  · subst some'
    have whole : splitTopLevel ',' ([','].intercalate []) = [[]] := by decide
    rw [whole, List.flatMap_singleton, none', List.flatMap_nil]
  · rw [splitTopLevel_items some' (fun q among => (pieces q among).standing.paired)
      (fun q among => (pieces q (List.mem_of_mem_dropLast among)).standing.ends)
      fun q among => (pieces q among).whole]

/-! ### Parts of patterns -/

namespace Tight

/-- It is not empty. -/
lemma isEmpty_trim (h : Tight v) (blank : Blank b) (u : Text) :
    (trim (b ++ (v ++ u))).isEmpty = false := by
  rw [h.trim_eq blank]
  simp [h.ne_nil]

lemma trim_dotted (h : Tight v) (blank : Blank b) (b' : Text) (blank' : Blank u) :
    trim (b ++ (dots ++ (b' ++ (v ++ u)))) = dots ++ (b' ++ v) := by
  have parts : dots ++ (b' ++ (v ++ u)) = dots ++ (b' ++ v) ++ u := by simp
  have last : endsIn isBlank (dots ++ (b' ++ v)) = false := by
    rw [← List.append_assoc, endsIn_append h.ne_nil]
    exact h.solid_last
  have first : startsIn isBlank (dots ++ (b' ++ v)) = false := rfl
  have some' : dots ++ (b' ++ v) ≠ [] := List.cons_ne_nil _ _
  rw [parts, trim_append blank first some' last, trimRight_of_blank blank', List.append_nil]

/-- The dots before it are taken off. -/
lemma namesWithin_dotted {b' : Text} (h : Tight v) (blank : Blank b) (blank' : Blank b')
    (blank'' : Blank u) :
    namesWithin depth (b ++ (dots ++ (b' ++ (v ++ u)))) = namesWithin depth v := by
  have behind : trim (b' ++ v) = v := by simpa using h.trim_bare blank' blank_nil
  have target := Target.rest (h.trim_dotted blank b' blank'') (behind.symm ▸ h.valueless)
  rw [behind] at target
  exact target.namesWithin_eq h.alone

/-- With dots before it, it is one item of a list. -/
lemma piece_dotted {b' : Text} (h : Tight v) (blank : Blank b) (blank' : Blank b')
    (blank'' : Blank u) : Piece ',' (b ++ (dots ++ (b' ++ (v ++ u)))) := by
  have item : Piece ',' (b' ++ (v ++ u)) := h.piece_append blank' (.bare blank'') (by decide)
  obtain ⟨c, v', rfl, opens⟩ := h.exists_eq_cons
  have solid : startsIn isBlank (c :: v' ++ u) = false := isBlank_of_opensTarget opens
  have first : (trimLeft (b' ++ (c :: v' ++ u))).head? = some c := by
    rw [trimLeft_append blank' solid]
    rfl
  have other : c ∉ ['/', '\x27', '\x22', '\x60', '}', '('] := by
    intro among
    have noTarget : ∀ c ∈ ['/', '\x27', '\x22', '\x60', '}', '('], opensTarget c = false :=
      List.all_iff_forall_prop.mp (by decide)
    rw [noTarget c among] at opens
    cases opens
  exact (item.dotted (by decide) ⟨c, first, other⟩).blanks_append (by decide) blank

end Tight

/-- **The parts of a pattern** are items of lists, and its targets are tight. -/
lemma Pattern.piece {form : Form} (h : Pattern plain form t names) :
    Piece ',' t ∧ (form = .target → Tight t) := by
  have comma : ',' ∈ dividers := by decide
  induction h with
  | name identifier =>
      exact ⟨piece_of_isIdentifier identifier comma, fun _ => tight_of_isIdentifier identifier⟩
  | @array ps elements ih =>
      have standing : Standing ([','].intercalate (ps.map Prod.fst)) :=
        standing_items (List.forall_mem_map.mpr fun p among => (ih p among).1.standing)
      exact ⟨standing.piece (by decide) comma, fun _ => standing.tight (by decide)⟩
  | @object ps properties ih =>
      have standing : Standing ([','].intercalate (ps.map Prod.fst)) :=
        standing_items (List.forall_mem_map.mpr fun p among => (ih p among).1.standing)
      exact ⟨standing.piece (by decide) comma, fun _ => standing.tight (by decide)⟩
  | hole listed blank =>
      have empty : Piece ',' [] := ⟨standing_nil, .of_notMem List.not_mem_nil⟩
      exact ⟨by simpa using empty.append_blanks comma blank, fun target => absurd target listed⟩
  | element blank target ending ih =>
      have ending := ending.mono fun _ value => value.item
      exact ⟨(ih.2 rfl).piece_append blank ending (by decide), nofun⟩
  | shorthand blank identifier ending =>
      have ending := ending.mono fun _ value => value.1.item
      exact ⟨(tight_of_isIdentifier identifier).piece_append blank ending (by decide), nofun⟩
  | renamed blank key blank' target ending ih =>
      have ending := ending.mono fun _ value => value.item
      have value := (ih.2 rfl).piece_append blank' ending (by decide)
      have property := key.item.append_divider (c := ':') (by decide) (by decide) value
      exact ⟨property.blanks_append comma blank, nofun⟩
  | rest listed blank blank' target blank'' ih =>
      exact ⟨(ih.2 rfl).piece_dotted blank blank' blank'', fun target => absurd target listed⟩

lemma Pattern.tight (h : Pattern plain .target t names) : Tight t := h.piece.2 rfl

/-! ### What is found -/

/-- The names that are found in a part of a pattern. -/
def Form.found (depth : Nat) : Form → Text → List Text
  | .target, t => namesWithin depth t
  | .element, t => if (trim t).isEmpty then [] else namesWithin depth t
  | .property, t => if (trim t).isEmpty then [] else namesWithin depth (propertyTarget (trim t))

lemma namesWithin_of_isIdentifier (identifier : isIdentifier x = true) :
    namesWithin (depth + 1) x = [x] := by
  have alone := (tight_of_isIdentifier identifier).alone
  have braceless : isEnclosed '{' '}' x = false := isEnclosed_of_isIdentifier identifier (by decide)
  have bracketless : isEnclosed '[' ']' x = false :=
    isEnclosed_of_isIdentifier identifier (by decide)
  simp [namesWithin, alone.eq, braceless, bracketless, identifier]

lemma namesWithin_array (standing : Standing t) :
    namesWithin (depth + 1) ('[' :: (t ++ [']'])) =
      (splitTopLevel ',' t).flatMap (Form.element.found depth) := by
  have alone := (standing.tight (o := '[') (c := ']') (by decide)).alone
  rw [namesWithin]
  simp only [alone.eq, isEnclosed_cons, inside_cons, if_true]
  rfl

lemma namesWithin_object (standing : Standing t) :
    namesWithin (depth + 1) ('{' :: (t ++ ['}'])) =
      (splitTopLevel ',' t).flatMap (Form.property.found depth) := by
  have alone := (standing.tight (o := '{') (c := '}') (by decide)).alone
  rw [namesWithin]
  simp only [alone.eq, isEnclosed_cons, inside_cons, if_true]
  rfl

/-- A property that has a key is no rest element. -/
lemma Key.dotless_append (h : Key k) (u : Text) : startsWith (k ++ ':' :: u) dots = false := by
  rw [Bool.eq_false_iff]
  intro dotted
  have start : dots <+: k ++ ':' :: u := List.isPrefixOf_iff_prefix.mp dotted
  by_cases long : dots.length ≤ k.length
  · have dotted' : startsWith k dots = true :=
      List.isPrefixOf_iff_prefix.mpr (List.prefix_of_prefix_length_le start ⟨_, rfl⟩ long)
    rw [h.dotless] at dotted'
    cases dotted'
  · obtain ⟨rest, parts⟩ := start
    have here := congrArg (·[k.length]?) parts
    simp only [List.getElem?_append_left (Nat.lt_of_not_le long)] at here
    have among : ':' ∈ dots := List.mem_of_getElem? (here.trans (by simp))
    exact absurd among (by decide)

/-- The mask of a property, up to what stands behind its target. -/
lemma exists_mask_renamed (key : Key k) (piece : Piece ':' (b ++ v)) (ending : Ending Assigned u) :
    ∃ w, mask (k ++ ':' :: (b ++ (v ++ u))) = mask k ++ ':' :: (mask (b ++ v) ++ w) := by
  obtain ⟨masked, standing⟩ :=
    key.single.standing.append_divider (c := ':') (by decide) piece.standing
  obtain ⟨st, passes, -, -⟩ := standing.exists_passes (State.starts_empty _) ending.neutral
  have parts : k ++ ':' :: (b ++ (v ++ u)) = k ++ ':' :: (b ++ v) ++ u := by simp
  rw [parts]
  exact ⟨st.masks u, passes.masks.trans (by rw [masked]; simp)⟩

section Colon

variable {p w : Text}

/-- The colon behind a key separates it from what follows. -/
lemma Key.separates (key : Key k) (masked : mask p = mask k ++ ':' :: w) :
    Separates ':' (mask p) k.length := by
  have level := key.single.standing.paired.nesting
  rw [masked, ← length_mask k]
  exact ⟨by simp, by rw [List.take_left, level]⟩

/-- It is the first colon that does. -/
lemma Key.part (key : Key k) (masked : mask p = mask k ++ ':' :: w) :
    Part ':' (mask p) 0 k.length := by
  refine ⟨Nat.zero_le _, .inl rfl, .inr (key.separates masked), fun i _ before separates => ?_⟩
  rw [masked, separates_append (by rwa [length_mask])] at separates
  exact key.single.whole i separates

/-- What stands behind the key does not end before the target does: the next colon stands in the
value. -/
lemma Key.le_of_part {j : Nat} (key : Key k) (piece : Piece ':' v)
    (masked : mask p = mask k ++ ':' :: (mask v ++ w)) (target : Part ':' (mask p) (k.length + 1) j) :
    k.length + 1 + v.length ≤ j := by
  have behind : (mask p).drop (k.length + 1) = mask v ++ w := by
    rw [masked, ← List.singleton_append, ← List.append_assoc]
    exact List.drop_left' (by simp)
  rcases target.last with rfl | separates
  · rw [masked]
    simp
    omega
  by_contra before
  obtain ⟨i, rfl⟩ := Nat.exists_eq_add_of_le target.le
  rw [← separates_drop ((key.separates masked).nesting_take_succ (by decide)), behind,
    separates_append (by rw [length_mask]; omega)] at separates
  exact piece.whole i separates

end Colon

/-- **The target of a property** stands behind its key. -/
lemma exists_trim_propertyTarget (key : Key k) (h : Tight v) (blank : Blank b)
    (ending : Ending Assigned u) :
    ∃ n, trim (propertyTarget (k ++ ':' :: (b ++ (v ++ u)))) = trim (b ++ (v ++ u.take n)) := by
  have piece := (h.piece ':' (by decide)).blanks_append (by decide) blank
  obtain ⟨w, masked⟩ := exists_mask_renamed key piece ending
  have colon := key.separates masked
  obtain ⟨j, target⟩ := exists_part (Nat.succ_le_of_lt colon.lt) (.inr ⟨Nat.succ_pos _, colon⟩)
  obtain ⟨n, rfl⟩ := Nat.exists_eq_add_of_le (key.le_of_part piece masked target)
  have slice_eq : slice (k ++ ':' :: (b ++ (v ++ u))) (k.length + 1)
      (k.length + 1 + (b ++ v).length + n) = b ++ (v ++ u.take n) := by
    have drop : (k ++ ':' :: (b ++ (v ++ u))).drop (k.length + 1) = b ++ v ++ u := by
      rw [List.append_cons]
      exact (List.drop_left' (by simp)).trans (by simp)
    have length : k.length + 1 + (b ++ v).length + n - (k.length + 1) = (b ++ v).length + n := by
      omega
    rw [slice, drop, length, List.take_length_add_append, List.append_assoc]
  have property := Property.keyed (key.dotless_append _) (key.part masked) target
  exact ⟨n, property.trim_eq.trans (by rw [trim_trim, slice_eq])⟩

/-- In the items of a list what is found in each. -/
lemma flatMap_found {form : Form} {ps : List (Text × List Text)} (none' : form.found depth [] = [])
    (items : ∀ q ∈ ps.map Prod.fst, Piece ',' q)
    (found : ∀ p ∈ ps, ∀ depth, p.1.length < depth → form.found depth p.1 = p.2)
    (deep : ([','].intercalate (ps.map Prod.fst)).length < depth) :
    (splitTopLevel ',' ([','].intercalate (ps.map Prod.fst))).flatMap (form.found depth) =
      ps.flatMap Prod.snd := by
  rw [flatMap_splitTopLevel none' items, List.flatMap_map]
  refine List.flatMap_congr fun p among => found p among depth ?_
  exact Nat.lt_of_le_of_lt (length_le_intercalate (List.mem_map_of_mem among)) deep

section Found

variable {b' : Text} {form : Form}

lemma found_hole (listed : form ≠ .target) (blank : Blank b) : form.found depth b = [] := by
  have none' : (trim b).isEmpty = true := by rw [trim_of_blank blank]; rfl
  cases form with
  | target => exact absurd rfl listed
  | element => rw [Form.found, none', if_pos rfl]
  | property => rw [Form.found, none', if_pos rfl]

lemma found_element (h : Tight v) (blank : Blank b) (ending : Ending Assigned u) :
    Form.element.found depth (b ++ (v ++ u)) = namesWithin depth v := by
  rw [Form.found, h.isEmpty_trim blank, if_neg Bool.false_ne_true, h.namesWithin_eq blank ending]

/-- A property that is its own key. Its value is one item between colons. -/
lemma found_shorthand (identifier : isIdentifier x = true) (blank : Blank b)
    (ending : Ending (fun e => Default e ∧ Piece ':' e) u) :
    Form.property.found (depth + 1) (b ++ (x ++ u)) = [x] := by
  have tight := tight_of_isIdentifier identifier
  have single : Piece ':' (b ++ (x ++ u)) :=
    tight.piece_append blank (ending.mono fun _ value => value.2) (by decide)
  have target := (Property.shorthand single.whole_trim).trim_eq.trans (trim_trim _)
  have ending := ending.mono fun _ value => value.1.assigned
  rw [Form.found, tight.isEmpty_trim blank, if_neg Bool.false_ne_true,
    namesWithin_congr target, tight.namesWithin_eq blank ending,
    namesWithin_of_isIdentifier identifier]

/-- The blanks around a property are not part of it. -/
lemma trim_renamed (key : Key k) (h : Tight v) (blank : Blank b) (b' u : Text) :
    trim (b ++ (k ++ ':' :: (b' ++ (v ++ u)))) = k ++ ':' :: (b' ++ (v ++ trimRight u)) := by
  have parts : k ++ ':' :: (b' ++ (v ++ u)) = k ++ ':' :: (b' ++ v) ++ u := by simp
  have first : startsIn isBlank (k ++ ':' :: (b' ++ v)) = false :=
    startsIn_append_eq_false key.solid rfl
  have last : endsIn isBlank (k ++ ':' :: (b' ++ v)) = false := by
    rw [List.append_cons, ← List.append_assoc, endsIn_append h.ne_nil]
    exact h.solid_last
  rw [parts, trim_append blank first (by simp) last]
  simp

lemma found_renamed (key : Key k) (h : Tight v) (blank : Blank b) (blank' : Blank b')
    (ending : Ending Assigned u) :
    Form.property.found depth (b ++ (k ++ ':' :: (b' ++ (v ++ u)))) = namesWithin depth v := by
  have ending := ending.trimRight
  obtain ⟨n, target⟩ := exists_trim_propertyTarget key h blank' ending
  have some' : (k ++ ':' :: (b' ++ (v ++ trimRight u))).isEmpty = false := by simp
  rw [Form.found, trim_renamed key h blank, some', if_neg Bool.false_ne_true,
    namesWithin_congr target, h.namesWithin_eq blank' (ending.take n)]

/-- No key is looked for behind the dots of a rest element. -/
lemma found_rest (listed : form ≠ .target) (h : Tight v) (blank : Blank b) (blank' : Blank b')
    (blank'' : Blank u) :
    form.found depth (b ++ (dots ++ (b' ++ (v ++ u)))) = namesWithin depth v := by
  have trimmed := h.trim_dotted blank b' blank''
  have some' : (dots ++ (b' ++ v)).isEmpty = false := rfl
  have dotted : propertyTarget (dots ++ (b' ++ v)) = dots ++ (b' ++ v) := rfl
  have found : namesWithin depth _ = namesWithin depth v := h.namesWithin_dotted blank blank' blank''
  cases form with
  | target => exact absurd rfl listed
  | element => rw [Form.found, trimmed, some', if_neg Bool.false_ne_true, found]
  | property =>
      rw [Form.found, trimmed, some', if_neg Bool.false_ne_true, dotted, ← trimmed,
        namesWithin_congr (trim_trim _), found]

end Found

/-- **The names of a pattern are found**, in their order, if it is opened deep enough. -/
lemma Pattern.found_eq {form : Form} (h : Pattern (Piece ':') form t names) :
    ∀ depth, t.length < depth → form.found depth t = names := by
  induction h with
  | name identifier =>
      rintro (_ | depth) deep
      · exact absurd deep (Nat.not_lt_zero _)
      · exact namesWithin_of_isIdentifier identifier
  | @array ps elements ih =>
      rintro (_ | depth) deep
      · exact absurd deep (Nat.not_lt_zero _)
      · have items := List.forall_mem_map.mpr fun p among => (elements p among).piece.1
        rw [Form.found, namesWithin_array (standing_items fun q among => (items q among).standing)]
        refine flatMap_found rfl items ih ?_
        simp only [List.length_cons, List.length_append, List.length_nil] at deep
        omega
  | @object ps properties ih =>
      rintro (_ | depth) deep
      · exact absurd deep (Nat.not_lt_zero _)
      · have items := List.forall_mem_map.mpr fun p among => (properties p among).piece.1
        rw [Form.found, namesWithin_object (standing_items fun q among => (items q among).standing)]
        refine flatMap_found rfl items ih ?_
        simp only [List.length_cons, List.length_append, List.length_nil] at deep
        omega
  | hole listed blank => exact fun _ _ => found_hole listed blank
  | element blank target ending ih =>
      intro depth deep
      simp only [List.length_append] at deep
      rw [found_element target.tight blank (ending.mono fun _ value => value.assigned)]
      exact ih depth (by omega)
  | shorthand blank identifier ending =>
      rintro (_ | depth) deep
      · exact absurd deep (Nat.not_lt_zero _)
      · exact found_shorthand identifier blank ending
  | renamed blank key blank' target ending ih =>
      intro depth deep
      simp only [List.length_append, List.length_cons] at deep
      rw [found_renamed key target.tight blank blank' (ending.mono fun _ value => value.assigned)]
      exact ih depth (by omega)
  | rest listed blank blank' target blank'' ih =>
      intro depth deep
      simp only [List.length_append] at deep
      rw [found_rest listed target.tight blank blank' blank'']
      exact ih depth (by omega)

/-- **What a pattern binds.** Of a target with blanks before it and blanks or a value behind it
just the names are found that it binds, in their order, if there is no colon outside brackets in
the value of a property that is its own key. -/
theorem bindingNames_of_pattern (blank : Blank b) (pattern : Pattern (Piece ':') .target t names)
    (ending : Ending Assigned u) : bindingNames (b ++ (t ++ u)) = names := by
  have deep : t.length < (b ++ (t ++ u)).length + 1 := by
    simp only [List.length_append]
    omega
  rw [bindingNames, pattern.tight.namesWithin_eq blank ending]
  exact pattern.found_eq _ deep

/-- An array pattern in an object pattern, with a default value, a hole and a rest element. -/
theorem bindingNames_of_pattern_nested :
    let t := "\x7ba, b: [c = d ? e : f, , ...g]\x7d".toList
    let names := ["a", "c", "g"].map String.toList
    Pattern (Piece ':') .target t names ∧ bindingNames (t ++ " = h".toList) = names := by
  intro t names
  have name {x : Text} (identifier : isIdentifier x = true) : Pattern (Piece ':') .target x [x] :=
    .name identifier
  have element : Pattern (Piece ':') .element "c = d ? e : f".toList ["c".toList] :=
    .element blank_nil (name (x := "c".toList) (by decide))
      (.valued (b := " ".toList) (e := " d ? e : f".toList) (by decide) ⟨by decide, by decide⟩)
  have hole : Pattern (Piece ':') .element " ".toList [] := .hole (by decide) (by decide)
  have rest : Pattern (Piece ':') .element " ...g".toList ["g".toList] :=
    .rest (by decide) (b := " ".toList) (by decide) blank_nil (name (x := "g".toList) (by decide))
      blank_nil
  have elements : ∀ p ∈ [("c = d ? e : f".toList, ["c".toList]), (" ".toList, []),
      (" ...g".toList, ["g".toList])], Pattern (Piece ':') .element p.1 p.2 :=
    List.forall_mem_cons.mpr
      ⟨element, List.forall_mem_cons.mpr ⟨hole, List.forall_mem_singleton.mpr rest⟩⟩
  have shorthand : Pattern (Piece ':') .property "a".toList ["a".toList] :=
    .shorthand (x := "a".toList) blank_nil (by decide) (.bare blank_nil)
  have renamed : Pattern (Piece ':') .property " b: [c = d ? e : f, , ...g]".toList
      (["c", "g"].map String.toList) :=
    .renamed (b := " ".toList) (k := "b".toList) (by decide)
      ⟨by decide, by decide, by decide, by decide⟩ (by decide : Blank " ".toList) (.array elements)
      (.bare blank_nil)
  have properties : ∀ p ∈ [("a".toList, ["a".toList]),
      (" b: [c = d ? e : f, , ...g]".toList, ["c", "g"].map String.toList)],
      Pattern (Piece ':') .property p.1 p.2 :=
    List.forall_mem_cons.mpr ⟨shorthand, List.forall_mem_singleton.mpr renamed⟩
  have pattern : Pattern (Piece ':') .target t names := .object properties
  have ending : Ending Assigned " = h".toList :=
    .valued (b := " ".toList) (e := " h".toList) (by decide) (by decide)
  have found := bindingNames_of_pattern blank_nil pattern ending
  rw [List.nil_append] at found
  exact ⟨pattern, found⟩

/-- A conditional value of a property that is its own key. -/
theorem bindingNames_of_pattern_not : ¬ ∀ (t : Text) (names : List Text),
    Pattern (fun _ => True) .target t names → bindingNames t = names := by
  intro always
  have property : Pattern (fun _ => True) .property "a = x ? y : z".toList ["a".toList] :=
    .shorthand (x := "a".toList) blank_nil (by decide)
      (.valued (b := " ".toList) (e := " x ? y : z".toList) (by decide)
        ⟨⟨by decide, by decide⟩, trivial⟩)
  have properties : ∀ p ∈ [("a = x ? y : z".toList, ["a".toList])],
      Pattern (fun _ => True) .property p.1 p.2 := List.forall_mem_singleton.mpr property
  have wrong : bindingNames "\x7ba = x ? y : z\x7d".toList = ["a".toList] :=
    always _ _ (.object properties)
  have found : bindingNames "\x7ba = x ? y : z\x7d".toList = ["z".toList] := by decide
  rw [found] at wrong
  exact absurd wrong (by decide)

end LintRepair.Code
