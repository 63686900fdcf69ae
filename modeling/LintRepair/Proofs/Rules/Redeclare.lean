/-
What `no-var` binds to a block is not declared again in the function around.

* `ParametersAt`: the parameters before the body of a function, with
  `parameterText_eq`: they are found;
* `BindsIn`: a declaration of masked text binds a name;
* `undeclared_of_fix`: no other declaration of the function by `var`, `let` or `const` binds
  a name that the rewritten declaration binds, and no parameter of the function has it;
* `DefinedAt`: a function or a class is declared, and `undeclared_of_fix_not`: such a
  declaration of the name is overlooked.
-/
import LintRepair.Proofs.Code.Scope
import LintRepair.Proofs.Lexical.Word
import LintRepair.Proofs.Rules.DeadZone

namespace LintRepair.Rules

open Text Lexical Code Check Repair

variable {code m name ps word : Text} {d : Diagnostic} {decl : Declaration}
  {start e i k : Nat}

/-! ### Parameters -/

/-- Blanks, and an arrow among them or none. -/
inductive BeforeBody : Text → Prop
  | blank {gap : Text} (blank : ∀ c ∈ gap, isBlank c = true) : BeforeBody gap
  | arrow {gap gap' : Text} (blank : ∀ c ∈ gap, isBlank c = true)
      (blank' : ∀ c ∈ gap', isBlank c = true) : BeforeBody (gap ++ ['=', '>'] ++ gap')

/-- The parameters of the function whose body starts at an offset: what stands in the
parentheses before it, or the only name before an arrow. -/
inductive ParametersAt (m : Text) (start : Nat) : Text → Prop
  | listed {head ps gap : Text} (closed : Closed '(' ')' ps) (rest : BeforeBody gap)
      (shape : m.take (start - 1) = head ++ '(' :: (ps ++ [')']) ++ gap) :
      ParametersAt m start ps
  | single {head name gap gap' : Text} (names : ∀ c ∈ name, isName c = true)
      (some' : name ≠ []) (apart : endsIn isName head = false)
      (blank : ∀ c ∈ gap, isBlank c = true) (blank' : ∀ c ∈ gap', isBlank c = true)
      (shape : m.take (start - 1) = head ++ name ++ gap ++ ['=', '>'] ++ gap') :
      ParametersAt m start name

/-- What stands before the body of an arrow function. -/
lemma parameterText_of_arrow {t gap : Text} (blank : ∀ c ∈ gap, isBlank c = true)
    (shape : m.take (start - 1) = t ++ ['=', '>'] ++ gap) :
    Binding.parameterText m start =
      if endsIn (· == ')') (trimRight t) then
        match findMatchingBackward (trimRight t) ((trimRight t).length - 1) with
        | some opener => slice (trimRight t) (opener + 1) ((trimRight t).length - 1)
        | none => []
      else ((trimRight t).reverse.takeWhile isName).reverse := by
  have before : trimRight (m.take (start - 1)) = t ++ ['=', '>'] := by
    rw [shape, trimRight_append _ blank]
    have split : t ++ ['=', '>'] = (t ++ ['=']) ++ ['>'] := by simp
    rw [split, trimRight_append_singleton _ (by decide)]
  have isArrow : endsWith (t ++ ['=', '>']) ['=', '>'] = true := by simp [endsWith]
  have head : (t ++ ['=', '>']).take ((t ++ ['=', '>']).length - 2) = t := by simp
  rw [Binding.parameterText, before, isArrow, if_pos rfl, head]
  rfl

section Listed

variable {head gap gap' : Text}

/-- What stands in parentheses before a body, with or without an arrow. -/
lemma slice_of_closed (closed : Closed '(' ')' ps) :
    (match findMatchingBackward (head ++ '(' :: (ps ++ [')']))
        ((head ++ '(' :: (ps ++ [')'])).length - 1) with
      | some opener => slice (head ++ '(' :: (ps ++ [')'])) (opener + 1)
          ((head ++ '(' :: (ps ++ [')'])).length - 1)
      | none => []) = ps := by
  rw [findMatchingBackward_of_closed closed]
  have split : head ++ '(' :: (ps ++ [')']) = (head ++ ['(']) ++ (ps ++ [')']) := by simp
  have first : head.length + 1 = (head ++ ['(']).length := by simp
  have length : (head ++ '(' :: (ps ++ [')'])).length - 1 - (head ++ ['(']).length = ps.length := by
    simp only [List.length_append, List.length_cons, List.length_nil]
    omega
  dsimp only
  rw [slice, first, length, split, List.drop_left, List.take_left]

lemma getLast?_listed : (head ++ '(' :: (ps ++ [')'])).getLast? = some ')' := by
  simp [List.getLast?_append, List.getLast?_cons]

lemma trimRight_listed (blank : ∀ c ∈ gap, isBlank c = true) :
    trimRight (head ++ '(' :: (ps ++ [')']) ++ gap) = head ++ '(' :: (ps ++ [')']) := by
  have split : head ++ '(' :: (ps ++ [')']) = (head ++ '(' :: ps) ++ [')'] := by simp
  rw [trimRight_append _ blank, split, trimRight_append_singleton _ (by decide)]

lemma parameterText_of_listed (closed : Closed '(' ')' ps) (blank : ∀ c ∈ gap, isBlank c = true)
    (shape : m.take (start - 1) = head ++ '(' :: (ps ++ [')']) ++ gap) :
    Binding.parameterText m start = ps := by
  have before : trimRight (m.take (start - 1)) = head ++ '(' :: (ps ++ [')']) := by
    rw [shape, trimRight_listed blank]
  have noArrow : endsWith (head ++ '(' :: (ps ++ [')'])) ['=', '>'] = false := by
    rw [endsWith, Bool.eq_false_iff, Ne, List.isSuffixOf_iff_suffix]
    rintro ⟨t, same⟩
    have ends := (congrArg List.getLast? same).trans getLast?_listed
    simp [List.getLast?_append] at ends
  have last : endsIn (· == ')') (head ++ '(' :: (ps ++ [')'])) = true := by
    rw [endsIn, getLast?_listed]
    rfl
  rw [Binding.parameterText]
  simp only [before, noArrow, Bool.false_eq_true, if_false, last, if_true]
  exact slice_of_closed closed

lemma parameterText_of_listed_arrow (closed : Closed '(' ')' ps)
    (blank : ∀ c ∈ gap, isBlank c = true) (blank' : ∀ c ∈ gap', isBlank c = true)
    (shape : m.take (start - 1) = head ++ '(' :: (ps ++ [')']) ++ (gap ++ ['=', '>'] ++ gap')) :
    Binding.parameterText m start = ps := by
  have arrow : m.take (start - 1) =
      (head ++ '(' :: (ps ++ [')']) ++ gap) ++ ['=', '>'] ++ gap' := by
    rw [shape]
    simp
  have last : endsIn (· == ')') (head ++ '(' :: (ps ++ [')'])) = true := by
    rw [endsIn, getLast?_listed]
    rfl
  rw [parameterText_of_arrow blank' arrow, trimRight_listed blank, if_pos last]
  exact slice_of_closed closed

end Listed

/-- The characters of a name at the end of a text, where no name stands before it. -/
lemma takeWhile_reverse_name {head name : Text} (names : ∀ c ∈ name, isName c = true)
    (apart : endsIn isName head = false) :
    ((head ++ name).reverse.takeWhile isName).reverse = name := by
  have stops : head.reverse.takeWhile isName = [] := by
    rw [endsIn, ← List.head?_reverse] at apart
    cases shape' : head.reverse with
    | nil => rfl
    | cons b rest =>
        rw [shape'] at apart
        exact List.takeWhile_cons_of_neg (by simpa using apart)
  rw [List.reverse_append,
    List.takeWhile_append_of_pos fun c among => names c (List.mem_reverse.mp among), stops,
    List.append_nil, List.reverse_reverse]

/-- The parameters of a function are found. -/
lemma parameterText_eq (h : ParametersAt m start ps) : Binding.parameterText m start = ps := by
  cases h with
  | listed closed rest shape =>
      cases rest with
      | blank blank => exact parameterText_of_listed closed blank shape
      | arrow blank blank' => exact parameterText_of_listed_arrow closed blank blank' shape
  | @single head name gap gap' names some' apart blank blank' shape =>
      obtain ⟨others, c, rfl⟩ := List.eq_nil_or_concat' ps |>.resolve_left some'
      have last : isName c = true := names c (by simp)
      have solid : isBlank c = false := by
        by_contra blank
        rw [isName_of_isBlank (by simpa using blank)] at last
        cases last
      have other : c ≠ ')' := by
        rintro rfl
        exact absurd last (by decide)
      have before : trimRight (head ++ (others ++ [c]) ++ gap) = head ++ (others ++ [c]) := by
        rw [trimRight_append _ blank, ← List.append_assoc,
          trimRight_append_singleton _ solid]
      have noParen : endsIn (· == ')') (head ++ (others ++ [c])) = false := by
        simp [endsIn, List.getLast?_append, other]
      rw [parameterText_of_arrow blank' shape, before, noParen, if_neg Bool.false_ne_true,
        takeWhile_reverse_name names apart]

/-! ### Other declarations -/

/-- A declaration binds a name, in a declarator of its list or as the target in the head
of a loop, both read off masked text. -/
inductive BindsIn (m : Text) (d : Declaration) (name : Text) : Prop
  | listed {p : Text} (list : d.passage? m = none) (item : Item ',' (d.body m) p)
      (binds : Binds name p)
  | passed {n : Nat} {kind : ForKind} (head : d.passage? m = some (n, kind))
      (binds : Binds name (slice m d.bodyStart (d.bodyStart + n)))

/-- A name that a declaration binds is among its names. -/
lemma BindsIn.mem_names (identifier : isIdentifier name = true)
    (h : BindsIn m (parseDeclaration m m i) name) : name ∈ (parseDeclaration m m i).names := by
  cases h with
  | listed list item binds =>
      obtain ⟨k, l, part, rfl⟩ := item
      have some' := binds.trim_ne_nil identifier
      rw [trim_trim] at some'
      rw [names_of_list _ _ _ list]
      refine List.mem_flatMap.mpr ⟨_, List.mem_filter.mpr ⟨?_, ?_⟩, binds.mem_bindingNames identifier⟩
      · exact List.mem_map_of_mem (part.mem_splitTopLevel (by decide))
      · simpa using some'
  | passed head binds =>
      rw [names_of_passage _ _ _ head]
      exact binds.mem_bindingNames identifier

/-- The keywords of declarations. -/
def declarationWords : List Text := ["var", "let", "const"].map String.toList

/-- The keyword of a declaration stands at an offset, and is not the name of a member. -/
def DeclaresAt (m : Text) (i : Nat) : Prop :=
  ∃ word ∈ declarationWords, StandsAt (fun c => isName c || c == '.') m word i

/-- The keywords of a function are found. -/
lemma DeclaresAt.mem_keywordOffsets (h : DeclaresAt m i) :
    i ∈ Binding.keywordOffsets m (functionScope m i) := by
  obtain ⟨word, among, stands⟩ := h
  have letters : ∀ word ∈ declarationWords, word ≠ [] ∧ '}' ∉ word ∧
      (word.all fun c => isName c || c == '.') = true := by decide +kernel
  obtain ⟨some', open', names⟩ := letters word among
  have surrounds := surrounds_functionScope m i
  have found := stands.mem_wordOffsetsFrom some' (List.all_eq_true.mp names) surrounds.start_le
    (surrounds.le_stop stands.here some' open')
  rw [Binding.keywordOffsets, List.mem_mergeSort, List.mem_append, List.mem_append]
  simp only [declarationWords, List.map_cons, List.map_nil, List.mem_cons, List.not_mem_nil,
    or_false] at among
  rcases among with rfl | rfl | rfl
  · exact .inl (.inl found)
  · exact .inl (.inr found)
  · exact .inr found

lemma leastName?_eq_none {names : List Text} (none' : Binding.leastName? names = none) :
    names = [] := by
  cases names with
  | nil => rfl
  | cons first others => cases none'

/-- Where nothing stands in the way, no other declaration of the function binds one of the
names. -/
lemma notMem_names_of_obstacle? (free : Binding.obstacle? m decl = none)
    (declared : name ∈ decl.names) (here : DeclaresAt m i) (other : i ≠ decl.start)
    (same : functionScope m i = functionScope m decl.start) :
    name ∉ (parseDeclaration m m i).names := by
  intro again
  have once := (checks_of_obstacle? free).2.1
  have among := here.mem_keywordOffsets
  rw [same] at among
  rw [Binding.declaredTwice?, List.findSome?_eq_none_iff] at once
  have clash := once i among
  rw [if_neg (by simp [other, same]), Option.map_eq_none_iff] at clash
  have both : name ∈ (parseDeclaration m m i).names.filter decl.names.contains :=
    List.mem_filter.mpr ⟨again, by simpa using declared⟩
  rw [leastName?_eq_none clash] at both
  cases both

/-- Where nothing stands in the way, none of the names stands among the parameters. -/
lemma not_standsAt_of_obstacle? (free : Binding.obstacle? m decl = none)
    (declared : name ∈ decl.names) (identifier : isIdentifier name = true)
    (direct : enclosingBlock m decl.start = functionScope m decl.start)
    (parameters : ParametersAt m (functionScope m decl.start).start ps) :
    ¬ StandsAt isName ps name k := by
  intro stands
  have unshadowed := (checks_of_obstacle? free).2.2
  have body : (functionScope m decl.start).start ≠ 0 := by
    intro top
    rw [top] at parameters
    cases parameters with
    | listed closed rest shape => simp at shape
    | single names some' apart blank blank' shape => simp at shape
  rw [Binding.shadowsParameter?, if_pos ⟨by rw [direct], body⟩, Option.map_eq_none_iff,
    List.find?_eq_none, parameterText_eq parameters] at unshadowed
  have found := stands.mem_wordOffsets (ne_nil_of_isIdentifier identifier)
    (all_isName_of_isIdentifier identifier)
  have empty := unshadowed name declared
  rw [Bool.not_eq_true, Bool.not_eq_false', List.isEmpty_iff] at empty
  rw [empty] at found
  cases found

/-- **What is bound to a block is not declared again.** Where the built-in fixer of
`no-var` repairs, it makes the declaration that is found one of the block around it; no other
declaration by `var`, `let` or `const` in the same function binds a name that this binds;
and if it stands directly in the body of the function, none of the parameters has such a
name. -/
theorem undeclared_of_fix {accepts : Acceptor} {o : Options} {f : Fixer} {r : FixResult}
    (builtin : builtin? accepts o "no-var" = some f) (fix : f.fix code d = .ok r)
    (success : r.isSuccess = true)
    (located : Binding.located? "var".toList code d = some (m, decl))
    (binds : BindsAt code decl name e) (identifier : isIdentifier name = true) :
    (r.code = Binding.withKeyword code decl "let".toList ∨
      r.code = Binding.withKeyword code decl "const".toList) ∧
      (∀ i ≠ decl.start, DeclaresAt m i → functionScope m i = functionScope m decl.start →
        ¬ BindsIn m (parseDeclaration m m i) name) ∧
      (enclosingBlock m decl.start = functionScope m decl.start →
        ∀ ps, ParametersAt m (functionScope m decl.start).start ps →
          ∀ k, ¬ StandsAt isName ps name k) := by
  cases builtin
  obtain ⟨-, edit, -⟩ := edit_of_fixer fix success
  obtain ⟨rewritten, free⟩ := edit_noVar located edit
  obtain ⟨rfl, parsed, -⟩ := eq_parseDeclaration_of_located located
  have declared : name ∈ decl.names := by
    rw [parsed] at binds ⊢
    exact binds.mem_names identifier
  refine ⟨rewritten, fun i other here same again => ?_, fun direct ps parameters k => ?_⟩
  · exact notMem_names_of_obstacle? free declared here other same (again.mem_names identifier)
  · exact not_standsAt_of_obstacle? free declared identifier direct parameters

/-- A declaration by `var` in the second line. -/
def byVarBelow : Diagnostic := { byVar with line := 2, column := 3 }

theorem undeclared_of_fix_body :
    let code := "function f(b) \x7b\n  var a = b;\n  let c = a;\n\x7d".toList
    let m := mask code
    let decl := parseDeclaration code m 18
    ∃ f r, builtin? Grammar.accepts {} "no-var" = some f ∧ f.fix code byVarBelow = .ok r ∧
      r.isSuccess = true ∧ Binding.located? "var".toList code byVarBelow = some (m, decl) ∧
      BindsAt code decl "a".toList 27 ∧ isIdentifier "a".toList = true ∧
      r.code = "function f(b) \x7b\n  const a = b;\n  let c = a;\n\x7d".toList ∧
      31 ≠ decl.start ∧ DeclaresAt m 31 ∧ functionScope m 31 = functionScope m decl.start ∧
      ¬ BindsIn m (parseDeclaration m m 31) "a".toList ∧
      enclosingBlock m decl.start = functionScope m decl.start ∧
      ParametersAt m (functionScope m decl.start).start "b".toList ∧
      ¬ StandsAt isName "b".toList "a".toList 0 := by
  intro code m decl
  let f := complex Grammar.accepts "NoVarFixer" "no-var" "Replace var with let or const"
    (Binding.noVar true)
  have builtin : builtin? Grammar.accepts {} "no-var" = some f := rfl
  have located : Binding.located? "var".toList code byVarBelow = some (m, decl) := by
    decide +kernel
  -- The keywords are sorted, which does not compute.
  have keywords : Binding.keywordOffsets m (functionScope m decl.start) = [18, 31] :=
    (List.mergeSort_of_pairwise (by decide +kernel)).trans (by decide +kernel)
  have once : Binding.declaredTwice? m decl (functionScope m decl.start) = none := by
    rw [Binding.declaredTwice?, keywords]
    decide +kernel
  have free : Binding.obstacle? m decl = none := by
    simp only [Binding.obstacle?, once]
    decide +kernel
  have edit : (Binding.noVar true).edit code byVarBelow =
      .ok "function f(b) \x7b\n  const a = b;\n  let c = a;\n\x7d".toList := by
    simp only [Binding.noVar, located, free]
    decide +kernel
  have fix : f.fix code byVarBelow =
      .ok { code := "function f(b) \x7b\n  const a = b;\n  let c = a;\n\x7d".toList } :=
    fixer_fix_of_validates rfl (by decide +kernel) edit (by decide +kernel)
  have binds : BindsAt code decl "a".toList 27 := by
    have body : decl.body code = " a = b".toList := by decide +kernel
    have target : Target "a = b".toList "a".toList :=
      .valued (k := 2) (by decide) (by decide) (by decide)
    exact bindsAt_of_single (by decide +kernel) body (by decide) (.itself target)
  have other : 31 ≠ decl.start := by decide +kernel
  have here : DeclaresAt m 31 :=
    ⟨"let".toList, by decide, by decide +kernel, by decide +kernel, by decide +kernel⟩
  have same : functionScope m 31 = functionScope m decl.start := by decide +kernel
  have direct : enclosingBlock m decl.start = functionScope m decl.start := by decide +kernel
  have parameters : ParametersAt m (functionScope m decl.start).start "b".toList := by
    have closed : Closed '(' ')' "b".toList := by decide
    have gap : BeforeBody " ".toList := .blank (List.all_eq_true.mp (by decide +kernel))
    have shape : m.take ((functionScope m decl.start).start - 1) =
        "function f".toList ++ '(' :: ("b".toList ++ [')']) ++ " ".toList := by decide +kernel
    exact .listed closed gap shape
  obtain ⟨-, unbound, unshadowed⟩ := undeclared_of_fix builtin fix rfl located binds rfl
  exact ⟨f, _, builtin, fix, rfl, located, binds, rfl, rfl, other, here, same,
    unbound 31 other here same, direct, parameters, unshadowed direct _ parameters 0⟩

/-! ### Functions and classes -/

/-- A function or a class of some name is declared by a statement that starts at an
offset. -/
structure DefinedAt (m name : Text) (i : Nat) : Prop where
  /-- A statement ends before the keyword, or a block starts there. -/
  start : trimRight (m.take i) = [] ∨
    endsIn (fun c => c == ';' || c == '{' || c == '}') (trimRight (m.take i)) = true
  here : ∃ word gap rest, (word = "function".toList ∨ word = "class".toList) ∧
    m.drop i = word ++ gap ++ name ++ rest ∧ gap ≠ [] ∧ (∀ c ∈ gap, isBlank c = true) ∧
    startsIn isName rest = false

/-- A variable with the name of a function. -/
theorem undeclared_of_fix_not : ¬ ∀ (code m name : Text) (d : Diagnostic) (f : Fixer)
    (r : FixResult) (decl : Declaration) (e i : Nat),
      builtin? Grammar.accepts {} "no-var" = some f → f.fix code d = .ok r →
      r.isSuccess = true → Binding.located? "var".toList code d = some (m, decl) →
      BindsAt code decl name e → isIdentifier name = true →
      functionScope m i = functionScope m decl.start → ¬ DefinedAt m name i := by
  intro always
  let code := "var a = 1;\nfunction a() \x7b\x7d".toList
  let decl := parseDeclaration code (mask code) 0
  have binds : BindsAt code decl "a".toList 9 := by
    have body : decl.body code = " a = 1".toList := by decide +kernel
    have target : Target "a = 1".toList "a".toList :=
      .valued (k := 2) (by decide) (by decide) (by decide)
    exact bindsAt_of_single (by decide +kernel) body (by decide) (.itself target)
  have defined : DefinedAt (mask code) "a".toList 11 :=
    ⟨.inr (by decide +kernel), "function".toList, " ".toList, "() \x7b\x7d".toList, .inl rfl,
      by decide +kernel, by decide, List.all_eq_true.mp (by decide +kernel), by decide⟩
  exact always code (mask code) "a".toList byVar _
    { code := "const a = 1;\nfunction a() \x7b\x7d".toList } decl 9 11 rfl (by decide +kernel) rfl
    (by decide +kernel) binds rfl (by decide +kernel) defined

end LintRepair.Rules
