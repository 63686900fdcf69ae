/-
What `no-unused-vars` removes from a declaration is unused and harmless.

* `declaring?`, `Removes`: the declaration that a declarator is taken from, and what taking
  it away requires and does;
* `ActsAt`: an effect in a value, and `MissedAt`: one that is not looked for;
  `missedAt_of_harmless`: no other is there in a value that is held to be harmless;
* `bindingScope`: where a declared name is bound, and `Overlooked`: occurrences that are not
  taken for a use;
* `unused_of_fix`: what is removed has no use and no effect but those.
-/
import LintRepair.Grammar.Statement
import LintRepair.Proofs.Code.Binds
import LintRepair.Proofs.Code.Written
import LintRepair.Proofs.Rules.Whole

namespace LintRepair.Rules

open Text Lexical Code Check Repair Unused

variable {code after m name target v before rest : Text} {d : Diagnostic} {decl : Declaration}
  {i k : Nat}

/-! ### Taking a declarator away -/

/-- The unused name and the offset of the keyword that declares it, where it is that of a
variable. -/
def declaring? (code : Text) (d : Diagnostic) : Option (Text × Nat) :=
  (nameOffset? code d).bind fun offset =>
    if (functionHead? ((mask code).take offset)).isSome then none
    else (declarationKeyword? (mask code) offset).map (identifierAt (mask code) offset, ·)

/-- A text without a declarator of a declaration, or without the whole declaration if there
is no other. -/
def withoutTarget (code : Text) (decl : Declaration) (target : Text) : Text :=
  let remaining := withoutDeclarator target decl.declarators
  if remaining.isEmpty then deleteSpan code decl.start decl.stop
  else splice code decl.start decl.stop
    (decl.keyword ++ [' '] ++ List.intercalate [',', ' '] remaining ++
      if endsIn (· == ';') (trimRight (slice code decl.start decl.stop)) then [';'] else [])

/-- What it requires to take the declarator of a name away. -/
structure Removes (code name : Text) (decl : Declaration) (target : Text) : Prop where
  /-- The declaration is in no head of a loop. -/
  plain : decl.forKind = none
  among : target ∈ decl.declarators
  binds : bindingNames target = [name]
  harmless : ∀ k, topLevelAssignment? target = some k →
    hasEffect none (mask (target.drop (k + 1))) = false
  unused : ∀ o ∈ findOccurrences (mask code) name (declarationScope (mask code) decl) (some decl),
    o.use = .declaration

/-- A declarator is taken away just if nothing stands against it. -/
lemma exists_of_removeDeclarator
    (edit : removeDeclarator code (mask code) name k = .ok after) :
    ∃ target, Removes code name (parseDeclaration code (mask code) k) target ∧
      after = withoutTarget code (parseDeclaration code (mask code) k) target := by
  rw [removeDeclarator] at edit
  generalize parseDeclaration code (mask code) k = decl at edit ⊢
  dsimp only at edit
  by_cases head : decl.forKind.isSome = true
  · rw [if_pos head] at edit
    cases edit
  rw [if_neg head] at edit
  split at edit
  · cases edit
  next target found =>
  obtain ⟨fits, among⟩ := And.intro (List.find?_some found) (List.mem_of_find?_eq_some found)
  rw [Bool.and_eq_true, beq_iff_eq] at fits
  by_cases effect : ((declaratorParts target).2.any fun value => hasEffect none (mask value)) = true
  · rw [if_pos effect] at edit
    cases edit
  rw [if_neg effect] at edit
  by_cases used : ((findOccurrences (mask code) name (declarationScope (mask code) decl)
      (some decl)).any (·.use != .declaration)) = true
  · rw [if_pos used] at edit
    cases edit
  rw [if_neg used] at edit
  refine ⟨target, ⟨by simpa using head, among, fits.1, fun k assigns => ?_, ?_⟩, ?_⟩
  · rw [declaratorParts, assigns, Option.any_some, Bool.not_eq_true] at effect
    exact effect
  · intro o among
    rw [Bool.not_eq_true, List.any_eq_false] at used
    simpa using used o among
  · rw [withoutTarget]
    split_ifs at edit ⊢ <;> cases edit <;> rfl

/-- A repair that takes a declarator away. -/
lemma exists_of_declaring? (declared : declaring? code d = some (name, k))
    (edit : noUnusedVars.edit code d = .ok after) :
    ∃ target, Removes code name (parseDeclaration code (mask code) k) target ∧
      after = withoutTarget code (parseDeclaration code (mask code) k) target := by
  obtain ⟨offset, place, rest⟩ := Option.bind_eq_some_iff.mp declared
  split_ifs at rest with function
  obtain ⟨keyword, found, pair⟩ := Option.map_eq_some_iff.mp rest
  cases pair
  simp only [noUnusedVars, place, found] at edit
  rw [Bool.not_eq_true, Option.isSome_eq_false_iff, Option.isNone_iff_eq_none] at function
  rw [function] at edit
  exact exists_of_removeDeclarator edit

/-! ### Effects -/

/-- The operators that shift a variable's value. -/
def shiftOperators : List Text := ["<<=", ">>=", ">>>="].map String.toList

/-- Whether an equals sign behind this character is part of another operator. -/
def bindsEquals (c : Char) : Bool := c == '=' || c == '!' || c == '<' || c == '>'

/-- An effect at an offset of a masked text: a call, a word that has an effect, a step, or an
assignment. -/
inductive ActsAt (v : Text) (i : Nat) : Prop
  | call (here : v[i]? = some '(')
  | tagged (here : v[i]? = some '\x60') (behind : endsIn isName (trimRight (v.take i)) = true)
  | word {word : Text} (among : word ∈ effectWords) (stands : StandsAt isName v word i)
  | step {op : Text} (among : op ∈ stepOperators) (here : op <+: v.drop i)
  | assign {op rest : Text} (among : op ∈ assignOperators) (here : v.drop i = op ++ rest)
      (apart : op = ['='] → endsIn bindsEquals (v.take i) = false)
      (alone : startsIn (fun c => c == '=' || c == '>') rest = false)

/-- What is no effect for the fixer: a shift, and a template behind a name. -/
inductive MissedAt (v : Text) (i : Nat) : Prop
  | shift {op : Text} (among : op ∈ shiftOperators) (here : op <+: v.drop i)
  | tagged (here : v[i]? = some '\x60') (behind : endsIn isName (trimRight (v.take i)) = true)

/-- An effect behind some text is an effect of the whole. -/
lemma hasEffect_append {prev : Option Char} (before : Text)
    (here : hasEffect (before.getLast?.or prev) rest = true) :
    hasEffect prev (before ++ rest) = true := by
  induction before generalizing prev with
  | nil => exact here
  | cons c before ih =>
      rw [List.getLast?_cons] at here
      rw [List.cons_append, hasEffect, Bool.or_eq_true]
      refine .inr (ih ?_)
      cases last : before.getLast? with
      | none => simpa [last] using here
      | some b => simpa [last] using here

lemma hasEffect_of_drop (i : Nat) (here : hasEffect (v.take i).getLast? (v.drop i) = true) :
    hasEffect none v = true := by
  rw [← List.take_append_drop i v]
  refine hasEffect_append _ ?_
  rwa [Option.or_none]

/-- A word that has an effect is one. -/
lemma hasEffect_of_standsAt {word : Text} (among : word ∈ effectWords)
    (stands : StandsAt isName v word i) : hasEffect none v = true := by
  have some' : ∀ word ∈ effectWords, word ≠ [] := by decide
  obtain ⟨behind, here⟩ := stands.here
  obtain ⟨c, others, rfl⟩ := List.exists_cons_of_ne_nil (some' word among)
  have starts : startsWith (v.drop i) (c :: others) = true := by
    rw [startsWith, List.isPrefixOf_iff_prefix]
    exact stands.here
  have ends : startsIn isWord ((v.drop i).drop (c :: others).length) = false := by
    rw [List.drop_drop]
    exact isWord_of_isName stands.ends
  have apart : (v.take i).getLast?.any isWord = false := endsIn_isWord_of_isName stands.apart
  refine hasEffect_of_drop i ?_
  rw [← here, List.cons_append] at starts ends ⊢
  rw [hasEffect, apart]
  simp only [Bool.or_eq_true, Bool.and_eq_true, List.any_eq_true]
  exact .inl (.inr ⟨rfl, _, among, starts, by rw [ends]; rfl⟩)

/-- So is an equals sign that is part of no comparison and no arrow. -/
lemma hasEffect_of_equals (shape : v = before ++ '=' :: rest)
    (apart : endsIn bindsEquals before = false)
    (alone : startsIn (fun c => c == '=' || c == '>') rest = false) : hasEffect none v = true := by
  have assigns : assigns before.getLast? rest.head? = true := by
    rw [endsIn] at apart
    rw [startsIn] at alone
    cases last : before.getLast? <;> cases first : rest.head? <;>
      simp_all [assigns, bindsEquals]
  rw [shape]
  refine hasEffect_append before ?_
  rw [Option.or_none, hasEffect, assigns]
  simp

/-- So is a step. -/
lemma hasEffect_of_step {op : Text} (among : op ∈ stepOperators) (here : op <+: v.drop i) :
    hasEffect none v = true := by
  obtain ⟨behind, here⟩ := here
  refine hasEffect_of_drop i ?_
  rw [← here]
  simp only [stepOperators, List.map_cons, List.map_nil, List.mem_cons, List.not_mem_nil, or_false]
    at among
  rcases among with rfl | rfl <;> simp [hasEffect, startsWith]

/-- An operator that assigns and does not shift is a step, or an equals sign by itself or
behind a character that goes with none. -/
lemma assignOperator_cases : ∀ op ∈ assignOperators, op ∈ shiftOperators ∨ op ∈ stepOperators ∨
    op = ['='] ∨ op.dropLast ++ ['='] = op ∧ op.dropLast ≠ [] ∧
      endsIn bindsEquals op.dropLast = false := by
  decide

/-- **Effects.** A value that is held to be harmless has none but a shift or a template
behind a name. -/
lemma missedAt_of_harmless (harmless : hasEffect none v = false) (acts : ActsAt v i) :
    MissedAt v i := by
  cases acts with
  | tagged here behind => exact .tagged here behind
  | call here =>
      obtain ⟨within, here⟩ := List.getElem?_eq_some_iff.mp here
      refine absurd (hasEffect_of_drop i ?_) (Bool.eq_false_iff.mp harmless)
      rw [List.drop_eq_getElem_cons within, here, hasEffect]
      rfl
  | word among stands => simp [hasEffect_of_standsAt among stands] at harmless
  | step among here => simp [hasEffect_of_step among here] at harmless
  | @assign op rest among here apart alone =>
      have whole : v = v.take i ++ (op ++ rest) := by rw [← here, List.take_append_drop]
      rcases assignOperator_cases op among with shift | step | rfl | ⟨split, some', other⟩
      · exact .shift shift ⟨rest, here.symm⟩
      · simp [hasEffect_of_step step ⟨rest, here.symm⟩] at harmless
      · simp [hasEffect_of_equals whole (apart rfl) alone] at harmless
      · have whole' : v = (v.take i ++ op.dropLast) ++ '=' :: rest := by
          rw [List.append_assoc, ← List.singleton_append, ← List.append_assoc op.dropLast, split]
          exact whole
        have apart' : endsIn bindsEquals (v.take i ++ op.dropLast) = false := by
          rw [endsIn, List.getLast?_append_of_ne_nil _ some']
          exact other
        simp [hasEffect_of_equals whole' apart' alone] at harmless

/-! ### Uses -/

/-- Where a declared name is bound: in the function body around it for the keyword `var`,
else in the block around it. -/
def bindingScope (m : Text) (decl : Declaration) : Span :=
  if decl.keyword = "var".toList then functionScope m decl.start else enclosingBlock m decl.start

/-- Why an occurrence of a declared name is not taken for a use: it may be the key of a
property, it is one of the names that the declaration binds or stands in their patterns, or
the variable outlives the block that it is declared in. -/
inductive Overlooked (m name : Text) (decl : Declaration) (i : Nat) : Prop
  | key (key : KeyAt m name i)
  | bound (inside : ¬ Outside m decl i)
  | beyond (outlives : decl.keyword = "var".toList)
      (outside : i < (enclosingBlock m decl.start).start ∨
        (enclosingBlock m decl.start).stop < i + name.length)

/-- No occurrence is classified as a binding. -/
lemma use_classifyOccurrence (m name : Text) (i : Nat) :
    (classifyOccurrence m name i).use ≠ .declaration := by
  rw [classifyOccurrence]
  dsimp only
  split <;> rintro ⟨⟩

/-- **Uses.** Every occurrence of the name in its scope is overlooked. -/
lemma Removes.overlooked (h : Removes code name decl target)
    (occurs : OccursAt (mask code) name i)
    (low : (bindingScope (mask code) decl).start ≤ i)
    (high : i + name.length ≤ (bindingScope (mask code) decl).stop) :
    Overlooked (mask code) name decl i := by
  by_cases key : KeyAt (mask code) name i
  · exact .key key
  by_cases outside : Outside (mask code) decl i
  swap
  · exact .bound outside
  have identifier : isIdentifier name = true :=
    isIdentifier_of_mem_bindingNames (h.binds ▸ List.mem_singleton_self name)
  have scope : declarationScope (mask code) decl = enclosingBlock (mask code) decl.start := by
    rw [declarationScope, h.plain]
  by_cases inside : (enclosingBlock (mask code) decl.start).start ≤ i ∧
      i + name.length ≤ (enclosingBlock (mask code) decl.start).stop
  · -- In its block, such an occurrence is found, and not as a binding.
    have found := occurs.mem_findOccurrences (d := decl) (declarationScope (mask code) decl) identifier
      (scope ▸ inside.1) (scope ▸ inside.2) key
      (outside.isDeclaredTarget occurs (ne_nil_of_isIdentifier identifier))
    exact absurd (h.unused _ found) (use_classifyOccurrence _ _ _)
  · rw [bindingScope] at low high
    split_ifs at low high with var
    · exact .beyond var (by omega)
    · exact absurd ⟨low, high⟩ inside

/-- **Unused and harmless.** Where the built-in fixer of `no-unused-vars` takes a declarator
away, every other occurrence of its name in the scope that it is bound in is overlooked: as a
key, in a pattern of the declaration itself, or outside of the block of a `var`; and every
effect of its value is missed: a shift that assigns, or a template that a function is called
with. -/
theorem unused_of_fix {accepts : Acceptor} {o : Options} {f : Fixer} {r : FixResult}
    (builtin : builtin? accepts o "no-unused-vars" = some f) (fix : f.fix code d = .ok r)
    (success : r.isSuccess = true) (declared : declaring? code d = some (name, k)) :
    let decl := parseDeclaration code (mask code) k
    ∃ target ∈ decl.declarators, bindingNames target = [name] ∧
      r.code = withoutTarget code decl target ∧
      (∀ i, (bindingScope (mask code) decl).start ≤ i →
        i + name.length ≤ (bindingScope (mask code) decl).stop → OccursAt (mask code) name i →
        Overlooked (mask code) name decl i) ∧
      ∀ e, topLevelAssignment? target = some e →
        ∀ i, ActsAt (mask (target.drop (e + 1))) i → MissedAt (mask (target.drop (e + 1))) i := by
  cases builtin
  obtain ⟨-, edit, -⟩ := edit_of_fixer fix success
  obtain ⟨target, removes, shape⟩ := exists_of_declaring? declared edit
  exact ⟨target, removes.among, removes.binds, shape,
    fun i low high occurs => removes.overlooked occurs low high,
    fun e assigns i => missedAt_of_harmless (removes.harmless e assigns)⟩

/-- A variable of two that is not used. -/
def unusedFirst : Diagnostic :=
  { rule := some "no-unused-vars", message := "\x27a\x27 is assigned a value but never used.",
    line := 2, column := 7 }

theorem unused_of_fix_first :
    let code := "function f() \x7b\n  var a = 1, b = 2;\n  return b;\n\x7d".toList
    ∃ f r, builtin? Grammar.accepts {} "no-unused-vars" = some f ∧ f.fix code unusedFirst = .ok r ∧
      r.isSuccess = true ∧ r.code = "function f() \x7b\n  var b = 2;\n  return b;\n\x7d".toList ∧
      declaring? code unusedFirst = some ("a".toList, 17) ∧
      let decl := parseDeclaration code (mask code) 17
      ∃ target ∈ decl.declarators, bindingNames target = ["a".toList] ∧
        r.code = withoutTarget code decl target ∧
        (∀ i, (bindingScope (mask code) decl).start ≤ i →
          i + "a".toList.length ≤ (bindingScope (mask code) decl).stop →
          OccursAt (mask code) "a".toList i → Overlooked (mask code) "a".toList decl i) ∧
        ∀ e, topLevelAssignment? target = some e →
          ∀ i, ActsAt (mask (target.drop (e + 1))) i → MissedAt (mask (target.drop (e + 1))) i := by
  intro code
  let f := complex Grammar.accepts "NoUnusedVarsFixer" "no-unused-vars"
    "Remove unused variables, parameters and functions" noUnusedVars
  have builtin : builtin? Grammar.accepts {} "no-unused-vars" = some f := rfl
  have fix : f.fix code unusedFirst =
      .ok { code := "function f() \x7b\n  var b = 2;\n  return b;\n\x7d".toList } := by
    decide +kernel
  have declared : declaring? code unusedFirst = some ("a".toList, 17) := by decide +kernel
  exact ⟨f, _, builtin, fix, rfl, rfl, declared, unused_of_fix builtin fix rfl declared⟩

/-- A value that shifts another variable. -/
theorem unused_of_fix_not : ¬ ∀ (code name target : Text) (d : Diagnostic) (f : Fixer)
    (r : FixResult) (k e i : Nat),
      builtin? Grammar.accepts {} "no-unused-vars" = some f → f.fix code d = .ok r →
      r.isSuccess = true → declaring? code d = some (name, k) →
      target ∈ (parseDeclaration code (mask code) k).declarators →
      r.code = withoutTarget code (parseDeclaration code (mask code) k) target →
      topLevelAssignment? target = some e → ¬ ActsAt (mask (target.drop (e + 1))) i := by
  intro always
  let code := "let y = 1;\nlet x = y <<= 1;\nf(y);".toList
  let shifting : Diagnostic :=
    { rule := some "no-unused-vars", message := "\x27x\x27 is assigned a value but never used.",
      line := 2, column := 5 }
  have shift : "<<=".toList ∈ assignOperators := by decide
  refine always code "x".toList "x = y <<= 1".toList shifting _
    { code := "let y = 1;\nf(y);".toList } 11 2 3 rfl (by decide +kernel) rfl (by decide +kernel)
    (by decide +kernel) (by decide +kernel) (by decide +kernel) ?_
  have here : "y <<= 1".toList.drop 2 = "<<=".toList ++ " 1".toList := by decide
  exact .assign shift here (by decide) (by decide)

end LintRepair.Rules
