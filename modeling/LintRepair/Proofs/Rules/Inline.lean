/-
`prefer-template` writes strings into a template.

* `Ends`: a character that would end template text, before what follows it;
* `escapeTemplate_spell`: escaping the content of a string, sign by sign; a backslash that
  stands there already is escaped itself;
* `piece_of_string`: what a string becomes in the template;
* `exists_piece_iff`: it is template text that stands for the same just if no backslash
  stood before what would end template text;
* `inlined_of_fix`: this decides, for every string of a concatenation that the built-in
  fixer converts, whether it is taken over as it should be.
-/
import LintRepair.Proofs.Rules.Requote

namespace LintRepair.Rules

open Text Lexical Check Repair

variable {code after : Text} {d : Diagnostic} {c : Char} {signs : List Sign}

/-! ### Escaping -/

/-- A tick, or a dollar sign before a brace that stands for itself: it would end template
text, if it stood for itself. -/
def Ends (c : Char) (rest : List Sign) : Prop :=
  c = '\x60' ∨ c = '$' ∧ rest.head? = some (.plain '{')
  deriving Decidable

lemma escapeTemplate_cons (c : Char) (t : Text) : Template.escapeTemplate (c :: t) =
    (if c = '\x60' ∨ c = '$' ∧ t.head? = some '{' then ['\\'] else []) ++
      c :: Template.escapeTemplate t := by
  by_cases tick : c = '\x60'
  · subst tick
    rw [Template.escapeTemplate, if_pos (.inl rfl)]
    rfl
  by_cases opens : c = '$' ∧ t.head? = some '{'
  · obtain ⟨rfl, brace⟩ := opens
    obtain ⟨rest, rfl⟩ := List.head?_eq_some_iff.mp brace
    have plain : Template.escapeTemplate ('{' :: rest) = '{' :: Template.escapeTemplate rest := by
      rw [Template.escapeTemplate] <;> simp
    rw [if_pos (.inr ⟨rfl, rfl⟩), Template.escapeTemplate, plain]
    rfl
  · rw [if_neg (not_or.mpr ⟨tick, opens⟩), Template.escapeTemplate, List.nil_append]
    · exact tick
    · rintro rest rfl rfl
      exact opens ⟨rfl, rfl⟩

lemma head?_spell (signs : List Sign) (other : c ≠ '\\') :
    (spell signs).head? = some c ↔ signs.head? = some (.plain c) := by
  cases signs with
  | nil => simp
  | cons s rest => cases s <;> simp [other.symm]

/-- The signs of a content that has been escaped. Where one stands behind a backslash that
would end template text, the backslash before it is escaped, and it stands for itself. -/
def carried : List Sign → List Sign
  | [] => []
  | .plain c :: rest => (if Ends c rest then .escaped c else .plain c) :: carried rest
  | .escaped c :: rest =>
    (if Ends c rest then [.escaped '\\', .plain c] else [.escaped c]) ++ carried rest

/-- Escaping a content, sign by sign. -/
lemma escapeTemplate_spell (signs : List Sign) :
    Template.escapeTemplate (spell signs) = spell (carried signs) := by
  induction signs with
  | nil => rfl
  | cons s rest ih =>
      have ends : ∀ c, (c = '\x60' ∨ c = '$' ∧ (spell rest).head? = some '{') ↔ Ends c rest := by
        intro c
        rw [head?_spell rest (by decide), Ends]
      cases s with
      | plain c =>
          rw [spell_plain, escapeTemplate_cons, ih, if_congr (ends c) rfl rfl, carried]
          split_ifs <;> rfl
      | escaped c =>
          rw [spell_escaped, escapeTemplate_cons, if_neg (by simp), escapeTemplate_cons, ih,
            if_congr (ends c) rfl rfl, carried]
          split_ifs <;> rfl

/-! ### What has been escaped -/

/-- No backslash stands before what would end template text. -/
def Unended (signs : List Sign) : Prop :=
  ∀ front c back, signs = front ++ .escaped c :: back → ¬ Ends c back

lemma unended_cons {s : Sign} {rest : List Sign} :
    Unended (s :: rest) ↔ (∀ c, s = .escaped c → ¬ Ends c rest) ∧ Unended rest := by
  constructor
  · intro unended
    refine ⟨fun c same => unended [] c rest (by rw [same]; rfl), fun front c back same => ?_⟩
    exact unended (s :: front) c back (by rw [same]; rfl)
  · rintro ⟨first, later⟩ front c back same
    cases front with
    | nil =>
        obtain ⟨rfl, rfl⟩ := List.cons.inj same
        exact first c rfl
    | cons b front => exact later front c back (List.cons.inj same).2

/-- Nothing stands for itself that did not, but for what would end template text. -/
lemma of_mem_carried (among : .plain c ∈ carried signs) :
    .plain c ∈ signs ∨ c = '\x60' ∨ c = '$' := by
  induction signs with
  | nil => cases among
  | cons s rest ih =>
      have later : .plain c ∈ carried rest → .plain c ∈ s :: rest ∨ c = '\x60' ∨ c = '$' :=
        fun among => (ih among).imp_left (List.mem_cons_of_mem s)
      cases s with
      | plain b =>
          rw [carried] at among
          split_ifs at among with ends <;> rcases List.mem_cons.mp among with same | among
          · cases same
          · exact later among
          · exact .inl (same ▸ List.mem_cons_self)
          · exact later among
      | escaped b =>
          rw [carried, List.mem_append] at among
          rcases among with first | among
          · split_ifs at first with ends
            · obtain rfl : c = b := by simpa using first
              exact .inr (ends.imp_right And.left)
            · simp at first
          · exact later among

lemma paired_carried (paired : Paired signs) : Paired (carried signs) := by
  intro among
  rcases of_mem_carried among with before | tick | dollar
  · exact paired before
  · cases tick
  · cases dollar

/-- Behind an escaped backslash, what a backslash stood before stands for itself. -/
lemma exists_carried (front : List Sign) {back : List Sign} (ends : Ends c back) :
    ∃ front', carried (front ++ .escaped c :: back) =
      front' ++ .escaped '\\' :: .plain c :: carried back := by
  induction front with
  | nil => exact ⟨[], by rw [List.nil_append, carried, if_pos ends]; rfl⟩
  | cons s front ih =>
      obtain ⟨front', same⟩ := ih
      cases s with
      | plain b =>
          rw [List.cons_append, carried, same, ← List.cons_append]
          exact ⟨_, rfl⟩
      | escaped b =>
          rw [List.cons_append, carried, same, ← List.append_assoc]
          exact ⟨_, rfl⟩

/-- So template text does not come of it. -/
lemma unended_of_carried (ticks : .plain '\x60' ∉ carried signs)
    (unopened : Unopened (carried signs)) : Unended signs := by
  rintro front c back rfl ends
  obtain ⟨front', same⟩ := exists_carried front ends
  rw [same] at ticks unopened
  rcases ends with rfl | ⟨rfl, brace⟩
  · simp at ticks
  · obtain ⟨rest, rfl⟩ := List.head?_eq_some_iff.mp brace
    have plain : carried (.plain '{' :: rest) = .plain '{' :: carried rest := by
      rw [carried, if_neg (by simp [Ends])]
    rw [plain, List.append_cons] at unopened
    exact List.isChain_iff_forall_rel_of_append_cons_cons.mp unopened rfl ⟨rfl, rfl⟩

/-- Characters that denote themselves behind a backslash, in strings and in templates. -/
def textMarks : List Char := '$' :: delimiters

/-- Otherwise each sign stays as it is, or gets a backslash that makes no difference. -/
lemma exists_carried_cons {s : Sign} {rest : List Sign} (unended : Unended (s :: rest)) :
    Unended rest ∧ ∃ s', carried (s :: rest) = s' :: carried rest ∧
      (∀ c, s' = .plain c → s = .plain c ∧ ¬ Ends c rest) ∧
      s'.bare textMarks = s.bare textMarks := by
  obtain ⟨first, later⟩ := unended_cons.mp unended
  refine ⟨later, ?_⟩
  cases s with
  | plain c =>
      rw [carried]
      split_ifs with ends
      · refine ⟨.escaped c, rfl, by simp, ?_⟩
        have among : c ∈ textMarks := by
          rcases ends with rfl | ⟨rfl, -⟩ <;> decide
        simp [Sign.bare, among]
      · exact ⟨.plain c, rfl, fun b same => ⟨same, Sign.plain.inj same ▸ ends⟩, rfl⟩
  | escaped c =>
      rw [carried, if_neg (first c rfl)]
      exact ⟨.escaped c, rfl, by simp, rfl⟩

lemma map_bare_carried (unended : Unended signs) :
    (carried signs).map (Sign.bare textMarks) = signs.map (Sign.bare textMarks) := by
  induction signs with
  | nil => rfl
  | cons s rest ih =>
      obtain ⟨later, s', same, -, alike⟩ := exists_carried_cons unended
      rw [same, List.map_cons, List.map_cons, alike, ih later]

/-- Then it is template text. -/
lemma unopened_carried (unended : Unended signs) :
    .plain '\x60' ∉ carried signs ∧ Unopened (carried signs) := by
  induction signs with
  | nil => exact ⟨by simp [carried], List.IsChain.nil⟩
  | cons s rest ih =>
      obtain ⟨later, s', same, plain, -⟩ := exists_carried_cons unended
      obtain ⟨ticks, unopened⟩ := ih later
      rw [same, Unopened, List.isChain_cons]
      refine ⟨?_, ?_, unopened⟩
      · rintro (_ | ⟨_, among⟩)
        · exact (plain _ rfl).2 (.inl rfl)
        · exact ticks among
      · rintro next first ⟨rfl, rfl⟩
        refine (plain '$' rfl).2 (.inr ⟨rfl, ?_⟩)
        cases rest with
        | nil => cases first
        | cons s rest =>
            obtain ⟨-, s', same, plain, -⟩ := exists_carried_cons later
            rw [same, List.head?_cons] at first
            rw [List.head?_cons, (plain '{' (Option.some.inj first)).1]

/-! ### The piece of a string -/

/-- The text of a string is recognized as that of one. -/
lemma stringContent?_of_string (s : StringLiteral) :
    Template.stringContent? (Literal.string s).text = some (spell s.signs) := by
  have start : State.InCode {} := ⟨rfl, rfl⟩
  have count : (kinds (Literal.string s).text).count .delimiter = 2 := by
    have read := (Literal.reads start (.string s) []).kinds
    rw [Literal.map_fst_marks] at read
    rw [kinds, read, Literal.marks, Literal.kind, marked]
    simp [Function.comp_def, List.map_const', List.count_replicate]
  have quoted : s.quote.char = '\x27' ∨ s.quote.char = '\x22' := by
    cases s.quote <;> simp [Quote.char]
  obtain ⟨c, rest, content⟩ := List.exists_cons_of_ne_nil
    (List.append_ne_nil_of_right_ne_nil (spell s.signs) (List.cons_ne_nil s.quote.char []))
  have shape : (Literal.string s).text = s.quote.char :: c :: rest := by
    rw [← content]
    rfl
  have last : (s.quote.char :: c :: rest).getLast? = some s.quote.char := by
    rw [List.getLast?_cons_cons, ← content, List.getLast?_concat]
  rw [shape] at count ⊢
  rw [Template.stringContent?, if_pos (by simp [count, last, quoted]), List.drop_succ_cons,
    List.drop_zero, ← content, List.dropLast_concat]

/-- What a string becomes in the template. -/
lemma piece_of_string (s : StringLiteral) : Template.piece (Literal.string s).text =
    spell (carried (s.signs.map (Sign.bare [s.quote.char]))) := by
  have paired : Paired s.signs := (Literal.string s).paired
  rw [Template.piece, stringContent?_of_string, ← escapeTemplate_spell, ← unescape_spell paired]
  rfl

lemma quote_notMem (q : Lexical.Quote) (other : c ≠ '\x27' ∧ c ≠ '\x22') : c ∉ [q.char] := by
  cases q <;> simp [Quote.char, other]

/-- Backslashes before a string's own quote have no say in what would end template text. -/
lemma unended_map_bare (q : Lexical.Quote) :
    Unended (signs.map (Sign.bare [q.char])) ↔ Unended signs := by
  have brace : ∀ s : Sign, s.bare [q.char] = .plain '{' ↔ s = .plain '{' := fun s =>
    ⟨Sign.eq_plain_of_bare (quote_notMem q (by decide)), fun same => by rw [same, Sign.bare]⟩
  induction signs with
  | nil => rfl
  | cons s rest ih =>
      have ends : ∀ c, Ends c (rest.map (Sign.bare [q.char])) ↔ Ends c rest := by
        intro c
        rw [Ends, Ends, List.head?_map]
        cases rest.head? <;> simp [brace]
      rw [List.map_cons, unended_cons, unended_cons]
      refine and_congr (forall_congr' fun c => ?_) ih
      rw [ends]
      cases s with
      | plain b => rfl
      | escaped b =>
          rw [Sign.bare]
          split_ifs with quote
          · have : ¬ Ends b rest := by
              rw [List.mem_singleton.mp quote]
              rintro (tick | ⟨dollar, -⟩)
              · exact absurd (List.mem_singleton.mpr tick.symm) (quote_notMem q (by decide))
              · exact absurd (List.mem_singleton.mpr dollar.symm) (quote_notMem q (by decide))
            refine iff_of_true (fun same => by cases same) ?_
            rintro ⟨⟩
            exact this
          · rfl

/-- **The piece of a string** is template text that stands for the same just if no backslash
of the string stands before what would end template text. -/
lemma exists_piece_iff (s : StringLiteral) :
    (∃ text : TemplateText, Template.piece (Literal.string s).text = spell text.signs ∧
      ∀ (α : Type) (D : Decoding textMarks α), D.value text.signs = D.value s.signs) ↔
      Unended s.signs := by
  rw [piece_of_string, ← unended_map_bare s.quote]
  have paired : Paired (carried (s.signs.map (Sign.bare [s.quote.char]))) := by
    refine paired_carried fun among => ?_
    rcases of_mem_map_bare among with before | quote
    · exact (Literal.string s).paired before
    · exact quote_notMem s.quote (by decide) quote
  constructor
  · rintro ⟨text, same, -⟩
    have signs := spell_inj paired (Literal.template text).paired same
    refine unended_of_carried ?_ (signs ▸ text.unopened)
    rw [signs]
    exact fun among => (allowed_of_mem among).1 rfl
  · intro unended
    obtain ⟨ticks, unopened⟩ := unopened_carried unended
    have allows : ∀ c, .plain c ∈ carried (s.signs.map (Sign.bare [s.quote.char])) →
        c ≠ '\x60' ∧ c ≠ '\\' := by
      refine fun c among => ⟨?_, ?_⟩ <;> rintro rfl
      · exact ticks among
      · exact paired among
    obtain ⟨text, signs⟩ := exists_templateText allows unopened
    refine ⟨text, by rw [signs], fun α D => ?_⟩
    rw [signs, D.value_congr (map_bare_carried unended)]
    refine D.value_bare (fun c quote => ?_) s.signs
    rw [List.mem_singleton.mp quote]
    cases s.quote <;> decide

/-! ### The repair -/

/-- What the edit writes. -/
lemma edit_preferTemplate (edit : Template.preferTemplate.edit code d = .ok after) :
    ∃ start stop, Template.expression? code d = some (start, stop) ∧
      after = splice code start stop ('\x60' ::
        ((Template.operandsOf (slice code start stop)).map Template.piece).flatten ++ ['\x60']) := by
  simp only [Template.preferTemplate] at edit
  split at edit
  · cases edit
  · next start stop found =>
    split_ifs at edit
    · cases edit
    · cases edit
    · cases edit
    · cases edit
    · exact ⟨start, stop, found, (Except.ok.inj edit).symm⟩

/-- **Strings in a template.** Where the built-in fixer of `prefer-template` converts a
concatenation, every string of it becomes template text that stands for the same just if no
backslash in the string stands before a tick, or before a dollar sign with a brace behind
it. -/
theorem inlined_of_fix {accepts : Acceptor} {o : Options} {f : Fixer} {r : FixResult}
    (builtin : builtin? accepts o "prefer-template" = some f) (fix : f.fix code d = .ok r)
    (success : r.isSuccess = true) :
    ∃ start stop, Template.expression? code d = some (start, stop) ∧
      r.code = splice code start stop ('\x60' ::
        ((Template.operandsOf (slice code start stop)).map Template.piece).flatten ++ ['\x60']) ∧
      ∀ s : StringLiteral,
        (Literal.string s).text ∈ Template.operandsOf (slice code start stop) →
          ((∃ text : TemplateText, Template.piece (Literal.string s).text = spell text.signs ∧
            ∀ (α : Type) (D : Decoding textMarks α), D.value text.signs = D.value s.signs) ↔
            Unended s.signs) := by
  cases builtin
  obtain ⟨-, edit, -⟩ := edit_of_fixer fix success
  obtain ⟨start, stop, found, rewritten⟩ := edit_preferTemplate edit
  exact ⟨start, stop, found, rewritten, fun s _ => exists_piece_iff s⟩

/-- A string with another value behind it. -/
def concatenated : Diagnostic :=
  { rule := some "prefer-template", message := "Unexpected string concatenation."
    line := 1, column := 9 }

theorem inlined_of_fix_tick :
    let code := "let s = \x27\\\x27\x60$\x7b\x27 + c;".toList
    ∃ f r, builtin? Grammar.accepts {} "prefer-template" = some f ∧
      f.fix code concatenated = .ok r ∧ r.isSuccess = true ∧
      r.code = "let s = \x60\x27\\\x60\\$\x7b$\x7bc\x7d\x60;".toList ∧
      ∃ start stop, Template.expression? code concatenated = some (start, stop) ∧
        r.code = splice code start stop ('\x60' ::
          ((Template.operandsOf (slice code start stop)).map Template.piece).flatten ++ ['\x60']) ∧
        ∀ s : StringLiteral,
          (Literal.string s).text ∈ Template.operandsOf (slice code start stop) →
            ((∃ text : TemplateText, Template.piece (Literal.string s).text = spell text.signs ∧
              ∀ (α : Type) (D : Decoding textMarks α), D.value text.signs = D.value s.signs) ↔
              Unended s.signs) := by
  intro code
  let f := complex Grammar.accepts "PreferTemplateFixer" "prefer-template"
    "Replace string concatenation with template literals" Template.preferTemplate
  have builtin : builtin? Grammar.accepts {} "prefer-template" = some f := rfl
  have fix : f.fix code concatenated =
      .ok { code := "let s = \x60\x27\\\x60\\$\x7b$\x7bc\x7d\x60;".toList } := by
    decide +kernel
  exact ⟨f, _, builtin, fix, rfl, rfl, inlined_of_fix builtin fix rfl⟩

/-- A string in which the start of an interpolation stands behind a backslash. -/
theorem inlined_of_fix_not : ¬ ∀ (code : Text) (d : Diagnostic) (f : Fixer) (r : FixResult)
    (start stop : Nat) (s : StringLiteral),
      builtin? Grammar.accepts {} "prefer-template" = some f → f.fix code d = .ok r →
      r.isSuccess = true → Template.expression? code d = some (start, stop) →
      (Literal.string s).text ∈ Template.operandsOf (slice code start stop) →
      ∃ text : TemplateText, Template.piece (Literal.string s).text = spell text.signs ∧
        ∀ (α : Type) (D : Decoding textMarks α), D.value text.signs = D.value s.signs := by
  intro always
  let s : StringLiteral :=
    ⟨.single, [.escaped '$', .plain '{' (by decide), .plain 'b' (by decide),
      .plain '}' (by decide)]⟩
  have taken := always "let s = \x27\\$\x7bb\x7d\x27 + c;".toList concatenated _
    { code := "let s = \x60\\\\$\x7bb\x7d$\x7bc\x7d\x60;".toList } 8 19 s rfl
    (by decide +kernel) rfl (by decide +kernel) (by decide +kernel)
  exact (exists_piece_iff s).mp taken [] '$' _ rfl (.inr ⟨rfl, rfl⟩)

end LintRepair.Rules
