/-
Literals as values, and what they decode to.

* `Sign`: a character that stands for itself, or one behind a backslash;
* `Decoding`: what signs stand for, with `Decoding.value_congr`: where a character denotes
  itself behind a backslash, it makes no difference whether one stands there;
* `Literal`: a string, or a template without interpolations;
* `Literal.reads`: in code a literal is read as one, and behind it the scanner is as it is
  behind every other one in its place;
* `kinds_exchanged`: so no kind outside of a literal changes when another one takes its place;
* `exists_string`, `exists_templateText`: signs are those of a literal where the characters
  that stand for themselves are allowed to;
* `exists_signs`: what the scanner reads in a template without interpolations is made of them.
-/
import LintRepair.Proofs.Lexical.Blank

namespace LintRepair.Lexical

open Text

/-! ### Signs -/

/-- A character of a literal that stands for itself, or one behind a backslash. -/
inductive Sign
  | plain (c : Char)
  | escaped (c : Char)
  deriving DecidableEq, Repr

/-- The characters of a sign. -/
def Sign.chars : Sign → Text
  | .plain c => [c]
  | .escaped c => ['\\', c]

/-- The sign that a glyph is, whatever may stand for itself. -/
def Glyph.sign {allowed : Char → Prop} : Glyph allowed → Sign
  | .plain c _ => .plain c
  | .escaped c => .escaped c

/-- The signs of a string. -/
def StringLiteral.signs (s : StringLiteral) : List Sign := s.content.map Glyph.sign

/-- The signs of a stretch of template text. -/
def TemplateText.signs (text : TemplateText) : List Sign := text.glyphs.map Glyph.sign

/-- The characters of signs one after another. -/
def spell (signs : List Sign) : Text := signs.flatMap Sign.chars

section Signs

variable {allowed : Char → Prop} {s s' : Sign} {signs signs' : List Sign} {c : Char}

@[simp]
lemma spell_nil : spell [] = [] := rfl

@[simp]
lemma spell_plain : spell (.plain c :: signs) = c :: spell signs := rfl

@[simp]
lemma spell_escaped : spell (.escaped c :: signs) = '\\' :: c :: spell signs := rfl

lemma spell_map_sign (glyphs : List (Glyph allowed)) :
    spell (glyphs.map Glyph.sign) = glyphs.flatMap Glyph.chars := by
  induction glyphs with
  | nil => rfl
  | cons glyph glyphs ih =>
      rw [List.map_cons, List.flatMap_cons, ← ih]
      cases glyph <;> rfl

/-- Signs of which each that stands for itself is allowed to are those of glyphs. -/
lemma exists_glyphs (allows : ∀ c, .plain c ∈ signs → allowed c) :
    ∃ glyphs : List (Glyph allowed), glyphs.map Glyph.sign = signs := by
  induction signs with
  | nil => exact ⟨[], rfl⟩
  | cons s signs ih =>
      obtain ⟨glyphs, rfl⟩ := ih fun c among => allows c (List.mem_cons_of_mem s among)
      cases s with
      | plain c => exact ⟨.plain c (allows c List.mem_cons_self) :: glyphs, rfl⟩
      | escaped c => exact ⟨.escaped c :: glyphs, rfl⟩

/-- What stands for itself among the signs of glyphs is allowed to. -/
lemma allowed_of_mem {glyphs : List (Glyph allowed)} (among : .plain c ∈ glyphs.map Glyph.sign) :
    allowed c := by
  obtain ⟨glyph, -, same⟩ := List.mem_map.mp among
  cases glyph with
  | plain b h =>
      obtain rfl : b = c := Sign.plain.inj same
      exact h
  | escaped b => cases same

/-- No backslash stands for itself. -/
def Paired (signs : List Sign) : Prop := .plain '\\' ∉ signs

/-- Signs are told by their characters. -/
lemma spell_inj (paired : Paired signs) (paired' : Paired signs') (same : spell signs = spell signs') :
    signs = signs' := by
  induction signs generalizing signs' with
  | nil =>
      cases signs' with
      | nil => rfl
      | cons s rest => cases s <;> cases same
  | cons s signs ih =>
      have later : Paired signs := fun among => paired (List.mem_cons_of_mem s among)
      cases signs' with
      | nil => cases s <;> cases same
      | cons s' signs' =>
          have later' : Paired signs' := fun among => paired' (List.mem_cons_of_mem s' among)
          cases s with
          | plain c =>
              cases s' with
              | plain c' =>
                  rw [spell_plain, spell_plain, List.cons.injEq] at same
                  rw [same.1, ih later later' same.2]
              | escaped c' =>
                  obtain ⟨rfl, -⟩ := List.cons.inj same
                  exact absurd List.mem_cons_self paired
          | escaped c =>
              cases s' with
              | plain c' =>
                  obtain ⟨rfl, -⟩ := List.cons.inj same
                  exact absurd List.mem_cons_self paired'
              | escaped c' =>
                  rw [spell_escaped, spell_escaped, List.cons.injEq, List.cons.injEq] at same
                  rw [same.2.1, ih later later' same.2.2]

end Signs

/-! ### Decoding -/

/-- The sign without its backslash, if it stands before one of some characters. -/
def Sign.bare (harmless : List Char) : Sign → Sign
  | .plain c => .plain c
  | .escaped c => if c ∈ harmless then .plain c else .escaped c

/-- What signs stand for, where each of some characters denotes itself behind a backslash too.
All other signs are read together, so that an escape may be as long as it likes. -/
structure Decoding (harmless : List Char) (α : Type) where
  value : List Sign → α
  denotes : ∀ c ∈ harmless, ∀ front back,
    value (front ++ .escaped c :: back) = value (front ++ .plain c :: back)

namespace Decoding

variable {harmless part : List Char} {α : Type} {signs signs' : List Sign}

/-- Such backslashes have no say in what signs stand for. -/
lemma value_bare (D : Decoding harmless α) (among : ∀ c ∈ part, c ∈ harmless) (signs : List Sign) :
    D.value (signs.map (Sign.bare part)) = D.value signs := by
  have all : ∀ front, D.value (front ++ signs.map (Sign.bare part)) = D.value (front ++ signs) := by
    induction signs with
    | nil => exact fun _ => rfl
    | cons s signs ih =>
        intro front
        have rest := ih (front ++ [s.bare part])
        rw [List.append_assoc, List.append_assoc] at rest
        refine rest.trans ?_
        cases s with
        | plain c => rfl
        | escaped c =>
            rw [Sign.bare]
            split_ifs with denotes
            · exact (D.denotes c (among c denotes) front signs).symm
            · rfl
  exact all []

/-- Signs that differ in such backslashes only stand for the same. -/
lemma value_congr (D : Decoding harmless α)
    (same : signs.map (Sign.bare harmless) = signs'.map (Sign.bare harmless)) :
    D.value signs = D.value signs' := by
  rw [← D.value_bare (fun _ => id) signs, same, D.value_bare fun _ => id]

end Decoding

/-! ### Literals -/

/-- A string, or a template without interpolations. -/
inductive Literal
  | string (s : StringLiteral)
  | template (text : TemplateText)

namespace Literal

/-- The delimiter of a literal. -/
def quote : Literal → Char
  | .string s => s.quote.char
  | .template _ => '\x60'

/-- The kind of what stands between its delimiters. -/
def kind : Literal → Kind
  | .string _ => .string
  | .template _ => .template

/-- What stands between its delimiters. -/
def signs : Literal → List Sign
  | .string s => s.signs
  | .template text => text.signs

/-- The characters of a literal, each with its kind. -/
def marks (l : Literal) : Marks :=
  (l.quote, .delimiter) :: (marked l.kind (spell l.signs) ++ [(l.quote, .delimiter)])

/-- The characters of a literal. -/
def text (l : Literal) : Text := l.quote :: (spell l.signs ++ [l.quote])

/-- Their kinds. -/
def kinds (l : Literal) : List Kind := l.marks.map Prod.snd

variable (l : Literal)

lemma map_fst_marks : l.marks.map Prod.fst = l.text := by
  simp [marks, text, map_fst_marked]

lemma length_text : l.text.length = (spell l.signs).length + 2 := by
  simp [text]

lemma paired : Paired l.signs := by
  intro among
  cases l with
  | string s => exact (allowed_of_mem among).2.1 rfl
  | template text => exact (allowed_of_mem among).2 rfl

end Literal

/-- Behind a literal a slash divides, and no word goes on. -/
def State.behindLiteral (st : State) : State :=
  { st with regexAllowed := false, inWord := false, afterWord := false }

/-- **Every literal is read as one.** Behind it the scanner is as behind every other one. -/
lemma Literal.reads {st : State} (start : st.InCode) (l : Literal) (rest : Text) :
    Reads rest st l.marks st.behindLiteral := by
  obtain ⟨mode, alone⟩ := start
  cases l with
  | string s =>
      let inside : State :=
        { st with mode := .string s.quote.char, inWord := false, afterWord := false }
      have content : ∀ rest, Reads rest inside (marked .string (spell s.signs)) inside := by
        intro rest
        rw [StringLiteral.signs, spell_map_sign]
        have here : inside.At ⟨.string s.quote.char, st.templateDepth, st.interpolations⟩ :=
          ⟨alone, rfl, rfl, rfl⟩
        exact reads_content here rest s.content
      refine .cons ?_ ((content _).append (.cons ?_ (.nil _)))
      · rw [State.InCode.step_eq ⟨mode, alone⟩]
        rcases s with ⟨_ | _, content⟩ <;> rfl
      · have ends : inside.step s.quote.char rest.head? = inside.stepString s.quote.char s.quote.char := by
          rw [State.step, show inside.joined = none from alone]
        have other : s.quote.char ≠ '\\' := by cases s.quote <;> decide
        change inside.step s.quote.char rest.head? = _
        rw [ends, State.stepString]
        simp [other, inside, State.behindLiteral, mode]
  | template text =>
      let inside : State :=
        { st with
          mode := .template, templateDepth := st.templateDepth + 1
          inWord := false, afterWord := false }
      have content : Reads ('\x60' :: rest) inside (marked .template (spell text.signs)) inside := by
        rw [TemplateText.signs, spell_map_sign]
        have here : inside.At ⟨.template, st.templateDepth + 1, st.interpolations⟩ :=
          ⟨alone, rfl, rfl, rfl⟩
        exact reads_text here (by simp) text.closed
      refine .cons ?_ (content.append (.cons ?_ (.nil _)))
      · rw [State.InCode.step_eq ⟨mode, alone⟩]
        rfl
      · change inside.step '\x60' rest.head? = _
        rw [State.step, show inside.joined = none from alone]
        simp [State.stepTemplate, inside, State.behindLiteral, mode]

/-- **A literal in the place of another** leaves the kinds of everything else as they are. -/
theorem kinds_exchanged {before after : Text} {l : Literal}
    (start : (stateAt (before ++ l.text ++ after) before.length).InCode) (l' : Literal) :
    kinds (before ++ l'.text ++ after) =
      (kinds (before ++ l.text ++ after)).take before.length ++ l'.kinds ++
        (kinds (before ++ l.text ++ after)).drop (before ++ l.text).length := by
  have neutral : ∀ l : Literal, Neutral (l.text ++ after).head? := by
    rintro (⟨_ | _, content⟩ | text) <;> exact ⟨by simp [Literal.text, Literal.quote, Quote.char],
      by simp [Literal.text, Literal.quote, Quote.char],
      by simp [Literal.text, Literal.quote, Quote.char]⟩
  obtain ⟨ms, st, first, rfl⟩ := exists_reads (l.text ++ after) before {}
  have inCode : st.InCode := by
    rw [← first.stateAt, ← List.append_assoc]
    exact start
  have whole : ∀ l' : Literal, kinds (ms.map Prod.fst ++ l'.text ++ after) =
      ms.map Prod.snd ++ (l'.kinds ++ st.behindLiteral.kinds after) := by
    intro l'
    have alike : Reads (l'.text ++ after) {} ms st :=
      first.alike fun c _ st => State.step_neutral (neutral l) (neutral l')
    rw [List.append_assoc, kinds, alike.kinds_append, ← l'.map_fst_marks,
      (Literal.reads inCode l' after).kinds_append]
    rfl
  have lengths : (ms.map Prod.fst).length = (ms.map Prod.snd).length := by simp
  have lengths' : (ms.map Prod.fst ++ l.text).length = (ms.map Prod.snd ++ l.kinds).length := by
    simp [← l.map_fst_marks, Literal.kinds]
  rw [whole l', whole l, lengths', lengths, List.take_left, ← List.append_assoc (ms.map _) l.kinds,
    List.drop_left, List.append_assoc]

/-! ### Literals made of signs -/

/-- No dollar sign that stands for itself is followed by such a brace. -/
def Unopened (signs : List Sign) : Prop :=
  signs.IsChain fun s next => ¬ (s = .plain '$' ∧ next = .plain '{')

section Signs

variable {signs : List Sign} {harmless : List Char} {c : Char}

lemma spell_append (front back : List Sign) : spell (front ++ back) = spell front ++ spell back :=
  List.flatMap_append

lemma mem_spell_of_plain (among : .plain c ∈ signs) : c ∈ spell signs :=
  List.mem_flatMap.mpr ⟨.plain c, among, List.mem_singleton_self c⟩

lemma unopened_of_not_opens (whole : ¬ ['$', '{'] <:+: spell signs) : Unopened signs := by
  rw [Unopened, List.isChain_iff_forall_rel_of_append_cons_cons]
  rintro s next front back rfl ⟨rfl, rfl⟩
  exact whole ⟨spell front, spell back, by simp [spell_append]⟩

/-- Without a backslash, nothing but what it stood before stands for itself that did not. -/
lemma Sign.eq_plain_of_bare {s : Sign} (other : c ∉ harmless) (same : s.bare harmless = .plain c) :
    s = .plain c := by
  cases s with
  | plain b => exact same
  | escaped b =>
      rw [Sign.bare] at same
      split_ifs at same with among
      exact absurd (Sign.plain.inj same ▸ among) other

lemma Unopened.bare (h : Unopened signs) (dollar : '$' ∉ harmless) (brace : '{' ∉ harmless) :
    Unopened (signs.map (Sign.bare harmless)) := by
  rw [Unopened, List.isChain_map]
  refine h.imp fun s next apart ⟨first, second⟩ => apart ⟨?_, ?_⟩
  · exact Sign.eq_plain_of_bare dollar first
  · exact Sign.eq_plain_of_bare brace second

/-- What stands for itself without its backslash did so before, or is one of the
characters that it stood before. -/
lemma of_mem_map_bare (among : .plain c ∈ signs.map (Sign.bare harmless)) :
    .plain c ∈ signs ∨ c ∈ harmless := by
  obtain ⟨s, inside, same⟩ := List.mem_map.mp among
  cases s with
  | plain b => exact .inl (same ▸ inside)
  | escaped b =>
      rw [Sign.bare] at same
      split_ifs at same with among
      exact .inr (Sign.plain.inj same ▸ among)

lemma exists_string (q : Quote)
    (allows : ∀ c, .plain c ∈ signs → c ≠ q.char ∧ c ≠ '\\' ∧ c ≠ '\n') :
    ∃ s : StringLiteral, s.quote = q ∧ s.signs = signs := by
  obtain ⟨glyphs, rfl⟩ := exists_glyphs allows
  exact ⟨⟨q, glyphs⟩, rfl, rfl⟩

lemma Glyph.plain?_eq_some_iff {allowed : Char → Prop} {glyph : Glyph allowed} :
    glyph.plain? = some c ↔ glyph.sign = .plain c := by
  cases glyph <;> simp [Glyph.plain?, Glyph.sign]

lemma exists_templateText (allows : ∀ c, .plain c ∈ signs → c ≠ '\x60' ∧ c ≠ '\\')
    (unopened : Unopened signs) : ∃ text : TemplateText, text.signs = signs := by
  obtain ⟨glyphs, rfl⟩ := exists_glyphs allows
  rw [Unopened, List.isChain_map] at unopened
  refine ⟨⟨glyphs, unopened.imp fun g next apart => ?_⟩, rfl⟩
  rwa [Glyph.plain?_eq_some_iff, Glyph.plain?_eq_some_iff]

lemma TemplateText.unopened (text : TemplateText) : Unopened text.signs := by
  rw [Unopened, TemplateText.signs, List.isChain_map]
  refine text.closed.imp fun g next apart => ?_
  rwa [Glyph.plain?_eq_some_iff, Glyph.plain?_eq_some_iff] at apart

end Signs

/-! ### Template text -/

/-- The backslash that the next character belongs to, if there is one. -/
def State.pending (st : State) : Text := if st.joined.isSome then ['\\'] else []

/-- **What stands in a template** up to its end, with no interpolation between, are
signs. -/
lemma exists_signs {st st' : State} {ms : Marks} {rest : Text} (inside : st.mode = .template)
    (joined : st.joined = none ∨ st.joined = some .template)
    (read : Reads ('\x60' :: rest) st ms st') (clear : ∀ mark ∈ ms, mark.2 ≠ .delimiter)
    (whole : ¬ ['$', '{'] <:+: ms.map Prod.fst)
    (ends : (st'.step '\x60' rest.head?).1 = .delimiter) :
    ∃ signs, (∀ c, .plain c ∈ signs → c ≠ '\x60' ∧ c ≠ '\\') ∧
      spell signs = st.pending ++ ms.map Prod.fst := by
  induction read with
  | nil st =>
      rcases joined with alone | belongs
      · exact ⟨[], by simp, by simp [State.pending, alone]⟩
      · rw [State.step, belongs] at ends
        cases ends
  | @cons st st' st'' c kind ms now later ih =>
      have clear' : ∀ mark ∈ ms, mark.2 ≠ .delimiter := fun mark among =>
        clear mark (List.mem_cons_of_mem _ among)
      have whole' : ¬ ['$', '{'] <:+: ms.map Prod.fst := fun within =>
        whole (within.trans (List.suffix_cons c _).isInfix)
      rcases joined with alone | belongs
      · rw [State.step, alone, inside] at now
        dsimp only at now
        rw [State.stepTemplate] at now
        split_ifs at now with escapes closes opens
        · obtain ⟨rfl, rfl⟩ := Prod.mk.inj now
          obtain ⟨signs, allows, spelled⟩ := ih inside (.inr rfl) clear' whole' ends
          obtain rfl : c = '\\' := by simpa using escapes
          exact ⟨signs, allows, by rw [spelled]; simp [State.pending, alone]⟩
        · obtain ⟨rfl, -⟩ := Prod.mk.inj now
          exact absurd rfl (clear (c, .delimiter) List.mem_cons_self)
        · rw [Bool.and_eq_true, beq_iff_eq, beq_iff_eq] at opens
          obtain ⟨rfl, brace⟩ := opens
          cases ms with
          | nil => cases brace
          | cons mark ms =>
              obtain ⟨b, kind⟩ := mark
              obtain rfl : b = '{' := Option.some.inj brace
              exact absurd (List.prefix_append ['$', '{'] (ms.map Prod.fst)).isInfix whole
        · obtain ⟨rfl, rfl⟩ := Prod.mk.inj now
          obtain ⟨signs, allows, spelled⟩ := ih inside (.inl alone) clear' whole' ends
          refine ⟨.plain c :: signs, ?_, by simp [spelled, State.pending, alone]⟩
          rintro b (_ | ⟨_, among⟩)
          · exact ⟨by simpa using closes, by simpa using escapes⟩
          · exact allows b among
      · rw [State.step, belongs] at now
        obtain ⟨rfl, rfl⟩ := Prod.mk.inj now
        obtain ⟨signs, allows, spelled⟩ := ih inside (.inl rfl) clear' whole' ends
        refine ⟨.escaped c :: signs, ?_, by simp [spelled, State.pending, belongs]⟩
        rintro b (_ | ⟨_, among⟩)
        exact allows b among

end LintRepair.Lexical
