/-
`quotes` writes a literal anew, with the same value.

* `closing?_append`, `exists_of_closing?`: a literal ends with the first delimiter that can
  be its own;
* `exists_template`: what a template holds without interpolations are signs;
* `unescape_spell`, `exists_requoted`: without the backslashes before its own delimiter,
  they are those of a literal with another one;
* `requoted_of_fix`: so in the place of the literal that the built-in fixer finds there is
  one with the delimiter asked for, which stands for the same.
-/
import LintRepair.Proofs.Lexical.Quoted
import LintRepair.Proofs.Lexical.Inside
import LintRepair.Proofs.Lexical.Restart
import LintRepair.Proofs.Rules.Whole

namespace LintRepair.Rules

open Text Lexical Check Repair

variable {code after : Text} {d : Diagnostic} {q c : Char} {n start stop : Nat}

/-! ### Where a literal ends -/

/-- The delimiters of strings and templates. -/
def delimiters : List Char := ['\x27', '\x22', '\x60']

lemma quote_mem_delimiters (l : Literal) : l.quote ∈ delimiters := by
  rcases l with ⟨_ | _, content⟩ | text <;> simp [Literal.quote, Quote.char, delimiters]

/-- What is no delimiter does not end a literal. -/
lemma closing?_append {front : Marks} (clear : ∀ mark ∈ front, mark.2 ≠ .delimiter) (back : Marks) :
    Quote.closing? q n (front ++ (q, .delimiter) :: back) = some (n + front.length) := by
  induction front generalizing n with
  | nil => simp [Quote.closing?]
  | cons mark front ih =>
      obtain ⟨c, kind⟩ := mark
      have other : kind ≠ .delimiter := clear (c, kind) List.mem_cons_self
      rw [List.cons_append, Quote.closing?, if_neg (by simpa using other),
        ih fun mark among => clear mark (List.mem_cons_of_mem _ among), List.length_cons]
      congr 1
      omega

/-- In a template, a delimiter that is found is the first one at all. -/
lemma exists_of_closing? {ms : Marks} (closes : Quote.closing? '\x60' n ms = some stop) :
    ∃ front back : Marks, ms = front ++ ('\x60', .delimiter) :: back ∧
      (∀ mark ∈ front, mark.2 ≠ .delimiter) ∧ stop = n + front.length := by
  induction ms generalizing n with
  | nil => cases closes
  | cons mark ms ih =>
      obtain ⟨c, kind⟩ := mark
      rw [Quote.closing?] at closes
      split_ifs at closes with delimiter tick
      · obtain rfl : kind = .delimiter := by simpa using delimiter
        obtain rfl : c = '\x60' := by simpa using tick
        exact ⟨[], ms, rfl, by simp, (Option.some.inj closes).symm⟩
      · exact absurd rfl (by assumption)
      · obtain ⟨front, back, rfl, clear, rfl⟩ := ih closes
        refine ⟨(c, kind) :: front, back, rfl, ?_, by rw [List.length_cons]; omega⟩
        rintro mark (_ | ⟨_, among⟩)
        · simpa using delimiter
        · exact clear mark among

/-- The characters from an offset on, with their kinds. -/
lemma drop_zip_kinds (code : Text) (i : Nat) : (code.zip (kinds code)).drop i =
    (code.drop i).zip ((stateAt code i).kinds (code.drop i)) := by
  rw [List.zip, List.drop_zipWith, kinds, State.drop_kinds]
  rfl

/-- A literal in code is found to end where it does. -/
lemma literalBounds?_of_literal {i : Nat} {l : Literal} (inCode : (stateAt code i).InCode)
    (stands : code.drop i = l.text ++ after) :
    Quote.literalBounds? code i = some (i, i + (spell l.signs).length + 1) := by
  have clear : ∀ mark ∈ marked l.kind (spell l.signs), mark.2 ≠ .delimiter := by
    intro mark among
    obtain ⟨c, -, rfl⟩ := List.mem_map.mp among
    cases l <;> exact Kind.noConfusion
  have shape : (code.zip (kinds code)).drop i =
      (l.quote, .delimiter) :: (marked l.kind (spell l.signs) ++ (l.quote, .delimiter) ::
        after.zip ((stateAt code i).behindLiteral.kinds after)) := by
    rw [drop_zip_kinds, stands, ← l.map_fst_marks, (Literal.reads inCode l after).zip_kinds]
    simp [Literal.marks]
  rw [Quote.literalBounds?, shape]
  dsimp only
  rw [closing?_append clear, marked, List.length_map, Option.map_some, Nat.add_right_comm]

/-- A template that is found to end, without interpolations, is a literal. -/
lemma exists_template {i : Nat} (inCode : (stateAt code i).InCode)
    (tick : code[i]? = some '\x60') (bounds : Quote.literalBounds? code i = some (start, stop))
    (whole : ¬ ['$', '{'] <:+: slice code (i + 1) stop) :
    ∃ text after, code.drop i = (Literal.template text).text ++ after := by
  let inside : State :=
    { stateAt code i with
      mode := .template, templateDepth := (stateAt code i).templateDepth + 1
      inWord := false, afterWord := false }
  have parts : code.drop i = '\x60' :: code.drop (i + 1) := by
    obtain ⟨within, here⟩ := List.getElem?_eq_some_iff.mp tick
    rw [List.drop_eq_getElem_cons within, here]
  have opens : ∀ next, (stateAt code i).step '\x60' next = (.delimiter, inside) := fun next => by
    rw [inCode.step_eq]
    rfl
  -- Behind the tick everything up to the next delimiter is read.
  rw [Quote.literalBounds?, drop_zip_kinds, parts, State.kinds, opens, List.zip_cons_cons] at bounds
  obtain ⟨_, closes, ends⟩ := Option.map_eq_some_iff.mp bounds
  obtain ⟨rfl, rfl⟩ := Prod.mk.inj ends
  obtain ⟨front, back, shape, clear, rfl⟩ := exists_of_closing? closes
  have text : code.drop (i + 1) = front.map Prod.fst ++ '\x60' :: back.map Prod.fst := by
    have firsts := congrArg (List.map Prod.fst) shape
    rwa [List.map_fst_zip (by simp), List.map_append, List.map_cons] at firsts
  obtain ⟨ms, st', read, same⟩ := exists_reads ('\x60' :: back.map Prod.fst) (front.map Prod.fst) inside
  rw [text, ← same, read.zip_kinds, State.kinds, List.zip_cons_cons] at shape
  have lengths : ms.length = front.length := by simpa using congrArg List.length same
  obtain ⟨rfl, last⟩ := List.append_inj shape lengths
  have delimiter : (st'.step '\x60' (back.map Prod.fst).head?).1 = .delimiter :=
    congrArg Prod.snd (List.cons.inj last).1
  have content : slice code (i + 1) (i + 1 + ms.length) = ms.map Prod.fst := by
    rw [slice, text, Nat.add_sub_cancel_left]
    exact List.take_left' (List.length_map _)
  rw [content] at whole
  have mode : inside.mode = .template := rfl
  have alone : inside.joined = none := inCode.alone
  obtain ⟨signs, allows, spelled⟩ := exists_signs mode (.inl alone) read clear whole delimiter
  have nothing : inside.pending = [] := by
    rw [State.pending, alone]
    rfl
  rw [nothing, List.nil_append] at spelled
  obtain ⟨template, rfl⟩ := exists_templateText allows (unopened_of_not_opens (spelled ▸ whole))
  refine ⟨template, back.map Prod.fst, ?_⟩
  rw [parts, text, ← spelled]
  simp [Literal.text, Literal.quote, Literal.signs]

/-- In code, what is found to have an end opens with a delimiter. -/
lemma inCode_of_literalBounds? {i : Nat} (mode : (stateAt code i).mode = .code)
    (bounds : Quote.literalBounds? code i = some (start, stop)) :
    (stateAt code i).InCode ∧ start = i ∧ ∃ c ∈ delimiters, code[i]? = some c := by
  have kind : (kinds code)[i]? = some .delimiter ∧ start = i := by
    rw [Quote.literalBounds?] at bounds
    split at bounds
    · next c rest shape =>
      obtain ⟨_, -, ends⟩ := Option.map_eq_some_iff.mp bounds
      have first := congrArg List.head? shape
      rw [List.head?_drop, List.head?_cons] at first
      exact ⟨(List.getElem?_zip_eq_some.mp first).2, (Prod.mk.inj ends).1.symm⟩
    · cases bounds
  obtain ⟨kind, rfl⟩ := kind
  rw [getElem?_kinds] at kind
  obtain ⟨c, here, delimiter⟩ := Option.map_eq_some_iff.mp kind
  have alone : (stateAt code start).joined = none := by
    cases joined : (stateAt code start).joined with
    | none => rfl
    | some other =>
        have goes := (consistent_stateAt code start).joined other joined
        rw [State.step, joined] at delimiter
        rw [show other = .delimiter from delimiter] at goes
        exact goes.elim
  refine ⟨⟨mode, alone⟩, rfl, c, ?_, here⟩
  simpa [delimiters] using
    State.quoted_of_delimiter (tidy_stateAt code start) (consistent_stateAt code start) delimiter

/-! ### Writing a literal anew -/

/-- Leaving out the backslashes before the delimiter is leaving out those signs' backslashes. -/
lemma unescape_spell {signs : List Sign} (paired : Paired signs) :
    Quote.unescape q (spell signs) = spell (signs.map (Sign.bare [q])) := by
  induction signs with
  | nil => rfl
  | cons s signs ih =>
      have later := ih fun among => paired (List.mem_cons_of_mem s among)
      cases s with
      | plain c =>
          have other : c ≠ '\\' := by
            rintro rfl
            exact paired List.mem_cons_self
          rw [spell_plain, Quote.unescape, later, List.map_cons, Sign.bare, spell_plain]
          rintro b rest rfl
          exact absurd rfl other
      | escaped c =>
          rw [spell_escaped, Quote.unescape, later, List.map_cons, Sign.bare]
          by_cases same : c = q
          · simp [same]
          · simp [same]

/-- A line feed stands for itself in no string. -/
lemma newline_notMem_signs {l : Literal} (lines : l.quote = '\x60' → '\n' ∉ spell l.signs) :
    .plain '\n' ∉ l.signs := by
  intro among
  cases l with
  | string s => exact (allowed_of_mem among).2.2 rfl
  | template text => exact lines rfl (mem_spell_of_plain among)

/-- **Every literal can be written with another delimiter** that does not stand for itself
in it, unless line feeds or interpolations are in the way. -/
lemma exists_requoted (l : Literal) {target : Char} (among : target ∈ delimiters)
    (free : target ∉ spell (l.signs.map (Sign.bare [l.quote])))
    (lines : l.quote = '\x60' → '\n' ∉ spell l.signs)
    (whole : target = '\x60' → ¬ ['$', '{'] <:+: spell l.signs) :
    ∃ l' : Literal, l'.quote = target ∧ l'.signs = l.signs.map (Sign.bare [l.quote]) := by
  have other : ∀ c ∉ delimiters, c ∉ [l.quote] := fun c outside same =>
    outside (List.mem_singleton.mp same ▸ quote_mem_delimiters l)
  have allows : ∀ c, .plain c ∈ l.signs.map (Sign.bare [l.quote]) →
      c ≠ target ∧ c ≠ '\\' ∧ c ≠ '\n' := by
    intro c stands
    refine ⟨fun same => free (same ▸ mem_spell_of_plain stands), ?_, ?_⟩
    · rintro rfl
      exact (of_mem_map_bare stands).elim (absurd · l.paired) (absurd · (other _ (by decide)))
    · rintro rfl
      exact (of_mem_map_bare stands).elim (absurd · (newline_notMem_signs lines))
        (absurd · (other _ (by decide)))
  simp only [delimiters, List.mem_cons, List.not_mem_nil, or_false] at among
  rcases among with rfl | rfl | rfl
  · obtain ⟨s, same, signs⟩ := exists_string .single allows
    exact ⟨.string s, congrArg Quote.char same, signs⟩
  · obtain ⟨s, same, signs⟩ := exists_string .double allows
    exact ⟨.string s, congrArg Quote.char same, signs⟩
  · have unopened : Unopened (l.signs.map (Sign.bare [l.quote])) :=
      (unopened_of_not_opens (whole rfl)).bare (other _ (by decide)) (other _ (by decide))
    obtain ⟨text, signs⟩ :=
      exists_templateText (fun c stands => ⟨(allows c stands).1, (allows c stands).2.1⟩) unopened
    exact ⟨.template text, rfl, signs⟩

/-! ### The edit -/

lemma targetQuote?_mem {message : String} (asks : Quote.targetQuote? message = some c) :
    c ∈ delimiters := by
  obtain ⟨⟨w, b⟩, found, rfl⟩ := Option.map_eq_some_iff.mp asks
  have among := List.mem_of_find?_eq_some found
  simp only [Quote.quoteWords, List.mem_cons, List.not_mem_nil, or_false, Prod.mk.injEq] at among
  rcases among with ⟨-, rfl⟩ | ⟨-, rfl⟩ | ⟨-, rfl⟩ <;> simp [delimiters]

/-- What the edit finds, what it makes sure of, and what it writes. -/
lemma edit_quotes (edit : Quote.quotes.edit code d = .ok after) :
    ∃ target i start stop quote content, Quote.targetQuote? d.message = some target ∧
      absoluteOffset code d.line.value d.column.value = .ok i ∧
      Quote.literalBounds? code i = some (start, stop) ∧
      quote = code.getD start '\x22' ∧ content = slice code (start + 1) stop ∧
      (quote = '\x60' → '\n' ∉ content) ∧
      (quote = '\x60' ∨ target = '\x60' → ¬ ['$', '{'] <:+: content) ∧
      target ∉ Quote.unescape quote content ∧
      after = splice code start (stop + 1)
        (target :: Quote.unescape quote content ++ [target]) := by
  simp only [Quote.quotes] at edit
  split at edit
  · next target start stop asks bounds =>
    rw [Quote.bounds?] at bounds
    split at bounds
    · next i place =>
      refine ⟨target, i, start, stop, _, _, asks, place, bounds, rfl, rfl, ?_⟩
      generalize code.getD start '\x22' = quote at edit ⊢
      generalize slice code (start + 1) stop = content at edit ⊢
      simp only [Bool.and_eq_true, Bool.or_eq_true, beq_iff_eq, contains_iff, List.any_eq_true,
        exists_eq_right] at edit
      split_ifs at edit with spans opens stands
      · cases edit
      · cases edit
      · cases edit
      · obtain rfl := Except.ok.inj edit
        refine ⟨fun tick feed => spans ⟨tick, .inr feed⟩, ?_, stands, rfl⟩
        rintro (tick | tick) within
        · exact spans ⟨tick, .inl within⟩
        · exact opens ⟨tick, within⟩
    · cases bounds
  · cases edit

/-! ### The repair -/

/-- A string that starts at an offset, if one does, is closed by its quote; a backslash
belongs with the one character behind it, and no other line feed stands in it. -/
def Terminated (code : Text) (i : Nat) : Prop :=
  ∀ q : Lexical.Quote, code[i]? = some q.char →
    ∃ s : StringLiteral, s.quote = q ∧ (Literal.string s).text <+: code.drop i

/-- The literal that is found. -/
lemma exists_literal {i : Nat} (inCode : (stateAt code i).InCode) (among : c ∈ delimiters)
    (here : code[i]? = some c) (bounds : Quote.literalBounds? code i = some (start, stop))
    (terminated : Terminated code i)
    (whole : c = '\x60' → ¬ ['$', '{'] <:+: slice code (i + 1) stop) :
    ∃ (l : Literal) (after : Text), code.drop i = l.text ++ after := by
  simp only [delimiters, List.mem_cons, List.not_mem_nil, or_false] at among
  rcases among with rfl | rfl | rfl
  · obtain ⟨s, -, after, shape⟩ := terminated .single here
    exact ⟨.string s, after, shape.symm⟩
  · obtain ⟨s, -, after, shape⟩ := terminated .double here
    exact ⟨.string s, after, shape.symm⟩
  · obtain ⟨text, after, shape⟩ := exists_template inCode here bounds (whole rfl)
    exact ⟨.template text, after, shape⟩

/-- **A literal with other delimiters stands for the same.** Where the literal at the
position of a diagnostic has an end and the built-in fixer of `quotes` repairs it, one with
the delimiter that the message asks for stands in its place, between the same texts; the
kinds of everything else are what they were; and it stands for the same, however the signs
are read that are no escaped delimiters. -/
theorem requoted_of_fix {accepts : Acceptor} {o : Options} {f : Fixer} {r : FixResult}
    (builtin : builtin? accepts o "quotes" = some f) (fix : f.fix code d = .ok r)
    (success : r.isSuccess = true)
    (terminated : ∀ i, absoluteOffset code d.line.value d.column.value = .ok i →
      Terminated code i) :
    ∃ (before after : Text) (l l' : Literal),
      absoluteOffset code d.line.value d.column.value = .ok before.length ∧
      code = before ++ l.text ++ after ∧ r.code = before ++ l'.text ++ after ∧
      Quote.targetQuote? d.message = some l'.quote ∧
      kinds r.code = (kinds code).take before.length ++ l'.kinds ++
        (kinds code).drop (before ++ l.text).length ∧
      ∀ (α : Type) (D : Decoding delimiters α), D.value l'.signs = D.value l.signs := by
  cases builtin
  obtain ⟨takesOn, edit, -⟩ := edit_of_fixer fix success
  obtain ⟨target, i, start, stop, quote, content, asks, place, bounds, quoted, inside, lines,
    whole, free, rewritten⟩ := edit_quotes edit
  have mode : (stateAt code i).mode = .code := by
    rw [Method.canFix, Method.concerns, Bool.and_eq_true, Bool.and_eq_true] at takesOn
    rw [← isCode_contextAt, ← isSafe_zone place]
    exact takesOn.1.2
  obtain ⟨inCode, rfl, c, among, here⟩ := inCode_of_literalBounds? mode bounds
  obtain rfl : quote = c := by rw [quoted, List.getD_eq_getElem?_getD, here, Option.getD_some]
  obtain ⟨l, after, shape⟩ := exists_literal inCode among here bounds (terminated _ place)
    fun tick => inside ▸ whole (.inl tick)
  have within : start < code.length := (List.getElem?_eq_some_iff.mp here).1
  obtain rfl : quote = l.quote := by
    have first := congrArg List.head? shape
    rw [List.head?_drop, here] at first
    exact Option.some.inj first
  rw [literalBounds?_of_literal inCode shape, Option.some_inj, Prod.mk.injEq] at bounds
  obtain ⟨-, rfl⟩ := bounds
  have behind : ∀ n, code.drop (start + n) = (l.text ++ after).drop n := fun n => by
    rw [← shape, List.drop_drop]
  obtain rfl : content = spell l.signs := by
    rw [inside, slice, behind]
    simp [Literal.text]
  rw [unescape_spell l.paired] at free rewritten
  obtain ⟨l', rfl, signs⟩ := exists_requoted l (targetQuote?_mem asks) free lines fun tick =>
    whole (.inr tick)
  have before : (code.take start).length = start := by
    rw [List.length_take, Nat.min_eq_left (Nat.le_of_lt within)]
  have parts : code = code.take start ++ l.text ++ after := by
    rw [List.append_assoc, ← shape, List.take_append_drop]
  have parts' : r.code = code.take start ++ l'.text ++ after := by
    have rest : code.drop (start + ((spell l.signs).length + 2)) = after := by
      rw [behind, ← l.length_text, List.drop_left]
    rw [rewritten, splice, Nat.add_assoc, Nat.add_assoc, rest, Literal.text, signs]
    rfl
  refine ⟨code.take start, after, l, l', by rw [place, before], parts, parts', asks, ?_, ?_⟩
  · have here : (stateAt (code.take start ++ l.text ++ after) (code.take start).length).InCode := by
      rw [← parts, before]
      exact inCode
    have exchanged := kinds_exchanged here l'
    rwa [← parts, ← parts'] at exchanged
  · intro α D
    rw [signs]
    refine D.value_bare (fun c delimiter => ?_) l.signs
    rw [List.mem_singleton.mp delimiter]
    exact among

/-- A string in the other quotes. -/
def doubleQuoted : Diagnostic :=
  { rule := some "quotes", message := "Strings must use singlequote.", line := 1, column := 9 }

theorem requoted_of_fix_escaped :
    let code := "let s = \x22\\\x22a\x22;".toList
    ∃ f r, builtin? Grammar.accepts {} "quotes" = some f ∧ f.fix code doubleQuoted = .ok r ∧
      r.isSuccess = true ∧
      (∀ i, absoluteOffset code doubleQuoted.line.value doubleQuoted.column.value = .ok i →
        Terminated code i) ∧
      r.code = "let s = \x27\x22a\x27;".toList ∧
      ∃ (before after : Text) (l l' : Literal),
        absoluteOffset code doubleQuoted.line.value doubleQuoted.column.value = .ok before.length ∧
        code = before ++ l.text ++ after ∧ r.code = before ++ l'.text ++ after ∧
        Quote.targetQuote? doubleQuoted.message = some l'.quote ∧
        kinds r.code = (kinds code).take before.length ++ l'.kinds ++
          (kinds code).drop (before ++ l.text).length ∧
        ∀ (α : Type) (D : Decoding delimiters α), D.value l'.signs = D.value l.signs := by
  intro code
  let f := simple Grammar.accepts "QuotesFixer" "quotes"
    "Convert string literals to the configured quote style" Quote.quotes
  have builtin : builtin? Grammar.accepts {} "quotes" = some f := rfl
  have fix : f.fix code doubleQuoted = .ok { code := "let s = \x27\x22a\x27;".toList } := by
    decide +kernel
  have terminated : ∀ i,
      absoluteOffset code doubleQuoted.line.value doubleQuoted.column.value = .ok i →
        Terminated code i := by
    intro i place
    obtain rfl : 8 = i := Except.ok.inj place
    intro q here
    cases q with
    | single => exact absurd here (by decide)
    | double =>
        refine ⟨⟨.double, [.escaped '\x22', .plain 'a' (by decide)]⟩, rfl, ?_⟩
        exact ⟨[';'], rfl⟩
  exact ⟨f, _, builtin, fix, rfl, terminated, rfl, requoted_of_fix builtin fix rfl terminated⟩

end LintRepair.Rules
