/-
Where the rules find what they edit: no earlier than the line that a diagnostic
points at.

* `offset_le_of_mem_callsFrom`, `offset_le_loopParen`: searches go on from where they
  start;
* `le_findMatching`: a bracket closes behind where it opens;
* the other lemmas, one for what each rule looks for.
-/
import LintRepair.Proofs.Code.Binds
import LintRepair.Proofs.Code.Occurs
import LintRepair.Proofs.Outcome
import LintRepair.Proofs.Text.Above
import LintRepair.Rules.Catalog

namespace LintRepair.Rules

open Text Lexical Code Check Repair

variable {code : Text} {d : Diagnostic}

/-! ### What stands at the position -/

/-- An update is found behind the start of the line. -/
lemma lineStart_le_update {u : Operator.Update} (found : Operator.update? code d = some u) :
    lineStart code d.line.value ≤ u.start := by
  rw [Operator.update?, Option.map_eq_some_iff] at found
  obtain ⟨v, -, rfl⟩ := found
  exact Nat.le_add_right _ _

/-- A position lies behind the start of its line. -/
lemma lineStart_le_absoluteOffset {t : Text} {line column : Int} {offset : Nat}
    (place : absoluteOffset t line column = .ok offset) : lineStart t line ≤ offset := by
  rw [absoluteOffset] at place
  split at place
  · cases place
  · split at place
    · cases place
    · cases place
      exact Nat.le_add_right _ _

/-- A literal is found behind the start of the line. -/
lemma lineStart_le_bounds {start stop : Nat}
    (found : Quote.bounds? code d = some (start, stop)) :
    lineStart code d.line.value ≤ start := by
  rw [Quote.bounds?] at found
  split at found
  · next offset place =>
    rw [Quote.literalBounds?] at found
    split at found
    · rw [Option.map_eq_some_iff] at found
      obtain ⟨close, -, same⟩ := found
      cases same
      exact lineStart_le_absoluteOffset place
    · cases found
  · cases found

/-- An expression is found behind the start of the line. -/
lemma lineStart_le_expression {start stop : Nat}
    (found : Template.expression? code d = some (start, stop)) :
    lineStart code d.line.value ≤ start := by
  rw [Template.expression?] at found
  split at found
  · next offset place =>
    cases found
    exact lineStart_le_absoluteOffset place
  · cases found

/-! ### Words -/

/-- A keyword is found among the words of its line. -/
lemma mem_of_findKeyword {masked keyword : Text} {line column : Int} {o : Nat}
    (found : findKeyword code masked line column keyword = some o) :
    o ∈ wordOffsetsFrom (fun c => isName c || c == '.') keyword none (lineStart code line) 0
      ((masked.drop (lineStart code line)).takeWhile (· != '\n')) := by
  rw [findKeyword, Option.orElse_eq_orElse, Option.orElse_eq_or] at found
  rcases Option.or_eq_some_iff.mp found with last | ⟨-, first⟩
  · exact (List.mem_filter.mp (List.mem_of_getLast? last)).1
  · exact List.mem_of_mem_head? first

/-- A keyword is found behind the start of its line. -/
lemma lineStart_le_findKeyword {masked keyword : Text} {line column : Int} {o : Nat}
    (found : findKeyword code masked line column keyword = some o) :
    lineStart code line ≤ o :=
  offset_le_of_mem_wordOffsetsFrom (mem_of_findKeyword found)

/-- A declaration is read where its keyword is found, in the masked text. -/
lemma eq_parseDeclaration_of_located {keyword masked : Text} {decl : Declaration}
    (found : Binding.located? keyword code d = some (masked, decl)) :
    masked = mask code ∧ decl = parseDeclaration code (mask code) decl.start ∧
      findKeyword code (mask code) d.line.value d.column.value keyword = some decl.start := by
  rw [Binding.located?, Option.filter_eq_some_iff, locateDeclaration, Option.map_eq_some_iff]
    at found
  obtain ⟨⟨offset, place, same⟩, -⟩ := found
  cases same
  rw [start_parseDeclaration]
  exact ⟨rfl, rfl, place⟩

/-- A declaration is found behind the start of its line. -/
lemma lineStart_le_located {keyword masked : Text} {decl : Declaration}
    (found : Binding.located? keyword code d = some (masked, decl)) :
    lineStart code d.line.value ≤ decl.start :=
  lineStart_le_findKeyword (eq_parseDeclaration_of_located found).2.2

/-! ### Brackets -/

/-- A bracket closes behind where it opens. -/
lemma le_findMatching {masked : Text} {i j : Nat} (found : findMatching masked i = some j) :
    i ≤ j := by
  simp only [findMatching, Option.bind_eq_bind, Option.bind_eq_some_iff, Option.pure_def,
    Option.some.injEq] at found
  obtain ⟨opener, -, closer, -, length, -, rfl⟩ := found
  exact Nat.le_add_right _ _

/-- One of the items is the nearest. -/
lemma mem_of_nearest? {α : Type} {distance : α → Nat} {a : α} {as : List α}
    (found : nearest? distance as = some a) : a ∈ as := by
  cases as with
  | nil => cases found
  | cons first rest =>
      rw [nearest?, Option.some.injEq] at found
      subst found
      have kept : ∀ (rest : List α) (best : α), (rest.foldl (fun best b =>
          if distance b < distance best then b else best) best) ∈ best :: rest := by
        intro rest
        induction rest with
        | nil => exact fun best => List.mem_singleton.mpr rfl
        | cons b rest ih =>
            intro best
            rw [List.foldl_cons]
            split
            · exact List.mem_cons_of_mem best (ih b)
            · rcases List.mem_cons.mp (ih best) with same | later
              · rw [same]
                exact List.mem_cons_self
              · exact List.mem_cons_of_mem best (List.mem_cons_of_mem b later)
      exact kept rest first

/-- The head of a control statement ends behind its keyword. -/
lemma le_headEnd {masked word : Text} {i j : Nat}
    (found : Brace.headEnd? masked word i = some j) : i ≤ j := by
  rw [Brace.headEnd?] at found
  split at found
  · dsimp only at found
    split at found
    · rw [Option.map_eq_some_iff] at found
      obtain ⟨close, matching, rfl⟩ := found
      have opens : i ≤ Brace.skipBlanks masked i := Nat.le_add_right _ _
      have closes := le_findMatching matching
      omega
    · cases found
  · cases found
    exact Nat.le_refl _

/-- A control statement without braces is found at a keyword that the message may be about:
behind it stands a head, and behind blanks a body that no brace opens. -/
lemma exists_of_bare? {b : Brace.Bare} (found : Brace.bare? code d = some b) :
    ∃ word ∈ Brace.wordsOf d,
      findKeyword code (mask code) d.line.value d.column.value word = some b.keyword ∧
        Brace.headEnd? (mask code) word (b.keyword + word.length) = some b.headEnd ∧
        b.bodyStart = Brace.skipBlanks (mask code) b.headEnd ∧
        ∃ first, (mask code)[b.bodyStart]? = some first ∧ first ≠ '{' := by
  simp only [Brace.bare?, Option.bind_eq_bind, Option.bind_eq_some_iff] at found
  obtain ⟨⟨word, keyword⟩, nearest, headEnd, ends, first, stands, rest⟩ := found
  obtain ⟨word', among, place⟩ := List.mem_filterMap.mp (mem_of_nearest? nearest)
  obtain ⟨offset, place, same⟩ := Option.map_eq_some_iff.mp place
  cases same
  split_ifs at rest with brace
  cases rest
  exact ⟨word, among, place, ends, rfl, first, stands, brace⟩

/-- A control statement without braces is found behind the start of the line. -/
lemma lineStart_le_bare {b : Brace.Bare} (found : Brace.bare? code d = some b) :
    lineStart code d.line.value ≤ b.headEnd := by
  obtain ⟨word, -, place, ends, -⟩ := exists_of_bare? found
  have start := lineStart_le_findKeyword place
  have head := le_headEnd ends
  omega

/-! ### Loops -/

/-- A loop head is found behind where the search starts. -/
lemma offset_le_loopParen {prev : Option Char} {offset i : Nat} {t : Text}
    (found : Loop.loopParen? prev offset t = some i) : offset ≤ i := by
  induction t generalizing prev offset with
  | nil => cases found
  | cons c rest ih =>
      rw [Loop.loopParen?] at found
      split at found
      · cases found
        omega
      · exact Nat.le_of_succ_le (ih found)

/-- A counting loop starts behind the start of the line, and its body behind
its head. -/
lemma lineStart_le_counting {c : Loop.Counting} (found : Loop.counting? code d = some c) :
    lineStart code d.line.value ≤ c.paren ∧ c.paren ≤ c.bodyOpen := by
  simp only [Loop.counting?, Option.bind_eq_bind, Option.bind_eq_some_iff] at found
  obtain ⟨paren, place, close, matching, header, -, rest⟩ := found
  have start := offset_le_loopParen place
  have closes := le_findMatching matching
  split at rest
  · cases rest
  · rw [Option.bind_eq_some_iff] at rest
    obtain ⟨bodyClose, -, same⟩ := rest
    cases same
    refine ⟨start, ?_⟩
    dsimp only
    omega

/-- An element is read behind the part of the text that is looked at. -/
lemma le_accessStart {masked collection : Text} {lo hi i : Nat}
    (found : Loop.accessStart? masked collection lo hi = some i) : lo ≤ i := by
  rw [Loop.accessStart?] at found
  split at found
  · next rest _ =>
    dsimp only at found
    split at found
    · next named =>
      rw [Option.ite_none_left_eq_some, Option.some.injEq] at found
      obtain ⟨-, rfl⟩ := found
      have long := (List.isPrefixOf_iff_prefix.mp named).length_le
      rw [List.length_reverse] at long
      omega
    · cases found
  · cases found

lemma le_elementAccess {masked : Text} {h : Loop.Header} {lo offset : Nat} {span : Span}
    (found : Loop.elementAccess masked h lo offset = .ok span) : lo ≤ span.start := by
  rw [Loop.elementAccess] at found
  dsimp only at found
  split at found
  · next start rest access _ =>
    split at found
    · cases found
    · cases found
      exact le_accessStart access
  · cases found

/-- All reads of an element lie behind where the body starts. -/
lemma le_of_mem_elementAccesses {masked : Text} {h : Loop.Header} {lo hi : Nat}
    {spans : List Span} (found : Loop.elementAccesses masked h lo hi = .ok spans) :
    ∀ span ∈ spans, lo ≤ span.start := by
  intro span member
  rw [Loop.elementAccesses] at found
  obtain ⟨reads, mapped, found⟩ := exists_of_bind_eq_ok found
  split at found
  · cases found
  · cases found
    obtain ⟨offset, -, read⟩ := exists_of_forall₂ (forall₂_of_mapM mapped) span member
    exact le_elementAccess read

/-! ### Calls -/

/-- A call is found no earlier than where the search starts. -/
lemma offset_le_of_mem_callsFrom {prev : Option Char} {offset skipped : Nat} {t : Text}
    {call : Nat × Nat} (found : call ∈ Console.callsFrom prev offset skipped t) :
    offset ≤ call.1 := by
  induction t generalizing prev offset skipped with
  | nil => cases found
  | cons c rest ih =>
      cases skipped with
      | succ n => exact Nat.le_of_succ_le (ih found)
      | zero =>
          rw [Console.callsFrom] at found
          split at found
          · rcases List.mem_cons.mp found with rfl | later
            · exact Nat.le_refl _
            · exact Nat.le_of_succ_le (ih later)
          · exact Nat.le_of_succ_le (ih found)

/-- A call is found behind the start of the line. -/
lemma lineStart_le_call {start stop : Nat} (found : Console.call? code d = some (start, stop)) :
    lineStart code d.line.value ≤ start := by
  simp only [Console.call?, Option.bind_eq_bind, Option.bind_eq_some_iff, Option.pure_def,
    Option.some.injEq] at found
  obtain ⟨⟨start', paren⟩, nearest, close, -, same⟩ := found
  cases same
  exact offset_le_of_mem_callsFrom (mem_of_nearest? nearest)

end LintRepair.Rules
