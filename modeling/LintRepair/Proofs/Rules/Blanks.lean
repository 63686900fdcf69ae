/-
What the rules about the ends and the starts of lines leave of literals.

* `StartsInLiteral`, `EndsInLiteral`: the blanks at the start or at the end of a line are
  inside of a literal;
* `literals_iff_of_noTrailingSpaces`, `literals_iff_of_indent`: taking them away, or
  others put in their place, changes what stands inside of literals just if they are.
-/
import LintRepair.Proofs.Lexical.Content
import LintRepair.Proofs.Text.Around
import LintRepair.Proofs.Text.Cut
import LintRepair.Rules.Whitespace

namespace LintRepair.Rules

open Text Lexical Check Repair

variable {code after : Text} {d : Diagnostic}

/-! ### Lines -/

/-- The offset at which the line of a diagnostic ends. -/
def lineStopOf (code : Text) (d : Diagnostic) : Nat :=
  lineStartOf code d + (lineOf code d).length

/-- The line starts inside of a literal. -/
def StartsInLiteral (code : Text) (d : Diagnostic) : Prop :=
  (stateAt code (lineStartOf code d)).mode.isLiteral = true
  deriving Decidable

/-- The line ends in a blank, inside of a literal. -/
def EndsInLiteral (code : Text) (d : Diagnostic) : Prop :=
  endsIn isBlank (lineOf code d) = true ∧
    (stateAt code (lineStopOf code d)).mode.isLiteral = true
  deriving Decidable

/-! ### Blanks of a line -/

lemma newline_notMem_of_isSpaceOrTab {t : Text} (blank : ∀ c ∈ t, isSpaceOrTab c = true) :
    '\n' ∉ t := by
  intro feed
  exact absurd (blank _ feed) (by decide)

/-- A line replaced. -/
lemma setLine_eq {above below : List Text} {l new : Text} (h : Around code d.line.value above l below)
    (edit : setLine code d new = .ok after) : after = ended above ++ (new ++ begun below) := by
  rw [setLine, h.replaceLine, Except.ok.injEq] at edit
  exact edit.symm

/-- A line with blanks at its end ends in a literal just if the scanner is in one before
those blanks. -/
lemma endsInLiteral_iff {above below : List Text} {part blanks : Text}
    (h : Around code d.line.value above (part ++ blanks) below) (some' : blanks ≠ [])
    (blank : ∀ c ∈ blanks, isBlank c = true) :
    EndsInLiteral code d ↔
      (stateAt code (ended above ++ part).length).mode.isLiteral = true := by
  have line : lineOf code d = part ++ blanks := h.getLine
  have ends : endsIn isBlank (part ++ blanks) = true := by
    rw [endsIn, List.getLast?_append_of_ne_nil _ some', List.getLast?_eq_some_getLast some',
      Option.any_some]
    exact blank _ (List.getLast_mem some')
  have stop : lineStopOf code d = (ended above ++ part).length + blanks.length := by
    rw [lineStopOf, lineStartOf, h.lineStart, line]
    simp only [List.length_append, Nat.add_assoc]
  have parts : code = (ended above ++ part) ++ (blanks ++ begun below) := by
    conv_lhs => rw [h.eq]
    simp only [List.append_assoc]
  have feed : '\n' ∉ blanks := fun feed => h.newline_notMem (List.mem_append_right part feed)
  rw [EndsInLiteral, line, and_iff_right ends, stop, mode_behind_blanks parts blank feed]

/-! ### The ends of lines -/

/-- **Trailing blanks.** They are taken away without harm just if they are not inside of
a literal. -/
lemma literals_iff_of_noTrailingSpaces {l : Text} (there : line? code d.line.value = some l)
    (edit : Whitespace.noTrailingSpaces.edit code d = .ok after) (differs : after ≠ code) :
    literals after = literals code ↔ ¬ EndsInLiteral code d := by
  obtain ⟨above, below, around⟩ := exists_around there
  change setLine code d (dropEndWhile isSpaceOrTab (lineOf code d)) = _ at edit
  have edited := setLine_eq around edit
  obtain ⟨blanks, split, blank⟩ := dropEndWhile_append isSpaceOrTab l
  rw [show lineOf code d = l from around.getLine] at edited
  have blank' : ∀ c ∈ blanks, isBlank c = true := fun c hc => isBlank_of_isSpaceOrTab (blank c hc)
  generalize dropEndWhile isSpaceOrTab l = part at split edited
  subst split
  have whole : code = (ended above ++ part) ++ (blanks ++ begun below) := by
    conv_lhs => rw [around.eq]
    simp only [List.append_assoc]
  rw [← List.append_assoc] at edited
  have some' : blanks ≠ [] := by
    rintro rfl
    exact differs (by rw [edited, whole, List.nil_append])
  rw [endsInLiteral_iff around some' blank', Bool.not_eq_true, edited, whole]
  exact literals_trailing blank' (newline_notMem_of_isSpaceOrTab blank) some' eq_newline_of_begun

/-! ### The starts of lines -/

/-- The unit of a text's indentation is made of blanks. -/
lemma isSpaceOrTab_of_mem_indentUnit : ∀ c ∈ Whitespace.indentUnit code, isSpaceOrTab c = true := by
  have go : ∀ (ls : List Text) (widths : List Nat), ∀ c ∈ Whitespace.indentUnit.go widths ls,
      isSpaceOrTab c = true := by
    intro ls
    induction ls with
    | nil =>
        intro widths c hc
        rw [Whitespace.indentUnit.go] at hc
        have blank : c = ' ' := by
          split at hc
          · split at hc
            · exact List.eq_of_mem_replicate hc
            · simpa [Whitespace.defaultUnit] using hc
          · simpa [Whitespace.defaultUnit] using hc
        rw [blank]
        rfl
    | cons l rest ih =>
        intro widths c hc
        rw [Whitespace.indentUnit.go] at hc
        split at hc
        · exact ih widths c hc
        · split at hc
          · rw [List.mem_singleton] at hc
            rw [hc]
            rfl
          · exact ih _ c hc
  exact go _ []

/-- A message names spaces or tabs. -/
lemma isSpaceOrTab_of_messageIndent {t ds : Text} {c : Char}
    (named : Whitespace.messageIndent? t = some (ds, c)) : isSpaceOrTab c = true := by
  induction t with
  | nil => cases named
  | cons b rest ih =>
      rw [Whitespace.messageIndent?, Option.orElse_eq_orElse, Option.orElse_eq_or,
        Option.or_eq_some_iff] at named
      rcases named with here | ⟨-, later⟩
      · split at here
        · rw [Whitespace.namedIndent?] at here
          split_ifs at here <;> cases here <;> rfl
        · cases here
      · exact ih later

/-- The indentation that a line should have is made of blanks. -/
lemma isSpaceOrTab_of_expectedIndent {i : Whitespace.Indent}
    (expected : Whitespace.expectedIndent? code d = some i) :
    ∀ c ∈ i.blanks, isSpaceOrTab c = true := by
  have unit : ∀ c ∈ i.unit, isSpaceOrTab c = true := by
    rw [Whitespace.expectedIndent?] at expected
    split at expected
    · next ds c named =>
      obtain ⟨count, -, rfl⟩ := Option.map_eq_some_iff.mp expected
      intro b hb
      rw [List.mem_singleton.mp hb]
      exact isSpaceOrTab_of_messageIndent named
    · cases expected
      exact isSpaceOrTab_of_mem_indentUnit
  intro c hc
  rw [Whitespace.Indent.blanks, List.mem_flatten] at hc
  obtain ⟨part, among, inside⟩ := hc
  rw [List.eq_of_mem_replicate among] at inside
  exact unit c inside

/-- **Indentation.** Other blanks are put at the start of a line without harm just if it
does not start inside of a literal. -/
lemma literals_iff_of_indent {l : Text} (there : line? code d.line.value = some l)
    (edit : Whitespace.indent.edit code d = .ok after) (differs : after ≠ code)
    (apart : (stateAt code (lineStartOf code d)).goesOn
      (code.drop (lineStartOf code d + ((lineOf code d).takeWhile isSpaceOrTab).length)) = false) :
    literals after = literals code ↔ ¬ StartsInLiteral code d := by
  obtain ⟨above, below, around⟩ := exists_around there
  have line : lineOf code d = l := around.getLine
  simp only [Whitespace.indent] at edit
  split at edit
  · cases edit
  next i expected =>
  have edited := setLine_eq around edit
  have blank := isSpaceOrTab_of_expectedIndent expected
  rw [line] at edited apart
  have start : lineStartOf code d = (ended above).length := around.lineStart
  have split : l = l.takeWhile isSpaceOrTab ++ l.dropWhile isSpaceOrTab :=
    List.takeWhile_append_dropWhile.symm
  have blank' : ∀ c ∈ l.takeWhile isSpaceOrTab, isSpaceOrTab c = true := fun c hc =>
    List.mem_takeWhile_imp hc
  generalize l.takeWhile isSpaceOrTab = blanks at split blank' apart
  generalize l.dropWhile isSpaceOrTab = part at split edited
  subst split
  have whole : code = ended above ++ (blanks ++ (part ++ begun below)) := by
    conv_lhs => rw [around.eq]
    simp only [List.append_assoc]
  rw [List.append_assoc] at edited
  have differs' : i.blanks ≠ blanks := by
    intro same
    exact differs (by rw [edited, same, ← whole])
  have behind : code.drop ((ended above).length + blanks.length) = part ++ begun below := by
    conv_lhs => rw [whole]
    rw [← List.length_append, ← List.append_assoc, List.drop_left]
  rw [start, behind] at apart
  rw [StartsInLiteral, start, Bool.not_eq_true, edited]
  rw [whole] at apart ⊢
  exact literals_leading (fun c hc => isBlank_of_isSpaceOrTab (blank' c hc))
    (newline_notMem_of_isSpaceOrTab blank') (fun c hc => isBlank_of_isSpaceOrTab (blank c hc))
    (newline_notMem_of_isSpaceOrTab blank) differs' eq_newline_of_ended apart

end LintRepair.Rules
