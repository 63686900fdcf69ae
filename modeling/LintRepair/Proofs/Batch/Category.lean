/-
What kind of failure a message is taken for.

* `Category.marks`, `Category.earlier`: the words by which a kind is recognised, and
  those that are looked for before;
* `Clear`, `Inert`: a text in which none of some words occurs, and one at whose end none
  has begun besides; `clear_append`: what stands behind an inert text counts as if it
  stood alone;
* `categorize_eq_iff`: a message is taken for a kind if it has a mark of it, and none
  that is looked for before;
* `Category.openings`: the words with which the messages of a kind begin;
  `categorize_append_iff`: what stands behind them decides;
* `Cause.category?`: the kind of a cause; `Cause.Legible`: the texts of others that are
  put into its wording hold no mark of another kind;
* `categorize_message_iff`: its wording is taken for its kind just if it is legible.

The wordings of unsafe positions, of rejected results and of what gets no turn are
always legible: what they quote are numbers and single characters.
-/
import LintRepair.Batch.Report
import LintRepair.Proofs.Text.Cut

namespace LintRepair.Batch

open Text Lexical Check Repair

variable {words : List Text} {t u : Text} {c : Char} {k : Category} {d : Diagnostic}

/-! ### Words in a text -/

/-- A character of the words by which kinds of failures are recognised. -/
def isPlain (c : Char) : Bool := c == ' ' || decide ('a' ≤ c) && decide (c ≤ 'z')

/-- Words of small letters and spaces. -/
def Plain (words : List Text) : Prop := ∀ w ∈ words, w ≠ [] ∧ w.all isPlain = true

/-- None of some words occurs in a text, whatever the size of its letters. -/
def Clear (words : List Text) (t : Text) : Prop := ∀ w ∈ words, contains (lower t) w = false

/-- None of some words occurs in a text, and none has begun at its end. -/
def Inert (words : List Text) (t : Text) : Prop :=
  Clear words t ∧ ∀ w ∈ words, ∀ n < w.length, 0 < n → endsWith (lower t) (w.take n) = false

instance : Decidable (Plain words) :=
  inferInstanceAs (Decidable (∀ w ∈ words, w ≠ [] ∧ w.all isPlain = true))

instance : Decidable (Clear words t) :=
  inferInstanceAs (Decidable (∀ w ∈ words, contains (lower t) w = false))

instance : Decidable (Inert words t) :=
  inferInstanceAs (Decidable (Clear words t ∧
    ∀ w ∈ words, ∀ n < w.length, 0 < n → endsWith (lower t) (w.take n) = false))

lemma lower_append (t u : Text) : lower (t ++ u) = lower t ++ lower u := List.map_append

lemma clear_iff : Clear words t ↔ ∀ w ∈ words, ¬ w <:+: lower t := by
  simp only [Clear, ← Bool.not_eq_true, contains_iff]

lemma Clear.left (h : Clear words (t ++ u)) : Clear words t := by
  rw [clear_iff, lower_append] at h
  exact clear_iff.mpr fun w among here => h w among (List.infix_append_of_infix_left here)

lemma Clear.right (h : Clear words (t ++ u)) : Clear words u := by
  rw [clear_iff, lower_append] at h
  exact clear_iff.mpr fun w among here => h w among (List.infix_append_of_infix_right here)

/-- A word that begins in an inert text is there as a whole, or not at all. -/
lemma Inert.begins {w first rest : Text} (h : Inert words t) (among : w ∈ words)
    (parts : w = first ++ rest) (ends : first <:+ lower t) : first = [] ∨ rest = [] := by
  by_contra parted
  obtain ⟨some', more⟩ := not_or.mp parted
  have shorter : first.length < w.length := by
    rw [parts, List.length_append]
    exact Nat.lt_add_of_pos_right (List.length_pos_iff.mpr more)
  have apart := h.2 w among first.length shorter (List.length_pos_iff.mpr some')
  rw [parts, List.take_left, endsWith, ← Bool.not_eq_true, List.isSuffixOf_iff_suffix] at apart
  exact apart ends

/-- What stands behind an inert text counts as if it stood alone. -/
lemma clear_append (h : Inert words t) : Clear words (t ++ u) ↔ Clear words u := by
  refine ⟨Clear.right, fun back => ?_⟩
  have front := clear_iff.mp h.1
  rw [clear_iff] at back ⊢
  intro w among here
  rw [lower_append, List.infix_append_iff] at here
  rcases here with here | here | ⟨first, rest, parts, ends, starts⟩
  · exact front w among here
  · exact back w among here
  · rcases h.begins among parts ends with rfl | rfl
    · exact back w among (parts ▸ starts.isInfix)
    · exact front w among (by rw [parts, List.append_nil]; exact ends.isInfix)

/-! ### Characters that stand in no word -/

/-- No word occurs across a character that stands in none. -/
lemma clear_append_cons (plain : Plain words) (other : isPlain (lowerChar c) = false) :
    Clear words (t ++ c :: u) ↔ Clear words t ∧ Clear words u := by
  have wall : ∀ {w}, w ∈ words → ∀ {v : Text}, lowerChar c :: v <:+: w → False := by
    intro w among v here
    have within := List.all_eq_true.mp (plain w among).2 _ (here.subset List.mem_cons_self)
    exact absurd within (by simp [other])
  constructor
  · exact fun clear => ⟨clear.left, (List.append_cons t c u ▸ clear).right⟩
  rintro ⟨front, back⟩
  rw [clear_iff] at front back ⊢
  intro w among here
  rw [lower_append, show lower (c :: u) = lowerChar c :: lower u from rfl,
    List.infix_append_iff] at here
  rcases here with here | here | ⟨first, rest, rfl, ends, starts⟩
  · exact front w among here
  · rcases List.infix_cons_iff.mp here with starts | here
    · rcases List.prefix_cons_iff.mp starts with rfl | ⟨v, rfl, -⟩
      · exact (plain [] among).1 rfl
      · exact wall among List.infix_rfl
    · exact back w among here
  · rcases List.prefix_cons_iff.mp starts with rfl | ⟨v, rfl, -⟩
    · exact front _ among (by rw [List.append_nil]; exact ends.isInfix)
    · exact wall among (List.suffix_append ..).isInfix

lemma clear_nil (plain : Plain words) : Clear words [] := by
  rw [clear_iff]
  intro w among here
  exact (plain w among).1 (List.infix_nil.mp here)

/-- A text of such characters counts for nothing behind another, -/
lemma clear_append_of_forall (plain : Plain words)
    (other : ∀ c ∈ u, isPlain (lowerChar c) = false) : Clear words (t ++ u) ↔ Clear words t := by
  induction u generalizing t with
  | nil => rw [List.append_nil]
  | cons c u ih =>
      have rest : ∀ c ∈ u, isPlain (lowerChar c) = false :=
        fun c among => other c (List.mem_cons_of_mem _ among)
      rw [clear_append_cons plain (other c List.mem_cons_self)]
      exact and_iff_left ((ih (t := []) rest).mpr (clear_nil plain))

/-- and for nothing before it. -/
lemma inert_of_forall (plain : Plain words) (other : ∀ c ∈ t, isPlain (lowerChar c) = false) :
    Inert words t := by
  refine ⟨(clear_append_of_forall (t := []) plain other).mpr (clear_nil plain), ?_⟩
  intro w among n bound positive
  rw [endsWith, ← Bool.not_eq_true, List.isSuffixOf_iff_suffix]
  intro ends
  obtain ⟨a, own⟩ : ∃ a, a ∈ w.take n :=
    List.exists_mem_of_length_pos (by rw [List.length_take]; omega)
  obtain ⟨b, among', rfl⟩ := List.mem_map.mp (ends.subset own)
  have within := List.all_eq_true.mp (plain w among).2 _ (List.mem_of_mem_take own)
  exact absurd within (by simp [other b among'])

lemma clear_singleton (long : ∀ w ∈ words, 1 < w.length) (c : Char) : Clear words [c] := by
  rw [clear_iff]
  intro w among here
  have bound := here.length_le
  rw [lower, List.map_singleton, List.length_singleton] at bound
  exact absurd (long w among) (Nat.not_lt.mpr bound)

/-- Digits are no such characters. -/
lemma isPlain_of_isDigit (digit : c.isDigit = true) : isPlain (lowerChar c) = false := by
  obtain ⟨n, bound, rfl⟩ : ∃ n < 10, c = Char.ofNat (48 + n) := by
    simp only [Char.isDigit, Bool.and_eq_true, decide_eq_true_eq, UInt32.le_iff_toNat_le] at digit
    refine ⟨c.toNat - 48, ?_, ?_⟩
    · have := digit.2
      change c.toNat ≤ 57 at this
      omega
    · have := digit.1
      change 48 ≤ c.toNat at this
      rw [Nat.add_sub_cancel' this, Char.ofNat_toNat]
  revert n
  decide

/-- The text of a number has digits, and a sign at most. -/
lemma isPlain_intText {n : Int} (among : c ∈ (Json.intText n).toList) :
    isPlain (lowerChar c) = false := by
  have digits : c ∈ Nat.toDigits 10 n.natAbs → isPlain (lowerChar c) = false := fun among =>
    isPlain_of_isDigit (Nat.isDigit_of_mem_toDigits (by decide) le_rfl among)
  rw [Json.intText] at among
  split at among
  · rw [String.toList_append, List.mem_append] at among
    rcases among with sign | among
    · obtain rfl : c = '-' := by simpa using sign
      decide
    · exact digits (by simpa [Number.digitsText] using among)
  · exact digits (by simpa [Number.digitsText] using among)

/-! ### Kinds and their words -/

/-- The words by which a kind is recognised; one is recognised by how a message
begins. -/
def Category.marks : Category → List Text
  | .cancelled => ["cancelled".toList]
  | .unsafeContext => ["unsafe context".toList, "position is inside".toList]
  | .validationError => ["validation failed".toList, "syntax".toList]
  | .noFixer => ["no fixer available".toList]
  | .fixerLimitation => ["cannot handle".toList]
  | .skipped | .other => []

/-- The kinds, in the order in which they are looked for. -/
def Category.order : List Category :=
  [.cancelled, .skipped, .unsafeContext, .validationError, .noFixer, .fixerLimitation]

/-- The words that are looked for before those of a kind. -/
def Category.earlier (k : Category) : List Text :=
  (Category.order.takeWhile (· ≠ k)).flatMap Category.marks

lemma plain_marks (k : Category) : Plain k.marks := by cases k <;> decide

lemma plain_earlier (k : Category) : Plain k.earlier := fun w among =>
  have ⟨b, _, own⟩ := List.mem_flatMap.mp among
  plain_marks b w own

lemma not_clear_iff : ¬ Clear words t ↔ words.any (contains (lower t)) = true := by
  simp [Clear]

/-- The kinds are looked for one after another. -/
lemma categorize_eq {message : String}
    (first : startsWith (lower message.toList) "skipped".toList = false) :
    categorize message =
      (Category.order.find? fun k => k.marks.any (contains (lower message.toList))).getD
        .other := by
  rw [categorize]
  dsimp only
  rw [first, if_neg Bool.false_ne_true]
  split_ifs <;> simp_all [Category.order, Category.marks]

/-- What is found first has the property, and nothing before it has. -/
lemma find?_eq_some_iff_takeWhile {α : Type} [DecidableEq α] {p : α → Bool} {l : List α} {a : α}
    (among : a ∈ l) :
    l.find? p = some a ↔ p a = true ∧ ∀ b ∈ l.takeWhile (· ≠ a), p b = false := by
  induction l with
  | nil => cases among
  | cons b l ih =>
      by_cases here : b = a
      · subst here
        cases found : p b with
        | true => simp [found]
        | false =>
            simp only [List.find?_cons, found, Bool.false_eq_true, false_and, iff_false]
            exact fun later => absurd (List.find?_some later) (by simp [found])
      · have later : a ∈ l := (List.mem_cons.mp among).resolve_left (Ne.symm here)
        cases found : p b <;> simp [found, here, ih later]

/-- A message is taken for a kind that has words if it holds one of them, and none that
is looked for before. -/
lemma categorize_eq_iff {message : String} (marked : k.marks ≠ [])
    (first : startsWith (lower message.toList) "skipped".toList = false) :
    categorize message = k ↔ ¬ Clear k.marks message.toList ∧ Clear k.earlier message.toList := by
  have among : k ∈ Category.order := by
    cases k with
    | other => exact absurd rfl marked
    | _ => decide
  have named : k ≠ .other := by
    rintro rfl
    exact marked rfl
  rw [categorize_eq first, Option.getD_eq_iff, or_iff_left fun none => named none.2.symm,
    find?_eq_some_iff_takeWhile among, not_clear_iff]
  refine and_congr_right fun _ => ?_
  simp only [Clear, Category.earlier, List.mem_flatMap, List.any_eq_false, Bool.not_eq_true]
  exact ⟨fun h w ⟨b, before, own⟩ => h b before w own,
    fun h b before w own => h w ⟨b, before, own⟩⟩

/-- A message that begins as one of something skipped is not taken for a kind that is looked
for later. -/
lemma categorize_of_startsWith {message : String}
    (first : startsWith (lower message.toList) "skipped".toList = true) :
    categorize message = .cancelled ∨ categorize message = .skipped := by
  rw [categorize]
  dsimp only
  rw [first]
  split <;> simp

/-! ### Wordings -/

/-- Whether a position lies in the text, and inside a literal or a comment there. -/
def isInside : Hazard → Bool
  | .position _ => false
  | _ => true

/-- The kind of failure that a cause is; none where a fixer has failed by mistake. -/
def Cause.category? : Cause → Option Category
  | .cancelled => some .cancelled
  | .skipped => some .skipped
  | .hazardous _ | .refused _ (.hazardous _) => some .unsafeContext
  | .noFixer => some .noFixer
  | .notHandled | .refused _ .absent | .refused _ (.declined _) | .refused _ (.other _) =>
    some .fixerLimitation
  | .broken _ | .refused _ (.broken _) | .refused _ .invariant => some .validationError
  | .refused _ (.mishap _) | .raised _ => none

/-- The wording of a cause holds no mark of a kind that is looked for before its own: no such
mark occurs in the name of the rule, or in the reason of a fixer. A fixer's own words have to
speak of its inability besides. -/
def Cause.Legible (d : Diagnostic) : Cause → Prop
  | .noFixer => Clear Category.noFixer.earlier (ruleText d.rule).toList
  | .notHandled | .refused _ .absent =>
    Clear Category.fixerLimitation.earlier (ruleText d.rule).toList
  | .refused rule (.declined reason) =>
    Clear Category.fixerLimitation.earlier rule.toList ∧
      Clear Category.fixerLimitation.earlier (reason.getD "").toList
  | .refused rule (.hazardous hazard) =>
    Clear Category.unsafeContext.earlier rule.toList ∧
      (isInside hazard = true ∨ ¬ Clear Category.unsafeContext.marks rule.toList)
  | .refused _ (.other message) =>
    startsWith (lower message.toList) "skipped".toList = false ∧
      ¬ Clear Category.fixerLimitation.marks message.toList ∧
      Clear Category.fixerLimitation.earlier message.toList
  | _ => True

/-- A message that begins with other letters is not taken for one of something skipped. -/
lemma not_startsWith_skipped {message : String} {own rest : Text}
    (parts : message.toList = own ++ rest) (first : startsIn (· != 's') (lower own) = true) :
    startsWith (lower message.toList) "skipped".toList = false := by
  rw [parts, lower_append]
  cases some' : lower own with
  | nil => simp [some', startsIn] at first
  | cons c front =>
      rw [some'] at first
      have apart : c ≠ 's' := bne_iff_ne.mp first
      rw [List.cons_append, startsWith, show "skipped".toList = 's' :: "kipped".toList from rfl,
        List.isPrefixOf_cons_cons, beq_false_of_ne apart.symm, Bool.false_and]

/-- The words with which the messages of a kind begin. -/
def Category.openings : Category → List Text
  | .unsafeContext => ["Unsafe context: ".toList]
  | .validationError => ["Validation failed: ".toList, "Fix validation failed: ".toList]
  | .noFixer => ["No fixer available for rule: ".toList]
  | .fixerLimitation => ["Fixer cannot handle this instance of ".toList]
  | .cancelled | .skipped | .other => []

/-- They hold a mark of their kind, and let none begin that is looked for before. -/
lemma speaks_of_mem_openings (k : Category) : ∀ own ∈ k.openings,
    startsIn (· != 's') (lower own) = true ∧ ¬ Clear k.marks own ∧ Inert k.earlier own := by
  cases k <;> decide

/-- A message that begins with words of a kind is taken for it if nothing in its rest is
looked for before. -/
lemma categorize_append_iff {message : String} {own rest : Text} (opens : own ∈ k.openings)
    (parts : message.toList = own ++ rest) : categorize message = k ↔ Clear k.earlier rest := by
  obtain ⟨first, speaks, inert⟩ := speaks_of_mem_openings k own opens
  have marked : k.marks ≠ [] := by
    intro none
    rw [none] at speaks
    exact speaks fun w among => absurd among List.not_mem_nil
  rw [categorize_eq_iff marked (not_startsWith_skipped parts first), parts, clear_append inert]
  exact and_iff_right fun clear => speaks clear.left

/-- What is said of a fixer's inability is taken for that if neither the rule nor the reason
is looked for before. -/
lemma categorize_inability_iff {rule : String} {reason : Option String} :
    categorize (inabilityText rule reason) = .fixerLimitation ↔
      Clear Category.fixerLimitation.earlier rule.toList ∧
        Clear Category.fixerLimitation.earlier (reason.getD "").toList := by
  have plain := plain_earlier .fixerLimitation
  unfold inabilityText
  rw [categorize_append_iff (.head _)
    (by rw [String.toList_append, String.toList_append, List.append_assoc])]
  split
  · rw [String.toList_empty, List.append_nil, Option.getD_none, String.toList_empty]
    exact (and_iff_left (clear_nil plain)).symm
  · rw [String.toList_empty, List.append_nil, Option.getD_some, String.toList_empty]
    exact (and_iff_left (clear_nil plain)).symm
  · next reason _ =>
    rw [String.toList_append, show ": ".toList = ':' :: [' '] from rfl, List.cons_append,
      clear_append_cons plain (by decide), clear_append (by decide),
      Option.getD_some]

lemma Clear.mono {more : List Text} (h : Clear more t) (sub : words ⊆ more) : Clear words t :=
  fun w among => h w (sub among)

lemma clear_bracketFault (fault : BracketFault) :
    Clear Category.validationError.earlier fault.message.toList := by
  have plain := plain_earlier .validationError
  have quoted {own : Text} (clear : Clear Category.validationError.earlier own) (c : Char) :
      Clear Category.validationError.earlier
        ((own ++ ['\x27']) ++ [c] ++ "' at position ".toList) := by
    rw [show "' at position ".toList = '\x27' :: " at position ".toList from rfl,
      clear_append_cons plain (by decide), List.append_assoc, List.singleton_append,
      clear_append_cons plain (by decide)]
    exact ⟨⟨clear, clear_singleton (by decide) c⟩, by decide⟩
  unfold BracketFault.message
  split <;>
    rw [String.toList_append, String.toList_append, String.toList_append,
      clear_append_of_forall plain fun _ => isPlain_intText, String.toList_singleton]
  · rw [show "Unmatched bracket '".toList = "Unmatched bracket ".toList ++ ['\x27'] from rfl]
    exact quoted (by decide) _
  · rw [show "Unclosed bracket '".toList = "Unclosed bracket ".toList ++ ['\x27'] from rfl]
    exact quoted (by decide) _

lemma clear_syntaxFault (fault : SyntaxFault) :
    Clear Category.validationError.earlier fault.message.toList := by
  unfold SyntaxFault.message
  split
  · rw [String.toList_append, clear_append (by decide)]
    exact clear_bracketFault _
  · decide

lemma inert_intText (n : Int) :
    Inert Category.validationError.earlier (Json.intText n).toList :=
  inert_of_forall (plain_earlier _) fun _ => isPlain_intText

lemma inert_whole (n : Json.Whole) : Inert Category.validationError.earlier n.text.toList := by
  cases n with
  | flag b => cases b <;> decide
  | number n => exact inert_intText n

lemma clear_faultMessage (fault : PositionFault) :
    Clear Category.validationError.earlier (d.faultMessage fault).toList := by
  unfold Diagnostic.faultMessage positionMessage
  split <;> simp only [String.toList_append, List.append_assoc, -String.reduceToList]
  · rw [clear_append (by decide), clear_append (inert_whole _),
      clear_append (by decide), clear_append (inert_intText _)]
    decide
  · rw [clear_append (by decide), clear_append (inert_whole _),
      clear_append (by decide), clear_append (inert_whole _),
      clear_append (by decide), clear_append (inert_intText _)]
    decide

/-- The reason for an unsafe position holds no mark of an earlier kind, -/
lemma clear_reason (hazard : Hazard) (d : Diagnostic) :
    Clear Category.unsafeContext.earlier (hazard.reason d).toList := by
  have plain := plain_earlier .unsafeContext
  cases hazard with
  | position fault =>
      unfold Hazard.reason
      rw [String.toList_append, clear_append (by decide)]
      exact (clear_faultMessage fault).mono (by decide)
  | string quote =>
      unfold Hazard.reason
      rw [String.toList_append, String.toList_append, String.toList_singleton,
        show "Position is inside a string literal (".toList =
          "Position is inside a string literal ".toList ++ ['('] from rfl,
        show ")".toList = ')' :: [] from rfl, clear_append_cons plain (by decide),
        List.append_assoc, List.singleton_append, clear_append_cons plain (by decide)]
      exact ⟨⟨by decide, clear_singleton (by decide) quote⟩, clear_nil plain⟩
  | comment form =>
      have all : ∀ form : CommentForm, Clear Category.unsafeContext.earlier
          ("Position is inside a " ++ form.word ++ " comment").toList := by
        rintro (_ | _) <;> decide
      exact all form
  | regex =>
      change Clear _ "Position is inside a regular expression literal".toList
      decide
  | template =>
      change Clear _ "Position is inside template literal text".toList
      decide

/-- and one of its own if the position lies in the text. -/
lemma clear_reason_iff (hazard : Hazard) (d : Diagnostic) :
    Clear Category.unsafeContext.marks (hazard.reason d).toList ↔ isInside hazard = false := by
  cases hazard with
  | position fault =>
      refine iff_of_true ?_ rfl
      unfold Hazard.reason
      rw [String.toList_append, clear_append (by decide)]
      exact (clear_faultMessage fault).mono (by decide)
  | string quote =>
      refine iff_of_false (fun clear => ?_) (by simp [isInside])
      unfold Hazard.reason at clear
      rw [String.toList_append, String.toList_append] at clear
      exact absurd clear.left.left (by decide)
  | comment form =>
      refine iff_of_false (fun clear => ?_) (by simp [isInside])
      unfold Hazard.reason at clear
      rw [String.toList_append, String.toList_append] at clear
      exact absurd clear.left.left (by decide)
  | regex =>
      refine iff_of_false ?_ (by simp [isInside])
      change ¬ Clear _ "Position is inside a regular expression literal".toList
      decide
  | template =>
      refine iff_of_false ?_ (by simp [isInside])
      change ¬ Clear _ "Position is inside template literal text".toList
      decide

/-- What is said of a position that a fixer finds unsafe. -/
lemma toList_refusal (rule : String) (hazard : Hazard) (d : Diagnostic) :
    ((Refusal.hazardous hazard).message rule d).toList =
      "Cannot fix ".toList ++ (rule.toList ++ ':' :: ([' '] ++ (hazard.reason d).toList)) := by
  unfold Refusal.message
  rw [String.toList_append, String.toList_append, String.toList_append, List.append_assoc,
    List.append_assoc, show ": ".toList = ':' :: [' '] from rfl, List.cons_append]

lemma categorize_refusal_iff {rule : String} {hazard : Hazard} :
    categorize ((Refusal.hazardous hazard).message rule d) = .unsafeContext ↔
      Clear Category.unsafeContext.earlier rule.toList ∧
        (isInside hazard = true ∨ ¬ Clear Category.unsafeContext.marks rule.toList) := by
  have parts {words : List Text} (plain : Plain words) (own : Inert words "Cannot fix ".toList)
      (blank : Inert words [' ']) :
      Clear words ((Refusal.hazardous hazard).message rule d).toList ↔
        Clear words rule.toList ∧ Clear words (hazard.reason d).toList := by
    rw [toList_refusal, clear_append own, clear_append_cons plain (by decide),
      clear_append blank]
  rw [categorize_eq_iff (by decide)
      (not_startsWith_skipped (toList_refusal rule hazard d) (by decide)),
    parts (plain_marks _) (by decide) (by decide),
    parts (plain_earlier _) (by decide) (by decide), clear_reason_iff,
    and_iff_left (clear_reason hazard d), and_comm, not_and_or, Bool.not_eq_false, or_comm]

/-- A fixer's own words. -/
lemma categorize_own_iff {message : String} : categorize message = .fixerLimitation ↔
    startsWith (lower message.toList) "skipped".toList = false ∧
      ¬ Clear Category.fixerLimitation.marks message.toList ∧
      Clear Category.fixerLimitation.earlier message.toList := by
  cases first : startsWith (lower message.toList) "skipped".toList with
  | false => rw [categorize_eq_iff (by decide) first, and_iff_right rfl]
  | true =>
      refine iff_of_false (fun taken => ?_) fun ⟨other, _⟩ => by cases other
      rcases categorize_of_startsWith first with early | early <;>
        exact absurd (taken.symm.trans early) (by decide)

/-- The wording of a cause is taken for its kind just if it is legible. -/
lemma categorize_message_iff {cause : Cause} (kind : cause.category? = some k) :
    categorize (cause.message d) = k ↔ cause.Legible d := by
  cases cause with
  | cancelled =>
      cases kind
      exact iff_of_true (show categorize cancelledText = _ by decide) trivial
  | skipped =>
      cases kind
      exact iff_of_true
        (show categorize "Skipped: batch halted after syntax failure" = _ by decide) trivial
  | hazardous hazard =>
      cases kind
      exact (categorize_append_iff (.head _) String.toList_append).trans
        (iff_of_true (clear_reason hazard d) trivial)
  | noFixer =>
      cases kind
      exact categorize_append_iff (.head _) String.toList_append
  | notHandled =>
      cases kind
      exact categorize_inability_iff.trans (and_iff_left (clear_nil (plain_earlier _)))
  | refused rule refusal =>
      cases refusal with
      | hazardous hazard =>
          cases kind
          exact categorize_refusal_iff
      | absent =>
          cases kind
          exact categorize_inability_iff.trans (and_iff_left (clear_nil (plain_earlier _)))
      | declined reason =>
          cases kind
          exact categorize_inability_iff
      | mishap detail => cases kind
      | broken fault =>
          cases kind
          exact (categorize_append_iff (.tail _ (.head _)) String.toList_append).trans
            (iff_of_true (clear_syntaxFault fault) trivial)
      | invariant =>
          cases kind
          exact iff_of_true
            (show categorize "Fix validation failed: rule invariant not satisfied" = _ by
              decide) trivial
      | other message =>
          cases kind
          exact categorize_own_iff
  | broken fault =>
      cases kind
      exact (categorize_append_iff (.head _) String.toList_append).trans
        (iff_of_true (clear_syntaxFault fault) trivial)
  | raised e => cases kind

end LintRepair.Batch
