/-
Offsets inside a literal or a comment.

* `Opens`, `Closes`: the scanner leaves code for a comment or a regular expression
  with a character; the character is the slash that ends a block comment;
* `State.closes_of_step`: the only step that returns to code and leaves a character
  of a comment to be read;
* `inside_unsafe`: an offset at which a character of a literal or of a comment
  stands, and none is opened, is safe to edit at that slash and nowhere else.
-/
import LintRepair.Lexical.Scan
import LintRepair.Proofs.Lexical.Cache
import LintRepair.Proofs.Lexical.Offset
import LintRepair.Repair.Fixer

namespace LintRepair.Lexical

open Text Repair Check

/-- The modes to which a slash leads from code. -/
def Mode.isSlashed : Mode → Bool
  | .lineComment | .blockComment | .regex _ => true
  | _ => false

/-- The scanner is in code before a character, and in a comment or in a regular
expression behind it. -/
def Opens (t : Text) (i : Nat) : Prop :=
  (stateAt t i).mode = .code ∧ (stateAt t (i + 1)).mode.isSlashed = true
  deriving Decidable

/-- The character at an offset is the slash that ends a block comment. -/
def Closes (t : Text) (i : Nat) : Prop :=
  ∃ j, i = j + 1 ∧ (stateAt t j).mode = .blockComment ∧ (stateAt t j).joined = none ∧
    t[j]? = some '*' ∧ t[i]? = some '/'

/-! ### Single steps -/

namespace State

variable {st : State} {c : Char} {next : Option Char}

/-- In code a character is code itself or a quote, or else it opens a comment or a
regular expression. -/
lemma stepCode_cases (st : State) (c : Char) (next : Option Char) :
    ((st.stepCode c next).1.isKept = true ∧ (st.stepCode c next).2.joined = st.joined) ∨
      (st.stepCode c next).2.mode.isSlashed = true := by
  rw [stepCode]
  split
  · exact .inr rfl
  split
  · exact .inr rfl
  split
  · exact .inr rfl
  left
  split
  · exact ⟨rfl, rfl⟩
  split
  · exact ⟨rfl, rfl⟩
  split
  · exact ⟨rfl, joined_codeChar st c⟩
  split
  · exact ⟨rfl, joined_codeChar _ c⟩
  split
  · split
    · exact ⟨rfl, rfl⟩
    · exact ⟨rfl, joined_codeChar _ c⟩
  · exact ⟨rfl, joined_codeChar st c⟩

/-- **The end of a block comment.** Its star is the only character behind which the
scanner is in code and the next character still part of a comment. -/
lemma closes_of_step (inCode : (st.step c next).2.mode = .code)
    (joined : (st.step c next).2.joined = some .comment) :
    st.mode = .blockComment ∧ st.joined = none ∧ c = '*' ∧ next = some '/' := by
  cases alone : st.joined with
  | some kind => simp [step, alone] at joined
  | none =>
    cases inside : st.mode with
    | code =>
        simp only [step, alone, inside] at inCode joined
        obtain ⟨-, same⟩ | opens := stepCode_cases st c next
        · rw [same, alone] at joined
          cases joined
        · rw [inCode] at opens
          cases opens
    | lineComment =>
        simp only [step, alone, inside] at joined
        split at joined <;> simp [alone] at joined
    | blockComment =>
        simp only [step, alone, inside] at joined
        split at joined
        · next last => simpa using last
        · simp [alone] at joined
    | string quote =>
        simp only [step, alone, inside, stepString] at joined
        split_ifs at joined <;> simp [alone] at joined
    | regex inClass =>
        simp only [step, alone, inside, stepRegex] at joined
        split_ifs at joined <;> simp [alone] at joined
    | template =>
        simp only [step, alone, inside, stepTemplate] at joined
        split_ifs at joined <;> simp [alone] at joined

end State

/-! ### At an offset -/

section Offset

variable {t : Text} {i : Nat}

/-- Behind the star that ends a block comment the scanner is in code, though the
slash is still part of the comment. -/
lemma Closes.stateAt (h : Closes t i) : (stateAt t i).mode = .code := by
  obtain ⟨j, rfl, inside, alone, star, slash⟩ := h
  rw [stateAt_succ star, slash]
  simp [State.step, inside, alone]

/-- Where a character of a comment belongs to the one before it and the scanner is
in code, it ends a block comment. -/
lemma closes_of_joined {c : Char} (stands : t[i]? = some c)
    (joined : (stateAt t i).joined = some .comment) (inCode : (stateAt t i).mode = .code) :
    Closes t i := by
  cases i with
  | zero =>
      rw [stateAt_zero] at joined
      cases joined
  | succ j =>
      obtain ⟨b, before⟩ : ∃ b, t[j]? = some b := by
        have within : j + 1 < t.length := (List.getElem?_eq_some_iff.mp stands).1
        exact ⟨_, List.getElem?_eq_getElem (Nat.lt_of_succ_lt within)⟩
      rw [stateAt_succ before] at joined inCode
      obtain ⟨inside, alone, rfl, slash⟩ := State.closes_of_step inCode joined
      exact ⟨j, rfl, inside, alone, before, slash⟩

/-- Where the scanner is in code though the character stands in a literal or in a
comment, the character opens a comment or a regular expression, or ends a block
comment. -/
lemma closes_of_mode {kind : Kind} (stands : (kinds t)[i]? = some kind)
    (inside : kind.isKept = false) (old : ¬ Opens t i) (inCode : (stateAt t i).mode = .code) :
    Closes t i := by
  rw [getElem?_kinds, Option.map_eq_some_iff] at stands
  obtain ⟨c, stands, rfl⟩ := stands
  cases joined : (stateAt t i).joined with
  | none =>
      rw [State.step, joined, inCode] at inside
      obtain ⟨kept, -⟩ | opens := State.stepCode_cases (stateAt t i) c t[i + 1]?
      · rw [kept] at inside
        cases inside
      · refine absurd ⟨inCode, ?_⟩ old
        rw [stateAt_succ stands, State.step, joined, inCode]
        exact opens
  | some other =>
      have goes : other.GoesWith .code := inCode ▸ (consistent_stateAt t i).joined other joined
      rw [State.step, joined] at inside
      cases other with
      | comment => exact closes_of_joined stands joined inCode
      | code | delimiter => cases inside
      | string | regex | template => simp [Kind.GoesWith] at goes

end Offset

/-! ### What is told about the position -/

section Position

variable {t : Text} {i : Nat} {d : Diagnostic}

/-- At an unsafe position nothing is looked for, and nothing can be repaired. -/
lemma canFix_of_unsafe (m : Method) (accepts : Acceptor)
    (kind rule complexity description : String) (danger : (zone t d).isSafe = false) :
    (m.fixer accepts kind rule complexity description).canFix t d = .ok false := by
  have unconcerned : Method.concerns rule t d = false := by
    rw [Method.concerns, danger, Bool.and_false]
  change m.guarded rule t d (m.canFix rule t d) = .ok false
  simp [Method.guarded, Method.raised?, Method.canFix, unconcerned]

/-- The verdict on a position is that of the scanner at its offset. -/
lemma isSafe_zone (place : absoluteOffset t d.line.value d.column.value = .ok i) :
    (zone t d).isSafe = (contextAt t i).isCode := by
  rw [zone, place]
  exact isSafe_zoneOf (stateAt t i)

/-- What a sound cache answers about a position, if it answers, is the verdict
found anew. -/
lemma zone_eq {cache : Cache} {z : Zone} (sound : cache.Sound)
    (answer : (cache.zone t d).2 = .ok z) : z = zone t d := by
  rw [Cache.zone] at answer
  rw [zone]
  cases place : absoluteOffset t d.line.value d.column.value with
  | error fault =>
      rw [place] at answer
      cases answer
      rfl
  | ok offset =>
      rw [place] at answer
      dsimp only at answer ⊢
      cases asked : (cache.classify t offset).2 with
      | error fault =>
          rw [asked] at answer
          cases answer
      | ok ctx =>
          rw [asked] at answer
          cases answer
          rw [Cache.classify_eq sound t offset ctx asked, contextAt_clampOffset]

/-- **Literals and comments are not touched.** Where a character of a literal or of
a comment stands that opens no comment and no regular expression, code is found
only at the slash that ends a block comment; a cache of contexts finds the same.
Everywhere else the position is reported unsafe, and no fixer offers a repair. -/
theorem inside_unsafe {kind : Kind} (stands : (kinds t)[i]? = some kind)
    (inside : kind.isKept = false) (old : ¬ Opens t i) :
    ((contextAt t i).isCode = true ↔ Closes t i) ∧
      (∀ cache : Cache, cache.Sound →
        (0 < cache.capacity → ∃ ctx, (cache.classify t i).2 = .ok ctx) ∧
          ∀ ctx, (cache.classify t i).2 = .ok ctx → (ctx.isCode = true ↔ Closes t i)) ∧
      (¬ Closes t i → ∀ d : Diagnostic,
        absoluteOffset t d.line.value d.column.value = .ok i →
          (zone t d).isSafe = false ∧
            (∀ cache : Cache, cache.Sound →
              (0 < cache.capacity → ∃ z, (cache.zone t d).2 = .ok z) ∧
                ∀ z, (cache.zone t d).2 = .ok z → z.isSafe = false) ∧
            ∀ (m : Method) (accepts : Acceptor) (kind rule complexity description : String),
              (m.fixer accepts kind rule complexity description).canFix t d = .ok false) := by
  have found : (contextAt t i).isCode = true ↔ Closes t i := by
    rw [isCode_contextAt]
    exact ⟨closes_of_mode stands inside old, Closes.stateAt⟩
  refine ⟨found, ?_, ?_⟩
  · intro cache sound
    refine ⟨fun room => ⟨_, Cache.classify_ok sound room t i⟩, ?_⟩
    intro ctx answer
    rw [Cache.classify_eq sound t i ctx answer, contextAt_clampOffset]
    exact found
  · intro other d place
    have danger : (zone t d).isSafe = false := by
      rw [isSafe_zone place, Bool.eq_false_iff]
      exact mt found.mp other
    refine ⟨danger, ?_, ?_⟩
    · intro cache sound
      refine ⟨fun room => ⟨_, Cache.zone_ok sound room t d⟩, ?_⟩
      intro z answer
      rw [zone_eq sound answer]
      exact danger
    · intro m accepts kind rule complexity description
      exact canFix_of_unsafe m accepts kind rule complexity description danger

/-- The star between the ends of a comment, and a diagnostic there. -/
theorem inside_unsafe_star :
    (kinds "/***/".toList)[2]? = some .comment ∧ ¬ Opens "/***/".toList 2 ∧
      (contextAt "/***/".toList 2).isCode = false ∧
      (zone "/***/".toList
        { rule := some "semi", message := "", line := 1, column := 3 }).isSafe = false := by
  have stands : (kinds "/***/".toList)[2]? = some .comment := by decide
  have old : ¬ Opens "/***/".toList 2 := by decide
  have other : ¬ Closes "/***/".toList 2 := by
    rintro ⟨j, -, -, -, -, slash⟩
    exact absurd slash (by decide)
  obtain ⟨found, -, told⟩ := inside_unsafe stands rfl old
  refine ⟨stands, old, Bool.eq_false_iff.mpr (mt found.mp other), ?_⟩
  exact (told other _ rfl).1

/-- The slash that ends a block comment is a character of it, yet code is found
there. -/
theorem inside_unsafe_slash : ¬ ∀ (t : Text) (i : Nat) (kind : Kind),
    (kinds t)[i]? = some kind → kind.isKept = false → ¬ Opens t i →
      (contextAt t i).isCode = false := by
  intro never
  have safe := never "/**/".toList 3 .comment (by decide) rfl (by decide)
  exact absurd safe (by decide)

end Position

end LintRepair.Lexical
