/-
Lists put together from their items.

* `exists_part_of_mem`: what a list is split into are its parts;
* `cuts`: where the separators stand with which parts are joined;
* `splitTopLevel_exact`: a text is cut at its separators outside brackets, and nothing is lost;
* `Paired`: a text in which each bracket has its partner;
* `exists_of_mem_items`: where an item stands in a list, and that no comma separates in it;
* `exists_reads_items`: items with commas between them are read one after the other;
* `mask_items`, `splitTopLevel_items`: so they are masked each by itself, and are what the list
  is split into;
* `statementLength_items`: a statement goes on through them.
-/
import LintRepair.Proofs.Code.Extent
import LintRepair.Proofs.Lexical.Afresh

namespace LintRepair.Code

open Text Lexical

variable {m t p q : Text} {ps qs : List Text} {sep : Char} {i j k : Nat}

/-! ### The parts of a list -/

/-- What a list is split into are its parts. -/
lemma exists_part_of_mem {i : Nat} (plain : Unbracketed sep) (lengths : m.length = t.length)
    (start : i = 0 ∨ 0 < i ∧ Separates sep m (i - 1))
    (among : p ∈ splitMasked (· == sep) 0 (m.drop i) (t.drop i)) :
    ∃ i' j, Part sep m i' j ∧ p = slice t i' j := by
  have within : i ≤ m.length := by
    rcases start with rfl | ⟨later, separates⟩
    · exact Nat.zero_le _
    · have := separates.lt
      omega
  have level : nesting (m.take i) = 0 := by
    rcases start with rfl | ⟨later, separates⟩
    · rfl
    · rw [← Nat.sub_add_cancel later]
      exact separates.nesting_take_succ plain
  have lengths' : (m.drop i).length = (t.drop i).length := by simp [lengths]
  by_cases more : ∃ k, Separates sep (m.drop i) k
  · -- The first part ends at the first separator, and the others stand behind it.
    have first : Part sep (m.drop i) 0 (Nat.find more) :=
      ⟨Nat.zero_le _, .inl rfl, .inr (Nat.find_spec more), fun k _ before => Nat.find_min more before⟩
    have separates := (separates_drop level).mp (Nat.find_spec more)
    have past := separates.lt
    rw [splitMasked_of_first plain lengths' first (Nat.find_spec more), List.mem_cons,
      List.drop_drop, List.drop_drop] at among
    rcases among with rfl | later
    · refine ⟨i, i + Nat.find more, ⟨Nat.le_add_right _ _, start, .inr separates, ?_⟩, ?_⟩
      · intro k low high here
        rw [← Nat.add_sub_cancel' low, ← separates_drop level] at here
        exact Nat.find_min more (by omega) here
      · rw [slice, Nat.add_sub_cancel_left]
    · exact exists_part_of_mem (i := i + (Nat.find more + 1)) plain lengths
        (.inr ⟨Nat.succ_pos _, separates⟩) later
  · rw [splitMasked_of_only lengths' (part_of_none (not_exists.mp more)), List.mem_singleton] at among
    refine ⟨i, m.length, ⟨within, start, .inl rfl, ?_⟩, ?_⟩
    · intro k low _ here
      rw [← Nat.add_sub_cancel' low, ← separates_drop level] at here
      exact more ⟨_, here⟩
    · rw [among, slice, lengths, ← List.length_drop, List.take_length]
termination_by m.length - i

/-! ### The cuts of a list -/

section Cuts

variable {ms cs : Text}

/-- The offsets of the separators, of one character each, with which parts are joined; the
first part stands at `offset`. -/
def cuts (offset : Nat) : List Text → List Nat
  | [] => []
  | [_] => []
  | part :: parts => (offset + part.length) :: cuts (offset + part.length + 1) parts

lemma cuts_cons (some' : ps ≠ []) (o : Nat) (p : Text) :
    cuts o (p :: ps) = (o + p.length) :: cuts (o + p.length + 1) ps := by
  cases ps with
  | nil => exact absurd rfl some'
  | cons q ps => rfl

/-- A character more in front of the first part moves them all. -/
lemma cuts_consHead (some' : ps ≠ []) (o : Nat) (c : Char) :
    cuts o (consHead c ps) = cuts (o + 1) ps := by
  cases ps with
  | nil => exact absurd rfl some'
  | cons p ps =>
      cases ps with
      | nil => rfl
      | cons q ps =>
          have place : o + (c :: p).length = o + 1 + p.length := by
            rw [List.length_cons]
            omega
          rw [consHead, cuts_cons (List.cons_ne_nil q ps), cuts_cons (List.cons_ne_nil q ps), place]

lemma intercalate_consHead (some' : ps ≠ []) (c : Char) :
    [sep].intercalate (consHead c ps) = c :: [sep].intercalate ps := by
  cases ps with
  | nil => exact absurd rfl some'
  | cons p ps =>
      cases ps with
      | nil => simp [consHead]
      | cons q ps => simp [consHead]

lemma intercalate_nil_cons (some' : ps ≠ []) :
    [sep].intercalate ([] :: ps) = sep :: [sep].intercalate ps := by
  cases ps with
  | nil => exact absurd rfl some'
  | cons p ps => rfl

/-- As many brackets are open as have been opened and not closed, of whatever form. -/
lemma nesting_eq_sub (m : Text) : nesting m = m.countP isOpener - m.countP isCloser := by
  induction m with
  | nil => rfl
  | cons c m ih =>
      have apart : isOpener c = true → isCloser c = false := by
        intro opener
        simp only [isOpener, Bool.or_eq_true, beq_iff_eq] at opener
        rcases opener with (rfl | rfl) | rfl <;> rfl
      rw [nesting_cons, ih, bracketStep, List.countP_cons, List.countP_cons]
      cases opener : isOpener c with
      | true => simp [apart opener]; omega
      | false => cases closer : isCloser c <;> simp; omega

/-- A text is split at a separator outside brackets. -/
lemma splitMasked_cons_separator (plain : Unbracketed sep) (c : Char) :
    splitMasked (· == sep) 0 (sep :: ms) (c :: cs) = [] :: splitMasked (· == sep) 0 ms cs := by
  simp [splitMasked, plain.1, plain.2]

/-- **Joined again.** Where the masked text holds the separator the text does, so its parts with
separators between them are the text. -/
lemma intercalate_splitMasked (plain : Unbracketed sep) (lengths : ms.length = cs.length)
    (same : ∀ i : Nat, ms[i]? = some sep → cs[i]? = some sep) (depth : Int) :
    [sep].intercalate (splitMasked (· == sep) depth ms cs) = cs := by
  induction ms generalizing cs depth with
  | nil =>
      obtain rfl := List.length_eq_zero_iff.mp lengths.symm
      simp [splitMasked]
  | cons m ms ih =>
      cases cs with
      | nil => cases lengths
      | cons c cs =>
          have later := ih (Nat.succ.inj lengths) fun i => same (i + 1)
          by_cases cut : m = sep ∧ depth = 0
          · obtain ⟨rfl, rfl⟩ := cut
            obtain rfl : c = m := by simpa using same 0 rfl
            rw [splitMasked_cons_separator plain, intercalate_nil_cons splitMasked_ne_nil, later]
          · have inside : (m == sep) = true → Unbracketed m → depth ≠ 0 :=
              fun separates _ zero => cut ⟨beq_iff_eq.mp separates, zero⟩
            rw [splitMasked_cons inside, intercalate_consHead splitMasked_ne_nil, later]

/-- **The cuts.** A text is cut where the masked text holds the separator with no more and no
fewer brackets closed than are open, those that were open at its start included. -/
lemma mem_cuts_splitMasked (plain : Unbracketed sep) (lengths : ms.length = cs.length)
    (depth : Int) (o k : Nat) :
    k ∈ cuts o (splitMasked (· == sep) depth ms cs) ↔
      ∃ i, ms[i]? = some sep ∧ depth + nesting (ms.take i) = 0 ∧ k = o + i := by
  induction ms generalizing cs depth o with
  | nil =>
      obtain rfl := List.length_eq_zero_iff.mp lengths.symm
      simp [splitMasked, cuts]
  | cons m ms ih =>
      cases cs with
      | nil => cases lengths
      | cons c cs =>
          have later := fun depth => @ih cs (Nat.succ.inj lengths) depth (o + 1)
          -- The first character separates, or the cut is behind it.
          have parts : (∃ i, (m :: ms)[i]? = some sep ∧ depth + nesting ((m :: ms).take i) = 0 ∧
                k = o + i) ↔
              (m = sep ∧ depth = 0 ∧ k = o) ∨ ∃ i, ms[i]? = some sep ∧
                depth + bracketStep m + nesting (ms.take i) = 0 ∧ k = o + 1 + i := by
            rw [← Nat.or_exists_add_one]
            simp [Int.add_assoc, Nat.add_assoc, Nat.add_comm 1]
          rw [parts, ← later]
          by_cases cut : m = sep ∧ depth = 0
          · obtain ⟨rfl, rfl⟩ := cut
            rw [splitMasked_cons_separator plain, cuts_cons splitMasked_ne_nil, List.mem_cons,
              plain.step]
            simp
          · have inside : (m == sep) = true → Unbracketed m → depth ≠ 0 :=
              fun separates _ zero => cut ⟨beq_iff_eq.mp separates, zero⟩
            rw [splitMasked_cons inside, cuts_consHead splitMasked_ne_nil]
            exact (or_iff_right fun first => cut ⟨first.1, first.2.1⟩).symm

/-- **A list is cut exactly.** Its parts with separators between them are the text again, and
the separators between them are those that stand in the masked text behind as many closing
brackets as opening ones. -/
theorem splitTopLevel_exact (t : Text) (sep : Char) (plain : Unbracketed sep) (solid : sep ≠ ' ') :
    [sep].intercalate (splitTopLevel sep t) = t ∧
      ∀ k, k ∈ cuts 0 (splitTopLevel sep t) ↔ (mask t)[k]? = some sep ∧
        ((mask t).take k).countP isCloser = ((mask t).take k).countP isOpener := by
  have lengths : (mask t).length = t.length := length_mask t
  have same (i : Nat) (stands : (mask t)[i]? = some sep) : t[i]? = some sep := by
    rcases mask_eq_or t i with here | blank
    · rw [← here, stands]
    · rw [stands, Option.some_inj] at blank
      exact absurd blank solid
  refine ⟨intercalate_splitMasked plain lengths same 0, fun k => ?_⟩
  rw [splitTopLevel, splitTopLevelOn, mem_cuts_splitMasked plain lengths]
  simp only [Int.zero_add, Nat.zero_add, nesting_eq_sub]
  constructor
  · rintro ⟨i, stands, level, rfl⟩
    exact ⟨stands, by omega⟩
  · rintro ⟨stands, level⟩
    exact ⟨k, stands, by omega, rfl⟩

/-- A comma behind a bracket that closes too early, one in a string, and one behind both. -/
theorem splitTopLevel_exact_unbalanced :
    (Unbracketed ',' ∧ ',' ≠ ' ') ∧
      [','].intercalate (splitTopLevel ',' "a],[',', b".toList) = "a],[',', b".toList ∧
      2 ∉ cuts 0 (splitTopLevel ',' "a],[',', b".toList) ∧
      5 ∉ cuts 0 (splitTopLevel ',' "a],[',', b".toList) ∧
      7 ∈ cuts 0 (splitTopLevel ',' "a],[',', b".toList) := by
  have plain : Unbracketed ',' := by decide
  have solid : ',' ≠ ' ' := by decide
  obtain ⟨joined, cut⟩ := splitTopLevel_exact "a],[',', b".toList ',' plain solid
  refine ⟨⟨plain, solid⟩, joined, ?_, ?_, ?_⟩ <;> rw [cut] <;> decide

end Cuts

/-! ### Brackets -/

/-- A text in which each bracket has its partner. -/
structure Paired (m : Text) : Prop where
  parens : Closed '(' ')' m
  squares : Closed '[' ']' m
  braces : Closed '{' '}' m

instance (m : Text) : Decidable (Paired m) :=
  decidable_of_iff (Closed '(' ')' m ∧ Closed '[' ']' m ∧ Closed '{' '}' m)
    ⟨fun h => ⟨h.1, h.2.1, h.2.2⟩, fun h => ⟨h.parens, h.squares, h.braces⟩⟩

lemma nesting_eq_height (m : Text) :
    nesting m = height '(' ')' m + height '[' ']' m + height '{' '}' m := by
  induction m with
  | nil => rfl
  | cons c m ih =>
      have step : bracketStep c = height '(' ')' [c] + height '[' ']' [c] + height '{' '}' [c] := by
        simp only [bracketStep, isOpener, isCloser, height]
        grind
      rw [nesting_cons, ih, height_cons, height_cons '[', height_cons '{', step]
      omega

namespace Paired

lemma nesting (h : Paired m) : nesting m = 0 := by
  rw [nesting_eq_height, h.parens.1, h.squares.1, h.braces.1]
  rfl

lemma append (h : Paired p) (h' : Paired q) : Paired (p ++ q) :=
  ⟨h.parens.append h'.parens, h.squares.append h'.squares, h.braces.append h'.braces⟩

lemma of_blank (blank : ∀ c ∈ m, isBlank c = true) : Paired m := by
  have other : ∀ c, isBlank c = false → c ∉ m := by
    intro c solid among
    rw [blank c among] at solid
    cases solid
  exact ⟨closed_of_notMem (other _ (by decide)) (other _ (by decide)),
    closed_of_notMem (other _ (by decide)) (other _ (by decide)),
    closed_of_notMem (other _ (by decide)) (other _ (by decide))⟩

end Paired

/-! ### Where an item stands -/

lemma Separates.append {pre : Text} (level : Code.nesting pre = 0) (h : Separates sep m k)
    (post : Text) : Separates sep (pre ++ (m ++ post)) (pre.length + k) := by
  have front : (pre ++ (m ++ post)).take pre.length = pre := List.take_left
  rw [← separates_drop (by rw [front, level]), List.drop_left]
  exact ⟨by rw [List.getElem?_append_left h.lt, h.1],
    by rw [List.take_append_of_le_length (Nat.le_of_lt h.lt), h.2]⟩

/-- Behind a comma, an operand may follow. -/
lemma step_comma {st : State} (inCode : st.InCode) (next : Option Char) : st.step ',' next =
    (.code, { st with inWord := false, afterWord := false, regexAllowed := true }) := by
  rw [inCode.step_plain (by decide)]
  rfl

/-- A part of a list can be read as a text of its own. -/
lemma starts_of_part (part : Part ',' (mask t) i j) : (stateAt t i).Starts (slice t i j) := by
  rcases part.first with rfl | ⟨later, separates⟩
  · rw [stateAt_zero]
    exact State.starts_empty _
  · obtain ⟨k, rfl⟩ : ∃ k, i = k + 1 := ⟨i - 1, by omega⟩
    have comma : CodeAt t k ',' := codeAt_of_mask separates.1 (by decide) (by decide)
    have within : k + 1 ≤ t.length := (List.getElem?_eq_some_iff.mp comma.2).1
    have counts := counts_stateAt within
    rw [stateAt_succ comma.2, step_comma comma.1] at counts ⊢
    exact ⟨⟨comma.1.mode, comma.1.alone⟩, .inl rfl, counts, .inl ⟨rfl, rfl⟩⟩

/-- So it is masked as one, if its brackets have their partners. -/
lemma slice_mask_of_part (part : Part ',' (mask t) i j) (paired : Paired (mask (slice t i j))) :
    slice (mask t) i j = mask (slice t i j) := by
  have within : j ≤ t.length := length_mask t ▸ part.le_length
  have neutral : Neutral t[j]? := by
    rcases part.last with rfl | separates
    · rw [length_mask, List.getElem?_eq_none (Nat.le_refl _)]
      exact neutral_none
    · have comma : CodeAt t j ',' := codeAt_of_mask separates.1 (by decide) (by decide)
      rw [comma.2]
      decide
  exact (slice_mask_of_starts part.le within (starts_of_part part) neutral paired.parens
    paired.braces).1

/-- **An item of a list** stands in it outside all brackets as it stands by itself, and no comma
in it separates. -/
lemma exists_of_mem_items (among : p ∈ (splitTopLevel ',' t).map trim) (paired : Paired (mask p)) :
    ∃ pre post, mask t = pre ++ (mask p ++ post) ∧ Code.nesting pre = 0 ∧
      ∀ k, ¬ Separates ',' (mask p) k := by
  have plain : Unbracketed ',' := by decide
  obtain ⟨whole, member, rfl⟩ := List.mem_map.mp among
  obtain ⟨i, j, part, rfl⟩ := exists_part_of_mem (i := 0) plain (length_mask t) (.inl rfl) member
  obtain ⟨front, back, parts, blank, blank'⟩ := exists_mask_trim (slice t i j)
  have paired' : Paired (mask (slice t i j)) := by
    rw [parts]
    exact (Paired.of_blank blank).append (paired.append (Paired.of_blank blank'))
  have same := slice_mask_of_part part paired'
  have shape : mask t = (mask t).take i ++ (slice (mask t) i j ++ (mask t).drop j) := by
    rw [← drop_eq_slice_append part.le, List.take_append_drop]
  rw [same, parts] at shape
  have level : Code.nesting ((mask t).take i ++ front) = 0 := by
    rw [nesting_append, part.level plain, (Paired.of_blank blank).nesting]
    rfl
  have shape' : mask t = (mask t).take i ++ front ++
      (mask (trim (slice t i j)) ++ (back ++ (mask t).drop j)) := by simpa using shape
  refine ⟨_, _, shape', level, fun k separates => ?_⟩
  -- Such a comma would separate in the list.
  have start : i ≤ (mask t).length := Nat.le_trans part.le part.le_length
  have place : ((mask t).take i ++ front).length = i + front.length := by
    rw [List.length_append, List.length_take_of_le start]
  have long := congrArg List.length parts
  rw [length_mask, length_slice part.le (length_mask t ▸ part.le_length), List.length_append,
    List.length_append] at long
  have short := separates.lt
  have whole := separates.append level (back ++ (mask t).drop j)
  rw [← shape', place] at whole
  exact part.inside _ (by omega) (by omega) whole

/-! ### Items one after the other -/

lemma intercalate_comma (q p : Text) (ps : List Text) :
    [','].intercalate (q :: p :: ps) = q ++ ',' :: [','].intercalate (p :: ps) := by
  rw [List.intercalate_cons_cons, List.append_assoc, List.singleton_append]

lemma nesting_items {ms : List Text} (paired : ∀ m ∈ ms, nesting m = 0) :
    nesting ([','].intercalate ms) = 0 := by
  induction ms with
  | nil => rfl
  | cons m ms ih =>
      cases ms with
      | nil => simpa using paired m List.mem_cons_self
      | cons m' ms =>
          rw [intercalate_comma, nesting_append, nesting_cons, paired m List.mem_cons_self,
            ih fun m among => paired m (List.mem_cons_of_mem _ among)]
          rfl

lemma exists_intercalate {ms : List Text} {l : Text} (last : ms.getLast? = some l) :
    ∃ front, [','].intercalate ms = front ++ l := by
  induction ms with
  | nil => cases last
  | cons m ms ih =>
      cases ms with
      | nil => exact ⟨[], by simpa using last⟩
      | cons m' ms =>
          obtain ⟨front, parts⟩ := ih (by simpa using last)
          exact ⟨m ++ ',' :: front, by rw [intercalate_comma, parts]; simp⟩

/-- **Items with commas between them** are read one after the other, if all but the last end in
code. -/
theorem exists_reads_items {st : State} {rest : Text} (starts : st.Starts q)
    (neutral : Neutral rest.head?) (paired : ∀ p ∈ q :: qs, Paired (mask p))
    (ends : ∀ p ∈ (q :: qs).dropLast, (stateAt p p.length).InCode) :
    ∃ ms s, ms.map Prod.fst = [','].intercalate (q :: qs) ∧
      ms.masked = [','].intercalate ((q :: qs).map mask) ∧ Reads rest st ms s ∧
      ∃ l, (q :: qs).getLast? = some l ∧ st.Leaves (stateAt l l.length) s := by
  induction qs generalizing q st with
  | nil =>
      have paired := paired q List.mem_cons_self
      obtain ⟨ms, s, text, masked, read, leaves⟩ :=
        exists_reads_of_starts starts neutral paired.parens paired.braces
      exact ⟨ms, s, by simpa using text, by simpa using masked, read, q, rfl, leaves⟩
  | cons q' qs ih =>
      have first := paired q List.mem_cons_self
      obtain ⟨ms, s, text, masked, read, leaves⟩ :=
        @exists_reads_of_starts _ _ (',' :: ([','].intercalate (q' :: qs) ++ rest)) starts
          (show Neutral (some ',') by decide) first.parens first.braces
      have inCode : s.InCode := leaves.inCode (ends q (by simp))
      have starts' : State.Starts
          { s with inWord := false, afterWord := false, regexAllowed := true } q' :=
        ⟨⟨inCode.mode, inCode.alone⟩, .inl rfl, by
          rw [State.Counts, leaves.interpolations]
          exact starts.counts, .inl ⟨rfl, rfl⟩⟩
      obtain ⟨ms', s', text', masked', read', l, last, leaves'⟩ := ih starts'
        (fun p among => paired p (List.mem_cons_of_mem _ among))
        (fun p among => ends p (by simpa using .inr among))
      refine ⟨ms ++ (',', .code) :: ms', s', ?_, ?_, ?_, l, by simpa using last, ?_⟩
      · rw [List.map_append, List.map_cons, text, text', intercalate_comma]
      · have comma : Kind.masked .code ',' = ',' := rfl
        rw [Marks.masked, List.map_append, List.map_cons, comma, ← Marks.masked, ← Marks.masked,
          masked, masked', List.map_cons, List.map_cons, List.map_cons, intercalate_comma]
      · rw [← text'] at read
        exact Reads.append read (.cons (step_comma inCode _) read')
      · exact ⟨leaves'.mode, leaves'.joined, leaves'.allowed, leaves'.parens.trans leaves.parens,
          leaves'.interpolations.trans leaves.interpolations⟩

/-- So they are masked each by itself. -/
lemma mask_items (some' : qs ≠ []) (paired : ∀ p ∈ qs, Paired (mask p))
    (ends : ∀ p ∈ qs.dropLast, (stateAt p p.length).InCode) :
    mask ([','].intercalate qs) = [','].intercalate (qs.map mask) := by
  obtain ⟨q, qs, rfl⟩ := List.exists_cons_of_ne_nil some'
  obtain ⟨ms, s, text, masked, read, -⟩ :=
    @exists_reads_items _ _ _ [] (State.starts_empty q) neutral_none paired ends
  have masks := masks_of_reads read
  rw [List.append_nil, text] at masks
  rw [← masked]
  exact masks.trans (List.append_nil _)

/-- **They are what the list is split into**, if no comma separates in one. -/
theorem splitTopLevel_items (some' : qs ≠ []) (paired : ∀ p ∈ qs, Paired (mask p))
    (ends : ∀ p ∈ qs.dropLast, (stateAt p p.length).InCode)
    (single : ∀ p ∈ qs, ∀ k, ¬ Separates ',' (mask p) k) :
    splitTopLevel ',' ([','].intercalate qs) = qs := by
  rw [splitTopLevel, splitTopLevelOn, mask_items some' paired ends]
  clear ends
  induction qs with
  | nil => exact absurd rfl some'
  | cons q qs ih =>
      have whole : splitMasked (· == ',') 0 (mask q) q = [q] :=
        splitMasked_of_only (length_mask q) (part_of_none (single q List.mem_cons_self))
      cases qs with
      | nil => simpa using whole
      | cons q' qs =>
          have cut := @splitMasked_append (mask q) q 0 (· == ',') ',' ','
            ([','].intercalate ((q' :: qs).map mask)) ([','].intercalate (q' :: qs))
            (length_mask q) (beq_self_eq_true ',') (by decide)
            (by rw [(paired q List.mem_cons_self).nesting]; rfl)
          have later := ih (List.cons_ne_nil _ _)
            (fun p among => paired p (List.mem_cons_of_mem _ among))
            (fun p among => single p (List.mem_cons_of_mem _ among))
          rw [intercalate_comma, List.map_cons, List.map_cons, intercalate_comma, ← List.map_cons,
            cut, whole, later]
          rfl

/-- No statement ends at a comma. -/
lemma not_stopsAt_comma {pre rest : Text} : ¬ StopsAt (pre ++ ([','] ++ rest)) pre.length := by
  rw [List.singleton_append, stopsAt_append]
  rintro ⟨-, semicolon | closes | feed⟩
  · cases semicolon
  · cases closes
  · cases feed.1

/-- **A statement goes on** through masked items, if it does not break off in one of them, and
no line feed at the ends of the list can break it off. -/
theorem statementLength_items {pre rest : Text} (level : nesting pre = 0)
    (paired : ∀ m ∈ q :: qs, Paired m) (whole : ∀ m ∈ q :: qs, ∀ i, ¬ Breaks m i)
    (before : '\n' ∉ leadingBlanks q ∨ startsIn continuesBehind (trimLeft pre.reverse) = true)
    (behind : ∀ l ∈ (q :: qs).getLast?,
      '\n' ∉ leadingBlanks l.reverse ∨ startsIn continuesBefore (trimLeft rest) = true) :
    statementLength pre.reverse 0 ([','].intercalate (q :: qs) ++ rest) =
      ([','].intercalate (q :: qs)).length +
        statementLength (pre ++ [','].intercalate (q :: qs)).reverse 0 rest := by
  have closed := (paired q List.mem_cons_self).nesting
  have first := whole q List.mem_cons_self
  induction qs generalizing q pre with
  | nil =>
      have goesOn : ∀ i < q.length, ¬ StopsAt (pre ++ (q ++ rest)) (pre.length + i) :=
        fun i low => not_stopsAt_of_not_breaks (first i) low level before (behind q rfl)
      simpa using statementLength_append_of_level level closed goesOn
  | cons q' qs ih =>
      set later := [','].intercalate (q' :: qs) with later_eq
      have goesOn : ∀ i < (q ++ [',']).length,
          ¬ StopsAt (pre ++ (q ++ [','] ++ (later ++ rest))) (pre.length + i) := by
        intro i low
        rw [List.length_append, List.length_singleton] at low
        rw [List.append_assoc q]
        by_cases inside : i < q.length
        · exact not_stopsAt_of_not_breaks (first i) inside level before (.inr rfl)
        · obtain rfl : i = q.length := by omega
          rw [← List.append_assoc, ← List.length_append]
          exact not_stopsAt_comma
      have level' : nesting (q ++ [',']) = 0 := by
        rw [nesting_append, closed]
        rfl
      have behindComma : startsIn continuesBehind (trimLeft (pre ++ (q ++ [','])).reverse) = true := by
        rw [← List.append_assoc, List.reverse_append]
        rfl
      have onwards := ih (by rw [nesting_append, level, level']; rfl)
        (fun m among => paired m (List.mem_cons_of_mem _ among))
        (fun m among => whole m (List.mem_cons_of_mem _ among)) (.inr behindComma)
        (by simpa using behind) (paired q' (by simp)).nesting (whole q' (by simp))
      rw [intercalate_comma, ← later_eq]
      rw [← later_eq] at onwards
      have parts : q ++ ',' :: later = q ++ [','] ++ later := by simp
      rw [parts, List.append_assoc (q ++ [',']), statementLength_append_of_level level level' goesOn,
        onwards, @List.length_append _ (q ++ [',']), Nat.add_assoc, List.append_assoc pre]

end LintRepair.Code
