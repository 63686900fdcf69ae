/-
What a cache of contexts answers.

* `Cache.sound_classify`, `Cache.sound_zone`: questions leave a cache sound;
* `Cache.classify_ok`, `Cache.zone_ok`: a sound cache that has room answers every
  question, and answers it as if it had been asked for the first time;
* `Cache.Ready.ask`: one request, whatever it asks for, leaves a cache sound and no
  larger than it may be;
* `session_answers`: so do any number of requests about any texts, and each of them
  is answered as by a scan of its own.
-/
import Mathlib.Tactic.Common
import LintRepair.Lexical.Cache

namespace LintRepair.Lexical

open Text

/-- Past the end of a text a scanner's state is that at the end. -/
lemma State.after_min (st : State) (t : Text) (count : Nat) :
    st.after t (min t.length count) = st.after t count := by
  induction t generalizing st count with
  | nil => rw [List.length_nil, Nat.zero_min]; rfl
  | cons c rest ih =>
      cases count with
      | zero => rfl
      | succ count =>
          rw [List.length_cons, Nat.succ_min_succ]
          exact ih _ count

/-- An offset past the end of a text is moved to it without a change of
context. -/
lemma contextAt_clampOffset (t : Text) (offset : Nat) :
    contextAt t (clampOffset t offset) = contextAt t offset := by
  rw [contextAt, stateAt, clampOffset, Int.toNat_natCast, State.after_min]
  rfl

namespace Cache

variable {c c' : Cache} {t : Text} {i : Nat} {ctx : Context}

lemma turnTo_capacity (c : Cache) (t : Text) : (c.turnTo t).capacity = c.capacity := by
  rw [turnTo]
  split <;> rfl

/-- Remembering a context changes nothing but the contexts. -/
lemma remember_eq (h : c.remember i ctx = some c') :
    ∃ found, c' = { c with found := found ++ [(i, ctx)] } ∧ found.Sublist c.found := by
  rw [remember] at h
  split at h
  · cases h
    exact ⟨c.found, rfl, .refl _⟩
  · split at h
    · cases h
    · next first rest eq =>
      cases h
      exact ⟨rest, rfl, eq ▸ List.sublist_cons_self first rest⟩

/-- A cache stays sound when it remembers the context at an offset of its
text. -/
lemma Sound.remember (h : c.Sound) (about : c.text? = some t)
    (kept : c.remember i (contextAt t i) = some c') : c'.Sound := by
  obtain ⟨found, rfl, some'⟩ := remember_eq kept
  intro t' about' j ctx known
  obtain rfl : t = t' := Option.some.inj (about.symm.trans about')
  rcases List.mem_append.mp known with old | new
  · exact h t about j ctx (some'.subset old)
  · cases List.mem_singleton.mp new
    rfl

/-- A question leaves a sound cache sound, and as large as it was. -/
lemma sound_classify (h : c.Sound) (t : Text) (offset : Int) :
    (c.classify t offset).1.Sound ∧ (c.classify t offset).1.capacity = c.capacity := by
  have turned := sound_turnTo h t
  have size := turnTo_capacity c t
  rw [classify]
  dsimp only
  split
  · exact ⟨turned, size⟩
  split
  · next kept =>
    obtain ⟨found, same, -⟩ := remember_eq kept
    refine ⟨turned.remember (text?_turnTo c t) kept, ?_⟩
    rw [same]
    exact size
  · exact ⟨turned, size⟩

/-- So does the question for the verdict on a position. -/
lemma sound_zone (h : c.Sound) (t : Text) (d : Diagnostic) :
    (c.zone t d).1.Sound ∧ (c.zone t d).1.capacity = c.capacity := by
  rw [zone]
  split
  · exact ⟨h, rfl⟩
  · exact sound_classify h t _

/-- A cache that has room for a context remembers it. -/
lemma remember_isSome (room : 0 < c.capacity) (i : Nat) (ctx : Context) :
    (c.remember i ctx).isSome = true := by
  rw [remember]
  split
  · rfl
  · next full =>
    split
    · next none => simp [size, none, room] at full
    · rfl

/-- A sound cache that has room answers with the context at the offset. -/
theorem classify_ok (h : c.Sound) (room : 0 < c.capacity) (t : Text) (offset : Int) :
    (c.classify t offset).2 = .ok (contextAt t (clampOffset t offset)) := by
  have answered : ∃ ctx, (c.classify t offset).2 = .ok ctx := by
    rw [classify]
    dsimp only
    split
    · exact ⟨_, rfl⟩
    split
    · exact ⟨_, rfl⟩
    · next none =>
      have kept := remember_isSome (c := c.turnTo t) (turnTo_capacity c t ▸ room)
        (clampOffset t offset) (contextAt t (clampOffset t offset))
      rw [none] at kept
      cases kept
  obtain ⟨ctx, ok⟩ := answered
  rw [ok, classify_eq h t offset ctx ok]

/-- The verdict that it gives on a position is that on the text. -/
theorem zone_ok (h : c.Sound) (room : 0 < c.capacity) (t : Text) (d : Diagnostic) :
    (c.zone t d).2 = .ok (Lexical.zone t d) := by
  rw [zone, Lexical.zone]
  cases absoluteOffset t d.line.value d.column.value with
  | error fault => rfl
  | ok offset =>
      dsimp only
      rw [classify_ok h room, contextAt_clampOffset]
      rfl

end Cache

/-! ### Requests one after another -/

/-- A request to a cache. -/
inductive Query
  /-- The context at an offset. -/
  | context (t : Text) (offset : Int)
  /-- The context at a line and a column. -/
  | position (t : Text) (line column : Int)
  /-- The verdict on the position of a diagnostic. -/
  | zone (t : Text) (d : Diagnostic)
  /-- To forget everything. -/
  | clear

/-- What is answered to a request. -/
inductive Answer
  | context (ctx : Context)
  | outside (fault : PositionFault)
  | zone (z : Zone)
  | cleared

/-- What is answered without a cache, by a scan from the start of the text. -/
def Query.answer : Query → Answer
  | .context t offset => .context (contextAt t (clampOffset t offset))
  | .position t line column =>
    match absoluteOffset t line column with
    | .error fault => .outside fault
    | .ok offset => .context (contextAt t offset)
  | .zone t d => .zone (Lexical.zone t d)
  | .clear => .cleared

namespace Cache

/-- The answer of a cache to a request, and the cache after it. -/
def ask (c : Cache) : Query → Cache × Except CacheFault Answer
  | .context t offset =>
    ((c.classify t offset).1, (c.classify t offset).2.map Answer.context)
  | .position t line column =>
    ((c.position t line column).1, (c.position t line column).2.map fun
      | .error fault => Answer.outside fault
      | .ok ctx => Answer.context ctx)
  | .zone t d => ((c.zone t d).1, (c.zone t d).2.map Answer.zone)
  | .clear => (c.clear, .ok .cleared)

/-- The answers of a cache to requests one after another, and the cache after
them. -/
def session (c : Cache) : List Query → Cache × List (Except CacheFault Answer)
  | [] => (c, [])
  | q :: qs => (((c.ask q).1.session qs).1, (c.ask q).2 :: ((c.ask q).1.session qs).2)

/-- A cache with room for contexts that holds only what a scan finds, and no more
than it has room for. -/
structure Ready (capacity : Int) (c : Cache) : Prop where
  sound : c.Sound
  room : 0 < capacity
  capacity_eq : c.capacity = capacity
  within : (c.size : Int) ≤ capacity

namespace Ready

variable {capacity : Int} {c c' : Cache} {t : Text} {i : Nat}

/-- A cache without contexts is ready if it has room. -/
lemma empty (room : 0 < capacity) (text? : Option Text) :
    Ready capacity { capacity, text? } := by
  refine ⟨?_, room, rfl, Int.le_of_lt room⟩
  intro t about i ctx known
  cases known

lemma clear (h : Ready capacity c) : Ready capacity c.clear := by
  obtain ⟨sound, room, rfl, within⟩ := h
  exact empty room none

lemma turnTo (h : Ready capacity c) (t : Text) : Ready capacity (c.turnTo t) := by
  rw [Cache.turnTo]
  split
  · exact h
  · obtain ⟨sound, room, rfl, within⟩ := h
    exact empty room (some t)

/-- A context is remembered in a free place, or in that of the oldest one. -/
lemma remember (h : Ready capacity c) (about : c.text? = some t)
    (kept : c.remember i (contextAt t i) = some c') : Ready capacity c' := by
  have sound := h.sound.remember about kept
  obtain ⟨-, room, rfl, within⟩ := h
  rw [Cache.remember] at kept
  split at kept
  · next free =>
    cases kept
    have grown : size { c with found := c.found ++ [(i, contextAt t i)] } = c.size + 1 :=
      List.length_append
    refine ⟨sound, room, rfl, ?_⟩
    rw [grown]
    omega
  · split at kept
    · cases kept
    · next oldest rest held =>
      cases kept
      have same : size { c with found := rest ++ [(i, contextAt t i)] } = c.size := by
        simp [size, held]
      refine ⟨sound, room, rfl, ?_⟩
      rw [same]
      exact within

lemma classify (h : Ready capacity c) (t : Text) (offset : Int) :
    Ready capacity (c.classify t offset).1 := by
  have turned := h.turnTo t
  rw [Cache.classify]
  dsimp only
  split
  · exact turned
  split
  · next kept => exact turned.remember (text?_turnTo c t) kept
  · exact turned

/-- It answers with the context at the offset. -/
lemma classify_ok (h : Ready capacity c) (t : Text) (offset : Int) :
    (c.classify t offset).2 = .ok (contextAt t (clampOffset t offset)) :=
  Cache.classify_ok h.sound (h.capacity_eq ▸ h.room) t offset

/-- **One request.** It leaves a cache that is as ready, and its answer is that of a
scan. -/
lemma ask (h : Ready capacity c) (q : Query) :
    Ready capacity (c.ask q).1 ∧ (c.ask q).2 = .ok q.answer := by
  cases q with
  | context t offset =>
      refine ⟨h.classify t offset, ?_⟩
      rw [Cache.ask, h.classify_ok]
      rfl
  | position t line column =>
      rw [Cache.ask, Query.answer, position]
      cases absoluteOffset t line column with
      | error fault => exact ⟨h, rfl⟩
      | ok offset =>
          refine ⟨h.classify t offset, ?_⟩
          dsimp only
          rw [h.classify_ok, contextAt_clampOffset]
          rfl
  | zone t d =>
      refine ⟨?_, ?_⟩
      · rw [Cache.ask, zone]
        split
        · exact h
        · exact h.classify t _
      · rw [Cache.ask, zone_ok h.sound (h.capacity_eq ▸ h.room)]
        rfl
  | clear => exact ⟨h.clear, rfl⟩

/-- So it is with requests one after another. -/
lemma session (h : Ready capacity c) (qs : List Query) :
    Ready capacity (c.session qs).1 ∧ (c.session qs).2 = qs.map fun q => .ok q.answer := by
  induction qs generalizing c with
  | nil => exact ⟨h, rfl⟩
  | cons q qs ih =>
      obtain ⟨asked, answer⟩ := h.ask q
      obtain ⟨ready, answers⟩ := ih asked
      refine ⟨ready, ?_⟩
      rw [Cache.session, answer, answers]
      rfl

end Ready

/-- **The cache does not show.** Whatever it is asked for, about whatever texts and
offsets and how often, an empty cache with room for a context answers as a scan
does, and it never holds more contexts than it has room for. -/
theorem session_answers {capacity : Int} (room : 1 ≤ capacity) (qs : List Query) :
    (Cache.session { capacity } qs).2 = (qs.map fun q => .ok q.answer) ∧
      ((Cache.session { capacity } qs).1.size : Int) ≤ capacity := by
  have start : Ready capacity { capacity } := .empty (by omega) none
  obtain ⟨ready, answers⟩ := start.session qs
  exact ⟨answers, ready.within⟩

/-- A cache with room for two contexts, asked for three in one text, for one behind
the end of another text of the same length, and at a line that there is not. -/
theorem session_answers_two :
    let qs : List Query := [.context "\x27a\x27".toList 1, .context "\x27a\x27".toList 2,
      .context "\x27a\x27".toList 3, .context "// ".toList 9, .clear,
      .position "// ".toList 2 1]
    (Cache.session { capacity := 2 } qs).2 = (qs.map fun q => .ok q.answer) ∧
      ((Cache.session { capacity := 2 } qs).1.size : Int) ≤ 2 :=
  session_answers (by decide) _

end Cache

end LintRepair.Lexical
