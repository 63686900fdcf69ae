/-
A cache of contexts for one text at a time.

* `Cache`: the contexts found so far, the oldest first, and how many are kept;
* `Cache.classify`: the context at an offset, looked up or found;
* `Cache.position`: the context at a line and a column;
* `Cache.zone`: the verdict on the position of a diagnostic.

A question about another text empties the cache. An answer is the same with
and without the cache; `Sound` is the invariant behind that.
-/
import LintRepair.Keyed
import LintRepair.Lexical.Context

namespace LintRepair.Lexical

open Text

/-- The contexts found so far in a text. -/
structure Cache where
  /-- How many contexts are kept. -/
  capacity : Int
  text? : Option Text := none
  /-- The contexts by offset, the oldest first. -/
  found : List (Nat × Context) := []

/-- A question that a cache without room cannot answer. -/
inductive CacheFault
  | noRoom
  deriving DecidableEq, Repr

namespace Cache

/-- The number of contexts in the cache. -/
def size (c : Cache) : Nat := c.found.length

/-- The cache without contexts. -/
def clear (c : Cache) : Cache := { c with text? := none, found := [] }

/-- The cache for questions about a text. -/
def turnTo (c : Cache) (t : Text) : Cache :=
  if c.text? = some t then c else { c with text? := some t, found := [] }

/-- The contexts with one more, of which the oldest goes if there is no room;
none if nothing can go. -/
def remember (c : Cache) (offset : Nat) (ctx : Context) : Option Cache :=
  if (c.size : Int) < c.capacity then some { c with found := c.found ++ [(offset, ctx)] }
  else
    match c.found with
    | [] => none
    | _ :: rest => some { c with found := rest ++ [(offset, ctx)] }

/-- The context at an offset, and the cache that remembers it. -/
def classify (c : Cache) (t : Text) (offset : Int) : Cache × Except CacheFault Context :=
  let c := c.turnTo t
  let i := clampOffset t offset
  match c.found.lookup i with
  | some ctx => (c, .ok ctx)
  | none =>
    let ctx := contextAt t i
    match c.remember i ctx with
    | some c => (c, .ok ctx)
    | none => (c, .error .noRoom)

/-- The context at a position, or why there is no such position, and the cache
after it. -/
def position (c : Cache) (t : Text) (line column : Int) :
    Cache × Except CacheFault (Except PositionFault Context) :=
  match absoluteOffset t line column with
  | .error fault => (c, .ok (.error fault))
  | .ok offset => ((c.classify t offset).1, (c.classify t offset).2.map .ok)

/-- The verdict on the position of a diagnostic, and the cache after it. -/
def zone (c : Cache) (t : Text) (d : Diagnostic) : Cache × Except CacheFault Zone :=
  match absoluteOffset t d.line.value d.column.value with
  | .error fault => (c, .ok ⟨some (.position fault), none⟩)
  | .ok offset => ((c.classify t offset).1, (c.classify t offset).2.map zoneOf)

/-! ### The cache does not show -/

/-- Every remembered context is the one at its offset. -/
def Sound (c : Cache) : Prop :=
  ∀ t, c.text? = some t → ∀ i ctx, (i, ctx) ∈ c.found → ctx = contextAt t i

theorem sound_clear (c : Cache) : c.clear.Sound := by simp [Sound, clear]

theorem sound_turnTo {c : Cache} (h : c.Sound) (t : Text) : (c.turnTo t).Sound := by
  unfold turnTo
  split
  · exact h
  · simp [Sound]

theorem text?_turnTo (c : Cache) (t : Text) : (c.turnTo t).text? = some t := by
  unfold turnTo
  split
  · assumption
  · rfl

/-- A cached answer is the answer found anew. -/
theorem classify_eq {c : Cache} (h : c.Sound) (t : Text) (offset : Int) (ctx : Context)
    (ok : (c.classify t offset).2 = .ok ctx) : ctx = contextAt t (clampOffset t offset) := by
  unfold classify at ok
  simp only at ok
  split at ok
  · next hl =>
    cases ok
    exact sound_turnTo h t t (text?_turnTo c t) _ _ (Keyed.mem_of_lookup hl)
  · split at ok <;> cases ok
    rfl

end Cache

end LintRepair.Lexical
