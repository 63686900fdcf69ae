/-
The keys of a TOML document.

* `Value.Orderly`: no object in a value uses a name twice; `Nodes.Orderly`: the same of
  the tables of a document while it is read;
* `keeps_insert`, `declareTable_orderly`, `declareItem_orderly`: what each line does
  keeps that;
* `read_orderly`: the fields of a document have it.
-/
import LintRepair.Proofs.Keyed
import LintRepair.Proofs.Outcome
import LintRepair.Toml.Reader
import Mathlib.Tactic.Common

namespace LintRepair

namespace Json

/-- No object in a value uses a name twice. -/
inductive Value.Orderly : Value → Prop
  | null : Orderly .null
  | bool (b : Bool) : Orderly (.bool b)
  | int (n : Int) : Orderly (.int n)
  | float (x : Float) : Orderly (.float x)
  | string (s : String) : Orderly (.string s)
  | moment (form : Moment) (text : String) : Orderly (.moment form text)
  | array {items : List Value} (each : ∀ v ∈ items, Orderly v) : Orderly (.array items)
  | object {fields : Fields} (distinct : Keyed.Distinct fields)
      (each : ∀ f ∈ fields, Orderly f.2) : Orderly (.object fields)

end Json

namespace Toml

open Json

variable {n : Node} {ns after : Nodes} {path : Path} {v : Value} {room : Nat}

/-! ### Tables -/

/-- No table at or below a node uses a key twice. -/
inductive Node.Orderly : Node → Prop
  | leaf {v : Value} (h : v.Orderly) : Orderly (.leaf v)
  | table {children : Nodes} (origin : Origin) (distinct : children.Distinct)
      (each : ∀ e ∈ children, Orderly e.2) : Orderly (.table origin children)
  | items {tables : List Nodes} (distinct : ∀ t ∈ tables, Keyed.Distinct t)
      (each : ∀ t ∈ tables, ∀ e ∈ t, Orderly e.2) : Orderly (.items tables)

/-- No table uses a key twice. -/
structure Nodes.Orderly (ns : Nodes) : Prop where
  distinct : ns.Distinct
  each : ∀ e ∈ ns, e.2.Orderly

lemma Nodes.orderly_nil : Nodes.Orderly [] := ⟨List.nodup_nil, by simp⟩

lemma Node.orderly_table (h : Nodes.Orderly ns) (origin : Origin) :
    (Node.table origin ns).Orderly := .table origin h.distinct h.each

lemma Node.orderly_items {tables : List Nodes} (h : ∀ t ∈ tables, Nodes.Orderly t) :
    (Node.items tables).Orderly :=
  .items (fun t among => (h t among).distinct) fun t among => (h t among).each

namespace Nodes.Orderly

lemma put (h : Nodes.Orderly ns) (own : n.Orderly) (key : String) :
    Nodes.Orderly (Keyed.put key n ns) :=
  ⟨h.distinct.put key n,
    Keyed.forall_mem_put (P := fun e : String × Node => e.2.Orderly) h.each own⟩

lemma lookup (h : Nodes.Orderly ns) {key : String} (found : ns.lookup key = some n) :
    n.Orderly :=
  h.each _ (Keyed.mem_of_lookup found)

lemma of_table (h : Nodes.Orderly ns) {key : String} {origin : Origin} {t : Nodes}
    (found : ns.lookup key = some (.table origin t)) : Nodes.Orderly t := by
  cases h.lookup found with
  | table _ distinct each => exact ⟨distinct, each⟩

lemma of_items (h : Nodes.Orderly ns) {key : String} {ts : List Nodes}
    (found : ns.lookup key = some (.items ts)) : ∀ t ∈ ts, Nodes.Orderly t := by
  cases h.lookup found with
  | items distinct each => exact fun t among => ⟨distinct t among, each t among⟩

end Nodes.Orderly

/-! ### Values -/

lemma fieldsOf_eq (ns : Nodes) : fieldsOf ns = ns.map fun e => (e.1, e.2.value) := by
  induction ns with
  | nil => rfl
  | cons e rest ih =>
      obtain ⟨k, n⟩ := e
      rw [fieldsOf, ih, List.map_cons]

lemma itemsOf_eq (ts : List Nodes) : itemsOf ts = ts.map fun t => .object (fieldsOf t) := by
  induction ts with
  | nil => rfl
  | cons t rest ih => rw [itemsOf, ih, List.map_cons]

/-- The fields of a table have its keys. -/
lemma orderly_fieldsOf (distinct : ns.Distinct) (each : ∀ e ∈ ns, e.2.value.Orderly) :
    (Value.object (fieldsOf ns)).Orderly := by
  rw [fieldsOf_eq]
  refine .object ?_ fun f among => ?_
  · rw [Keyed.Distinct, List.map_map]
    exact distinct
  · obtain ⟨e, stands, rfl⟩ := List.mem_map.mp among
    exact each e stands

lemma Node.Orderly.value (h : n.Orderly) : n.value.Orderly := by
  induction h with
  | leaf own =>
      rw [Node.value]
      exact own
  | table _ distinct _ ih =>
      rw [Node.value]
      exact orderly_fieldsOf distinct ih
  | items distinct _ ih =>
      rw [Node.value, itemsOf_eq]
      refine .array fun v among => ?_
      obtain ⟨t, stands, rfl⟩ := List.mem_map.mp among
      exact orderly_fieldsOf (distinct t stands) (ih t stands)

lemma Nodes.Orderly.value (h : Nodes.Orderly ns) : (Value.object (fieldsOf ns)).Orderly :=
  orderly_fieldsOf h.distinct fun e among => (h.each e among).value

/-! ### Lines -/

/-- A change leaves tables orderly if it finds them so. -/
def Keeps (change : Nodes → Option Nodes) : Prop :=
  ∀ ns after, Nodes.Orderly ns → change ns = some after → Nodes.Orderly after

lemma forall_of_changeLast? {α : Type} {P : α → Prop} {change : α → Option α}
    {l after : List α} (keeps : ∀ a b, P a → change a = some b → P b) (all : ∀ a ∈ l, P a)
    (changed : changeLast? change l = some after) : ∀ a ∈ after, P a := by
  induction l generalizing after with
  | nil => cases changed
  | cons a rest ih =>
      rw [List.forall_mem_cons] at all
      cases rest with
      | nil =>
          obtain ⟨b, own, rfl⟩ := Option.map_eq_some_iff.mp changed
          simpa using keeps a b all.1 own
      | cons a' rest =>
          obtain ⟨others, later, rfl⟩ := Option.map_eq_some_iff.mp changed
          exact List.forall_mem_cons.mpr ⟨all.1, ih all.2 later⟩

/-- A change of the table at a path. -/
lemma keeps_changeAt {change : Nodes → Option Nodes} (keeps : Keeps change) (path : Path) :
    Keeps (changeAt path change) := by
  induction path with
  | nil => exact keeps
  | cons key rest ih =>
      intro ns after h changed
      rw [changeAt] at changed
      split at changed
      · obtain ⟨t, inner, rfl⟩ := Option.map_eq_some_iff.mp changed
        exact h.put (Node.orderly_table (ih [] t Nodes.orderly_nil inner) _) key
      · next origin t found =>
        obtain ⟨t', inner, rfl⟩ := Option.map_eq_some_iff.mp changed
        exact h.put (Node.orderly_table (ih t t' (h.of_table found) inner) _) key
      · next ts found =>
        obtain ⟨ts', inner, rfl⟩ := Option.map_eq_some_iff.mp changed
        exact h.put (Node.orderly_items (forall_of_changeLast? ih (h.of_items found) inner)) key
      · cases changed

lemma keeps_declareKey (key : String) : Keeps (declareKey key) := by
  intro ns after h declared
  rw [declareKey] at declared
  split at declared
  · cases declared
    exact h.put (Node.orderly_table Nodes.orderly_nil _) key
  · next t found =>
    cases declared
    exact h.put (Node.orderly_table (h.of_table found) _) key
  · cases declared

lemma keeps_appendKey (key : String) : Keeps (appendKey key) := by
  intro ns after h appended
  rw [appendKey] at appended
  split at appended
  · cases appended
    exact h.put (Node.orderly_items (by simpa using Nodes.orderly_nil)) key
  · next ts found =>
    cases appended
    refine h.put (Node.orderly_items fun t among => ?_) key
    rcases List.mem_append.mp among with among | among
    · exact h.of_items found t among
    · rw [List.mem_singleton.mp among]
      exact Nodes.orderly_nil
  · cases appended

lemma declareTable_orderly (h : Nodes.Orderly ns) (declared : declareTable path ns = some after) :
    Nodes.Orderly after := by
  obtain ⟨key, -, changed⟩ := Option.bind_eq_some_iff.mp declared
  exact keeps_changeAt (keeps_declareKey key) _ ns after h changed

lemma declareItem_orderly (h : Nodes.Orderly ns) (declared : declareItem path ns = some after) :
    Nodes.Orderly after := by
  obtain ⟨key, -, changed⟩ := Option.bind_eq_some_iff.mp declared
  exact keeps_changeAt (keeps_appendKey key) _ ns after h changed

/-- A value under a dotted key. -/
lemma keeps_insert (own : v.Orderly) (place : Nat) (path : Path) :
    Keeps (insert place path v) := by
  induction path with
  | nil =>
      intro ns after _ inserted
      cases inserted
  | cons part rest ih =>
      intro ns after h inserted
      cases rest with
      | nil =>
          rw [insert] at inserted
          split at inserted
          · cases inserted
            exact h.put (.leaf own) part
          · cases inserted
      | cons next rest =>
          have into : ∀ t, Nodes.Orderly t →
              (insert place (next :: rest) v t).map
                (fun t => Keyed.put part (.table (.dotted place) t) ns) = some after →
              Nodes.Orderly after := by
            intro t orderly inserted
            obtain ⟨t', inner, rfl⟩ := Option.map_eq_some_iff.mp inserted
            exact h.put (Node.orderly_table (ih t t' orderly inner) _) part
          rw [insert] at inserted
          · split at inserted
            · exact into [] Nodes.orderly_nil inserted
            · next t found => exact into t (h.of_table found) inserted
            · next t found =>
              split at inserted
              · exact into t (h.of_table found) inserted
              · cases inserted
            · cases inserted
          · simp

/-! ### Reading -/

lemma of_found {α : Type} {a? : Option α} {a : α} (read : found a? = .ok a) : a? = some a := by
  cases a? with
  | none => cases read
  | some b =>
      cases read
      rfl

lemma orderly_of_moment? {t rest : Text} (read : moment? t = some (some (v, rest))) :
    v.Orderly := by
  rw [moment?] at read
  split at read
  · split at read
    · cases read
    · dsimp only at read
      split at read
      all_goals
        cases read
        exact .moment _ _
  · obtain ⟨_, _, same⟩ := Option.map_eq_some_iff.mp read
    cases same
    exact .moment _ _

lemma orderly_of_based {base : Nat} {t rest : Text} (read : based base t = some (v, rest)) :
    v.Orderly := by
  obtain ⟨_, _, read⟩ := Option.bind_eq_some_iff.mp read
  obtain ⟨_, _, read⟩ := Option.bind_eq_some_iff.mp read
  cases read
  exact .int _

lemma orderly_of_decimal {t rest : Text} (read : decimal t = .ok (v, rest)) : v.Orderly := by
  rw [decimal] at read
  obtain ⟨⟨ds, behind⟩, -, read⟩ := exists_of_bind_eq_ok read
  -- the sign and the parts behind the digits, then whether the number is whole
  iterate 4 split at read
  · obtain ⟨n, -, read⟩ := exists_of_bind_eq_ok read
    cases read
    exact .int _
  · cases read
    exact .float _

lemma orderly_of_number {t rest : Text} (read : number t = .ok (v, rest)) : v.Orderly := by
  unfold number at read
  dsimp only at read
  split at read
  · next special =>
    cases read
    rw [Option.orElse_eq_orElse, Option.orElse_eq_or] at special
    rcases Option.or_eq_some_iff.mp special with based | ⟨-, word⟩
    · split at based
      · exact orderly_of_based based
      · exact orderly_of_based based
      · exact orderly_of_based based
      · cases based
    · obtain ⟨_, _, same⟩ := Option.map_eq_some_iff.mp word
      cases same
      exact .float _
  · exact orderly_of_decimal read

/-- What has been read of an array or an inline table is orderly. -/
def Expect.Orderly : Expect → Prop
  | .value => True
  | .items sofar => ∀ v ∈ sofar, v.Orderly
  | .fields sofar => Nodes.Orderly sofar

/-- With so much fuel, every value is read orderly. -/
def ReadsOrderly (fuel : Nat) : Prop :=
  ∀ {room : Nat} {e : Expect} {t : Text} {v : Value} {rest : Text}, e.Orderly →
    readNext room fuel e t = .ok (v, rest) → v.Orderly

namespace ReadsOrderly

variable {fuel room : Nat} {t rest : Text}

lemma value (ih : ReadsOrderly fuel) (read : readNext room (fuel + 1) .value t = .ok (v, rest)) :
    v.Orderly := by
  unfold readNext at read
  dsimp only at read
  split at read
  · cases read
    exact .bool _
  split at read
  · cases read
    exact .bool _
  split at read
  · obtain ⟨_, _, same⟩ := Option.map_eq_some_iff.mp (of_found read)
    cases same
    exact .string _
  · obtain ⟨_, _, same⟩ := Option.map_eq_some_iff.mp (of_found read)
    cases same
    exact .string _
  · obtain ⟨_, -, read⟩ := exists_of_bind_eq_ok read
    obtain ⟨_, -, read⟩ := exists_of_bind_eq_ok read
    split at read
    · cases read
      exact .array (by simp)
    · exact ih (by simp [Expect.Orderly]) read
  · obtain ⟨_, -, read⟩ := exists_of_bind_eq_ok read
    split at read
    · cases read
      exact .object List.nodup_nil (by simp)
    · exact ih (e := .fields []) Nodes.orderly_nil read
  · split at read
    · next special =>
      exact orderly_of_moment? (special.trans (congrArg some (of_found read)))
    · exact orderly_of_number read

/-- An item is read, then the end of the array or the items behind a comma. -/
lemma items {sofar : List Value} (ih : ReadsOrderly fuel) (h : ∀ v ∈ sofar, v.Orderly)
    (read : readNext room (fuel + 1) (.items sofar) t = .ok (v, rest)) : v.Orderly := by
  unfold readNext at read
  obtain ⟨⟨item, _⟩, first, read⟩ := exists_of_bind_eq_ok read
  have more : ∀ v ∈ item :: sofar, v.Orderly :=
    List.forall_mem_cons.mpr ⟨ih (e := .value) trivial first, h⟩
  have closed : (Value.array (item :: sofar).reverse).Orderly :=
    .array fun v among => more v (List.mem_reverse.mp among)
  obtain ⟨_, -, read⟩ := exists_of_bind_eq_ok read
  split at read
  · cases read
    exact closed
  · obtain ⟨_, -, read⟩ := exists_of_bind_eq_ok read
    split at read
    · cases read
      exact closed
    · exact ih (e := .items _) more read
  · cases read

/-- A value is read and put under its path, then the end of the table or the fields behind a
comma. -/
lemma fields {sofar : Nodes} (ih : ReadsOrderly fuel) (h : Nodes.Orderly sofar)
    (read : readNext room (fuel + 1) (.fields sofar) t = .ok (v, rest)) : v.Orderly := by
  unfold readNext at read
  obtain ⟨⟨path, _⟩, -, read⟩ := exists_of_bind_eq_ok read
  obtain ⟨_, -, read⟩ := exists_of_bind_eq_ok read
  obtain ⟨⟨item, _⟩, first, read⟩ := exists_of_bind_eq_ok read
  obtain ⟨next, inserted, read⟩ := exists_of_bind_eq_ok read
  have more : Nodes.Orderly next :=
    keeps_insert (ih (e := .value) trivial first) 0 path sofar next h (of_found inserted)
  split at read
  · cases read
    exact more.value
  · exact ih (e := .fields _) more read
  · cases read

end ReadsOrderly

/-- A value is read orderly, by induction on what bounds the number of tokens. -/
lemma orderly_of_readNext (fuel : Nat) : ReadsOrderly fuel := by
  induction fuel with
  | zero =>
      intro _ _ _ _ _ _ read
      cases read
  | succ fuel ih =>
      intro room e t v rest h read
      cases e with
      | value => exact ih.value read
      | items sofar => exact ih.items h read
      | fields sofar => exact ih.fields h read

lemma orderly_of_header {d after : Document} {t rest : Text} (h : d.nodes.Orderly)
    (read : header d t = some (after, rest)) : after.nodes.Orderly := by
  unfold header at read
  split at read
  all_goals
    obtain ⟨⟨path, _⟩, -, read⟩ := Option.bind_eq_some_iff.mp read
    obtain ⟨nodes, declared, read⟩ := Option.bind_eq_some_iff.mp read
  · obtain ⟨_, -, read⟩ := Option.bind_eq_some_iff.mp read
    obtain ⟨_, -, read⟩ := Option.bind_eq_some_iff.mp read
    cases read
    exact declareItem_orderly h declared
  · obtain ⟨_, -, read⟩ := Option.bind_eq_some_iff.mp read
    cases read
    exact declareTable_orderly h declared

lemma orderly_of_statement {d after : Document} {t rest : Text} (h : d.nodes.Orderly)
    (read : statement d t = .ok (after, rest)) : after.nodes.Orderly := by
  unfold statement at read
  split at read
  · exact orderly_of_header h (of_found read)
  · obtain ⟨⟨path, _⟩, -, read⟩ := exists_of_bind_eq_ok read
    obtain ⟨_, -, read⟩ := exists_of_bind_eq_ok read
    obtain ⟨⟨v, _⟩, first, read⟩ := exists_of_bind_eq_ok read
    obtain ⟨nodes, changed, read⟩ := exists_of_bind_eq_ok read
    cases read
    have own : v.Orderly := orderly_of_readNext _ (e := .value) trivial first
    exact keeps_changeAt (keeps_insert own _ _) _ _ _ h (of_found changed)

lemma orderly_of_documentFrom {fuel : Nat} {d after : Document} {t : Text}
    (h : d.nodes.Orderly) (read : documentFrom fuel d t = .ok after) : after.nodes.Orderly := by
  induction fuel generalizing d t with
  | zero => cases read
  | succ fuel ih =>
      rw [documentFrom] at read
      split at read
      · cases read
        exact h
      · exact ih h read
      · dsimp only at read
        split at read
        all_goals
          obtain ⟨⟨d', rest⟩, line, read⟩ := exists_of_bind_eq_ok read
          obtain ⟨_, -, read⟩ := exists_of_bind_eq_ok read
        · cases line
          split at read
          · cases read
            exact h
          · exact ih h read
          · cases read
        · have next := orderly_of_statement h line
          split at read
          · cases read
            exact next
          · exact ih next read
          · cases read

/-- **A document uses no key twice**, in no table and in no inline table. -/
lemma read_orderly {t : Text} {fs : Fields} (document : read t = .ok fs) :
    (Value.object fs).Orderly := by
  obtain ⟨d, lines, rfl⟩ := exists_of_map_eq_ok document
  exact (orderly_of_documentFrom Nodes.orderly_nil lines).value

end Toml

end LintRepair
