/-
What a registry answers after any operations on it.

* `Operation`, `afterOperations`: the operations on a registry, one after another;
* `Stands`: which fixer stands for a rule, and whether it is switched on, told from
  the operations alone: the one registered when the rule was vacant last;
* `find?_afterOperations`: it is the entry of the rule;
* `distinct_afterOperations`: no rule has two entries;
* `Agrees`, `afterOperations_agrees`: so every list and every figure that the registry
  gives is about the fixers that stand.
-/
import LintRepair.Proofs.Keyed
import LintRepair.Repair.Registry
import Mathlib.Algebra.GroupWithZero.Nat
import Mathlib.Data.List.Induction
import Mathlib.Tactic.Common

namespace LintRepair.Repair

variable {f g : Fixer} {rule : String} {b c : Bool}

/-! ### Operations -/

/-- One operation on a registry. -/
inductive Operation
  | register (f : Fixer)
  /-- A value of some other kind is to be registered. -/
  | registerOther (kind : String)
  | unregister (rule : String)
  | setEnabled (rule : String) (enabled : Bool)
  | clear

variable {op : Operation} {ops : List Operation}

namespace Operation

/-- Whether an operation takes the fixer of a rule away. -/
def removes (rule : String) : Operation → Bool
  | unregister other => other == rule
  | clear => true
  | register _ | registerOther _ | setEnabled _ _ => false

/-- Whether an operation switches a rule on or off, and which. -/
def switch? (rule : String) : Operation → Option Bool
  | setEnabled other enabled => if other = rule then some enabled else none
  | register _ | registerOther _ | unregister _ | clear => none

/-- The entry that an operation makes for a rule without one. -/
def makes? (rule : String) : Operation → Option Entry
  | register f => if f.rule = rule ∧ rule ≠ "" then some ⟨f, true⟩ else none
  | registerOther _ | unregister _ | setEnabled _ _ | clear => none

lemma makes?_eq_some_iff :
    op.makes? rule = some ⟨f, b⟩ ↔ op = .register f ∧ f.rule = rule ∧ rule ≠ "" ∧ b = true := by
  cases op with
  | register g =>
      rw [makes?]
      split
      · next asked =>
        obtain ⟨rfl, named⟩ := asked
        simp only [Option.some.injEq, Entry.mk.injEq, register.injEq]
        constructor
        · rintro ⟨rfl, rfl⟩
          exact ⟨rfl, rfl, named, rfl⟩
        · rintro ⟨rfl, -, -, rfl⟩
          exact ⟨rfl, rfl⟩
      · next other =>
        simp only [reduceCtorEq, register.injEq, false_iff]
        rintro ⟨rfl, own, named, -⟩
        exact other ⟨own, named⟩
  | registerOther | unregister | setEnabled | clear => simp [makes?]

end Operation

/-- Every fixer that was registered for a rule has been taken away since. -/
def Vacant (ops : List Operation) (rule : String) : Prop :=
  ∀ before f after, ops = before ++ .register f :: after → f.rule = rule →
    ∃ op ∈ after, op.removes rule = true

/-- The fixer that stands for a rule: it was registered when the rule was vacant, and
has not been taken away since. It is switched on until the rule is switched for the
first time, and then as it was switched last. -/
structure Stands (ops : List Operation) (rule : String) (f : Fixer) (enabled : Bool) : Prop where
  named : rule ≠ ""
  own : f.rule = rule
  registered : ∃ before after, ops = before ++ .register f :: after ∧ Vacant before rule ∧
    (∀ op ∈ after, op.removes rule = false) ∧
    enabled = ((after.filterMap (Operation.switch? rule)).getLast?).getD true

lemma vacant_nil (rule : String) : Vacant [] rule := by
  intro before f after parts
  simp at parts

/-- After one more operation a rule is vacant if its fixer is taken away, or if it was
vacant and no fixer has been registered for it. -/
lemma vacant_concat (named : rule ≠ "") : Vacant (ops ++ [op]) rule ↔
    op.removes rule = true ∨ Vacant ops rule ∧ op.makes? rule = none := by
  constructor
  · intro vacant
    by_cases removes : op.removes rule = true
    · exact .inl removes
    refine .inr ⟨fun before f after parts own => ?_, ?_⟩
    · obtain ⟨op', among, removes'⟩ := vacant before f (after ++ [op]) (by simp [parts]) own
      rcases List.mem_append.mp among with among | among
      · exact ⟨op', among, removes'⟩
      · rw [List.mem_singleton.mp among] at removes'
        exact absurd removes' removes
    · refine Option.eq_none_iff_forall_ne_some.mpr fun e made => ?_
      obtain ⟨same, own, -⟩ := Operation.makes?_eq_some_iff.mp made
      obtain ⟨op', among, -⟩ := vacant ops e.fixer [] (by rw [same]) own
      cases among
  · rintro cases' before f after parts own
    rcases List.eq_nil_or_concat' after with rfl | ⟨after, last, rfl⟩
    · obtain ⟨rfl, same⟩ := List.append_inj' parts rfl
      obtain rfl := List.singleton_inj.mp same
      have made : (Operation.register f).makes? rule = some ⟨f, true⟩ :=
        Operation.makes?_eq_some_iff.mpr ⟨rfl, own, named, rfl⟩
      rcases cases' with removes | ⟨-, none⟩
      · cases removes
      · rw [made] at none
        cases none
    · rw [← List.cons_append, ← List.append_assoc] at parts
      obtain ⟨rfl, same⟩ := List.append_inj' parts rfl
      rcases cases' with removes | ⟨vacant, -⟩
      · exact ⟨op, by simp [List.singleton_inj.mp same], removes⟩
      · obtain ⟨op', among, removes⟩ := vacant before f after rfl own
        exact ⟨op', List.mem_append_left _ among, removes⟩

/-- After one more operation a fixer stands for a rule if it is not taken away, and
stood there or has been registered for the vacant rule. -/
lemma stands_concat : Stands (ops ++ [op]) rule f b ↔ op.removes rule = false ∧
    ((∃ c, Stands ops rule f c ∧ b = (op.switch? rule).getD c) ∨
      Vacant ops rule ∧ op.makes? rule = some ⟨f, b⟩) := by
  constructor
  · rintro ⟨named, own, before, after, parts, vacant, kept, switched⟩
    rcases List.eq_nil_or_concat' after with rfl | ⟨after, last, rfl⟩
    · obtain ⟨rfl, same⟩ := List.append_inj' parts rfl
      obtain rfl := List.singleton_inj.mp same
      exact ⟨rfl, .inr ⟨vacant, Operation.makes?_eq_some_iff.mpr ⟨rfl, own, named, switched⟩⟩⟩
    · rw [← List.cons_append, ← List.append_assoc] at parts
      obtain ⟨rfl, same⟩ := List.append_inj' parts rfl
      obtain rfl := List.singleton_inj.mp same
      refine ⟨kept op (by simp), .inl ⟨_, ⟨named, own, before, after, rfl, vacant,
        fun op' among => kept op' (List.mem_append_left _ among), rfl⟩, ?_⟩⟩
      rw [switched, List.filterMap_append]
      cases switch : op.switch? rule <;> simp [switch]
  · rintro ⟨kept, ⟨c, ⟨named, own, before, after, rfl, vacant, kept', rfl⟩, rfl⟩ |
      ⟨vacant, made⟩⟩
    · refine ⟨named, own, before, after ++ [op], by simp, vacant, fun op' among => ?_, ?_⟩
      · rcases List.mem_append.mp among with among | among
        · exact kept' op' among
        · rw [List.mem_singleton.mp among]
          exact kept
      · rw [List.filterMap_append]
        cases switch : op.switch? rule <;> simp [switch]
    · obtain ⟨rfl, own, named, rfl⟩ := Operation.makes?_eq_some_iff.mp made
      exact ⟨named, own, ops, [], rfl, vacant, by simp, rfl⟩

namespace Registry

variable {r : Registry}

/-- The registry after an operation, with the answer: whether a fixer was registered, or
whether there was one for the rule; or why a registration is refused. -/
def operate (r : Registry) : Operation → Registry × Except RegistrationFault Bool
  | .register f =>
    match r.register f with
    | .ok (after, added) => (after, .ok added)
    | .error fault => (r, .error fault)
  | .registerOther kind => (r, .error (.notFixer kind))
  | .unregister rule => (r.unregister rule, .ok (r.isRegistered rule))
  | .setEnabled rule enabled => (r.setEnabled rule enabled, .ok (r.isRegistered rule))
  | .clear => (empty, .ok true)

/-- A new registry after some operations. -/
def afterOperations (ops : List Operation) : Registry :=
  ops.foldl (fun r op => (r.operate op).1) empty

lemma afterOperations_concat (ops : List Operation) (op : Operation) :
    afterOperations (ops ++ [op]) = ((afterOperations ops).operate op).1 :=
  List.foldl_concat ..

/-! ### The entry of a rule -/

/-- A registration is accepted if the fixer names a rule that has no entry, and then adds
its entry behind all others; else it changes nothing. -/
lemma operate_register (r : Registry) (f : Fixer) :
    (f.rule ≠ "" ∧ r.find? f.rule = none ∧
      r.operate (.register f) = (⟨r.entries ++ [(f.rule, ⟨f, true⟩)]⟩, .ok true)) ∨
    ((f.rule = "" ∨ (r.find? f.rule).isSome = true) ∧
      (r.operate (.register f)).1 = r ∧ (r.operate (.register f)).2 ≠ .ok true) := by
  rw [operate, register]
  by_cases unnamed : f.rule = ""
  · simp [unnamed]
  by_cases taken : r.isRegistered f.rule = true
  · exact .inr ⟨.inr taken, by simp [unnamed, taken]⟩
  · exact .inl ⟨unnamed, by simpa [isRegistered] using taken, by simp [unnamed, taken]⟩

lemma find?_append (r : Registry) (name rule : String) (e : Entry) :
    (Registry.mk (r.entries ++ [(name, e)])).find? rule =
      (r.find? rule).or (if rule = name then some e else none) := by
  obtain ⟨es⟩ := r
  induction es with
  | nil => simp [find?, Keyed.lookup_cons]
  | cons first rest ih =>
      rw [List.cons_append, find?_cons, find?_cons, ih]
      split <;> simp

/-- **One operation.** The entry of a rule goes if its fixer is taken away. Else it
stays, as it may be switched, and a rule without one gets that of a fixer that is
registered for it. -/
lemma find?_operate (r : Registry) (op : Operation) (rule : String) :
    (r.operate op).1.find? rule =
      if op.removes rule then none
      else ((r.find? rule).map fun e => { e with enabled := (op.switch? rule).getD e.enabled }).or
        (op.makes? rule) := by
  cases op with
  | register f =>
      simp only [Operation.removes, Operation.switch?, Operation.makes?, Option.getD_none,
        Bool.false_eq_true, if_false, Option.map_id_fun', id]
      rcases operate_register r f with ⟨named, -, same⟩ | ⟨refused, same, -⟩
      · rw [same, find?_append]
        by_cases here : f.rule = rule
        · simp [here, here ▸ named]
        · simp [here, Ne.symm here]
      · rw [same]
        split
        · next asked =>
          obtain ⟨rfl, named⟩ := asked
          obtain ⟨e, found⟩ := Option.isSome_iff_exists.mp (refused.resolve_left named)
          rw [found, Option.some_or]
        · rw [Option.or_none]
  | registerOther kind => simp [operate, Operation.removes, Operation.switch?, Operation.makes?]
  | unregister other =>
      rw [operate, find?_unregister]
      by_cases here : rule = other
      · simp [here, Operation.removes]
      · simp [here, Ne.symm here, Operation.removes, Operation.switch?, Operation.makes?]
  | setEnabled other enabled =>
      rw [operate, setEnabled, find?_update]
      by_cases here : rule = other
      · simp [here, Operation.removes, Operation.switch?, Operation.makes?]
      · simp [here, Ne.symm here, Operation.removes, Operation.switch?, Operation.makes?]
  | clear => simp [operate, find?_empty, Operation.removes]

/-- After any operations the entry of a rule holds the fixer that stands for it, and a
rule without an entry is vacant, unless it is no name at all. -/
lemma find?_afterOperations (ops : List Operation) (rule : String) :
    (∀ f b, (afterOperations ops).find? rule = some ⟨f, b⟩ ↔ Stands ops rule f b) ∧
      (rule ≠ "" → ((afterOperations ops).find? rule = none ↔ Vacant ops rule)) := by
  induction ops using List.reverseRecOn with
  | nil =>
      refine ⟨fun f b => ?_, fun _ => ?_⟩
      · simp only [afterOperations, List.foldl_nil, find?_empty, reduceCtorEq, false_iff]
        rintro ⟨-, -, before, after, parts, -⟩
        simp at parts
      · simp [afterOperations, find?_empty, vacant_nil]
  | append_singleton ops op ih =>
      obtain ⟨stands, vacant⟩ := ih
      rw [afterOperations_concat, find?_operate]
      refine ⟨fun f b => ?_, fun named => ?_⟩
      · rw [stands_concat]
        by_cases removes : op.removes rule = true
        · simp [removes]
        simp only [Bool.eq_false_iff.mpr removes, true_and, ← stands]
        cases found : (afterOperations ops).find? rule with
        | some e =>
            -- the rule is not vacant, so that nothing can be registered for it
            have taken : ¬ (Vacant ops rule ∧ op.makes? rule = some ⟨f, b⟩) := by
              rintro ⟨none, made⟩
              obtain ⟨-, -, named, -⟩ := Operation.makes?_eq_some_iff.mp made
              rw [(vacant named).mpr none] at found
              cases found
            obtain ⟨g, c⟩ := e
            rw [or_iff_left taken, Option.map_some, Option.some_or]
            constructor
            · intro same
              cases same
              exact ⟨c, rfl, rfl⟩
            · rintro ⟨c, same, rfl⟩
              cases same
              rfl
        | none =>
            have free : op.makes? rule = some ⟨f, b⟩ → Vacant ops rule := fun made =>
              (vacant (Operation.makes?_eq_some_iff.mp made).2.2.1).mp found
            simpa using free
      · rw [vacant_concat named, ← vacant named]
        by_cases removes : op.removes rule = true <;> simp [removes]

/-! ### Lists and figures -/

/-- A list of names in their order, without repetitions, of the rules with a property. -/
structure Lists (names : List String) (P : String → Prop) : Prop where
  sorted : names.Pairwise (· < ·)
  mem : ∀ rule, rule ∈ names ↔ P rule

/-- So many rules have a property. -/
def Numbers (P : String → Prop) (n : Nat) : Prop :=
  ∃ names : List String, names.Nodup ∧ (∀ rule, rule ∈ names ↔ P rule) ∧ names.length = n

lemma lists_sorted {names : List String} {P : String → Prop} (nodup : names.Nodup)
    (mem : ∀ rule, rule ∈ names ↔ P rule) : Lists (sorted names) P := by
  have perm : (sorted names).Perm names := List.mergeSort_perm _ _
  refine ⟨?_, fun rule => perm.mem_iff.trans (mem rule)⟩
  have ordered : (sorted names).Pairwise fun a b => (!decide (b < a)) = true := by
    refine List.pairwise_mergeSort (fun a b c first second => ?_) (fun a b => ?_) names
    · simp only [Bool.not_eq_true', decide_eq_false_iff_not, String.not_lt] at first second ⊢
      exact String.le_trans first second
    · simp only [Bool.or_eq_true, Bool.not_eq_true', decide_eq_false_iff_not, String.not_lt]
      exact String.le_total a b
  refine (ordered.and (perm.nodup_iff.mpr nodup)).imp fun {a b} ⟨before, other⟩ => ?_
  rw [Bool.not_eq_true', decide_eq_false_iff_not, String.not_lt] at before
  by_contra behind
  exact other (String.le_antisymm before (String.not_lt.mp behind))

/-- The entries with a property are as many as the rules whose entry has it. -/
lemma numbers_countP (h : r.entries.Distinct) (p : Entry → Bool) :
    Numbers (fun rule => ∃ f b, r.find? rule = some ⟨f, b⟩ ∧ p ⟨f, b⟩ = true)
      (r.entries.countP (p ·.2)) := by
  refine ⟨(r.entries.filter (p ·.2)).map Prod.fst, h.filter _, fun rule => ?_, ?_⟩
  · simp only [List.mem_map, List.mem_filter]
    constructor
    · rintro ⟨⟨name, e⟩, ⟨among, has⟩, rfl⟩
      exact ⟨e.fixer, e.enabled, h.lookup_eq_some_iff.mpr among, has⟩
    · rintro ⟨f, b, found, has⟩
      exact ⟨(rule, ⟨f, b⟩), ⟨h.lookup_eq_some_iff.mp found, has⟩, rfl⟩
  · rw [List.length_map, List.countP_eq_length_filter]

lemma lookup_tally (name other : String) (t : List (String × Nat)) :
    ((tally name t).lookup other).getD 0 =
      (t.lookup other).getD 0 + if name = other then 1 else 0 := by
  induction t with
  | nil =>
      by_cases same : name = other
      · simp [tally, same]
      · simp [tally, Keyed.lookup_cons, same, Ne.symm same]
  | cons e rest ih =>
      obtain ⟨k, n⟩ := e
      rw [tally]
      by_cases here : k = name
      · subst here
        by_cases same : k = other
        · simp [same]
        · simp [Keyed.lookup_cons, same, Ne.symm same]
      · rw [if_neg (by simpa using here), Keyed.lookup_cons, Keyed.lookup_cons]
        by_cases same : other = k
        · simp [same, Ne.symm here]
        · rw [if_neg same, if_neg same, ih]

lemma sum_tally (name : String) (t : List (String × Nat)) :
    ((tally name t).map Prod.snd).sum = (t.map Prod.snd).sum + 1 := by
  induction t with
  | nil => rfl
  | cons e rest ih =>
      obtain ⟨k, n⟩ := e
      rw [tally]
      split
      · simp only [List.map_cons, List.sum_cons]
        omega
      · rw [List.map_cons, List.map_cons, List.sum_cons, List.sum_cons, ih, Nat.add_assoc]

/-- What is counted name by name is how often each name occurs, and in all how many names
there are. -/
lemma foldl_tally {α : Type} (name : α → String) (es : List α) (t : List (String × Nat)) :
    (∀ other, ((es.foldl (fun t e => tally (name e) t) t).lookup other).getD 0 =
      (t.lookup other).getD 0 + es.countP (name · = other)) ∧
    ((es.foldl (fun t e => tally (name e) t) t).map Prod.snd).sum =
      (t.map Prod.snd).sum + es.length := by
  induction es generalizing t with
  | nil => simp
  | cons e rest ih =>
      obtain ⟨counts, sum⟩ := ih (tally (name e) t)
      refine ⟨fun other => ?_, ?_⟩
      · rw [List.foldl_cons, counts, lookup_tally, List.countP_cons]
        simp only [decide_eq_true_eq]
        omega
      · rw [List.foldl_cons, sum, sum_tally, List.length_cons]
        omega

/-- No operation makes a second entry for a rule. -/
lemma distinct_operate (h : r.entries.Distinct) (op : Operation) :
    (r.operate op).1.entries.Distinct := by
  cases op with
  | register f =>
      rcases operate_register r f with ⟨-, free, same⟩ | ⟨-, same, -⟩
      · rw [same]
        exact h.concat free _
      · rwa [same]
  | registerOther kind => exact h
  | unregister rule => exact h.filter _
  | setEnabled rule enabled =>
      have kept : (r.setEnabled rule enabled).entries.map Prod.fst = r.entries.map Prod.fst := by
        rw [setEnabled, update, List.map_map]
        refine List.map_congr_left fun e _ => ?_
        rw [Function.comp_apply]
        split <;> rfl
      rw [operate, Keyed.Distinct, kept]
      exact h
  | clear => exact List.nodup_nil

lemma distinct_afterOperations (ops : List Operation) :
    (afterOperations ops).entries.Distinct := by
  induction ops using List.reverseRecOn with
  | nil => exact List.nodup_nil
  | append_singleton ops op ih =>
      rw [afterOperations_concat]
      exact distinct_operate ih op

/-! ### What a registry answers -/

/-- All that a registry answers is about certain fixers that stand for their rules. -/
structure Agrees (r : Registry) (stands : String → Fixer → Bool → Prop) : Prop where
  fixer? : ∀ rule f, r.fixer? rule = some f ↔ ∃ name, rule = some name ∧ stands name f true
  isFixable : ∀ rule, r.isFixable rule = true ↔ ∃ name f, rule = some name ∧ stands name f true
  isRegistered : ∀ rule, r.isRegistered rule = true ↔ ∃ f b, stands rule f b
  isEnabled : ∀ rule, r.isEnabled rule = true ↔ ∃ f, stands rule f true
  profile? : ∀ rule p, r.profile? rule = some p ↔
    ∃ f b, stands rule f b ∧ p = ⟨rule, f.kind, f.complexity, f.description, b⟩
  rules : Lists r.rules fun rule => ∃ f b, stands rule f b
  fixableRules : Lists r.fixableRules fun rule => ∃ f, stands rule f true
  valid : Lists r.audit.valid fun rule =>
    ∃ f b, stands rule f b ∧ f.complexity ∈ ["simple", "complex"]
  invalid : Lists r.audit.invalid fun rule =>
    ∃ f b, stands rule f b ∧ f.complexity ∉ ["simple", "complex"]
  parted : (r.audit.valid ++ r.audit.invalid).Perm r.rules
  total : Numbers (fun rule => ∃ f b, stands rule f b) r.counts.total
  enabled : Numbers (fun rule => ∃ f, stands rule f true) r.counts.enabled
  disabled : Numbers (fun rule => ∃ f, stands rule f false) r.counts.disabled
  switched : r.counts.enabled + r.counts.disabled = r.counts.total
  complexity : ∀ c, Numbers (fun rule => ∃ f b, stands rule f b ∧ f.complexity = c)
    ((r.counts.complexity.lookup c).getD 0)
  sum : (r.counts.complexity.map Prod.snd).sum = r.counts.total

/-- The fixer of a rule is that of its entry, if this is switched on. -/
lemma fixer?_eq_some_iff {asked : Option String} :
    r.fixer? asked = some f ↔ ∃ name, asked = some name ∧ r.find? name = some ⟨f, true⟩ := by
  rcases asked with - | rule
  · simp [fixer?]
  · rcases found : r.find? rule with - | ⟨g, - | -⟩ <;> simp [fixer?, found]

lemma profile?_eq_some_iff {p : Profile} : r.profile? rule = some p ↔
    ∃ f b, r.find? rule = some ⟨f, b⟩ ∧ p = ⟨rule, f.kind, f.complexity, f.description, b⟩ := by
  rcases found : r.find? rule with - | ⟨g, b⟩
  · simp [profile?, found]
  · constructor
    · intro asked
      rw [profile?, found] at asked
      exact ⟨g, b, rfl, (Option.some.inj asked).symm⟩
    · rintro ⟨f, c, same, rfl⟩
      cases same
      rw [profile?, found]
      rfl

/-- With one entry for each rule, the rules of the entries are those with an entry. -/
lemma mem_map_fst_entries_iff (distinct : r.entries.Distinct) (rule : String) :
    rule ∈ r.entries.map Prod.fst ↔ ∃ f b, r.find? rule = some ⟨f, b⟩ := by
  constructor
  · intro among
    obtain ⟨⟨name, e⟩, stands, rfl⟩ := List.mem_map.mp among
    exact ⟨e.fixer, e.enabled, distinct.lookup_eq_some_iff.mpr stands⟩
  · rintro ⟨f, b, found⟩
    exact List.mem_map_of_mem (distinct.lookup_eq_some_iff.mp found)

lemma lists_rules (distinct : r.entries.Distinct) :
    Lists r.rules fun rule => ∃ f b, r.find? rule = some ⟨f, b⟩ :=
  lists_sorted distinct (mem_map_fst_entries_iff distinct)

lemma lists_fixableRules (distinct : r.entries.Distinct) :
    Lists r.fixableRules fun rule => ∃ f, r.find? rule = some ⟨f, true⟩ := by
  refine lists_sorted (distinct.filter _) fun rule => ?_
  simp only [List.mem_map, List.mem_filter]
  constructor
  · rintro ⟨⟨name, ⟨f, b⟩⟩, ⟨stands, rfl⟩, rfl⟩
    exact ⟨f, distinct.lookup_eq_some_iff.mpr stands⟩
  · rintro ⟨f, found⟩
    exact ⟨_, ⟨distinct.lookup_eq_some_iff.mp found, rfl⟩, rfl⟩

section Audit

variable (own : ∀ rule f b, r.find? rule = some ⟨f, b⟩ → f.rule = rule)
include own

/-- With every fixer under its own rule, an entry is sound if the complexity is known. -/
lemma isSound_iff (rule : String) : r.isSound rule = true ↔
    ∃ f b, r.find? rule = some ⟨f, b⟩ ∧ f.complexity ∈ ["simple", "complex"] := by
  rw [isSound, Option.any_eq_true]
  constructor
  · rintro ⟨⟨f, b⟩, found, both⟩
    exact ⟨f, b, found, by simpa using (Bool.and_eq_true_iff.mp both).2⟩
  · rintro ⟨f, b, found, known⟩
    refine ⟨⟨f, b⟩, found, Bool.and_eq_true_iff.mpr ⟨by simp [own rule f b found], ?_⟩⟩
    simpa using known

lemma lists_valid (distinct : r.entries.Distinct) : Lists r.audit.valid fun rule =>
    ∃ f b, r.find? rule = some ⟨f, b⟩ ∧ f.complexity ∈ ["simple", "complex"] := by
  have rules := lists_rules distinct
  refine ⟨rules.sorted.filter _, fun rule => ?_⟩
  rw [audit, List.mem_filter, rules.mem, isSound_iff own]
  exact and_iff_right_of_imp fun ⟨f, b, found, _⟩ => ⟨f, b, found⟩

lemma lists_invalid (distinct : r.entries.Distinct) : Lists r.audit.invalid fun rule =>
    ∃ f b, r.find? rule = some ⟨f, b⟩ ∧ f.complexity ∉ ["simple", "complex"] := by
  have rules := lists_rules distinct
  refine ⟨rules.sorted.filter _, fun rule => ?_⟩
  rw [audit, List.mem_filter, rules.mem, Bool.not_eq_true', ← Bool.not_eq_true, isSound_iff own]
  constructor
  · rintro ⟨⟨f, b, found⟩, unsound⟩
    exact ⟨f, b, found, fun known => unsound ⟨f, b, found, known⟩⟩
  · rintro ⟨f, b, found, unknown⟩
    refine ⟨⟨f, b, found⟩, fun ⟨g, c, found', known⟩ => ?_⟩
    rw [found] at found'
    cases found'
    exact unknown known

end Audit

lemma numbers_disabled (distinct : r.entries.Distinct) :
    Numbers (fun rule => ∃ f, r.find? rule = some ⟨f, false⟩) r.counts.disabled := by
  have others := numbers_countP distinct fun e => !e.enabled
  have parts : r.counts.disabled = r.entries.countP (!·.2.enabled) := by
    rw [counts, List.length_eq_countP_add_countP (·.2.enabled) (l := r.entries)]
    simp
  rw [parts]
  simpa using others

/-- The tally of complexities starts with none of those that are known. -/
lemma tallied_complexity (r : Registry) :
    (∀ c, (r.counts.complexity.lookup c).getD 0 = r.entries.countP (·.2.fixer.complexity = c)) ∧
      (r.counts.complexity.map Prod.snd).sum = r.counts.total := by
  obtain ⟨kinds, sum⟩ := foldl_tally (fun e : String × Entry => e.2.fixer.complexity) r.entries
    [("simple", 0), ("complex", 0)]
  refine ⟨fun c => ?_, ?_⟩
  · have fresh : (List.lookup c [("simple", 0), ("complex", 0)]).getD 0 = 0 := by
      rw [Keyed.lookup_cons, Keyed.lookup_cons]
      split
      · rfl
      · split <;> rfl
    rw [counts, kinds c, fresh, Nat.zero_add]
  · rw [counts, sum]
    simp

/-- With one entry for each rule, and every fixer under its own rule, the answers are
about what the entries hold. -/
lemma agrees_find? (distinct : r.entries.Distinct)
    (own : ∀ rule f b, r.find? rule = some ⟨f, b⟩ → f.rule = rule) :
    Agrees r fun rule f b => r.find? rule = some ⟨f, b⟩ where
  fixer? _ _ := fixer?_eq_some_iff
  isFixable rule := by
    rw [isFixable, Option.isSome_iff_exists, exists_congr fun _ => fixer?_eq_some_iff, exists_comm]
  isRegistered rule := by
    rcases found : r.find? rule with - | ⟨g, b⟩ <;> simp [isRegistered, found]
  isEnabled rule := by
    rcases found : r.find? rule with - | ⟨g, b⟩ <;> simp [isEnabled, found]
  profile? _ _ := profile?_eq_some_iff
  rules := lists_rules distinct
  fixableRules := lists_fixableRules distinct
  valid := lists_valid own distinct
  invalid := lists_invalid own distinct
  parted := List.filter_append_perm _ _
  total := ⟨_, distinct, mem_map_fst_entries_iff distinct, List.length_map ..⟩
  enabled := by
    rw [counts]
    simpa using numbers_countP distinct Entry.enabled
  disabled := numbers_disabled distinct
  switched := Nat.add_sub_cancel' List.countP_le_length
  complexity c := by
    rw [(tallied_complexity r).1 c]
    simpa using numbers_countP distinct fun e => e.fixer.complexity = c
  sum := (tallied_complexity r).2

/-- **A registry is the map that its operations tell.** After any operations all lists,
figures and answers are about the fixers that stand: for each rule the one that was
registered first since the rule was without one, switched as it was last, or on. A
further registration is accepted exactly for a rule without a fixer, and changes nothing
if it is not. -/
theorem afterOperations_agrees (ops : List Operation) :
    Agrees (afterOperations ops) (Stands ops) ∧
      (∀ f, ((afterOperations ops).operate (.register f)).2 = .ok true ↔
        f.rule ≠ "" ∧ Vacant ops f.rule) ∧
      (∀ f, ((afterOperations ops).operate (.register f)).2 ≠ .ok true →
        ((afterOperations ops).operate (.register f)).1 = afterOperations ops) ∧
      ∀ kind, (afterOperations ops).operate (.registerOther kind) =
        (afterOperations ops, .error (.notFixer kind)) := by
  have stands := fun rule => (find?_afterOperations ops rule).1
  have vacant := fun rule => (find?_afterOperations ops rule).2
  refine ⟨?_, fun f => ?_, fun f refused => ?_, fun kind => rfl⟩
  · have same : Stands ops = fun rule f b =>
        (afterOperations ops).find? rule = some ⟨f, b⟩ := by
      funext rule f b
      exact propext (stands rule f b).symm
    rw [same]
    exact agrees_find? (distinct_afterOperations ops) fun rule f b found =>
      ((stands rule f b).mp found).own
  · rcases operate_register (afterOperations ops) f with ⟨named, free, same⟩ | ⟨taken, -, not⟩
    · rw [same]
      exact iff_of_true rfl ⟨named, (vacant f.rule named).mp free⟩
    · refine iff_of_false not fun ⟨named, free⟩ => ?_
      have entry := taken.resolve_left named
      rw [(vacant f.rule named).mpr free] at entry
      cases entry
  · rcases operate_register (afterOperations ops) f with ⟨-, -, same⟩ | ⟨-, kept, -⟩
    · rw [same] at refused
      exact absurd rfl refused
    · exact kept

end Registry

end LintRepair.Repair
