/-
The registry of fixers: which fixer repairs the diagnostics of a rule.

* `Registry`: fixers under the names of their rules, each switched on or off;
* `Registry.register`: the first registration of a rule stands;
* `Registry.fixer?`: the fixer of a rule, if it is registered and switched on;
* `Registry.counts`, `Registry.audit`: figures about the registered fixers, some of them
  also as JSON.

The laws at the end say what each operation does to `Registry.find?`.
-/
import LintRepair.Json.Value
import LintRepair.Keyed
import LintRepair.Repair.Fixer

namespace LintRepair.Repair

/-- A registered fixer. -/
structure Entry where
  fixer : Fixer
  /-- Whether the fixer is switched on. -/
  enabled : Bool := true

/-- Fixers under the names of their rules, in the order of registration. -/
structure Registry where
  entries : Keyed Entry := []

/-- Why a registration is refused. -/
inductive RegistrationFault
  /-- What is registered is no fixer, but a value of some other kind. -/
  | notFixer (kind : String)
  /-- The fixer names no rule. -/
  | noRule (kind : String)
  deriving DecidableEq, Repr

/-- The wording of a refused registration. -/
def RegistrationFault.message : RegistrationFault → String
  | .notFixer kind => "Cannot register " ++ kind ++ ": not a BaseFixer"
  | .noRule kind => "Fixer class " ++ kind ++ " has no rule_id defined"

/-- What the registry tells about a fixer. -/
structure Profile where
  rule : String
  kind : String
  complexity : String
  description : String
  enabled : Bool
  deriving DecidableEq, Repr

/-- How many fixers are registered, in all and by kind. -/
structure Counts where
  total : Nat
  enabled : Nat
  disabled : Nat
  /-- The fixers of each complexity. -/
  complexity : List (String × Nat)
  deriving DecidableEq, Repr

/-- The rules whose entry is sound, and the others. -/
structure Audit where
  valid : List String
  invalid : List String
  deriving DecidableEq, Repr

/-- A profile as JSON. -/
def Profile.toJson (p : Profile) : Json.Value :=
  .object
    [("rule_id", .string p.rule),
      ("fixer", .string p.kind),
      ("complexity", .string p.complexity),
      ("description", .string p.description),
      ("enabled", .bool p.enabled)]

/-- Counts as JSON. -/
def Counts.toJson (c : Counts) : Json.Value :=
  .object
    [("total", .int c.total),
      ("enabled", .int c.enabled),
      ("disabled", .int c.disabled),
      ("complexity", .object (c.complexity.map fun (word, n) => (word, .int n)))]

/-- One more of a name in a tally. -/
def tally (name : String) : List (String × Nat) → List (String × Nat)
  | [] => [(name, 1)]
  | (k, n) :: rest => if k == name then (k, n + 1) :: rest else (k, n) :: tally name rest

namespace Registry

/-- The entry of a rule. -/
def find? (r : Registry) (rule : String) : Option Entry := r.entries.lookup rule

/-- Whether a rule has an entry. -/
def isRegistered (r : Registry) (rule : String) : Bool := (r.find? rule).isSome

/-- The registry with a fixer, and whether the fixer was added. -/
def register (r : Registry) (f : Fixer) : Except RegistrationFault (Registry × Bool) :=
  if f.rule.isEmpty then .error (.noRule f.kind)
  else if r.isRegistered f.rule then .ok (r, false)
  else .ok (⟨r.entries ++ [(f.rule, ⟨f, true⟩)]⟩, true)

/-- The registry without a rule. -/
def unregister (r : Registry) (rule : String) : Registry :=
  ⟨r.entries.filter fun e => e.1 != rule⟩

/-- The registry with the entry of a rule changed. -/
def update (r : Registry) (rule : String) (change : Entry → Entry) : Registry :=
  ⟨r.entries.map fun e => if e.1 == rule then (e.1, change e.2) else e⟩

/-- The registry with a rule switched on or off. -/
def setEnabled (r : Registry) (rule : String) (enabled : Bool) : Registry :=
  r.update rule fun e => { e with enabled }

/-- The fixer of a rule, if it is registered and switched on. -/
def fixer? (r : Registry) (rule : Option String) : Option Fixer := do
  let e ← r.find? (← rule)
  if e.enabled then some e.fixer else none

/-- Whether diagnostics of a rule would be repaired. -/
def isFixable (r : Registry) (rule : Option String) : Bool := (r.fixer? rule).isSome

/-- Whether a rule is registered and switched on. -/
def isEnabled (r : Registry) (rule : String) : Bool :=
  (r.find? rule).any (·.enabled)

/-- Names in the order of their characters. -/
def sorted (names : List String) : List String := names.mergeSort fun a b => !(b < a)

/-- All registered rules, in order. -/
def rules (r : Registry) : List String := sorted (r.entries.map (·.1))

/-- The rules that are switched on, in order. -/
def fixableRules (r : Registry) : List String :=
  sorted ((r.entries.filter (·.2.enabled)).map (·.1))

/-- What the registry tells about the fixer of a rule. -/
def profile? (r : Registry) (rule : String) : Option Profile :=
  (r.find? rule).map fun e =>
    ⟨rule, e.fixer.kind, e.fixer.complexity, e.fixer.description, e.enabled⟩

/-- How many fixers are registered. -/
def counts (r : Registry) : Counts :=
  let enabled := r.entries.countP (·.2.enabled)
  { total := r.entries.length
    enabled
    disabled := r.entries.length - enabled
    complexity :=
      r.entries.foldl (fun t e => tally e.2.fixer.complexity t) [("simple", 0), ("complex", 0)] }

/-- Whether the entry of a rule holds a fixer of that rule with a known
complexity. -/
def isSound (r : Registry) (rule : String) : Bool :=
  (r.find? rule).any fun e =>
    e.fixer.rule == rule && ["simple", "complex"].contains e.fixer.complexity

/-- The registered rules, parted by whether their entry is sound. -/
def audit (r : Registry) : Audit :=
  ⟨r.rules.filter r.isSound, r.rules.filter fun rule => !r.isSound rule⟩

/-- The registry without entries. -/
def empty : Registry := {}

/-- The registry with the fixers of a list that it accepts. -/
def registerAll (r : Registry) (fs : List Fixer) : Registry :=
  fs.foldl (fun r f => match r.register f with
    | .ok (r, _) => r
    | .error _ => r) r

/-- The registry with some rules switched off. -/
def disableAll (r : Registry) (rules : List String) : Registry :=
  rules.foldl (fun r rule => r.setEnabled rule false) r

/-! ### What the operations do to the entries -/

theorem find?_cons (e : String × Entry) (es : Keyed Entry) (rule : String) :
    (Registry.mk (e :: es)).find? rule =
      if rule = e.1 then some e.2 else (Registry.mk es).find? rule :=
  Keyed.lookup_cons e es rule

theorem find?_empty (rule : String) : empty.find? rule = none := rfl

theorem find?_update (r : Registry) (rule other : String) (change : Entry → Entry) :
    (r.update rule change).find? other =
      if other = rule then (r.find? other).map change else r.find? other := by
  obtain ⟨es⟩ := r
  simp only [update]
  induction es with
  | nil => simp [find?]
  | cons e rest ih =>
    rw [List.map_cons, find?_cons, find?_cons, ih]
    by_cases here : other = e.1
    · subst here
      by_cases changed : e.1 = rule
      · simp [changed]
      · simp [changed]
    · by_cases changed : e.1 = rule
      · subst changed
        simp [here]
      · simp [here, changed]

theorem find?_unregister (r : Registry) (rule other : String) :
    (r.unregister rule).find? other = if other = rule then none else r.find? other := by
  obtain ⟨es⟩ := r
  simp only [unregister]
  induction es with
  | nil => simp [find?]
  | cons e rest ih =>
    by_cases dropped : e.1 = rule
    · rw [List.filter_cons_of_neg (by simp [dropped]), ih, find?_cons, dropped]
      by_cases asked : other = rule
      · rw [if_pos asked, if_pos asked]
      · rw [if_neg asked, if_neg asked, if_neg asked]
    · rw [List.filter_cons_of_pos (by simp [dropped]), find?_cons, find?_cons, ih]
      by_cases here : other = e.1
      · subst here
        simp [dropped]
      · simp [here]

end Registry

end LintRepair.Repair
