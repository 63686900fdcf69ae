/-
The tables of a TOML document while it is read.

* `Node`: a value, a table, or an array of tables;
* `declareTable`, `declareItem`: what a header in single or double brackets
  does;
* `insert`: what a pair of a key and a value does.

A table may be declared once. One that a dotted key made belongs to the
section in which it was made; headers may still pass through it. What is
written in place, an array or an inline table, is a value that nothing can be
added to.
-/
import LintRepair.Json.Value

namespace LintRepair.Toml

open Json

/-- The parts of a dotted key. -/
abbrev Path := List String

/-- How a table came about. -/
inductive Origin
  /-- A header passed through it. -/
  | passage
  /-- A header declared it. -/
  | header
  /-- A dotted key made it, in the section of this number. -/
  | dotted (place : Nat)
  deriving DecidableEq, Repr

/-- What stands under a key. -/
inductive Node
  | leaf (v : Value)
  | table (origin : Origin) (children : List (String × Node))
  | items (tables : List (List (String × Node)))

/-- The nodes of a table by their keys. -/
abbrev Nodes := Keyed Node

/-- Changes the last element of a list; none if there is none. -/
def changeLast? {α : Type} (change : α → Option α) : List α → Option (List α)
  | [] => none
  | [a] => (change a).map ([·])
  | a :: rest => (changeLast? change rest).map (a :: ·)

/-- Changes the table at a path as headers go, making the tables on the way:
an array of tables stands for its last one. -/
def changeAt (path : Path) (change : Nodes → Option Nodes) (ns : Nodes) : Option Nodes :=
  match path with
  | [] => change ns
  | key :: rest =>
    match ns.lookup key with
    | none => (changeAt rest change []).map fun t => Keyed.put key (.table .passage t) ns
    | some (.table origin t) =>
      (changeAt rest change t).map fun t => Keyed.put key (.table origin t) ns
    | some (.items ts) =>
      (changeLast? (changeAt rest change) ts).map fun ts => Keyed.put key (.items ts) ns
    | some (.leaf _) => none

/-- A table declared under a key. -/
def declareKey (key : String) (ns : Nodes) : Option Nodes :=
  match ns.lookup key with
  | none => some (Keyed.put key (.table .header []) ns)
  | some (.table .passage t) => some (Keyed.put key (.table .header t) ns)
  | some _ => none

/-- One more table in the array under a key. -/
def appendKey (key : String) (ns : Nodes) : Option Nodes :=
  match ns.lookup key with
  | none => some (Keyed.put key (.items [[]]) ns)
  | some (.items ts) => some (Keyed.put key (.items (ts ++ [[]])) ns)
  | some _ => none

/-- A header in single brackets. -/
def declareTable (path : Path) (ns : Nodes) : Option Nodes := do
  changeAt path.dropLast (declareKey (← path.getLast?)) ns

/-- A header in double brackets. -/
def declareItem (path : Path) (ns : Nodes) : Option Nodes := do
  changeAt path.dropLast (appendKey (← path.getLast?)) ns

/-- A value under a dotted key, in the section of a number. Tables declared
elsewhere stay as they are. -/
def insert (place : Nat) (key : Path) (v : Value) (ns : Nodes) : Option Nodes :=
  match key with
  | [] => none
  | [stem] =>
    match ns.lookup stem with
    | none => some (Keyed.put stem (.leaf v) ns)
    | some _ => none
  | part :: rest =>
    let into (t : Nodes) : Option Nodes :=
      (insert place rest v t).map fun t => Keyed.put part (.table (.dotted place) t) ns
    match ns.lookup part with
    | none => into []
    | some (.table .passage t) => into t
    | some (.table (.dotted n) t) => if n = place then into t else none
    | some _ => none

mutual

/-- A node as a value. -/
def Node.value : Node → Value
  | .leaf v => v
  | .table _ children => .object (fieldsOf children)
  | .items tables => .array (itemsOf tables)

/-- The nodes of a table as fields. -/
def fieldsOf : List (String × Node) → List (String × Value)
  | [] => []
  | (k, n) :: rest => (k, n.value) :: fieldsOf rest

/-- Tables as values. -/
def itemsOf : List (List (String × Node)) → List Value
  | [] => []
  | t :: rest => .object (fieldsOf t) :: itemsOf rest

end

end LintRepair.Toml
