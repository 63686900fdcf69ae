/-
What a run keeps in order to undo repairs.

* `Record`: one repair, with the text around it before and after;
* `Archive`: the records, the oldest first, and the named snapshots of the
  text;
* `Archive.revert`: takes back one repair;
* `Archive.compare`: a text against a snapshot.

The archive keeps a limited number of records and drops the oldest. Each
record has a serial number, so that two equal repairs remain two records.
-/
import LintRepair.Check.Syntax
import LintRepair.Json.Whole
import LintRepair.Keyed

namespace LintRepair.Repair

open Text Check Json

/-- One repair. -/
structure Record where
  /-- The number of the record, never given twice. -/
  serial : Nat
  rule : Option String
  line : Whole
  column : Whole
  /-- The text around the position before the repair. -/
  before : Text
  /-- The text around the position after it. -/
  after : Text
  deriving DecidableEq, Repr

/-- Why a repair cannot be taken back. -/
inductive RevertFault
  | noRecord
  | lineOutside
  /-- The line no longer holds the repaired text. -/
  | textMissing
  /-- The text would be no program. -/
  | broken (fault : SyntaxFault)
  deriving DecidableEq, Repr

/-- The wording of a fault. -/
def RevertFault.message (f : RevertFault) : String :=
  "Cannot revert fix: " ++ match f with
  | .noRecord => "no fix history"
  | .lineOutside => "fix line number exceeds code length"
  | .textMissing => "fixed text not found on the recorded line"
  | .broken fault => "reversion would create invalid code: " ++ fault.message

/-- A text against a snapshot. -/
structure Difference where
  identical : Bool
  /-- How many characters the text has more. -/
  length : Int
  /-- How many lines the text has more. -/
  lines : Int
  deriving DecidableEq, Repr

/-- Records of repairs, and snapshots. -/
structure Archive where
  /-- How many records are kept. -/
  limit : Int
  /-- The serial number of the next record. -/
  next : Nat := 0
  /-- The records, the oldest first. -/
  records : List Record := []
  /-- The snapshots by name, in the order of their first taking. -/
  snapshots : Keyed Text := []

namespace Archive

/-- The records within the limit: of one too many the oldest goes. -/
def within (limit : Int) (records : List Record) : List Record :=
  if limit < records.length then records.tail else records

/-- A record of a repair for this archive. -/
def newRecord (a : Archive) (rule : Option String) (line column : Whole)
    (before after : Text) : Record :=
  ⟨a.next, rule, line, column, before, after⟩

/-- The archive with a record. -/
def record (a : Archive) (r : Record) : Archive :=
  { a with next := r.serial + 1, records := within a.limit (a.records ++ [r]) }

/-- Whether there is a repair to take back. -/
def canRevert (a : Archive) : Bool := !a.records.isEmpty

/-- The text before a repair, if the line still holds what it left. -/
def undo (accepts : Acceptor) (code : Text) (r : Record) : Except RevertFault Text :=
  match line? code r.line.value with
  | none => .error .lineOutside
  | some target =>
    match if r.after.isEmpty then none else find? r.after target with
    | none => .error .textMissing
    | some i =>
      let restored := splice target i (i + r.after.length) r.before
      let code := (replaceLine code r.line.value restored).getD code
      match syntaxFault? accepts code with
      | some fault => .error (.broken fault)
      | none => .ok code

/-- Takes back a repair, the latest one unless one is given. The archive
forgets the repair if it is its latest. -/
def revert (accepts : Acceptor) (a : Archive) (code : Text) (given : Option Record) :
    Except RevertFault (Text × Archive) :=
  match given <|> a.records.getLast? with
  | none => .error .noRecord
  | some r =>
    match undo accepts code r with
    | .error fault => .error fault
    | .ok code =>
      if a.records.getLast? = some r then
        .ok (code, { a with records := a.records.dropLast })
      else .ok (code, a)

/-- The archive with a snapshot under a name. -/
def takeSnapshot (a : Archive) (name : String) (code : Text) : Archive :=
  { a with snapshots := Keyed.put name code a.snapshots }

/-- The snapshot under a name. -/
def snapshot? (a : Archive) (name : String) : Option Text := a.snapshots.lookup name

theorem snapshot?_takeSnapshot (a : Archive) (name other : String) (code : Text) :
    (a.takeSnapshot name code).snapshot? other =
      if other = name then some code else a.snapshot? other :=
  Keyed.lookup_put name other code a.snapshots

/-- The wording for a name without a snapshot. -/
def missingText (name : String) : String := "Snapshot not found: " ++ name

/-- A text against the snapshot under a name. -/
def compare (a : Archive) (code : Text) (name : String) : Option Difference :=
  (a.snapshot? name).map fun snapshot =>
    { identical := code == snapshot
      length := code.length - snapshot.length
      lines := code.count '\n' - snapshot.count '\n' }

/-- The archive without records and snapshots. -/
def clear (a : Archive) : Archive := { a with records := [], snapshots := [] }

end Archive

end LintRepair.Repair
