/-
What a command finds and what it leaves.

* `World`: files, the environment and other programs;
* `Failure`: why a command comes to nothing;
* `Outcome`: a status, output, errors and files;
* `World.read`, `World.diagnostics`, `World.settings`: what commands read.
-/
import LintRepair.Batch.Note
import LintRepair.Batch.Report
import LintRepair.Cli.Screen
import LintRepair.Config.Layers
import LintRepair.Diagnostic.Json
import LintRepair.Shell.Program

namespace LintRepair.Cli

open Json Check Utf8

/-! ### What there is and what is left -/

/-- What the program finds. -/
structure World where
  accepts : Acceptor
  programs : Shell.Programs
  disk : Disk
  /-- The directory in which the program runs. -/
  dir : Location
  /-- The values of the environment, under their names. -/
  environment : Keyed String := []

/-- A file that a command reads. -/
inductive Role
  | source
  | diagnostics
  deriving DecidableEq, Repr

/-- The words for a file. -/
def Role.text : Role → String
  | .source => "Source file"
  | .diagnostics => "Diagnostics file"

/-- Why a command comes to nothing. -/
inductive Failure
  | twoDestinations
  | absent (role : Role) (l : Location)
  | notFile (role : Role) (l : Location)
  | notText (role : Role) (l : Location) (fault : Utf8.Fault)
  | badReport (l : Location) (fault : FormatFault)
  | badConfig (fault : Config.Fault)
  | notWritten (l : Location) (fault : WriteFault)
  /-- A fixer raised an error. -/
  | raised (e : Repair.Raised)
  /-- No report can be made. -/
  | unreported (fault : Batch.ReportFault)
  /-- Something cannot be shown. -/
  | badMarkup (fault : MarkFault)

/-- The wording of a failure; none if the program does not speak of it. -/
def Failure.message? : Failure → Option String
  | .twoDestinations => some "--output and --in-place cannot be used together"
  | .absent role l => some (role.text ++ " does not exist: " ++ l.path)
  | .notFile role l => some (role.text ++ " is not a file: " ++ l.path)
  | .notText .source l fault =>
    some ("Cannot read source file " ++ l.path ++ ": " ++ fault.message)
  | .notText .diagnostics _ _ => none
  | .badReport l fault =>
    if fault.isOfReport then some ("Invalid diagnostics file " ++ l.path ++ ": " ++ fault.message)
    else none
  | .badConfig fault =>
    if fault.mistake = .value then some ("Invalid configuration: " ++ fault.message) else none
  | .notWritten l fault =>
    some ("Cannot write " ++ l.path ++ ": " ++ fault.message ++ ": " ++ quoted l.path)
  | .raised _ | .unreported _ | .badMarkup _ => none

/-- The status after a failure: two if the system is to blame. -/
def Failure.status : Failure → Nat
  | .notText .source _ _ | .notWritten _ _ => 2
  | _ => 1

/-- What a command writes to its standard output. -/
inductive Output
  | verbatim (t : Text)
  | json (v : Value)
  | screen (ls : Screen)

/-- What a command leaves. -/
structure Outcome where
  status : Nat
  output : Output
  errors : Screen := []
  notes : List Batch.Note := []
  disk : Disk
  /-- The failure that the program does not speak of. -/
  crash? : Option Failure := none

/-- The outcome of a failure. -/
def Failure.outcome (f : Failure) (output : Output) (disk : Disk)
    (notes : List Batch.Note) : Outcome :=
  match f.message? with
  | some message =>
    { status := f.status, output, errors := Screen.ofText ("Error: " ++ message).toList
      notes, disk }
  | none => { status := f.status, output, notes, disk, crash? := some f }

/-- Shows notices. -/
def displayed (notices : List Notice) (disk : Disk) (notes : List Batch.Note) : Outcome :=
  match Screen.ofNotices notices with
  | (shown, none) => { status := 0, output := .screen shown, notes, disk }
  | (shown, some fault) => (Failure.badMarkup fault).outcome (.screen shown) disk notes

/-! ### Reading -/

/-- The text of a file. -/
def World.read (w : World) (role : Role) (l : Location) : Except Failure Text :=
  match w.disk.file? l with
  | some bs => ((Utf8.decode bs).map unifyLineEnds).mapError (.notText role l)
  | none => .error (if w.disk.holds l then .notFile role l else .absent role l)

/-- The diagnostics of a file. -/
def World.diagnostics (w : World) (path : String) : Except Failure (List Diagnostic) := do
  let l := w.dir.under path
  let t ← w.read .diagnostics l
  (readReport .file t).mapError (.badReport l)

/-- Settings with more rules switched off. -/
def disable (s : Config.Settings) (rules : List String) : Config.Settings :=
  rules.foldl (fun s rule =>
    if s.disabledRules.contains rule then s
    else { s with disabledRules := s.disabledRules ++ [rule] }) s

/-- The settings for a directory, with some rules switched off. -/
def World.settings (w : World) (dir : Location) (options : Fields) (disabled : List String) :
    Except Failure Config.Settings := do
  let s ← (Config.load w.disk dir w.environment options).mapError .badConfig
  return disable s disabled

end LintRepair.Cli
