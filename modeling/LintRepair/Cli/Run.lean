/-
The commands of the program.

* `begin`: does what a command says;
* `Work.finish`: its outcome. How long it took is known only in between;
* `Command.places`: the places that a command may read, which are files that its
  arguments name, and configuration files;
* `World.linterPlaces`: what the command line of a linter may name.
-/
import LintRepair.Cli.Fix
import LintRepair.Cli.Survey

namespace LintRepair.Cli

open Json

/-- The version of the program. -/
def version : String := "0.1.0"

/-- How the program is used. -/
def usage : String :=
  "Usage: jsmend [--version] COMMAND\n" ++
  "  fix SOURCE --diagnostics FILE   Apply fixes for the diagnostics of SOURCE.\n" ++
  "  check SOURCE --diagnostics FILE Report how many could be fixed.\n" ++
  "  rules                           List the rules that can be fixed."

/-- A command that is done but for telling how long it took. -/
inductive Work
  | settled (o : Outcome)
  | repaired (r : Repaired)

/-- The outcome of a command that may fail with nothing on the screen. -/
def orFailure (w : World) (output : Output) : Except Failure Work → Work
  | .ok work => work
  | .error f => .settled (f.outcome output w.disk [])

/-- Does what a command says. -/
def begin (w : World) : Command → Work
  | .version => .settled (displayed [.text ("jsmend version " ++ version)] w.disk [])
  | .help =>
    .settled { status := 0, output := .screen (Screen.ofText usage.toList), disk := w.disk }
  | .fix o =>
    orFailure w (if o.hasDestination then .screen [] else .verbatim [])
      ((repair w o).map .repaired)
  | .check o => orFailure w (.screen []) ((check w o).map .settled)
  | .rules o => orFailure w (.screen []) ((rules w o).map .settled)

/-- The outcome of a command that took a number of milliseconds. -/
def Work.finish (elapsed : Quantity) : Work → Outcome
  | settled o => o
  | repaired r => r.outcome elapsed

/-! ### Places -/

/-- Where configuration files for a directory may lie. -/
def configPlaces (dir : Location) : List Location :=
  (Config.ancestors dir).flatMap fun d =>
    [d ++ [Config.plainFileName], d ++ [Config.projectFileName]]

/-- The places of a source file, of its diagnostics and of its configuration. -/
def sourcePlaces (dir : Location) (source diagnostics : String) : List Location :=
  let l := dir.under source
  [l, dir.under diagnostics] ++ configPlaces l.dropLast

/-- The places that a command names, or in which it looks for its
configuration. -/
def Command.places (dir : Location) : Command → List Location
  | .version | .help => []
  | .fix o =>
    let output := o.output?.map dir.under
    sourcePlaces dir o.source o.diagnostics ++
      (output.map fun l => l.parents ++ [l]).getD []
  | .check o => sourcePlaces dir o.source o.diagnostics
  | .rules _ => configPlaces dir

/-- Whether a character parts the words of a shell script. -/
def partsWords (c : Char) : Bool := Text.isBlank c || "'\x22;|&<>()".toList.contains c

/-- The stretches of a text that may be paths. -/
def stretches (t : Text) : List Text := (t.splitOnP partsWords).filter (!·.isEmpty)

/-- The places that the command line of the linter may name. -/
def World.linterPlaces (w : World) : Command → List Location
  | .fix o =>
    let settings := w.settings (w.dir.under o.source).dropLast o.fields []
    let line? := settings.toOption.bind Config.Settings.relintCommand
    (stretches ((line?.map String.toList).getD [])).map fun t =>
      w.dir.under (String.ofList t)
  | _ => []

end LintRepair.Cli
