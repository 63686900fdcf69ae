/-
The command line: reads the files that a command may need, does what it says,
writes what it has changed and shows the outcome.
-/
import LintRepair.Cli.Run
import LintRepair.Grammar.Statement

open LintRepair LintRepair.Cli

/-- The disk with what there is at a place. -/
def gather (disk : Disk) (l : Location) : IO Disk := do
  if disk.holds l then return disk
  try
    let bytes ← IO.FS.readBinFile l.path
    return { disk with files := disk.files ++ [(l, bytes.toList)] }
  catch
    | .noFileOrDirectory .. => return disk
    | _ => return { disk with directories := disk.directories ++ [l] }

/-- The part of the environment that makes settings. -/
def readEnvironment : IO (Keyed String) := do
  let names := Config.names.map Config.variableName
  names.filterMapM fun name => do return (← IO.getEnv name).map (name, ·)

/-- Writes the files that a command has changed. -/
def writeChanges (before after : Disk) : IO Unit :=
  after.files.forM fun (l, bytes) =>
    if before.file? l = some bytes then pure ()
    else IO.FS.writeBinFile l.path (ByteArray.mk bytes.toArray)

/-- Shows an outcome. -/
def showOutcome (o : Outcome) : IO Unit := do
  let out ← IO.getStdout
  match o.output with
  | .verbatim t => out.putStr (String.ofList t)
  | .json v => out.putStrLn (Json.indented v)
  | .screen s => out.putStr s.toText
  let err ← IO.getStderr
  for n in o.notes do err.putStrLn (n.level.word ++ " " ++ n.text)
  err.putStr o.errors.toText

/-- Does what the arguments say. -/
def main (args : List String) : IO UInt32 := do
  match Command.ofArguments args with
  | .error fault =>
    IO.eprintln fault.message
    return 2
  | .ok command =>
    let dir := Location.under [] (← IO.currentDir).toString
    let environment ← readEnvironment
    let start ← (command.places dir).foldlM gather {}
    let world : World :=
      { accepts := Grammar.accepts, programs := Shell.programs, disk := start, dir, environment }
    let disk ← (world.linterPlaces command).foldlM gather start
    let began ← IO.monoNanosNow
    let work ← IO.lazyPure fun _ => begin { world with disk } command
    let elapsed := (← IO.monoNanosNow) - began
    let outcome := work.finish (.fraction (elapsed.toFloat / 1000000.0))
    writeChanges disk outcome.disk
    showOutcome outcome
    return outcome.status.toUInt32
