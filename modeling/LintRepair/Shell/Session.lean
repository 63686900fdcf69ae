/-
What a shell knows, and steps that change it.

* `Session`: variables, functions and options of a shell at a place;
* `Act`: a step of a shell, which may be its last;
* `Act.fail`: ends with a message;
* `Act.setValue`: writes a variable;
* `Kit`: what carries out commands and finds programs;
* `Kit.evalText`: carries out the script that a text is;
* `Kit.apart`: carries out a step in a shell of its own.
-/
import LintRepair.Shell.Parse
import LintRepair.Shell.Program

namespace LintRepair.Shell

/-- A variable; one without a value may still be exported. -/
structure Variable where
  value? : Option Octets
  isExported : Bool := false
  isConstant : Bool := false

/-- What is left out until a loop or a function has ended. -/
inductive Skip
  | leave (loops : Nat)
  | next (loops : Nat)
  | back
  deriving DecidableEq, Repr

/-- What a shell knows. -/
structure Session where
  place : Place
  name : Octets
  arguments : List Octets
  bindings : List (Octets × Variable) := []
  functions : List (Octets × Command) := []
  /-- What the local variables of a function have hidden; none outside. -/
  hidden? : Option (List (Octets × Option Variable)) := none
  /-- The letters of the options that are set. -/
  options : Octets := []
  status : Nat := 0
  /-- The status of the last script whose output was taken. -/
  outputStatus : Nat := 0
  line : Nat := 1
  /-- The line up to which the script is read. -/
  reached : Nat := 1
  /-- The program of the shell that speaks in messages. -/
  speaker? : Option Octets := none
  /-- What is done at signals, and at the end for `EXIT`. -/
  traps : List (Octets × Octets) := []
  /-- How many loops there are around a command. -/
  loops : Nat := 0
  skip? : Option Skip := none

/-- Why a shell has ended. -/
inductive Halt
  | failure
  | exit
  | killed (signal : Nat)
  deriving DecidableEq, Repr

/-- A step of a shell. -/
abbrev Act := ExceptT Halt (StateM Session)

namespace Session

/-- The number of the process, as far as a shell asks for it. -/
def processNumber : Octets := "4711".toList

/-- Whether an option is set. -/
def has (s : Session) (option : Char) : Bool := s.options.contains option

/-- A message as the shell puts it. -/
def remark (s : Session) (message : Octets) : Octets :=
  let speaker := match s.speaker? with
    | some name => name ++ ": ".toList
    | none => []
  s.name ++ ": ".toList ++ (Json.intText s.line).toList ++ ": ".toList ++ speaker ++ message

/-- The session after a message. -/
def complain (s : Session) (message : Octets) : Session :=
  { s with place := s.place.complain (s.remark message) }

/-- The value of a variable. -/
def value? (s : Session) (name : Octets) : Option Octets :=
  (s.bindings.lookup name).bind (·.value?)

/-- The characters that separate fields. -/
def separators (s : Session) : Octets := (s.value? "IFS".toList).getD " \t\n".toList

/-- Variables with one written. -/
def putVariable (name : Octets) (v : Variable) :
    List (Octets × Variable) → List (Octets × Variable)
  | [] => [(name, v)]
  | (n, w) :: rest => if n = name then (n, v) :: rest else (n, w) :: putVariable name v rest

/-- The session with a variable written. -/
def put (s : Session) (name : Octets) (v : Variable) : Session :=
  { s with bindings := putVariable name v s.bindings }

/-- The session with a variable as it was before. -/
def restore (s : Session) (name : Octets) : Option Variable → Session
  | some v => s.put name v
  | none => { s with bindings := s.bindings.filter (·.1 != name) }

/-- The variables that programs are told. -/
def environment (s : Session) : List (Octets × Octets) :=
  s.bindings.filterMap fun (name, v) =>
    if v.isExported then v.value?.map (name, ·) else none

/-- A session at a place. -/
def start (p : Place) (name : Octets) (arguments : List Octets) (options : Octets) : Session :=
  let told := p.environment.map fun (n, v) => (n, { value? := some v, isExported := true })
  let s : Session := { place := p, name, arguments, options, bindings := told }
  (s.put "IFS".toList { value? := some " \t\n".toList }).put "OPTIND".toList
    { value? := some ['1'] }

end Session

namespace Act

/-- Ends with a message. -/
def fail {α : Type} (message : Octets) : Act α := do
  modify fun s => { s.complain message with status := 2 }
  throw .failure

/-- Ends because a text is no script. -/
def refuse {α : Type} (flaw : SyntaxFlaw) : Act α := do
  modify fun s => { s with line := s.reached }
  fail ("Syntax error: ".toList ++ flaw.text.toList)

/-- Writes a variable. -/
def setValue (name value : Octets) : Act Unit := do
  let s ← get
  let old := (s.bindings.lookup name).getD { value? := none }
  if old.isConstant then fail (name ++ ": is read only".toList)
  set (s.put name { old with
    value? := some value, isExported := old.isExported || s.has 'a' })

/-- Hides a variable until the present function ends. -/
def hide (name : Octets) : Act Unit :=
  modify fun s => match s.hidden? with
    | some hidden =>
      if (hidden.lookup name).isSome then s
      else { s with hidden? := some ((name, s.bindings.lookup name) :: hidden) }
    | none => s

end Act

/-- What carries out commands and finds programs. -/
structure Kit where
  /-- Carries out a command. Where its status is tested, a failure does not
  end the shell. -/
  eval : (tested : Bool) → Command → Act Unit
  programs : Programs

namespace Kit

/-- Carries out commands until something is to be left out. -/
def evalAll (k : Kit) (tested : Bool) : List (Command × Nat) → Act Unit
  | [] => return ()
  | (c, reached) :: rest => do
    if (← get).skip?.isNone then
      modify ({ · with reached })
      k.eval tested c
      k.evalAll tested rest

/-- Carries out the script that a text is. Without a command, the status is
zero. -/
def evalText (k : Kit) (tested : Bool) (t : Octets) : Act Unit := do
  let script := Script.read t
  let reached := (← get).reached
  if script.isEmpty then modify ({ · with status := 0 })
  k.evalAll tested script.commands
  modify ({ · with reached })
  if (← get).skip?.isNone then
    if let some fault := script.fault? then
      modify ({ · with reached := fault.line })
      Act.refuse fault.flaw

/-- Carries out what is to be done at the end. -/
def evalLast (k : Kit) : Act Unit := do
  let s ← get
  match s.traps.lookup "EXIT".toList with
  | none => return ()
  | some t =>
    set { s with
      traps := s.traps.filter (·.1 != "EXIT".toList), skip? := none, speaker? := none }
    k.evalText false t
    modify ({ · with status := s.status })

/-- The session in which a step ends, with all that is to be done at the end;
where a signal ends it, that signal. -/
def finish (k : Kit) (act : Act Unit) (s : Session) : Session × Option Nat :=
  match act.run.run s with
  | (.error (.killed n), s) => (s, some n)
  | (_, s) =>
    match k.evalLast.run.run s with
    | (.error (.killed n), s) => (s, some n)
    | (_, s) => (s, none)

/-- Carries out a step in a shell of its own; the status is returned. -/
def apart (k : Kit) (act : Act Unit) : Act Nat := do
  let s ← get
  let (after, signal?) := k.finish act { s with traps := [], outputStatus := 0, reached := 1 }
  set { s with
    place := { s.place with disk := after.place.disk, channels := after.place.channels } }
  match signal? with
  | some n => throw (.killed n)
  | none => return after.status % 256

/-- What a command writes in a shell of its own, without line ends at its
end. -/
def outputOf (k : Kit) (c : Command) : Act Octets := do
  let s ← get
  let i := s.place.channels.length
  let status ← k.apart do
    modify fun s => { s with place := s.place.lead outputStream (.sink []) }
    k.eval false c
  modify ({ · with outputStatus := status })
  let t := (← get).place.written i
  return Text.dropEndWhile (· == '\n') (t.filter (· != '\x00'))

end Kit

end LintRepair.Shell
