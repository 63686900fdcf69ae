/-
What the program is told to do on its command line.

* `Command`: the commands with their options;
* `Switch`: how an option is written;
* `scan`: arguments as options and plain words;
* `Command.ofArguments`: the command that arguments are, or why they are none.

Options may stand before and after plain words. Options of one letter may be
written together, and a value may follow its option directly. After two
hyphens there are only plain words.
-/

namespace LintRepair.Cli

/-! ### Commands -/

/-- Options for repairing a file. -/
structure FixOptions where
  source : String
  diagnostics : String
  /-- Where the repaired text goes, if not to the standard output. -/
  output? : Option String := none
  inPlace : Bool := false
  report : Bool := false
  json : Bool := false
  quiet : Bool := false
  verbose : Bool := false
  disabled : List String := []
  linter? : Option String := none
  deriving DecidableEq, Repr

/-- Options for checking what could be repaired. -/
structure CheckOptions where
  source : String
  diagnostics : String
  json : Bool := false
  disabled : List String := []
  deriving DecidableEq, Repr

/-- Options for listing the rules. -/
structure RulesOptions where
  json : Bool := false
  disabled : List String := []
  deriving DecidableEq, Repr

/-- What the program is told to do. -/
inductive Command
  | version
  | help
  | fix (o : FixOptions)
  | check (o : CheckOptions)
  | rules (o : RulesOptions)
  deriving DecidableEq, Repr

/-- Why arguments are no command. -/
inductive UsageFault
  | unknownOption (name : String)
  | valueMissing (name : String)
  | valueUnexpected (name : String)
  | commandMissing
  | unknownCommand (name : String)
  | argumentMissing (name : String)
  | argumentUnexpected (word : String)
  deriving DecidableEq, Repr

/-- The wording of a fault. -/
def UsageFault.message : UsageFault → String
  | .unknownOption name => "No such option: " ++ name
  | .valueMissing name => "Option '" ++ name ++ "' requires an argument."
  | .valueUnexpected name => "Option '" ++ name ++ "' does not take a value."
  | .commandMissing => "Missing command."
  | .unknownCommand name => "No such command '" ++ name ++ "'."
  | .argumentMissing name => "Missing " ++ name ++ "."
  | .argumentUnexpected word => "Got unexpected extra argument (" ++ word ++ ")"

/-! ### Options and words -/

/-- How an option is written. -/
structure Switch where
  long : String
  short? : Option Char := none
  takesValue : Bool := false
  deriving DecidableEq, Repr

/-- An option that is given, under its long name; the value is empty if it
takes none. -/
abbrev Given := String × String

/-- The options of a cluster of letters. The last part is an option whose
value is the next argument. -/
def cluster (switches : List Switch) : List Char →
    Except UsageFault (List Given × Option Switch)
  | [] => .ok ([], none)
  | c :: rest =>
    match switches.find? (·.short? = some c) with
    | none => .error (.unknownOption (String.ofList ['-', c]))
    | some s =>
      if s.takesValue then
        .ok (if rest.isEmpty then ([], some s) else ([(s.long, String.ofList rest)], none))
      else do
        let (given, open?) ← cluster switches rest
        return ((s.long, "") :: given, open?)

/-- The option of a long name, which may have a value behind an equals sign. -/
def long (switches : List Switch) (arg : String) :
    Except UsageFault (List Given × Option Switch) :=
  let name := String.ofList (arg.toList.takeWhile (· != '='))
  let value? := if arg.toList.contains '=' then
    some (String.ofList (arg.toList.drop (name.length + 1))) else none
  match switches.find? (·.long = name), value? with
  | none, _ => .error (.unknownOption name)
  | some s, some value =>
    if s.takesValue then .ok ([(s.long, value)], none) else .error (.valueUnexpected name)
  | some s, none => .ok (if s.takesValue then ([], some s) else ([(s.long, "")], none))

/-- The options that one argument gives; none if it is a plain word. -/
def optionsOf? (switches : List Switch) (arg : String) :
    Option (Except UsageFault (List Given × Option Switch)) :=
  match arg.toList with
  | '-' :: '-' :: _ => some (long switches arg)
  | '-' :: c :: rest => some (cluster switches (c :: rest))
  | _ => none

/-- Options and plain words, each in their order. -/
structure Scan where
  given : List Given := []
  words : List String := []

namespace Scan

/-- More options before those of a scan. -/
def before (given : List Given) (s : Scan) : Scan := { s with given := given ++ s.given }

/-- The values given for an option. -/
def values (s : Scan) (name : String) : List String :=
  (s.given.filter (·.1 = name)).map (·.2)

/-- The value given last for an option. -/
def value? (s : Scan) (name : String) : Option String := (s.values name).getLast?

/-- Whether an option is given. -/
def has (s : Scan) (name : String) : Bool := (s.value? name).isSome

end Scan

/-- Arguments as options and plain words. Unless `mixed`, all arguments from
the first plain word on are plain words. -/
def scan (switches : List Switch) (mixed : Bool) : List String → Except UsageFault Scan
  | [] => .ok {}
  | arg :: rest =>
    if arg = "--" then .ok { words := rest }
    else match optionsOf? switches arg with
      | none =>
        if mixed then do
          let s ← scan switches mixed rest
          return { s with words := arg :: s.words }
        else .ok { words := arg :: rest }
      | some (.error fault) => .error fault
      | some (.ok (given, none)) => do return (← scan switches mixed rest).before given
      | some (.ok (given, some s)) =>
        match rest with
        | value :: rest => do
          return (← scan switches mixed rest).before (given ++ [(s.long, value)])
        | [] => .error (.valueMissing s.long)

/-! ### The commands of the program -/

/-- The option for help, which every command has. -/
def helpSwitch : Switch := { long := "--help" }

/-- The option for a file of diagnostics. -/
def diagnosticsSwitch : Switch := { long := "--diagnostics", short? := some 'd', takesValue := true }

/-- The options for JSON and for rules that are switched off. -/
def sharedSwitches : List Switch :=
  [helpSwitch, { long := "--json" }, { long := "--disable", takesValue := true }]

/-- The options of the program itself. -/
def programSwitches : List Switch := [helpSwitch, { long := "--version", short? := some 'v' }]

/-- The options of `fix`. -/
def fixSwitches : List Switch :=
  sharedSwitches ++
    [diagnosticsSwitch,
      { long := "--output", short? := some 'o', takesValue := true },
      { long := "--in-place", short? := some 'i' },
      { long := "--report" },
      { long := "--quiet", short? := some 'q' },
      { long := "--relint-command", takesValue := true },
      { long := "--verbose" }]

/-- The only plain word of a scan. -/
def Scan.only (s : Scan) (name : String) : Except UsageFault String :=
  match s.words with
  | [] => .error (.argumentMissing ("argument '" ++ name ++ "'"))
  | [word] => .ok word
  | _ :: extra :: _ => .error (.argumentUnexpected extra)

/-- The value of an option that must be given. -/
def Scan.required (s : Scan) (name : String) : Except UsageFault String :=
  match s.value? name with
  | some value => .ok value
  | none => .error (.argumentMissing ("option '" ++ name ++ "'"))

/-- The command `fix`. -/
def fixOf (s : Scan) : Except UsageFault Command := do
  return .fix {
    source := ← s.only "SOURCE"
    diagnostics := ← s.required "--diagnostics"
    output? := s.value? "--output"
    inPlace := s.has "--in-place"
    report := s.has "--report"
    json := s.has "--json"
    quiet := s.has "--quiet"
    verbose := s.has "--verbose"
    disabled := s.values "--disable"
    linter? := s.value? "--relint-command" }

/-- The command `check`. -/
def checkOf (s : Scan) : Except UsageFault Command := do
  return .check {
    source := ← s.only "SOURCE"
    diagnostics := ← s.required "--diagnostics"
    json := s.has "--json"
    disabled := s.values "--disable" }

/-- The command `rules`. -/
def rulesOf (s : Scan) : Except UsageFault Command :=
  match s.words with
  | [] => .ok (.rules { json := s.has "--json", disabled := s.values "--disable" })
  | word :: _ => .error (.argumentUnexpected word)

/-- A command by its name, with the arguments after it. -/
def named (name : String) (args : List String) : Except UsageFault Command := do
  let reading ← match name with
    | "fix" => pure (fixSwitches, fixOf)
    | "check" => pure (diagnosticsSwitch :: sharedSwitches, checkOf)
    | "rules" => pure (sharedSwitches, rulesOf)
    | _ => throw (.unknownCommand name)
  let s ← scan reading.1 true args
  if s.has "--help" then return .help else reading.2 s

/-- The command that arguments are. -/
def Command.ofArguments (args : List String) : Except UsageFault Command := do
  let s ← scan programSwitches false args
  match s.given, s.words with
  | ("--version", _) :: _, _ => return .version
  | _ :: _, _ => return .help
  | [], [] => throw .commandMissing
  | [], name :: rest => named name rest

end LintRepair.Cli
