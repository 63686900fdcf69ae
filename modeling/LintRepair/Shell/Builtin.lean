/-
The programs that are part of a shell.

* `Builtin`: from arguments to a status, with the shell at hand;
* `Options`: what the letters in front of arguments ask for;
* `Builtin.named?`: the programs under their names.

A program that fails ends the shell only if it is part of the language, see
`Reader.isSpecialName`.
-/
import LintRepair.Shell.Condition
import LintRepair.Shell.Expand
import LintRepair.Shell.Signal

namespace LintRepair.Shell

/-- What a program of the shell does with its arguments. -/
abbrev Builtin := Kit → (tested : Bool) → List Octets → Act Nat

/-! ### Options -/

namespace Options

/-- The letters of options that a shell can be given. -/
def letters : Octets := "efIimnsxvVECabup".toList

/-- The letters of options by their names. -/
def names : List (String × Char) :=
  [("errexit", 'e'), ("noglob", 'f'), ("ignoreeof", 'I'), ("interactive", 'i'), ("monitor", 'm'),
    ("noexec", 'n'), ("stdin", 's'), ("xtrace", 'x'), ("verbose", 'v'), ("vi", 'V'),
    ("emacs", 'E'), ("noclobber", 'C'), ("allexport", 'a'), ("notify", 'b'), ("nounset", 'u'),
    ("privileged", 'p')]

/-- What was found among arguments. -/
structure Found where
  options : Octets
  /-- Whether a script is among the arguments. -/
  hasScript : Bool := false
  /-- Whether a sign has ended the options. -/
  ended : Bool := false
  rest : List Octets

/-- Letters with one put in or left out. -/
def change (options : Octets) (on : Bool) (c : Char) : Octets :=
  let others := options.filter (· != c)
  if on then c :: others else others

/-- The options after a cluster of letters, with the arguments that it does
not take; a message refuses it. -/
def cluster (start on : Bool) (f : Found) : Octets → Except Octets Found
  | [] => .ok f
  | c :: more =>
    if c = 'c' ∧ start then cluster start on { f with hasScript := true } more
    else if c = 'o' then
      match f.rest with
      | [] => cluster start on f more
      | name :: rest =>
        match names.lookup (String.ofList name) with
        | some letter =>
          cluster start on { f with options := change f.options on letter, rest } more
        | none => .error ("Illegal option -o ".toList ++ name)
    else if letters.contains c ∨ (c = 'l' ∧ start) then
      cluster start on { f with options := change f.options on c } more
    else .error ("Illegal option -".toList ++ [c])

/-- The options in front of arguments, at the start of a shell or later. -/
def readFrom (start : Bool) : Nat → Found → Except Octets Found
  | 0, f => .ok f
  | n + 1, f =>
    match f.rest with
    | ['-'] :: rest =>
      let options := if start then f.options else f.options.filter fun c => c != 'x' && c != 'v'
      .ok { f with options, rest }
    | ['-', '-'] :: rest => .ok { f with rest, ended := true }
    | ('-' :: more) :: rest => do readFrom start n (← cluster start true { f with rest } more)
    | ('+' :: more) :: rest => do readFrom start n (← cluster start false { f with rest } more)
    | _ => .ok f

/-- The options in front of arguments. -/
def read (start : Bool) (options : Octets) (args : List Octets) : Except Octets Found :=
  readFrom start (args.length + 1) { options, rest := args }

end Options

namespace Builtin

/-- The letters in front of arguments, of which only some are allowed. -/
def letters (allowed : String) : List Octets → Act (Octets × List Octets)
  | [] => return ([], [])
  | a :: rest =>
    match a with
    | ['-', '-'] => return ([], rest)
    | '-' :: c :: more => do
      match (c :: more).find? fun c => !allowed.toList.contains c with
      | some bad => Act.fail ("Illegal option -".toList ++ [bad])
      | none => do
        let (others, rest) ← letters allowed rest
        return (c :: more ++ others, rest)
    | _ => return ([], a :: rest)

/-- Writes a text, or says that it cannot; an empty one needs no stream. -/
def emit (t : Octets) (status : Nat := 0) : Act Nat := do
  let s ← get
  if t.isEmpty then return status
  match s.place.write? outputStream t with
  | some place =>
    set { s with place }
    return status
  | none =>
    set (s.complain ((s.speaker?.getD []) ++ ": I/O error".toList))
    return 1

/-- The whole number that an argument is. -/
def number (t : Octets) : Act Nat := do
  let n := Numeral.readDecimal t
  if n.found && !n.negative && n.magnitude < 2147483648 &&
      (n.rest.dropWhile Number.isPlainBlank).isEmpty then
    return n.magnitude
  else Act.fail ("Illegal number: ".toList ++ t)

/-- A text in apostrophes. -/
def quoted (t : Octets) : Octets :=
  ['\x27'] ++ t.flatMap (fun c => if c = '\x27' then "'\x22'\x22'".toList else [c]) ++ ['\x27']

/-! ### Writing -/

/-- Writes its arguments with their escapes carried out. -/
def echo : Builtin := fun _ _ args => do
  let bare : Bool := args.head? == some "-n".toList
  let (t, stops) := unescape (spaced (if bare then args.tail else args))
  emit (t ++ if bare || stops then [] else ['\n'])

/-- Writes a format with arguments in its places. -/
def printf : Builtin := fun _ _ args => do
  match (← letters "" args).2 with
  | [] => Act.fail "usage: printf format [arg ...]".toList
  | format :: args => do
    let d := Format.fill format args
    for c in d.complaints do
      modify (·.complain c)
    match d.outcome with
    | .failed message => do
      modify fun s => { s with place := s.place.write d.output }
      Act.fail message
    | _ => emit d.output (if d.complaints.isEmpty then 0 else 1)

/-! ### Reading -/

/-- A line without the line end and without backslashes, each character with
whether it may separate fields, and whether the line is ended. The characters
taken are counted. -/
def lineOf (raw : Bool) : Octets → List (Char × Bool) × Bool × Nat
  | [] => ([], false, 0)
  | '\\' :: c :: rest =>
    if raw then
      let (more, ended, n) := lineOf raw (c :: rest)
      (('\\', true) :: more, ended, n + 1)
    else
      let (more, ended, n) := lineOf raw rest
      (if c = '\n' then more else (c, false) :: more, ended, n + 2)
  | c :: rest =>
    if c = '\n' then ([], true, 1)
    else
      let (more, ended, n) := lineOf raw rest
      if c = '\x00' ∨ (c = '\\' ∧ !raw) then (more, ended, n + 1)
      else ((c, true) :: more, ended, n + 1)
termination_by t => t.length

/-- Whether a character is a blank that separates fields. -/
def isBlankGap (separators : Octets) (g : Char × Bool) : Bool :=
  g.2 && separators.contains g.1 && (g.1 == ' ' || g.1 == '\t' || g.1 == '\n')

/-- The first field of a line and what is left behind it. -/
def firstField (separators : Octets) (t : List (Char × Bool)) :
    List (Char × Bool) × List (Char × Bool) :=
  let isGap (g : Char × Bool) : Bool := g.2 && separators.contains g.1
  let t := t.dropWhile (isBlankGap separators)
  let field := t.takeWhile (!isGap ·)
  let behind := (t.drop field.length).dropWhile (isBlankGap separators)
  match behind with
  | g :: rest =>
    if isGap g then (field, rest.dropWhile (isBlankGap separators)) else (field, behind)
  | [] => (field, [])

/-- The last field, which is all that is left of a line, but for a single
separator at its end. -/
def lastField (separators : Octets) (t : List (Char × Bool)) : List (Char × Bool) :=
  let t := t.dropWhile (isBlankGap separators)
  let t := (t.reverse.dropWhile (isBlankGap separators)).reverse
  let (field, rest) := firstField separators t
  if rest.isEmpty then field else t

/-- Writes the fields of a line to variables. -/
def setFields (separators : Octets) : List Octets → List (Char × Bool) → Act Unit
  | [], _ => return ()
  | [name], t => Expand.assign name ((lastField separators t).map (·.1))
  | name :: names, t => do
    let (field, rest) := firstField separators t
    Expand.assign name (field.map (·.1))
    setFields separators names rest

/-- Reads a line into variables. -/
def read : Builtin := fun _ _ args => do
  let args := match args with
    | ['-', 'p'] :: _ :: rest => rest
    | _ => args
  let (signs, names) ← letters "r" args
  if names.isEmpty then Act.fail "arg count".toList
  let s ← get
  let t := (s.place.unread? inputStream).getD []
  let (line, ended, n) := lineOf (signs.contains 'r') t
  set { s with place := s.place.skip inputStream n }
  setFields s.separators names line
  return if ended then 0 else 1

/-! ### Variables -/

/-- The name and the value if an argument sets a variable. -/
def setting (a : Octets) : Octets × Option Octets :=
  let name := a.takeWhile (· != '=')
  (name, if name.length < a.length then some (a.drop (name.length + 1)) else none)

/-- Changes a variable, with a new value if an argument has one. -/
def mark (change : Variable → Variable) (a : Octets) : Act Unit := do
  let (name, value?) := setting a
  if !Reader.isName name then Act.fail (name ++ ": bad variable name".toList)
  if let some value := value? then Act.setValue name value
  modify fun s => s.put name (change ((s.bindings.lookup name).getD { value? := none }))

/-- The variables of a kind, as they can be set again. -/
def listing (word : String) (isShown : Variable → Bool) (s : Session) : Octets :=
  let lines := s.bindings.filterMap fun (name, v) =>
    if !isShown v then none
    else some (word.toList ++ [' '] ++ name ++ match v.value? with
      | some t => '=' :: quoted t
      | none => [])
  (lines.mergeSort fun a b => !(String.ofList b < String.ofList a)).flatMap (· ++ ['\n'])

/-- Changes variables, or lists those that were changed so. -/
def marks (word : String) (change : Variable → Variable) (isShown : Variable → Bool) : Builtin :=
  fun _ _ args => do
    let (signs, args) ← letters "p" args
    if args.isEmpty ∨ !signs.isEmpty then emit (listing word isShown (← get))
    else
      for a in args do
        mark change a
      return 0

/-- Makes variables known to programs. -/
def exportNames : Builtin := marks "export" ({ · with isExported := true }) (·.isExported)

/-- Makes variables keep their values. -/
def readonly : Builtin := marks "readonly" ({ · with isConstant := true }) (·.isConstant)

/-- Makes variables local to a function. -/
def localNames : Builtin := fun _ _ args => do
  if (← get).hidden?.isNone then Act.fail "not in a function".toList
  for a in args do
    let (name, value?) := setting a
    if !Reader.isName name then Act.fail (name ++ ": bad variable name".toList)
    Act.hide name
    match value? with
    | some value => Act.setValue name value
    | none => pure ()
  return 0

/-- Forgets variables or functions. -/
def unset : Builtin := fun _ _ args => do
  let (signs, args) ← letters "fv" args
  for a in args do
    let s ← get
    if signs.getLast? = some 'f' then
      set { s with functions := s.functions.filter (·.1 != a) }
    else
      let name := (setting a).1
      if !Reader.isName name then Act.fail (name ++ ": bad variable name".toList)
      if (s.bindings.lookup name).any (·.isConstant) then
        Act.fail (name ++ ": is read only".toList)
      set (s.restore name none)
  return 0

/-- Sets options and arguments. -/
def setOptions : Builtin := fun _ _ args => do
  let s ← get
  if args.isEmpty then
    let lines := s.bindings.filterMap fun (name, v) =>
      v.value?.map fun t => name ++ '=' :: quoted t ++ ['\n']
    emit (lines.mergeSort fun a b => !(String.ofList b < String.ofList a)).flatten
  else match Options.read false s.options args with
    | .error message => Act.fail message
    | .ok f =>
      set { s with
        options := f.options
        arguments := if f.ended || !f.rest.isEmpty then f.rest else s.arguments }
      return 0

/-- Leaves out the first arguments. -/
def shift : Builtin := fun _ _ args => do
  let n ← match args with
    | [] => pure 1
    | a :: _ => number a
  let s ← get
  if s.arguments.length < n then Act.fail "can't shift that many".toList
  set { s with arguments := s.arguments.drop n }
  return 0

/-! ### Leaving -/

/-- Ends the shell. -/
def exit : Builtin := fun _ _ args => do
  if let a :: _ := args then
    let n ← number a
    modify ({ · with status := n })
  throw .exit

/-- Ends a function. -/
def goBack : Builtin := fun _ _ args => do
  let n ← match args with
    | a :: _ => number a
    | [] => pure (← get).status
  modify ({ · with skip? := some .back })
  return n

/-- Leaves loops, or goes on with the next round of one. -/
def leave (skip : Nat → Skip) : Builtin := fun _ _ args => do
  let n ← match args with
    | a :: _ => do
      let n ← number a
      if n = 0 then Act.fail ("Illegal number: ".toList ++ a)
      pure n
    | [] => pure 1
  modify fun s =>
    let n := min n s.loops
    if n = 0 then s else { s with skip? := some (skip n) }
  return 0

/-! ### Scripts -/

/-- Carries out its arguments as a script. -/
def eval : Builtin := fun k tested args => do
  k.evalText tested (spaced args)
  return (← get).status

/-- Carries out the script in a file. -/
def source : Builtin := fun k tested args => do
  match args with
  | [] => return 0
  | path :: _ => do
    let s ← get
    let found? := match Place.streamNamed? path with
      | some n => s.place.readAll? n
      | none => (s.place.read? path).map (·, s.place)
    match found? with
    | some (t, place) => do
      set { s with place, speaker? := some path }
      k.evalText tested t
      modify fun s => if s.skip? = some .back then { s with skip? := none } else s
      return (← get).status
    | none =>
      if path.contains '/' then
        Act.fail ("cannot open ".toList ++ path ++ ": No such file".toList)
      else Act.fail (path ++ ": not found".toList)

/-! ### Places -/

/-- Goes to another directory. -/
def cd : Builtin := fun _ _ args => do
  let args := (← letters "LP" args).2
  let s ← get
  let go (path shown : Octets) : Act Nat := do
    if !path.isEmpty ∧ !s.place.isDirectory path then
      Act.fail ("can't cd to ".toList ++ path)
    let old := Octets.ofString (Location.path s.place.dir)
    let dir := if path.isEmpty then s.place.dir else s.place.locate path
    set { s with place := { s.place with dir } }
    Act.setValue "OLDPWD".toList old
    Act.setValue "PWD".toList (Octets.ofString (Location.path dir))
    if shown.isEmpty then return 0 else emit (shown ++ ['\n'])
  match args with
  | [] => go ((s.value? "HOME".toList).getD []) []
  | ['-'] :: _ =>
    let old := (s.value? "OLDPWD".toList).getD []
    go old old
  | path :: _ => go path []

/-- Writes where it is. -/
def pwd : Builtin := fun _ _ args => do
  let _ ← letters "LP" args
  emit (Octets.ofString (Location.path (← get).place.dir) ++ ['\n'])

/-! ### Conditions -/

/-- Whether a condition holds. -/
def test : Builtin := fun _ _ args => do
  match Condition.holds (← get).place args with
  | .ok b => return if b then 0 else 1
  | .error message => Act.fail message

/-- Whether a condition holds that a bracket closes, whatever is behind that. -/
def bracket : Builtin := fun k tested args => do
  if args.getLast?.bind (·.head?) = some ']' then test k tested args.dropLast
  else Act.fail "missing ]".toList

/-! ### Signals -/

/-- The traps, as they can be set again. -/
def trapListing (s : Session) : Octets :=
  (List.range 65).flatMap fun n =>
    match s.traps.lookup (Signal.name n) with
    | some t => "trap -- ".toList ++ quoted t ++ [' '] ++ Signal.name n ++ ['\n']
    | none => []

/-- Sets what is done at signals. -/
def setTraps (action? : Option Octets) : List Octets → Act Nat
  | [] => return 0
  | a :: rest => do
    match Signal.named? a with
    | none =>
      modify fun s =>
        { s with place := s.place.complain ("trap: ".toList ++ a ++ ": bad trap".toList) }
      return 1
    | some n =>
      let name := Signal.name n
      modify fun s =>
        let others := s.traps.filter (·.1 != name)
        { s with traps := match action? with
          | some t => (name, t) :: others
          | none => others }
      setTraps action? rest

/-- Sets or lists what is done at signals. -/
def trap : Builtin := fun _ _ args => do
  let (_, args) ← letters "" args
  match args with
  | [] => emit (trapListing (← get))
  | a :: rest =>
    if rest.isEmpty ∨ (!a.isEmpty ∧ a.all Text.isAsciiDigit) then setTraps none args
    else setTraps (if a = ['-'] then none else some a) rest

/-- The shell meets a signal. -/
def meet (k : Kit) (n : Nat) : Act Unit := do
  let s ← get
  match if n = 0 ∨ n = 9 then none else s.traps.lookup (Signal.name n) with
  | some t => do
    k.evalText false t
    modify ({ · with status := s.status })
  | none => if !Signal.isHarmless n then throw (.killed n)

/-- The signal that the first arguments name, and the others. -/
def signalOf : List Octets → Act (Nat × List Octets)
  | [['-', 's']] => Act.fail "No arg for -s option".toList
  | ['-', 's'] :: name :: rest => do
    match Signal.named? name with
    | some n => return (n, rest)
    | none => Act.fail ("invalid signal number or name: ".toList ++ name)
  | ['-', '-'] :: rest => return (15, rest)
  | ('-' :: c :: more) :: rest => do
    match Signal.named? (c :: more) with
    | some n => return (n, rest)
    | none => Act.fail ("Illegal option -".toList ++ [c])
  | args => return (15, args)

/-- Sends signals. -/
def kill : Builtin := fun k _ args => do
  let (n, targets) ← signalOf args
  if targets.isEmpty then
    Act.fail ("Usage: kill [-s sigspec | -signum | -sigspec] [pid | job]... or\n" ++
      "kill -l [exitstatus]").toList
  for target in targets do
    if target = Session.processNumber then meet k n
    else
      let _ ← number (if target.head? = some '-' then target.tail else target)
      modify (·.complain "No such process\n".toList)
      return 1
  return 0

/-- Waits for other programs, of which there are none left. -/
def wait : Builtin := fun _ _ args => do
  for a in args do
    let _ ← number a
    return 127
  return 0

/-! ### Programs by name -/

/-- Does nothing, with a status. -/
def idle (status : Nat) : Builtin := fun _ _ _ => return status

/-- The programs of the shell by name; those that carry out their arguments
as a command are elsewhere. -/
def named? : String → Option Builtin
  | "." => some source
  | ":" => some (idle 0)
  | "[" => some bracket
  | "break" => some (leave .leave)
  | "cd" | "chdir" => some cd
  | "continue" => some (leave .next)
  | "echo" => some echo
  | "eval" => some eval
  | "exit" => some exit
  | "export" => some exportNames
  | "false" => some (idle 1)
  | "kill" => some kill
  | "local" => some localNames
  | "printf" => some printf
  | "pwd" => some pwd
  | "read" => some read
  | "readonly" => some readonly
  | "return" => some goBack
  | "set" => some setOptions
  | "shift" => some shift
  | "test" => some test
  | "times" => some fun _ _ _ => emit "0m0.000000s 0m0.000000s\n0m0.000000s 0m0.000000s\n".toList
  | "trap" => some trap
  | "true" => some (idle 0)
  | "umask" => some fun _ _ args => if args.isEmpty then emit "0022\n".toList else return 0
  | "unset" => some unset
  | "wait" => some wait
  | "alias" | "bg" | "fg" | "hash" | "jobs" | "ulimit" | "unalias" => some (idle 0)
  | _ => none

/-- The programs of the shell that carry out their arguments as a command. -/
def runsArguments (name : String) : Bool := name == "command" || name == "exec"

/-- Whether there is a program of the shell under a name. -/
def isName (name : String) : Bool :=
  (named? name).isSome || runsArguments name || name == "type"

end Builtin

end LintRepair.Shell
