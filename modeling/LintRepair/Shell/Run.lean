/-
Shells: programs that carry out scripts.

* `Kit.perform`: a simple command;
* `Kit.evalCommand`: a command of any kind;
* `evaluator`: commands within commands up to a depth;
* `shell`: a shell as a program;
* `programs`: all programs, with shells within shells up to a depth.

The commands of a pipeline run one after another, each on all that the one
before has written.
-/
import LintRepair.Shell.Builtin

namespace LintRepair.Shell

namespace Kit

/-! ### Redirections -/

/-- A redirection with its words replaced. -/
inductive Lead
  | file (stream : Nat) (opening : Opening) (path : Octets)
  | copy (stream other : Nat)
  | close (stream : Nat)
  | document (stream : Nat) (text : List Part)

/-- A redirection with its words replaced. -/
def leadOf (k : Kit) : Redirection → Act Lead
  | .file stream opening path => return .file stream opening (← Expand.whole k path)
  | .copy stream other => do
    match ← Expand.whole k other with
    | ['-'] => return .close stream
    | [d] =>
      if Text.isAsciiDigit d then return .copy stream (d.toNat - 48)
      else Act.refuse .streamNumber
    | _ => Act.refuse .streamNumber
  | .document stream t => return .document stream t

/-- Leads a stream elsewhere; a message tells why that is not possible. It is
empty if nobody can read it, or if it was shown. -/
def redirect (k : Kit) : Lead → Act (Except Octets Unit)
  | .file stream opening path => do
    let s ← get
    match s.place.openFile stream opening path with
    | .ok place =>
      set { s with place }
      return .ok ()
    | .error fault =>
      let words := match opening, fault with
        | .read, _ => ("cannot open ", "No such file")
        | _, .directory => ("cannot create ", "Is a directory")
        | _, .absent => ("cannot create ", "Directory nonexistent")
      return .error (words.1.toList ++ path ++ ": ".toList ++ words.2.toList)
  | .copy stream other => do
    let s ← get
    match s.place.copy? stream other with
    | some place =>
      set { s with place }
      return .ok ()
    | none =>
      return .error (if stream = errorStream then []
        else (Json.intText other).toList ++ ": Bad file descriptor".toList)
  | .close stream => do
    modify fun s => { s with place := s.place.close stream }
    return .ok ()
  | .document stream t => do
    let expanded : Act (Option Octets) := return some (Expand.text (← Expand.ofParts k true false t))
    let t? ← tryCatch expanded fun halt => do
      if halt = .failure then return none else throw halt
    match t? with
    | some t => do
      modify fun s => { s with place := s.place.lead stream (.source t) }
      return .ok ()
    | none => return .error []

/-- Leads streams elsewhere; a message tells why that is not possible. -/
def redirectAll (k : Kit) : List Lead → Act (Except Octets Unit)
  | [] => return .ok ()
  | l :: rest => do
    match ← k.redirect l with
    | .ok () => k.redirectAll rest
    | .error message => return .error message

/-- Leads streams back to where they led in a session before. -/
def leadBack (before : Session) (rs : List Redirection) : Act Unit :=
  modify fun s =>
    { s with place := s.place.leadBack before.place.streams (rs.map (·.stream)) }

/-- Carries out a step; streams that were led elsewhere lead back if the shell
ends with it. -/
def guarded {α : Type} (before : Session) (rs : List Redirection) (act : Act α) : Act α :=
  tryCatch act fun halt => do
    leadBack before rs
    throw halt

/-- Carries out a step and leads streams back, whether or not the shell ends
with it. -/
def restoring {α : Type} (before : Session) (rs : List Redirection) (act : Act α) : Act α := do
  let a ← guarded before rs act
  leadBack before rs
  return a

/-- The session after streams could not be led elsewhere. -/
def blocked (streams : List (Nat × Nat)) (message : Octets) (s : Session) : Session :=
  let s := if message.isEmpty then s else s.complain message
  { s with place := { s.place with streams }, status := 2 }

/-- Carries out a step with streams led elsewhere; whether it was possible to
lead them. -/
def redirected (k : Kit) (rs : List Redirection) (act : Act Unit) : Act Bool := do
  let leads ← rs.mapM (leadOf k)
  let before ← get
  match ← k.redirectAll leads with
  | .ok () =>
    restoring before rs act
    return true
  | .error message =>
    modify (blocked before.place.streams message)
    return false

/-! ### Simple commands -/

/-- Whether the directory of programs is among those where a name is looked
for. -/
def isFindable (s : Session) (name : Octets) : Bool :=
  name.elem '/' || match s.value? "PATH".toList with
    | none => true
    | some path =>
      ((String.ofList path).splitOn ":").any fun dir =>
        ["/bin", "/usr/bin", "/bin/", "/usr/bin/"].contains dir

/-- The program of a name. -/
def program? (k : Kit) (s : Session) (name : Octets) : Option Program :=
  if isFindable s name then k.programs (Octets.toString name) else none

/-- Runs a program that needs no shell. -/
def launch (k : Kit) (name : Octets) (args : List Octets) : Act Nat := do
  let s ← get
  match k.program? s name with
  | some program =>
    let (after, ending) := program args { s.place with environment := s.environment }
    set { s with place := { s.place with disk := after.disk, channels := after.channels } }
    if let .signal n := ending then
      if let some words := Signal.words? n then
        modify fun s => { s with place := s.place.complain words.toList }
    return ending.code
  | none =>
    let isThere : Bool := name.contains '/' && s.place.holds name
    let denied : Bool := isThere || name.isEmpty
    modify (·.complain (name ++ (if denied then ": Permission denied" else ": not found").toList))
    return if isThere then 126 else 127

/-- Carries out a function. -/
def call (k : Kit) (tested : Bool) (body : Command) (args : List Octets) : Act Nat := do
  let s ← get
  set { s with arguments := args, hidden? := some [], loops := 0 }
  k.eval tested body
  modify fun after =>
    let restored := (after.hidden?.getD []).foldl (fun s (name, v?) => s.restore name v?) after
    { restored with
      arguments := s.arguments, hidden? := s.hidden?, loops := s.loops
      skip? := if after.skip? = some .back then none else after.skip? }
  return (← get).status

/-- Runs a program of the shell, which speaks in messages. A failure ends the
shell only if it is part of the language. -/
def runBuiltin (k : Kit) (tested special : Bool) (name : Octets) (b : Builtin)
    (args : List Octets) : Act Nat := do
  let speaker? := (← get).speaker?
  modify ({ · with speaker? := some name })
  let act : Act Nat := b k tested args
  let status ← if special then act
    else tryCatch act fun halt => do
      if halt = .failure then pure (← get).status else throw halt
  modify ({ · with speaker? })
  return status

/-- What a shell finds under a name: a function, a program of its own, or
something else. -/
def describe (k : Kit) (s : Session) (name : Octets) : Option String :=
  let n := String.ofList name
  if Keyword.all.any (·.1 == n) then some "a shell keyword"
  else if Reader.isSpecialName n then some "a special shell builtin"
  else if (s.functions.lookup name).isSome then some "a shell function"
  else if Builtin.isName n then some "a shell builtin"
  else if (k.programs (Octets.toString name)).isSome then
    some (if name.contains '/' then n else "/usr/bin/" ++ n)
  else none

/-- Tells what a name means, in words or as it is called. -/
def tell (k : Kit) (brief : Bool) (name : Octets) : Act Nat := do
  match k.describe (← get) name with
  | some what =>
    let shown := what.toList
    let isPath : Bool := shown.head? == some '/'
    Builtin.emit ((if brief then if isPath then shown else name
      else name ++ " is ".toList ++ shown) ++ ['\n'])
  | none =>
    if brief then return 127
    else do
      let _ ← Builtin.emit (name ++ ": not found\n".toList)
      return 127

/-- Tells what names mean. -/
def tellAll (k : Kit) (brief : Bool) (names : List Octets) : Act Nat := do
  let mut status := 0
  for name in names do
    let code ← k.tell brief name
    status := if code = 0 then status else code
  return status

/-- Runs a program by its name, without looking for a function. -/
def runNamed (k : Kit) (tested special : Bool) (name : Octets) (args : List Octets) : Act Nat :=
  match Builtin.named? (String.ofList name) with
  | some b => k.runBuiltin tested special name b args
  | none =>
    if name = "type".toList then k.runBuiltin tested special name (fun k _ => k.tellAll false) args
    else k.launch name args

/-- Becomes another program, which knows of no traps. -/
def become (k : Kit) (args : List Octets) : Act Nat := do
  match args with
  | [] => return 0
  | name :: args => do
    modify ({ · with speaker? := some "exec".toList })
    let status ← k.launch name args
    let found := (k.program? (← get) name).isSome
    if found then modify ({ · with traps := [] })
    modify ({ · with status })
    throw .exit

/-- The letters of signs in front of a command. -/
def commandSigns : List Octets → Octets
  | ('-' :: c :: more) :: rest =>
    if c = '-' ∧ more.isEmpty then [] else c :: more ++ commandSigns rest
  | _ => []

/-- A command without the signs in front of it. -/
def withoutSigns : List Octets → List Octets
  | ('-' :: c :: more) :: rest => if c = '-' ∧ more.isEmpty then rest else withoutSigns rest
  | args => args

theorem length_withoutSigns_le (args : List Octets) :
    (withoutSigns args).length ≤ args.length := by
  fun_induction withoutSigns args with
  | case1 c more rest sign =>
    rw [List.length_cons]
    omega
  | case2 c more rest sign ih =>
    rw [List.length_cons]
    omega
  | case3 args other => exact Nat.le_refl _

/-- Runs a command by its arguments, the name first. A name behind `command`
is not that of a function, nor is its program part of the language. -/
def run (k : Kit) (tested special functions : Bool) : List Octets → Act Nat
  | [] => return 0
  | name :: args => do
    let s ← get
    match if functions then s.functions.lookup name else none with
    | some body => k.call tested body args
    | none =>
      if name = "exec".toList then k.become args
      else if name = "command".toList then
        let signs := commandSigns args
        let others := withoutSigns args
        if let some bad := signs.find? (!"pvV".toList.contains ·) then
          k.runBuiltin tested false name
            (fun _ _ _ => Act.fail ("Illegal option -".toList ++ [bad])) []
        else if signs.contains 'v' ∨ signs.contains 'V' then
          let brief : Bool := !signs.contains 'V'
          k.runBuiltin tested false name (fun k _ => k.tellAll brief) (others.take 1)
        else k.run tested false false others
      else k.runNamed tested special name args
termination_by args => args.length
decreasing_by
  have := length_withoutSigns_le args
  simp only [List.length_cons]
  omega

/-- Whether the arguments of a program may set variables. -/
def setsVariables (name : Octets) : Bool :=
  name == "export".toList || name == "readonly".toList || name == "local".toList

/-- The arguments that words come to. -/
def argumentsOf (k : Kit) : List Word → Act (List Octets)
  | [] => return []
  | w :: rest => do
    match ← Expand.fieldsOf k w with
    | [] => k.argumentsOf rest
    | name :: more =>
      if setsVariables name then
        let others ← rest.mapM fun w =>
          if (Reader.assignment? w).isSome then return [← Expand.whole k w]
          else Expand.fieldsOf k w
        return name :: more ++ others.flatten
      else return name :: more ++ (← Expand.fields k rest)

/-- Sets variables; those that only a command is told are hidden first. -/
def assignAll (k : Kit) (told exported : Bool) : List (Octets × Word) → Act (List Octets)
  | [] => return []
  | (name, w) :: rest => do
    let value ← Expand.whole k w
    if told then Act.hide name
    Act.setValue name value
    if exported then
      modify fun s =>
        s.put name { (s.bindings.lookup name).getD { value? := none } with isExported := true }
    return (name ++ '=' :: value) :: (← k.assignAll told exported rest)

/-- Shows a command before it is carried out, if that is asked for, where
errors went before streams were led elsewhere. -/
def trace (words : List Octets) (streams : List (Nat × Nat)) (s : Session) : Session :=
  if !s.has 'x' || words.isEmpty then s
  else
    let p := ({ s.place with streams } : Place).complain (['+', ' '] ++ spaced words)
    { s with place := { p with streams := s.place.streams } }

/-- A failure that is not tested ends the shell if that is asked for. -/
def checkFailure (tested : Bool) : Act Unit := do
  let s ← get
  if s.status ≠ 0 ∧ s.has 'e' ∧ !tested then throw .exit

/-- Carries out a simple command. -/
def perform (k : Kit) (tested : Bool) (line : Nat) (assignments : List (Octets × Word))
    (words : List Word) (rs : List Redirection) : Act Unit := do
  modify ({ · with line, outputStatus := 0 })
  let args ← k.argumentsOf words
  let s ← get
  let streams := s.place.streams
  let name := args.headD []
  let special : Bool := Reader.isSpecialName (String.ofList name)
  match ← k.redirectAll (← rs.mapM (leadOf k)) with
  | .error message =>
    modify (blocked streams message)
    if special then throw .failure
  | .ok () =>
    let told : Bool := !args.isEmpty && !special
    let outer? := s.hidden?
    if told then modify ({ · with hidden? := some [] })
    let becomes : Bool := name == "exec".toList && 1 < args.length
    let shown ← guarded s rs (k.assignAll told (told || becomes) assignments)
    let hidden := (← get).hidden?.getD []
    if told then modify ({ · with hidden? := outer? })
    modify (trace (shown ++ args) streams)
    let act : Act Nat := if args.isEmpty then return (← get).outputStatus
      else k.run tested special true args
    let status ← if name = "exec".toList then guarded s rs act else restoring s rs act
    modify fun s =>
      let s := if told then hidden.foldl (fun s (name, v?) => s.restore name v?) s else s
      { s with status }
  checkFailure tested

/-! ### Loops -/

/-- How a loop goes on after a round. -/
inductive Round
  | goesOn
  | ends
  deriving DecidableEq

/-- What is to be left out is counted by one loop. -/
def endRound : Act Round := do
  let s ← get
  match s.skip? with
  | none => return .goesOn
  | some (.leave n) =>
    set { s with skip? := if n ≤ 1 then none else some (.leave (n - 1)) }
    return .ends
  | some (.next n) =>
    if n ≤ 1 then
      set { s with skip? := none }
      return .goesOn
    else
      set { s with skip? := some (.next (n - 1)) }
      return .ends
  | some .back => return .ends

/-- The rounds of a loop under a condition, up to so many. -/
def rounds (k : Kit) (tested ends : Bool) (test body : Command) (status : Nat) : Nat → Act Nat
  | 0 => throw .exit
  | n + 1 => do
    k.eval true test
    let answer := (← get).status
    let skip? := (← get).skip?
    match ← endRound with
    | .ends => return if skip? = some .back then answer else status
    | .goesOn =>
      if skip?.isSome then k.rounds tested ends test body status n
      else if (answer = 0) = ends then return status
      else do
        k.eval tested body
        let status := (← get).status
        match ← endRound with
        | .ends => return status
        | .goesOn => k.rounds tested ends test body status n

/-- The rounds of a loop over words. -/
def roundsOver (k : Kit) (tested : Bool) (name : Octets) (body : Command) (status : Nat) :
    List Octets → Act Nat
  | [] => return status
  | w :: rest => do
    Act.setValue name w
    k.eval tested body
    let status := (← get).status
    match ← endRound with
    | .ends => return status
    | .goesOn => k.roundsOver tested name body status rest

/-- Carries out a loop. -/
def within (loop : Act Nat) : Act Unit := do
  modify fun s => { s with loops := s.loops + 1 }
  let status ← loop
  modify fun s => { s with loops := s.loops - 1, status }

/-! ### Commands of every kind -/

/-- Carries out the commands of a pipeline, each of which reads what the one
before has written. -/
def stages (k : Kit) (tested : Bool) (input? : Option Nat) (before : Nat) :
    List Command → Act Unit
  | [] => return ()
  | c :: rest => do
    let i := (← get).place.channels.length
    modify ({ · with status := before })
    let status ← k.apart do
      modify fun s =>
        let p := match input? with
          | some j => s.place.connect inputStream j
          | none => s.place
        { s with place := if rest.isEmpty then p else p.lead outputStream (.sink []) }
      k.eval tested c
    modify fun s =>
      let p := s.place
      { s with
        status
        place := { p with channels := p.channels.set i (.source (p.written i)) } }
    k.stages tested (some i) before rest

/-- Whether one of some patterns fits a text. -/
def fitsAny (k : Kit) (t : Octets) : List Word → Act Bool
  | [] => return false
  | w :: rest => do
    if (← Expand.pattern k w).accepts t then return true else k.fitsAny t rest

/-- Carries out a command; without one, the status is zero. -/
def evalOrPass (k : Kit) (tested : Bool) (c : Command) : Act Unit :=
  if c.isNothing then modify ({ · with status := 0 }) else k.eval tested c

/-- Carries out the first of some cases that fits a text. -/
def choose (k : Kit) (tested : Bool) (t : Octets) : List (List Word × Command) → Act Unit
  | [] => modify ({ · with status := 0 })
  | (patterns, body) :: rest => do
    if ← k.fitsAny t patterns then k.evalOrPass tested body
    else k.choose tested t rest

/-- The greatest number of rounds of a loop. -/
def maxRounds : Nat := 1000000

/-- Carries out a command of any kind. -/
def evalCommand (k : Kit) (tested : Bool) : Command → Act Unit
  | .nothing => return ()
  | .simple line assignments words rs => k.perform tested line assignments words rs
  | .pipeline cs => do
    k.stages tested none (← get).status cs
    checkFailure tested
  | .negation c => do
    k.eval true c
    modify fun s =>
      if s.skip?.isSome then s else { s with status := if s.status = 0 then 1 else 0 }
  | .sequence a b => do
    k.eval tested a
    if (← get).skip?.isNone then k.eval tested b
  | .both a b => do
    k.eval true a
    let s ← get
    if s.skip?.isNone ∧ s.status = 0 then k.eval tested b
  | .either a b => do
    k.eval true a
    let s ← get
    if s.skip?.isNone ∧ s.status ≠ 0 then k.eval tested b
  | .background c => do
    let _ ← k.apart do
      modify fun s => { s with place := s.place.lead inputStream (.source []) }
      k.eval false c
    modify ({ · with status := 0 })
  | .subshell line body rs => do
    modify ({ · with line })
    let leads ← rs.mapM (leadOf k)
    let status ← k.apart do
      match ← k.redirectAll leads with
      | .ok () => k.eval tested body
      | .error message => modify (blocked [] message)
    modify ({ · with status })
    checkFailure tested
  | .redirected line body rs => do
    modify ({ · with line })
    if !(← k.redirected rs (k.eval tested body)) then checkFailure tested
  | .branch test yes no => do
    k.eval true test
    let s ← get
    if s.skip?.isNone then k.evalOrPass tested (if s.status = 0 then yes else no)
  | .loop ends test body => within (k.rounds tested ends test body 0 maxRounds)
  | .each line name words body => do
    modify ({ · with line })
    let found ← Expand.fields k words
    within (k.roundsOver tested name body 0 found)
  | .choice line word cases => do
    modify ({ · with line })
    k.choose tested (← Expand.whole k word) cases
  | .function name body =>
    modify fun s =>
      { s with functions := (name, body) :: s.functions.filter (·.1 != name), status := 0 }

end Kit

/-! ### Shells -/

/-- Carries out commands within commands up to a depth. -/
def evaluator (programs : Programs) : Nat → (tested : Bool) → Command → Act Unit
  | 0 => fun _ _ => throw .exit
  | depth + 1 =>
    Kit.evalCommand { eval := evaluator programs depth, programs }

/-- How deep commands may be nested. -/
def maxDepth : Nat := 10000

/-- Carries out the script that a text is, in a new shell, or reads it only. -/
def runText (programs : Programs) (name : Octets) (args : List Octets) (options : Octets)
    (t : Octets) (p : Place) : Place × Ending :=
  let eval := if options.contains 'n' then fun _ _ => return () else evaluator programs maxDepth
  let k : Kit := { eval, programs }
  let (s, signal?) := k.finish (k.evalText false t) (Session.start p name args options)
  match signal? with
  | some n => (s.place, .signal n)
  | none => (s.place, .status (s.status % 256))

/-- A shell, by the name under which it was started. -/
def shell (programs : Programs) (self : Octets) : Program := fun args p =>
  let refuse (message : Octets) : Place × Ending :=
    (p.complain (self ++ ": 0: ".toList ++ message), .status 2)
  match Options.read true [] args with
  | .error message => refuse message
  | .ok f =>
    let run := fun name args t p => runText programs name args f.options t p
    let runInput (args : List Octets) : Place × Ending :=
      match p.readAll? inputStream with
      | some (t, p) => run self args t p
      | none => (p, .status 0)
    match f.hasScript, f.rest with
    | true, [] => refuse "-c requires an argument".toList
    | true, script :: params => run (params.headD self) params.tail script p
    | false, [] => runInput []
    | false, path :: params =>
      if f.options.contains 's' then runInput (path :: params)
      else match p.openFile errorStream .read path with
        | .ok q => run path params ((q.unread? errorStream).getD []) p
        | .error _ => refuse ("cannot open ".toList ++ path ++ ": No such file".toList)

/-- The name of a program without the directory of programs. -/
def programName (path : String) : String :=
  match path.splitOn "/" with
  | ["", "bin", name] | ["", "usr", "bin", name] => name
  | _ => path

/-- All programs, with shells within shells up to a depth. -/
def programsUpTo : Nat → Programs
  | 0 => fun path => tools (programName path)
  | depth + 1 => fun path =>
    let name := programName path
    if name = "sh" ∨ name = "dash" then
      some (shell (programsUpTo depth) (Octets.ofString path))
    else tools name

/-- All programs. -/
def programs : Programs := programsUpTo 16

end LintRepair.Shell
