/-
Programs and how they end.

* `Ending`: a status, or a signal;
* `Program`, `Programs`: what programs do, and how they are found;
* `cat`, `echo`, `printf`: programs that need no shell.
-/
import LintRepair.Shell.Format
import LintRepair.Shell.Place

namespace LintRepair.Shell

/-- How a program ends. -/
inductive Ending
  | status (n : Nat)
  | signal (n : Nat)
  deriving DecidableEq, Repr

/-- The number for an ending; one below zero for a signal. -/
def Ending.number : Ending → Int
  | .status n => n
  | .signal n => -n

/-- The status that a shell sees. -/
def Ending.code : Ending → Nat
  | .status n => n
  | .signal n => 128 + n

/-- What a program makes of its arguments at a place. -/
abbrev Program := List Octets → Place → Place × Ending

/-- Programs under their names. -/
abbrev Programs := String → Option Program

/-- The words of a list with blanks between them. -/
def spaced (words : List Octets) : Octets := [' '].intercalate words

/-! ### Writing arguments -/

/-- Writes its arguments. Signs in front ask for no line end and for escapes
to be carried out. -/
def echo : Program := fun args p =>
  let isSign : Octets → Bool
    | '-' :: letters => !letters.isEmpty && letters.all fun c => c == 'n' || c == 'e' || c == 'E'
    | _ => false
  let signs := (args.takeWhile isSign).flatten
  let t := spaced (args.dropWhile isSign)
  let escapes : Bool := (signs.filter fun c => c == 'e' || c == 'E').getLast? == some 'e'
  let (t, stops) := if escapes then unescape t else (t, false)
  match p.write? outputStream (t ++ if stops || signs.contains 'n' then [] else ['\n']) with
  | some p => (p, .status 0)
  | none => (p.complain "echo: write error: Bad file descriptor".toList, .status 1)

/-- Writes a format with arguments in its places. -/
def printf : Program := fun args p =>
  let remark (message : Octets) : Octets := "printf: ".toList ++ message
  let args := if args.head? = some "--".toList then args.tail else args
  match args with
  | [] => (p.complain (remark "usage: printf format [arg ...]".toList), .status 2)
  | format :: args =>
    let d := Format.fill format args
    let p := d.complaints.foldl (fun p c => p.complain (remark c)) p
    match p.write? outputStream d.output, d.outcome with
    | none, _ => (p.complain (remark "write error: Bad file descriptor".toList), .status 1)
    | some p, .failed message => (p.complain (remark message), .status 2)
    | some p, _ => (p, .status (if d.complaints.isEmpty then 0 else 1))

/-! ### Writing files -/

namespace Cat

/-- What is shown of a file. -/
structure Signs where
  numbersAll : Bool := false
  numbersFull : Bool := false
  squeezes : Bool := false
  showsEnds : Bool := false
  showsTabs : Bool := false
  showsOthers : Bool := false
  deriving DecidableEq

/-- A sign in front of the files by its letter. -/
def Signs.add? (s : Signs) : Char → Option Signs
  | 'A' => some { s with showsEnds := true, showsTabs := true, showsOthers := true }
  | 'b' => some { s with numbersFull := true }
  | 'e' => some { s with showsEnds := true, showsOthers := true }
  | 'E' => some { s with showsEnds := true }
  | 'n' => some { s with numbersAll := true }
  | 's' => some { s with squeezes := true }
  | 't' => some { s with showsTabs := true, showsOthers := true }
  | 'T' => some { s with showsTabs := true }
  | 'u' => some s
  | 'v' => some { s with showsOthers := true }
  | _ => none

/-- The letter for a sign that is spelled out. -/
def letterOf? : String → Option Char
  | "--show-all" => some 'A'
  | "--number-nonblank" => some 'b'
  | "--show-ends" => some 'E'
  | "--number" => some 'n'
  | "--squeeze-blank" => some 's'
  | "--show-tabs" => some 'T'
  | "--show-nonprinting" => some 'v'
  | _ => none

/-- The signs and the files among arguments, or the letter that is no sign. -/
def sorted (s : Signs) : List Octets → Except Char (Signs × List Octets)
  | [] => .ok (s, [])
  | a :: rest =>
    if a = "--".toList then .ok (s, rest)
    else
      let letters? := match letterOf? (String.ofList a), a with
        | some c, _ => some [c]
        | none, '-' :: letters => if letters.isEmpty then none else some letters
        | none, _ => none
      match letters? with
      | none => (sorted s rest).map fun (s, files) => (s, a :: files)
      | some letters =>
        match letters.foldlM (fun s c => ((s.add? c).map Except.ok).getD (Except.error c)) s with
        | .ok s => sorted s rest
        | .error c => .error c

/-- A byte with marks in place of what cannot be printed. -/
def shownByte (s : Signs) (c : Char) : Octets :=
  let plain (n : Nat) : Octets :=
    if n < 32 then ['^', Char.ofNat (n + 64)]
    else if n = 127 then ['^', '?']
    else [Char.ofNat n]
  if c = '\n' then if s.showsEnds then ['$', '\n'] else [c]
  else if c = '\t' then if s.showsTabs then ['^', 'I'] else [c]
  else if !s.showsOthers then [c]
  else if c.toNat < 128 then plain c.toNat
  else ['M', '-'] ++ plain (c.toNat - 128)

/-- Where the writing of files stands. -/
structure State where
  place : Place
  status : Nat := 0
  /-- The number of the last line that has one. -/
  line : Nat := 0
  /-- Whether a line begins. -/
  begins : Bool := true
  /-- Whether the line before was empty. -/
  afterEmpty : Bool := false

/-- What is shown of bytes, and where that leads. -/
def shown (s : Signs) (st : State) : Octets → Octets × State
  | [] => ([], st)
  | c :: rest =>
    let isEmpty : Bool := st.begins && c == '\n'
    if s.squeezes && isEmpty && st.afterEmpty then shown s st rest
    else
      let numbered : Bool := st.begins && (if s.numbersFull then !isEmpty else s.numbersAll)
      let n := if numbered then st.line + 1 else st.line
      let digits := Nat.toDigits 10 n
      let mark :=
        if numbered then List.replicate (6 - digits.length) ' ' ++ digits ++ ['\t'] else []
      let next := { st with
        line := n, begins := c == '\n', afterEmpty := if st.begins then isEmpty else false }
      let (more, after) := shown s next rest
      (mark ++ shownByte s c ++ more, after)

/-- A byte that cannot be printed, as an escape. -/
def escapeOf (c : Char) : Octets :=
  match c with
  | '\x07' => ['\\', 'a']
  | '\x08' => ['\\', 'b']
  | '\t' => ['\\', 't']
  | '\n' => ['\\', 'n']
  | '\x0b' => ['\\', 'v']
  | '\x0c' => ['\\', 'f']
  | '\r' => ['\\', 'r']
  | _ =>
    let ds := Nat.toDigits 8 c.toNat
    '\\' :: List.replicate (3 - ds.length) '0' ++ ds

/-- Bytes inside apostrophes; those that cannot be printed are escaped. -/
def insideQuotes (escaping : Bool) : Octets → Octets
  | [] => []
  | c :: rest =>
    if c.toNat < 32 ∨ c.toNat = 127 then
      (if escaping then [] else "'$'".toList) ++ escapeOf c ++ insideQuotes true rest
    else
      (if escaping then "''".toList else []) ++ (if c = '\x27' then "'\\''".toList else [c]) ++
        insideQuotes false rest

/-- A name in a message; it is quoted if a shell would take it for more than a
word. -/
def quotedName (name : Octets) : Octets :=
  let isCalm (c : Char) : Bool :=
    Text.isAsciiLetter c || Text.isAsciiDigit c || "%+,-./:]_".toList.contains c
  let isSafe (c : Char) : Bool :=
    (isCalm c && c != ':') || "@\x7b\x7d#~".toList.contains c || 128 ≤ c.toNat
  let isOdd : Bool := name.isEmpty || name.head? == some '#' || name.head? == some '~' ||
    name == ['\x7b'] || name == ['\x7d']
  if name.all isSafe && !isOdd then name
  else if name.elem '\x27' && name.all fun c => isCalm c || c == ' ' || c == '\x27' then
    ['\x22'] ++ name ++ ['\x22']
  else ['\x27'] ++ insideQuotes false name ++ ['\x27']

/-- Whether what is written goes to the file that is read. -/
def isOutput (p : Place) (path : Octets) : Bool :=
  match p.channel? outputStream with
  | some (.file l opening offset) =>
    let length := ((p.disk.read? l).getD []).length
    l == p.locate path && l != Location.nullDevice &&
      0 < (if opening = .append then length else offset)
  | _ => false

/-- Writes one file, or the input in place of the file `-`. -/
def addFile (s : Signs) (st : State) (path : Octets) : State :=
  let fault (words : String) : State :=
    { st with
      place := st.place.complain ("cat: ".toList ++ quotedName path ++ ": ".toList ++ words.toList)
      status := 1 }
  let stream? := if path = ['-'] then some inputStream else Place.streamNamed? path
  let found : Except String (Octets × Place) := match stream? with
    | some n => match st.place.readAll? n with
      | some found => .ok found
      | none =>
        .error (if path = ['-'] then "Bad file descriptor" else "No such file or directory")
    | none => match if path.isEmpty then none else st.place.read? path with
      | some t =>
        if isOutput st.place path then .error "input file is output file" else .ok (t, st.place)
      | none =>
        .error (if st.place.isDirectory path then "Is a directory" else "No such file or directory")
  match found with
  | .error words => fault words
  | .ok (t, place) =>
    let st := { st with place }
    let (t, st) := if s = {} then (t, st) else shown s st t
    match st.place.write? outputStream t with
    | some place => { st with place }
    | none => st

end Cat

/-- Writes files one after another. -/
def cat : Program := fun args p =>
  match Cat.sorted {} args with
  | .error c =>
    let p := p.complain ("cat: invalid option -- '".toList ++ [c, '\x27'])
    (p.complain "Try 'cat --help' for more information.".toList, .status 1)
  | .ok (s, files) =>
    if (p.write? outputStream []).isNone then
      (p.complain "cat: standard output: Bad file descriptor".toList, .status 1)
    else
      let files := if files.isEmpty then [['-']] else files
      let st := files.foldl (Cat.addFile s) { place := p }
      if files.elem ['-'] && (p.unread? inputStream).isNone then
        (st.place.complain "cat: closing standard input: Bad file descriptor".toList, .status 1)
      else (st.place, .status st.status)

/-! ### Programs by name -/

/-- Does nothing, with a status. -/
def idle (status : Nat) : Program := fun _ p => (p, .status status)

/-- The programs that need no shell. -/
def tools : Programs
  | "cat" => some cat
  | "echo" => some echo
  | "printf" => some printf
  | "true" => some (idle 0)
  | "false" => some (idle 1)
  | _ => none

end LintRepair.Shell
