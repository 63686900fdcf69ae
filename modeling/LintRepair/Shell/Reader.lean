/-
Tokens of shell scripts, read where they are needed.

* `Reader`: what is left of a script, with the number of the line;
* `Reader.Step`: a step through a script;
* `Reader.part`: one part of a word;
* `Reader.token`: the next token.

What a character means depends on what it stands in, a `Context`. The text of
a document is cut out of the script where the document is announced. Scripts
within words are read by `Parsers`, which are given.
-/
import LintRepair.Shell.Pattern
import LintRepair.Shell.Arithmetic
import LintRepair.Shell.Script

namespace LintRepair.Shell

/-- A redirection without what it leads to. -/
inductive Arrow
  | file (stream : Nat) (opening : Opening)
  | copy (stream : Nat)
  | document (stream : Nat) (withoutTabs : Bool)

/-- A token of a script. -/
inductive Token
  | sign (k : Kind)
  | arrow (a : Arrow)
  | word (w : Word)
  | keyword (k : Keyword)

/-- The kind of a token. -/
def Token.kind : Token → Kind
  | .sign k => k
  | .arrow _ => .redirection
  | .word _ => .word
  | .keyword k => .keyword k

/-- What a part of a word stands in. -/
inductive Context
  | bare
  | quotes
  /-- Behind the operator of a parameter, in quotes or as if in quotes. -/
  | brace (quoted inDocument : Bool)
  | sum
  | document
  /-- The word that ends a document. -/
  | mark
  deriving DecidableEq, Repr

namespace Context

/-- Whether only few characters mean something. -/
def isQuoted : Context → Bool
  | .bare | .mark => false
  | .brace quoted _ => quoted
  | .quotes | .sum | .document => true

/-- Whether a word stands by itself. -/
def isOpen (c : Context) : Bool := c == .bare || c == .mark

/-- Whether a parameter is in braces. -/
def isBrace : Context → Bool
  | .brace _ _ => true
  | _ => false

/-- Whether a part belongs to a document. -/
def isInDocument : Context → Bool
  | .document => true
  | .brace _ inDocument => inDocument
  | _ => false

/-- The context behind the operator of a parameter. -/
def inner (c : Context) : Context := .brace c.isQuoted c.isInDocument

end Context

/-- What is left of a script. -/
structure Reader where
  rest : Octets
  line : Nat := 1
  /-- A token that was put back. -/
  pushed? : Option Token := none
  /-- The last token. -/
  last : Token := .sign .newline
  /-- How many lines were cut out behind the present one. -/
  skipped : Nat := 0

namespace Reader

/-- A step through a script. -/
abbrev Step := StateT Reader (Except SyntaxFault)

/-- Refuses the script. -/
def refuse {α : Type} (flaw : SyntaxFlaw) : Step α := do throw ⟨(← get).line, flaw⟩

/-- Repeats a step until it has a result, up to so many times. -/
def repeated {σ α : Type} (step : σ → Step (σ ⊕ α)) : Nat → σ → Step α
  | 0, _ => refuse (.unexpected .textEnd none)
  | n + 1, s => do
    match ← step s with
    | .inl s => repeated step n s
    | .inr a => return a

/-- Repeats a step as often as there may be need, since each takes a character
or has a result. -/
def untilDone {σ α : Type} (step : σ → Step (σ ⊕ α)) (s : σ) : Step α := do
  repeated step (2 * (← get).rest.length + 2) s

/-! ### Characters -/

/-- Takes the next character, whatever it is. -/
def takeAny : Step (Option Char) := do
  let r ← get
  match r.rest with
  | [] => return none
  | c :: rest =>
    if c = '\n' then set { r with rest, line := r.line + 1 + r.skipped, skipped := 0 }
    else set { r with rest }
    return some c

/-- A text without the line ends after backslashes at its start, and how many
there were. -/
def unfolded : Octets → Octets × Nat
  | '\\' :: '\n' :: rest => let (t, n) := unfolded rest; (t, n + 1)
  | t => (t, 0)

/-- The next character, behind lines that go on. -/
def peek : Step (Option Char) := do
  let r ← get
  let (rest, n) := unfolded r.rest
  set { r with rest, line := r.line + n }
  return rest.head?

/-- Takes the next character, behind lines that go on. -/
def take : Step (Option Char) := do
  let _ ← peek
  takeAny

/-- Takes the next character as a sign; a line end there is not counted. -/
def takeSign : Step (Option Char) := do
  let c? ← take
  if c? = some '\n' then modify fun r => { r with line := r.line - 1 }
  return c?

/-- Takes characters of a class. -/
def takeWhile (p : Char → Bool) : Step Octets :=
  untilDone (fun t => do
    match ← peek with
    | some c =>
      if p c then do
        let _ ← takeAny
        return .inl (c :: t)
      else return .inr t.reverse
    | none => return .inr t.reverse) []

/-! ### Words -/

/-- How a list of commands ends. -/
inductive Extent
  /-- Before a token that ends lists; there is a command in it. -/
  | body
  /-- Likewise, but it may be empty. -/
  | loose
  /-- At the end of a line. -/
  | line
  deriving DecidableEq, Repr

/-- How what is nested in a script is read. -/
structure Parsers where
  list : Extent → Step Command
  command : Step Command
  parts : Context → Step (List Part)

/-- What separates words. -/
def isSeparator (c : Char) : Bool := " \t\n;&|<>()".toList.contains c

/-- The names of parameters that are one character. -/
def isSpecial (c : Char) : Bool := Text.isAsciiDigit c || "!#*-?@$".toList.contains c

/-- What is read up to an apostrophe. -/
def untilApostrophe : Step Octets :=
  untilDone (fun t => do
    match ← takeAny with
    | some '\x27' => return .inr t.reverse
    | some c => return .inl (c :: t)
    | none => refuse .openQuote) []

/-- The text of a script between backquotes, of which the first is read. -/
def untilBackquote (quoted : Bool) : Step Octets :=
  untilDone (fun t => do
    match ← take with
    | some '\x60' => return .inr t.reverse
    | some '\\' =>
      match ← takeAny with
      | some c =>
        if c = '\\' ∨ c = '\x60' ∨ c = '$' ∨ (quoted ∧ c = '\x22') then return .inl (c :: t)
        else return .inl (c :: '\\' :: t)
      | none => refuse .openBackquote
    | some c => return .inl (c :: t)
    | none => refuse .openBackquote) []

/-- Reads a text of its own from a line on, and then goes on where it was. -/
def within {α : Type} (t : Octets) (line : Nat) (step : Step α) : Step α := do
  let r ← get
  set ({ rest := t, line } : Reader)
  let a ← step
  set r
  return a

/-- The name of a parameter in braces, and whether its length is meant; none
if there is no name. -/
def braceName : Step (Option (Octets × Bool)) := do
  let plain? (c : Char) : Step (Option Octets) := do
    if Arithmetic.isNameStart c then return some (← takeWhile Arithmetic.isNamePart)
    else if Text.isAsciiDigit c then return some (← takeWhile Text.isAsciiDigit)
    else return none
  match ← peek with
  | none | some '\x7d' => return none
  | some c =>
    if let some name ← plain? c then return some (name, false)
    let _ ← takeSign
    if c = '#' then
      match ← peek with
      | some d =>
        if let some name ← plain? d then return some (name, true)
        let before ← get
        let _ ← take
        if d ≠ '\x7d' ∧ (← peek) = some '\x7d' then
          return if isSpecial d then some ([d], true) else none
        set before
        return some (['#'], false)
      | none => return some (['#'], false)
    else return if isSpecial c then some ([c], false) else none

/-- What is made of a parameter in braces, up to the closing one. -/
def braceUse (ps : Parsers) (k : Context) (isLength : Bool) : Step Use := do
  let faulty : Step Use := do
    let _ ← ps.parts k.inner
    return .faulty
  if isLength then
    if (← peek) = some '\x7d' then
      let _ ← take
      return .length
    else faulty
  else
    let first? ← takeSign
    let emptyToo : Bool := first? == some ':'
    let sign? ← if emptyToo then takeSign else pure first?
    let unset (r : Remedy) : Step Use := return .unset emptyToo r (← ps.parts k.inner)
    let cut (front : Bool) (c : Char) : Step Use := do
      let longest : Bool := (← peek) == some c
      if longest then
        let _ ← take
      return .cut front longest (← ps.parts (.brace false k.isInDocument))
    match sign? with
    | some '\x7d' =>
      if emptyToo then
        let _ ← ps.parts k.inner
      return .value
    | some '-' => unset .replace
    | some '+' => unset .instead
    | some '?' => unset .complain
    | some '=' => unset .assign
    | some '#' => if emptyToo then faulty else cut true '#'
    | some '%' => if emptyToo then faulty else cut false '%'
    | _ => faulty

/-- The part of a word that begins with a dollar sign, which is read. -/
def dollar (ps : Parsers) (k : Context) : Step Part := do
  match ← peek with
  | some '(' =>
    let _ ← take
    if (← peek) = some '(' then
      let _ ← take
      return .sum (← ps.parts .sum)
    else
      let script ← ps.list .loose
      let r ← get
      if r.last.kind ≠ .closing then
        refuse (.unexpected r.last.kind (some .closing))
      set { r with pushed? := none }
      return .output script
  | some '\x7b' =>
    let _ ← take
    match ← braceName with
    | some (name, isLength) => return .parameter name (← braceUse ps k isLength)
    | none =>
      let _ ← ps.parts k.inner
      return .parameter [] .faulty
  | some c =>
    if Arithmetic.isNameStart c then
      return .parameter (← takeWhile Arithmetic.isNamePart) .value
    else if isSpecial c then
      let _ ← take
      return .parameter [c] .value
    else return .char '$'
  | none => return .char '$'

/-- Whether a backslash goes with a character in quotes. -/
def isEscapable (k : Context) (c : Char) : Bool :=
  c == '\\' || c == '\x60' || c == '$' || (c == '\x22' && k != .document) ||
    (c == '\x7d' && k.isBrace)

/-- A part of a word and how deep parentheses are nested behind it; none at
the end of the word. -/
def part (ps : Parsers) (k : Context) (depth : Nat) : Step (Option (List Part × Nat)) := do
  match ← peek with
  | none =>
    match k with
    | .bare | .mark | .document => return none
    | .brace quoted inDocument =>
      refuse (if quoted && !inDocument then .openQuote else .openBrace)
    | .quotes => refuse .openQuote
    | .sum => refuse .openSum
  | some c =>
    if k.isOpen && isSeparator c then return none
    let _ ← take
    let single (p : Part) : Step (Option (List Part × Nat)) := return some ([p], depth)
    if c = '\\' then
      match ← takeAny with
      | none => single (.kept '\\')
      | some d =>
        if k.isQuoted && !isEscapable k d then return some ([.kept '\\', .kept d], depth)
        else single (.kept d)
    else if c = '\x27' ∧ !k.isQuoted then
      single (.quotes ((← untilApostrophe).map .kept))
    else if c = '\x22' ∧ k = .quotes then return none
    else if c = '\x22' ∧ (k.isBrace ∨ k.isOpen) then
      single (.quotes (← ps.parts .quotes))
    else if c = '$' ∧ k ≠ .mark then single (← dollar ps k)
    else if c = '\x60' ∧ k ≠ .mark then
      let t ← untilBackquote k.isQuoted
      single (.output (← within t 1 (ps.list .loose)))
    else if c = '\x7d' ∧ k.isBrace then return none
    else if c = '(' ∧ k = .sum then return some ([.char c], depth + 1)
    else if c = ')' ∧ k = .sum then
      if 0 < depth then return some ([.char c], depth - 1)
      else if (← peek) = some ')' then
        let _ ← take
        return none
      else single (.char c)
    else single (.char c)

/-- The parts of a word in a context. -/
def parts (ps : Parsers) (k : Context) : Step (List Part) :=
  untilDone (fun (found, depth) => do
    match ← part ps k depth with
    | some (more, depth) => return .inl (more.reverse ++ found, depth)
    | none => return .inr found.reverse) ([], 0)

/-! ### Tokens -/

/-- Leaves out blanks and comments before a token. -/
def skipBlanks : Step Unit :=
  untilDone (fun () => do
    match ← peek with
    | some c =>
      if Text.isSpaceOrTab c then
        let _ ← take
        return .inl ()
      else if c = '#' then
        modify fun r => { r with rest := r.rest.dropWhile (· != '\n') }
        return .inl ()
      else return .inr ()
    | none => return .inr ()) ()

/-- Takes the next character if it is the one given. -/
def takeIf (c : Char) : Step Bool := do
  if (← peek) = some c then
    let _ ← take
    return true
  else return false

/-- The arrow that begins with a character, which is read. -/
def arrow (c : Char) (stream? : Option Nat) : Step Arrow := do
  if c = '>' then
    let stream := stream?.getD 1
    if ← takeIf '>' then return .file stream .append
    else if ← takeIf '|' then return .file stream .write
    else if ← takeIf '&' then return .copy stream
    else return .file stream .write
  else
    let stream := stream?.getD 0
    if ← takeIf '<' then return .document stream (← takeIf '-')
    else if ← takeIf '&' then return .copy stream
    else if ← takeIf '>' then return .file stream .both
    else return .file stream .read

/-- A character that is an arrow. -/
def isArrow (c : Char) : Bool := c == '<' || c == '>'

/-- The next token, where no keyword is looked for. -/
def rawToken (ps : Parsers) (k : Context) : Step Token := do
  skipBlanks
  match ← peek with
  | none => return .sign .textEnd
  | some c =>
    let sign (one : Kind) (two? : Option Kind) : Step Token := do
      let _ ← take
      match two? with
      | some two => if ← takeIf c then return .sign two else return .sign one
      | none => return .sign one
    if c = '\n' then sign .newline none
    else if c = '&' then sign .ampersand (some .both)
    else if c = '|' then sign .pipe (some .either)
    else if c = ';' then sign .semicolon (some .caseEnd)
    else if c = '(' then sign .opening none
    else if c = ')' then sign .closing none
    else if isArrow c then
      let _ ← take
      return .arrow (← arrow c none)
    else
      let before ← get
      let _ ← take
      match ← peek with
      | some d =>
        if Text.isAsciiDigit c && isArrow d then
          let _ ← take
          return .arrow (← arrow d (some (c.toNat - 48)))
      | none => pure ()
      set before
      return .word (← ps.parts k)

/-- The characters of a word in which nothing is quoted or replaced. -/
def plainText? (w : Word) : Option Octets :=
  w.mapM fun
    | .char c => some c
    | _ => none

/-- The keyword that a word is. -/
def keyword? (w : Word) : Option Keyword := do
  let t ← plainText? w
  (Keyword.all.find? (·.1.toList == t)).map (·.2)

/-- How a token is read. -/
structure Manner where
  /-- Whether line ends before it are left out. -/
  acrossLines : Bool := false
  /-- Whether a keyword means something. -/
  keywords : Bool := false
  context : Context := .bare

/-- The next token. -/
def token (ps : Parsers) (m : Manner) : Step Token := do
  let fresh : Step Token := do
    let r ← get
    match r.pushed? with
    | some t =>
      set { r with pushed? := none }
      return t
    | none => rawToken ps m.context
  let found ← untilDone (fun () => do
    let t ← fresh
    if m.acrossLines ∧ t.kind = .newline then return .inl () else return .inr t) ()
  let found := match found with
    | .word w =>
      if m.keywords then ((keyword? w).map Token.keyword).getD found else found
    | _ => found
  modify fun r => { r with last := found }
  return found

/-- Puts the last token back. -/
def putBack : Step Unit := modify fun r => { r with pushed? := some r.last }

/-- Refuses the last token, where another is wanted. -/
def unexpected {α : Type} (wanted? : Option Kind) : Step α := do
  refuse (.unexpected (← get).last.kind wanted?)

end Reader

end LintRepair.Shell
