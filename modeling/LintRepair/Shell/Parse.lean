/-
The commands of a shell script.

* `Reader.list`: commands one after another;
* `Reader.pipeline`, `Reader.command`, `Reader.simple`: what they are made of;
* `Reader.parsers`: how deep they are nested;
* `Script.read`: the script that a text is.

Whether a word is a keyword depends on where it stands; a token that is put
back stays what it was taken for.
-/
import LintRepair.Shell.Reader

namespace LintRepair.Shell

namespace Reader

/-- How a command's first token is read where another may come. -/
def atCommand : Manner := { keywords := true }

/-- Likewise, where it may be on another line. -/
def acrossLines : Manner := { acrossLines := true, keywords := true }

/-- Reads a token of a kind. -/
def expect (ps : Parsers) (m : Manner) (k : Kind) : Step Unit := do
  if (← token ps m).kind ≠ k then unexpected (some k)

/-! ### Redirections -/

/-- The characters of a word without what quotes them. -/
def textOf : List Part → Octets
  | [] => []
  | .char c :: rest | .kept c :: rest => c :: textOf rest
  | .quotes inside :: rest => textOf inside ++ textOf rest
  | _ :: rest => textOf rest

/-- Whether the next line belongs to a line. -/
def goesOn (line : Octets) : Bool :=
  (line.reverse.takeWhile (· == '\\')).length % 2 == 1

/-- A document at the start of a text, what is left behind its mark, and how
many line ends it takes. Where a line `joins` the next one after a backslash,
one that `belongs` to the line before is not the mark. -/
def cutDocument (mark : Octets) (withoutTabs joins : Bool) (belongs : Bool) :
    Nat → Octets → Octets × Octets × Nat
  | 0, t => ([], t, 0)
  | n + 1, t =>
    let line := t.takeWhile (· != '\n')
    let shown := if withoutTabs && !belongs then line.dropWhile (· == '\t') else line
    let behind := t.drop (line.length + 1)
    if t.isEmpty then ([], [], 0)
    else if shown = mark ∧ !belongs then ([], behind, 1)
    else
      let (more, rest, count) :=
        cutDocument mark withoutTabs joins (joins && goesOn line) n behind
      let ended := if line.length < t.length then ['\n'] else []
      (shown ++ ended ++ more, rest, count + ended.length)

/-- What is left of the line, which may go on inside quotes. -/
def restOfLine (ps : Parsers) : Step Octets := do
  let r ← get
  let tokenwise : Step Octets := do
    let last ← untilDone (fun () => do
      match (← rawToken ps .bare).kind with
      | .newline => return .inr 1
      | .textEnd => return .inr 0
      | _ => return .inl ()) ()
    return r.rest.take (r.rest.length - (← get).rest.length - last)
  let line ← tryCatch tokenwise fun _ => return r.rest.takeWhile (· != '\n')
  set r
  return line

/-- Cuts out the document that a word marks the end of. -/
def document (ps : Parsers) (stream : Nat) (withoutTabs : Bool) (w : Word) :
    Step Redirection := do
  let line ← restOfLine ps
  let r ← get
  let behind := r.rest.drop (line.length + 1)
  let isPlain : Bool := (plainText? w).isSome
  let (t, rest, count) := cutDocument (textOf w) withoutTabs isPlain false behind.length behind
  if line.length < r.rest.length then
    set { r with rest := line ++ '\n' :: rest, skipped := r.skipped + count }
  if isPlain then
    return .document stream (← within t (r.line + 1) (ps.parts .document))
  else return .document stream (t.map .kept)

/-- The redirection of an arrow, with the word behind it. -/
def redirection (ps : Parsers) (a : Arrow) : Step Redirection := do
  let word (m : Manner) : Step Word := do
    match ← token ps m with
    | .word w => return w
    | _ => unexpected none
  match a with
  | .file stream opening => return .file stream opening (← word {})
  | .copy stream => return .copy stream (← word {})
  | .document stream withoutTabs =>
    document ps stream withoutTabs (← word { context := .mark })

/-- The redirections behind a command. -/
def redirections (ps : Parsers) : Step (List Redirection) :=
  untilDone (fun found => do
    match ← token ps atCommand with
    | .arrow a => return .inl (found ++ [← redirection ps a])
    | _ =>
      putBack
      return .inr found) []

/-! ### Simple commands -/

/-- The variable and the value if a word sets one. -/
def assignment? (w : Word) : Option (Octets × Word) :=
  let plain? : Part → Option Char
    | .char c => some c
    | _ => none
  let name := (w.takeWhile fun p => (plain? p).any Arithmetic.isNamePart).filterMap plain?
  match name, w.drop name.length with
  | c :: _, .char '=' :: value => if Text.isAsciiDigit c then none else some (name, value)
  | _, _ => none

/-- The programs of the shell that are part of its language. -/
def isSpecialName (name : String) : Bool :=
  [".", ":", "break", "continue", "eval", "exec", "exit", "export", "local", "readonly", "return",
    "set", "shift", "times", "trap", "unset"].contains name

/-- Whether a name may be that of a variable. -/
def isName (t : Octets) : Bool :=
  Text.startsIn Arithmetic.isNameStart t && t.all Arithmetic.isNamePart

/-- A simple command that is half read. -/
structure Draft where
  assignments : List (Octets × Word) := []
  words : List Word := []
  redirections : List Redirection := []

/-- A simple command, or the definition of a function. -/
def simple (ps : Parsers) : Step Command := do
  let line := (← get).line
  untilDone (fun (d : Draft) => do
    let t ← token ps {}
    match t with
    | .word w =>
      match if d.words.isEmpty then assignment? w else none with
      | some a => return .inl { d with assignments := d.assignments ++ [a] }
      | none => return .inl { d with words := d.words ++ [w] }
    | .arrow a => return .inl { d with redirections := d.redirections ++ [← redirection ps a] }
    | _ =>
      match t.kind, d with
      | .opening, ⟨[], [w], []⟩ =>
        expect ps {} .closing
        let name? := (plainText? w).filter fun t =>
          isName t && !isSpecialName (String.ofList t)
        match name? with
        | none => refuse .functionName
        | some name => return .inr (.function name (← ps.command))
      | _, _ =>
        putBack
        return .inr (.simple line d.assignments d.words d.redirections)) {}

/-! ### Compound commands -/

/-- What follows the condition of a choice between two lists. -/
def branches (ps : Parsers) : Step Command := do
  let first ← untilDone (fun (found : List (Command × Command)) => do
    let test ← ps.list .body
    expect ps {} (.keyword .then)
    let found := found ++ [(test, ← ps.list .body)]
    if (← token ps {}).kind = .keyword .elif then return .inl found else return .inr found) []
  let last ← if (← get).last.kind = .keyword .otherwise then ps.list .body
    else do
      putBack
      pure .nothing
  return first.foldr (fun (test, yes) no => .branch test yes no) last

/-- What follows the word for a repetition over words. -/
def repetition (ps : Parsers) (line : Nat) : Step Command := do
  let name? := match ← token ps {} with
    | .word w => (plainText? w).filter isName
    | _ => none
  match name? with
  | none => refuse .loopVariable
  | some name =>
    let words ←
      if (← token ps acrossLines).kind = .keyword .in then do
        let words ← untilDone (fun (found : List Word) => do
          match ← token ps {} with
          | .word w => return .inl (found ++ [w])
          | _ => return .inr found) []
        let last := (← get).last.kind
        if last ≠ .newline ∧ last ≠ .semicolon then unexpected none
        pure words
      else do
        if (← get).last.kind ≠ .semicolon then putBack
        pure [[.quotes [.parameter ['@'] .value]]]
    expect ps acrossLines (.keyword .doing)
    return .each line name words (← ps.list .body)

/-- The word that a token is, whatever else it is. -/
def wordOf : Token → Word
  | .word w => w
  | .keyword k => (((Keyword.all.find? (·.2 == k)).map (·.1.toList)).getD []).map .char
  | _ => []

/-- What follows the word for a choice by patterns. -/
def cases (ps : Parsers) (line : Nat) : Step Command := do
  match ← token ps {} with
  | .word w =>
    expect ps acrossLines (.keyword .in)
    untilDone (fun (found : List (List Word × Command)) => do
      let t ← token ps acrossLines
      if t.kind = .keyword .esac then return .inr (.choice line w found)
      let first ← if t.kind = .opening then token ps {} else pure t
      let patterns ← untilDone (fun (found : List Word) => do
        if (← token ps {}).kind = .pipe then return .inl (found ++ [wordOf (← token ps {})])
        else return .inr found) [wordOf first]
      if (← get).last.kind ≠ .closing then unexpected (some .closing)
      let found := found ++ [(patterns, ← ps.list .loose)]
      match (← token ps acrossLines).kind with
      | .keyword .esac => return .inr (.choice line w found)
      | .caseEnd => return .inl found
      | _ => unexpected (some .caseEnd)) []
  | _ => unexpected (some .word)

/-- A command of any kind. -/
def command (ps : Parsers) (m : Manner) : Step Command := do
  let t ← token ps m
  let line := (← get).line
  let closed (c : Command) (k : Kind) : Step Command := do
    expect ps {} k
    return c.redirect line (← redirections ps)
  let loop (ends : Bool) : Step Command := do
    let test ← ps.list .body
    expect ps {} (.keyword .doing)
    closed (.loop ends test (← ps.list .body)) (.keyword .done)
  match t.kind with
  | .keyword .if => closed (← branches ps) (.keyword .fi)
  | .keyword .while => loop false
  | .keyword .until => loop true
  | .keyword .for => closed (← repetition ps line) (.keyword .done)
  | .keyword .case =>
    let c ← cases ps line
    return c.redirect line (← redirections ps)
  | .opening =>
    let body ← ps.list .body
    expect ps {} .closing
    return .subshell line body (← redirections ps)
  | .keyword .opening => closed (← ps.list .body) (.keyword .closing)
  | .word | .redirection =>
    putBack
    simple ps
  | _ => unexpected none

/-! ### Lists -/

/-- Commands each of which reads what the one before writes, perhaps with the
opposite status. -/
def pipeline (ps : Parsers) (m : Manner) : Step Command := do
  let negated : Bool := (← token ps m).kind = .keyword .not
  if !negated then putBack
  let first ← command ps (if negated then atCommand else {})
  let stages ← untilDone (fun (found : List Command) => do
    if (← token ps {}).kind = .pipe then return .inl (found ++ [← command ps acrossLines])
    else
      putBack
      return .inr found) [first]
  let c := match stages with
    | [single] => single
    | _ => .pipeline stages
  return if negated then .negation c else c

/-- Pipelines joined by what their success means. -/
def conditional (ps : Parsers) : Step Command := do
  let first ← pipeline ps {}
  untilDone (fun (c : Command) => do
    match (← token ps {}).kind with
    | .both => return .inl (.both c (← pipeline ps acrossLines))
    | .either => return .inl (.either c (← pipeline ps acrossLines))
    | _ =>
      putBack
      return .inr c) first

/-- Two lists of commands as one. -/
def joined : Command → Command → Command
  | .nothing, c => c
  | first, second => .sequence first second

/-- A list that is half read: its commands, and whether a token that ends
lists may end it. -/
abbrev ListDraft := Command × Bool

/-- A list of commands. -/
def list (ps : Parsers) (e : Extent) : Step Command :=
  let onLine : Bool := e = .line
  untilDone (fun ((c, mayEnd) : ListDraft) => do
    let k := (← token ps { acrossLines := !onLine, keywords := true }).kind
    if k = .newline then return .inr c
    putBack
    if k = .textEnd ∨ (mayEnd ∧ k.endsList) then return .inr c
    let more ← conditional ps
    let k := (← token ps {}).kind
    let c := joined c (if k = .ampersand then .background more else more)
    match k with
    | .textEnd =>
      putBack
      return .inr c
    | .newline =>
      putBack
      return .inl (c, !onLine)
    | .ampersand | .semicolon => return .inl (c, !onLine)
    | _ =>
      if onLine then unexpected none
      putBack
      return .inr c) (.nothing, e == .loose)

/-- How scripts are read that are nested up to a depth. -/
def parsers : Nat → Parsers
  | 0 =>
    let tooDeep {α : Type} : Step α := refuse (.unexpected .textEnd none)
    { list := fun _ => tooDeep, command := tooDeep, parts := fun _ => tooDeep }
  | depth + 1 =>
    let ps := parsers depth
    { list := list ps, command := command ps acrossLines, parts := parts ps }

end Reader

namespace Script

/-- The script that is left, of so many lines at most. -/
def readFrom : Nat → Reader → Script
  | 0, _ => ⟨[], none⟩
  | n + 1, r =>
    match (Reader.list (Reader.parsers (r.rest.length + 1)) .line).run r with
    | .error fault => ⟨[], some fault⟩
    | .ok (c, r) =>
      if r.last.kind = .textEnd then ⟨[(c, r.line)], none⟩
      else
        let more := readFrom n r
        ⟨(c, r.line) :: more.commands, more.fault?⟩

/-- The script that a text is. -/
def read (t : Octets) : Script := readFrom (t.length + 2) { rest := t }

end Script

end LintRepair.Shell
