/-
Shell scripts as trees.

* `Part`, `Use`: the parts of words;
* `Redirection`: where a stream is led;
* `Command`: commands of every kind;
* `Kind`: the kinds of tokens;
* `SyntaxFault`: why a text is no script.
-/
import LintRepair.Json.Display
import LintRepair.Text.Utf8

namespace LintRepair.Shell

/-- What is done where a parameter has no value. -/
inductive Remedy
  | replace
  | assign
  | complain
  /-- Where it has one, that is replaced. -/
  | instead
  deriving DecidableEq, Repr

/-- How a file is opened. -/
inductive Opening
  | read
  | write
  | append
  | both
  deriving DecidableEq, Repr

mutual

/-- A part of a word. -/
inductive Part
  | char (c : Char)
  /-- A character that stands for itself. -/
  | kept (c : Char)
  | quotes (inside : List Part)
  | parameter (name : Octets) (use : Use)
  /-- What a script writes. -/
  | output (script : Command)
  | sum (inside : List Part)

/-- What is made of the value of a parameter. -/
inductive Use
  | value
  | length
  | cut (front longest : Bool) (pattern : List Part)
  | unset (emptyToo : Bool) (remedy : Remedy) (word : List Part)
  /-- Something that is no use. -/
  | faulty

/-- Where a stream is led. -/
inductive Redirection
  | file (stream : Nat) (opening : Opening) (path : List Part)
  | copy (stream : Nat) (other : List Part)
  | document (stream : Nat) (text : List Part)

/-- A command; some know their line. -/
inductive Command
  | nothing
  | simple (line : Nat) (assignments : List (Octets × List Part)) (words : List (List Part))
      (redirections : List Redirection)
  | pipeline (stages : List Command)
  | negation (c : Command)
  | sequence (first second : Command)
  | both (first second : Command)
  | either (first second : Command)
  | background (c : Command)
  | subshell (line : Nat) (body : Command) (redirections : List Redirection)
  | redirected (line : Nat) (body : Command) (redirections : List Redirection)
  | branch (test yes no : Command)
  | loop (ends : Bool) (test body : Command)
  | each (line : Nat) (name : Octets) (words : List (List Part)) (body : Command)
  | choice (line : Nat) (word : List Part) (cases : List (List (List Part) × Command))
  | function (name : Octets) (body : Command)

end

/-- The stream that is led elsewhere. -/
def Redirection.stream : Redirection → Nat
  | .file stream .. | .copy stream _ | .document stream _ => stream

instance : Inhabited Command := ⟨.nothing⟩

/-- A word as it is written. -/
abbrev Word := List Part

/-- Words with a meaning of their own at the start of a command. -/
inductive Keyword
  | not | case | doing | done | elif | otherwise | esac | fi | for | if | in | then | until
  | while | opening | closing
  deriving DecidableEq, Repr

/-- The keywords as they are written. -/
def Keyword.all : List (String × Keyword) :=
  [("!", .not), ("case", .case), ("do", .doing), ("done", .done), ("elif", .elif),
    ("else", .otherwise), ("esac", .esac), ("fi", .fi), ("for", .for), ("if", .if), ("in", .in),
    ("then", .then), ("until", .until), ("while", .while), ("\x7b", .opening),
    ("\x7d", .closing)]

/-- The kinds of tokens. -/
inductive Kind
  | textEnd | newline | semicolon | ampersand | both | either | pipe
  | opening | closing | caseEnd | redirection | word
  | keyword (k : Keyword)
  deriving DecidableEq, Repr

/-- A kind of token in a message. -/
def Kind.text : Kind → String
  | .textEnd => "end of file"
  | .newline => "newline"
  | .semicolon => "\x22;\x22"
  | .ampersand => "\x22&\x22"
  | .both => "\x22&&\x22"
  | .either => "\x22||\x22"
  | .pipe => "\x22|\x22"
  | .opening => "\x22(\x22"
  | .closing => "\x22)\x22"
  | .caseEnd => "\x22;;\x22"
  | .redirection => "redirection"
  | .word => "word"
  | .keyword k => "\x22" ++ ((Keyword.all.find? (·.2 == k)).map (·.1)).getD "" ++ "\x22"

/-- Whether a token ends a list of commands. -/
def Kind.endsList : Kind → Bool
  | .textEnd | .closing | .caseEnd => true
  | .keyword k =>
    [Keyword.doing, .done, .elif, .otherwise, .esac, .fi, .then, .closing].contains k
  | _ => false

/-- What is wrong with a text that is no script. -/
inductive SyntaxFlaw
  | unexpected (found : Kind) (wanted? : Option Kind)
  | openQuote
  | openBrace
  | openSum
  | openBackquote
  | loopVariable
  | functionName
  | streamNumber
  deriving DecidableEq, Repr

/-- Why a text is no script, with the number of the line. -/
structure SyntaxFault where
  line : Nat
  flaw : SyntaxFlaw
  deriving DecidableEq, Repr

/-- The wording of a flaw. -/
def SyntaxFlaw.text : SyntaxFlaw → String
  | .unexpected found none => found.text ++ " unexpected"
  | .unexpected found (some wanted) =>
    found.text ++ " unexpected (expecting " ++ wanted.text ++ ")"
  | .openQuote => "Unterminated quoted string"
  | .openBrace => "Missing '\x7d'"
  | .openSum => "Missing '))'"
  | .openBackquote => "EOF in backquote substitution"
  | .loopVariable => "Bad for loop variable"
  | .functionName => "Bad function name"
  | .streamNumber => "Bad fd number"

/-- The commands of a script, each with the line on which the next one begins,
and why the text behind them is no script. -/
structure Script where
  commands : List (Command × Nat)
  fault? : Option SyntaxFault

/-- A command with streams led elsewhere; a subshell loses its own
redirections. -/
def Command.redirect (line : Nat) (rs : List Redirection) : Command → Command
  | c@(.subshell line body _) => if rs.isEmpty then c else .subshell line body rs
  | c => if rs.isEmpty then c else .redirected line c rs

/-- Whether nothing is to be done. -/
def Command.isNothing : Command → Bool
  | .nothing => true
  | _ => false

/-- Whether there is no command in a script. -/
def Script.isEmpty (s : Script) : Bool := s.commands.all (·.1.isNothing)

end LintRepair.Shell
