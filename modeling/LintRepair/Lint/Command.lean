/-
Linters that are run by a command.

* `Shell.splitWords`: a command line as words, which stand between blanks; quotes keep
  blanks, and a backslash keeps the next character;
* `Command`: a command line, in which a mark stands for the name of the file;
* `Command.words`: the command line as words with the name in its place;
* `Command.ask`: the diagnostics that the linter reports for a text, or why
  there are none;
* `Command.linter`: the command as a linter for runs.

Apostrophes keep everything up to the next one. Between quotation marks, a
backslash stands for itself unless a quotation mark or a backslash follows.

The linter reads the text from its input and writes a report in JSON. It may
end with the status one, which tells that it found something.
-/
import LintRepair.Batch.Run
import LintRepair.Diagnostic.Json
import LintRepair.Shell.Run
import LintRepair.Text.Basic

namespace LintRepair.Shell

/-- Why a command line has no words. -/
inductive SplitFault
  | openQuote
  /-- A backslash at the end. -/
  | openEscape
  deriving DecidableEq, Repr

/-- The wording of a fault. -/
def SplitFault.message : SplitFault → String
  | .openQuote => "No closing quotation"
  | .openEscape => "No escaped character"

/-- The quotes around a part of a text. -/
inductive Quoting
  | bare
  | apostrophes
  | quotationMarks
  deriving DecidableEq, Repr

/-- The blanks between words. -/
def isGap (c : Char) : Bool := c == ' ' || c == '\t' || c == '\r' || c == '\n'

/-- A word with more at its end; begins one if there is none. -/
def grow (word? : Option Text) (more : Text) : Option Text := some (word?.getD [] ++ more)

/-- The words of the rest of a command line, where one may have begun. -/
def splitFrom : Quoting → Option Text → Text → Except SplitFault (List Text)
  | .bare, word?, [] => .ok word?.toList
  | _, _, [] => .error .openQuote
  | .apostrophes, word?, c :: rest =>
    if c = '\x27' then splitFrom .bare word? rest
    else splitFrom .apostrophes (grow word? [c]) rest
  | .bare, word?, '\\' :: c :: rest => splitFrom .bare (grow word? [c]) rest
  | .quotationMarks, word?, '\\' :: c :: rest =>
    splitFrom .quotationMarks
      (grow word? (if c = '\x22' ∨ c = '\\' then [c] else ['\\', c])) rest
  | .bare, word?, c :: rest =>
    if c = '\\' then .error .openEscape
    else if isGap c then do
      return word?.toList ++ (← splitFrom .bare none rest)
    else if c = '\x27' then splitFrom .apostrophes (grow word? []) rest
    else if c = '\x22' then splitFrom .quotationMarks (grow word? []) rest
    else splitFrom .bare (grow word? [c]) rest
  | .quotationMarks, word?, c :: rest =>
    if c = '\\' then .error .openEscape
    else if c = '\x22' then splitFrom .bare word? rest
    else splitFrom .quotationMarks (grow word? [c]) rest

/-- The words of a command line. -/
def splitWords (t : Text) : Except SplitFault (List Text) := splitFrom .bare none t

end LintRepair.Shell

namespace LintRepair.Lint

open Text Shell Json

/-- A command line, and the name of the file for when no other is given. -/
structure Command where
  line : Text
  fileName : String := "temp.js"

/-- Why a linter gives no diagnostics. -/
inductive Fault
  /-- The command line is blank. -/
  | blank
  | split (fault : SplitFault)
  /-- There is a null character, which no argument can hold. -/
  | nullCharacter
  /-- There is no such program. -/
  | missing (name : Text)
  /-- It is no program. -/
  | denied (name : Text)
  /-- The program failed without a report. -/
  | failed (status : Int) (errors : Text)
  | report (fault : FormatFault)

/-- Tells why a program cannot be run. -/
def unable (name reason : String) : String :=
  "Cannot run re-lint command '" ++ name ++ "': " ++ reason ++ ": " ++ Json.quoted name

/-- The wording of a fault. -/
def Fault.message : Fault → String
  | .blank => "Re-lint command must not be empty"
  | .split fault => fault.message
  | .nullCharacter => "embedded null byte"
  | .missing name => unable (String.ofList name) WriteFault.absent.message
  | .denied name => unable (String.ofList name) "[Errno 13] Permission denied"
  | .failed status errors =>
    "Re-lint command failed with exit code " ++ Json.intText status ++ ": " ++
      String.ofList errors
  | .report fault => fault.message

/-- Whose fault it is that a linter gives no diagnostics. -/
inductive Blame
  /-- The command line is no list of words. -/
  | line
  /-- The linter fails, or reports something else. -/
  | linter
  /-- The report holds a whole number that is too long. -/
  | number
  /-- The report is nested too deeply. -/
  | depth
  deriving DecidableEq, Repr

/-- Whose fault it is. -/
def Fault.blame : Fault → Blame
  | .blank | .split _ | .nullCharacter => .line
  | .report (.tooLong _) => .number
  | .report (.tooDeep _) => .depth
  | _ => .linter

/-- The mark for the name of the file. -/
def placeholder : Text := "\x7bfile\x7d".toList

/-- A text with another in place of every occurrence of a part, of which
`skip` characters are still to be left out. -/
def replaceFrom (part new : Text) : Nat → Text → Text
  | _, [] => []
  | skip + 1, _ :: rest => replaceFrom part new skip rest
  | 0, c :: rest =>
    if startsWith (c :: rest) part then new ++ replaceFrom part new (part.length - 1) rest
    else c :: replaceFrom part new 0 rest

/-- A text with a name in place of the mark. -/
def fillIn (name : String) (t : Text) : Text := replaceFrom placeholder name.toList 0 t

namespace Command

/-- The words of the command line with the name of the file in its place. -/
def words (c : Command) (name? : Option String) : Except Fault (List Text) :=
  let name := match name? with
    | none | some "" => c.fileName
    | some name => name
  if (trim c.line).isEmpty then .error .blank
  else ((splitWords c.line).mapError .split).map (·.map (fillIn name))

/-- The diagnostics that a program has reported. -/
def diagnostics (p : Place) (ending : Ending) : Except Fault (List Diagnostic) :=
  let text (stream : Nat) : Text := trim (Octets.toText (p.written stream))
  let output := text outputStream
  if ending ≠ .status 0 ∧ ending ≠ .status 1 ∧ output = [] then
    .error (.failed ending.number (text errorStream))
  else (readReport .linter (if output = [] then "[]".toList else output)).mapError .report

/-- Why a name is not that of a program. -/
def absence (p : Place) (name : Text) : Fault :=
  let isThere : Bool := name.elem '/' && p.holds (Octets.ofText name)
  if isThere ∨ name = ['.'] ∨ name = ['.', '.'] then .denied name else .missing name

/-- Runs the linter on a text at a place: what it reports, and the disk that
it leaves. -/
def ask (c : Command) (programs : Programs) (p : Place) (code : Text) (name? : Option String) :
    Except Fault (List Diagnostic) × Disk :=
  match c.words name? with
  | .error fault => (.error fault, p.disk)
  | .ok [] => (.error .blank, p.disk)
  | .ok (name :: args) =>
    if (name :: args).any (·.elem '\x00') then (.error .nullCharacter, p.disk)
    else match programs (String.ofList name) with
    | none => (.error (absence p name), p.disk)
    | some program =>
      let (after, ending) :=
        program (args.map Octets.ofText) (.start p.dir p.disk (Octets.ofText code))
      (diagnostics after ending, after.disk)

/-- The place after the linter was asked some questions. -/
def after (c : Command) (programs : Programs) (p : Place) (asked : List Batch.Question) : Place :=
  asked.foldl (fun p q => { p with disk := (c.ask programs p q.1 (some q.2)).2 }) p

/-- Whether a number of seconds is over before any program has ended. -/
def isMomentary (limit : Quantity) : Bool :=
  match limit.toFloat? with
  | some x => !(0.001 < x)
  | none => false

/-- The command as a linter for runs, with a limit for its time. -/
def linter (c : Command) (programs : Programs) (p : Place) (limit : Quantity) : Batch.Linter :=
  fun asked q =>
    if isMomentary limit then { report := .timedOut }
    else match (c.ask programs (c.after programs p asked) q.1 (some q.2)).1 with
      | .ok ds => { report := .fresh ds }
      | .error fault => { report := .failed fault.message }

end Command

end LintRepair.Lint
