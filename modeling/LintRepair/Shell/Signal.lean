/-
Signals by number and by name.

* `Signal.named?`: the number for a name or a number;
* `Signal.words?`: what a shell says of a program that a signal has ended.
-/
import LintRepair.Text.Basic
import LintRepair.Text.Utf8

namespace LintRepair.Shell.Signal

/-- The names of the signals, the first of which is no signal. -/
def names : List String :=
  ["EXIT", "HUP", "INT", "QUIT", "ILL", "TRAP", "ABRT", "BUS", "FPE", "KILL", "USR1", "SEGV",
    "USR2", "PIPE", "ALRM", "TERM", "STKFLT", "CHLD", "CONT", "STOP", "TSTP", "TTIN", "TTOU",
    "URG", "XCPU", "XFSZ", "VTALRM", "PROF", "WINCH", "POLL", "PWR", "SYS"]

/-- The number that a name or a number means. -/
def named? (t : Octets) : Option Nat :=
  if !t.isEmpty && t.all Text.isAsciiDigit then
    let n := Text.ofDecimal t
    if n < 65 then some n else none
  else names.idxOf? (String.ofList (t.map Char.toUpper))

/-- The name for a number. -/
def name (n : Nat) : Octets :=
  match names[n]? with
  | some s => s.toList
  | none => (toString n).toList

/-- Whether a program goes on after a signal that it does nothing about. -/
def isHarmless (n : Nat) : Bool := n == 0 || n == 17 || n == 18 || n == 23 || n == 28

/-- What a shell says of a program that a signal has ended. -/
def words? (n : Nat) : Option String :=
  match n with
  | 1 => some "Hangup"
  | 3 => some "Quit"
  | 4 => some "Illegal instruction"
  | 5 => some "Trace/breakpoint trap"
  | 6 => some "Aborted"
  | 7 => some "Bus error"
  | 8 => some "Floating point exception"
  | 9 => some "Killed"
  | 10 => some "User defined signal 1"
  | 11 => some "Segmentation fault"
  | 12 => some "User defined signal 2"
  | 14 => some "Alarm clock"
  | 15 => some "Terminated"
  | 16 => some "Stack fault"
  | 24 => some "CPU time limit exceeded"
  | 25 => some "File size limit exceeded"
  | 26 => some "Virtual timer expired"
  | 27 => some "Profiling timer expired"
  | 29 => some "I/O possible"
  | 30 => some "Power failure"
  | 31 => some "Bad system call"
  | _ => none

end LintRepair.Shell.Signal
