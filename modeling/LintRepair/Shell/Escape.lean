/-
Escapes: a backslash and what stands after it.

* `escaped`: the byte that is meant, and the rest;
* `unescape`: a text with its escapes carried out, up to where it breaks off.

A backslash with nothing to escape stands for itself. An octal number means
one byte, so that a character beyond ASCII takes several of them.
-/
import LintRepair.Text.Basic
import LintRepair.Text.Utf8

namespace LintRepair.Shell

/-- The byte that a letter means after a backslash. -/
def escapedLetter? : Char → Option Char
  | 'a' => some '\x07'
  | 'b' => some '\x08'
  | 'e' => some '\x1b'
  | 'f' => some '\x0c'
  | 'n' => some '\n'
  | 'r' => some '\r'
  | 't' => some '\t'
  | 'v' => some '\x0b'
  | '\\' => some '\\'
  | _ => none

/-- The digits zero to seven. -/
def isOctalDigit (c : Char) : Bool := '0' ≤ c && c ≤ '7'

/-- The number that octal digits spell. -/
def ofOctal (ds : Octets) : Nat := ds.foldl (fun n c => n * 8 + (c.toNat - 48)) 0

/-- The byte that is meant after a backslash, and the rest. -/
def escaped (t : Octets) : Char × Octets :=
  let digits := (t.take 3).takeWhile isOctalDigit
  match digits, t with
  | [], [] => ('\\', [])
  | [], c :: rest =>
    match escapedLetter? c with
    | some d => (d, rest)
    | none => ('\\', c :: rest)
  | _, _ => (Char.ofNat (ofOctal digits % 256), t.drop digits.length)

theorem length_escaped_le (t : Octets) : (escaped t).2.length ≤ t.length := by
  unfold escaped
  dsimp only
  split
  · exact Nat.le_refl 0
  · split
    · exact Nat.le_succ _
    · exact Nat.le_refl _
  · rw [List.length_drop]
    exact Nat.sub_le _ _

/-- An octal number without the zero that may stand in front of it. -/
def withoutZero : Octets → Octets
  | '0' :: c :: rest => if isOctalDigit c then c :: rest else '0' :: c :: rest
  | t => t

theorem length_withoutZero_le (t : Octets) : (withoutZero t).length ≤ t.length := by
  unfold withoutZero
  split
  · split <;> simp
  · exact Nat.le_refl _

/-- A text with its escapes carried out, and whether it breaks off. A zero may
stand in front of an octal number. -/
def unescape (t : Octets) : Octets × Bool :=
  match t with
  | [] => ([], false)
  | c :: rest =>
    if c = '\\' then
      if rest.head? = some 'c' then ([], true)
      else
        let e := escaped (withoutZero rest)
        let (more, stops) := unescape e.2
        (e.1 :: more, stops)
    else
      let (more, stops) := unescape rest
      (c :: more, stops)
termination_by t.length
decreasing_by
  · have := length_escaped_le (withoutZero rest)
    have := length_withoutZero_le rest
    simp only [List.length_cons]
    omega
  · simp

end LintRepair.Shell
