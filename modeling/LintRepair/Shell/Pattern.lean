/-
Patterns for texts.

* `Pattern.read`: a pattern from characters, of which those in quotes stand
  for themselves;
* `Pattern.accepts`: whether a pattern fits a whole text;
* `Pattern.cut`: a text without the part that a pattern fits.
-/
import LintRepair.Text.Basic
import LintRepair.Text.Utf8

namespace LintRepair.Shell

/-- A character, and whether it is quoted. -/
abbrev Glyph := Char × Bool

/-- What a pattern says of a place in a text. -/
inductive Sign
  | char (c : Char)
  | one
  | many
  /-- One character that is in a class, or that is not. -/
  | oneOf (inside : Char → Bool) (negated : Bool)

/-- What a pattern says of a text, place by place. -/
abbrev Pattern := List Sign

namespace Pattern

/-- The classes that have a name. -/
def namedClass? (name : Octets) : Option (Char → Bool) :=
  let isGraph (c : Char) : Bool := 32 < c.toNat && c.toNat < 127
  let isAlnum (c : Char) : Bool := Text.isAsciiLetter c || Text.isAsciiDigit c
  match String.ofList name with
  | "alnum" => some isAlnum
  | "alpha" => some Text.isAsciiLetter
  | "blank" => some Text.isSpaceOrTab
  | "cntrl" => some fun c => c.toNat < 32 || c.toNat == 127
  | "digit" => some Text.isAsciiDigit
  | "graph" => some isGraph
  | "lower" => some fun c => 'a' ≤ c && c ≤ 'z'
  | "print" => some fun c => isGraph c || c == ' '
  | "punct" => some fun c => isGraph c && !isAlnum c
  | "space" => some fun c => c == ' ' || (9 ≤ c.toNat && c.toNat ≤ 13)
  | "upper" => some fun c => 'A' ≤ c && c ≤ 'Z'
  | "xdigit" => some fun c =>
    Text.isAsciiDigit c || ('a' ≤ c && c ≤ 'f') || ('A' ≤ c && c ≤ 'F')
  | _ => none

/-- The name of a class between colons, and what stands behind it. -/
def className? (t : List Glyph) : Option ((Char → Bool) × List Glyph) :=
  let name := (t.takeWhile fun g => g.1 != ':').map (·.1)
  match t.drop name.length with
  | (':', _) :: (']', _) :: rest => (namedClass? name).map (·, rest)
  | _ => none

/-- The class between brackets, from its members on, and what stands behind it;
none if no bracket closes it. A bracket in the first place is a member. -/
def classFrom (inside : Char → Bool) (isFirst : Bool) (t : List Glyph) :
    Option ((Char → Bool) × List Glyph) :=
  match t with
  | [] => none
  | (c, quoted) :: rest =>
    if c = ']' ∧ !quoted ∧ !isFirst then some (inside, rest)
    else
      let single := classFrom (fun x => inside x || x == c) false rest
      match rest with
      | (':', _) :: behind =>
        if c = '[' ∧ !quoted then
          match className? behind with
          | some (named, after) =>
            if after.length < behind.length then
              classFrom (fun x => inside x || named x) false after
            else single
          | none => single
        else single
      | ('-', false) :: (']', false) :: _ => single
      | ('-', false) :: (high, _) :: after =>
        classFrom (fun x => inside x || (c ≤ x && x ≤ high)) false after
      | _ => single
termination_by t.length
decreasing_by all_goals simp_all; try omega

/-- The pattern that characters are; `skip` of them are still to be left
out. -/
def readFrom : Nat → List Glyph → Pattern
  | _, [] => []
  | skip + 1, _ :: rest => readFrom skip rest
  | 0, (c, quoted) :: rest =>
    if quoted then .char c :: readFrom 0 rest
    else if c = '*' then .many :: readFrom 0 rest
    else if c = '?' then .one :: readFrom 0 rest
    else if c = '[' then
      let negated : Bool := rest.head? == some ('!', false)
      match classFrom (fun _ => false) true (if negated then rest.tail else rest) with
      | some (inside, after) =>
        .oneOf inside negated :: readFrom (rest.length - after.length) rest
      | none => .char c :: readFrom 0 rest
    else .char c :: readFrom 0 rest

/-- The pattern that characters are. -/
def read (t : List Glyph) : Pattern := readFrom 0 t

/-- Whether a sign fits one character. -/
def fits : Sign → Char → Bool
  | .char c, d => c == d
  | .one, _ => true
  | .oneOf inside negated, d => inside d != negated
  | .many, _ => false

/-- Whether a pattern fits a whole text. -/
def accepts : Pattern → Octets → Bool
  | [], t => t.isEmpty
  | .many :: rest, t => (List.range (t.length + 1)).any fun n => accepts rest (t.drop n)
  | sign :: rest, t => match t with
    | [] => false
    | c :: cs => fits sign c && accepts rest cs

/-- Whether there is anything but characters in a pattern. -/
def isOpen (p : Pattern) : Bool := p.any fun
  | .char _ => false
  | _ => true

/-- A text without the shortest or longest part at its front or its end that a
pattern fits. -/
def cut (p : Pattern) (front longest : Bool) (t : Octets) : Octets :=
  let lengths := List.range (t.length + 1)
  let lengths := if longest then lengths.reverse else lengths
  let part (n : Nat) : Octets := if front then t.take n else t.drop (t.length - n)
  match lengths.find? fun n => accepts p (part n) with
  | some n => if front then t.drop n else t.take (t.length - n)
  | none => t

end Pattern

end LintRepair.Shell
