/-
Numbers at the start of a text.

* `Numeral.read`: a whole number in the base that its spelling tells;
* `Numeral.signed`, `Numeral.unsigned`: its value in a word of 64 bits;
* `Numeral.readReal`: a number with a point or an exponent.

A number is hexadecimal behind `0x`, octal behind another zero, and decimal
otherwise. One that does not fit into a word is the greatest or the least that
does.
-/
import LintRepair.Number.Literal
import LintRepair.Shell.Escape

namespace LintRepair.Shell

/-- A whole number at the start of a text. -/
structure Numeral where
  negative : Bool
  magnitude : Nat
  /-- Whether there is a number at all. -/
  found : Bool
  rest : Octets

namespace Numeral

/-- The sign of a number and what stands behind it. -/
def sign (t : Octets) : Bool × Octets :=
  match t.dropWhile Number.isPlainBlank with
  | '-' :: rest => (true, rest)
  | '+' :: rest => (false, rest)
  | rest => (false, rest)

/-- The digits of a base at the start of a text, as a number without a sign. -/
def readIn (base : Nat) (t : Octets) : Option (Nat × Octets) :=
  let value? (c : Char) := (Text.hexValue? c).filter (· < base)
  let digits := t.takeWhile fun c => (value? c).isSome
  if digits.isEmpty then none
  else some ((Text.ofDigits? base value? digits).getD 0, t.drop digits.length)

/-- The number without a sign at the start of a text. -/
def readUnsigned (t : Octets) : Option (Nat × Octets) :=
  match t with
  | '0' :: c :: rest =>
    if c = 'x' ∨ c = 'X' then (readIn 16 rest).orElse fun _ => some (0, c :: rest)
    else readIn 8 t
  | _ => readIn 10 t

/-- The number at the start of a text, where a reader finds its digits. -/
def readBy (reader : Octets → Option (Nat × Octets)) (t : Octets) : Numeral :=
  let (negative, digits) := sign t
  match reader digits with
  | some (magnitude, rest) => { negative, magnitude, found := true, rest }
  | none => { negative := false, magnitude := 0, found := false, rest := t }

/-- The number at the start of a text, in the base that its spelling tells. -/
def read (t : Octets) : Numeral := readBy readUnsigned t

/-- The decimal number at the start of a text. -/
def readDecimal (t : Octets) : Numeral := readBy (readIn 10) t

/-- The greatest number in a word with a sign. -/
def greatest : Nat := 9223372036854775807

/-- Whether the number fits into a word with a sign. -/
def fitsSigned (n : Numeral) : Bool :=
  n.magnitude ≤ if n.negative then greatest + 1 else greatest

/-- The number in a word with a sign. -/
def signed (n : Numeral) : Int :=
  if n.negative then -(min n.magnitude (greatest + 1) : Nat) else (min n.magnitude greatest : Nat)

/-- How many words of 64 bits there are. -/
def wordCount : Nat := 18446744073709551616

/-- Whether the number fits into a word without a sign. -/
def fitsUnsigned (n : Numeral) : Bool := n.magnitude < wordCount

/-- The number in a word without a sign; a negative one counts from the end. -/
def unsigned (n : Numeral) : Nat :=
  if !n.fitsUnsigned then wordCount - 1
  else if n.negative then (wordCount - n.magnitude) % wordCount
  else n.magnitude

/-- The word with a sign that a number comes to, where it wraps around. -/
def wrap (n : Int) : Int := Int.bmod n wordCount

/-- The exponent behind a letter at the start of a text, and the rest. -/
def readExponent (letter : Char) (t : Octets) : Int × Octets :=
  match t with
  | c :: rest =>
    if c.toLower = letter then
      let (negative, digits) := match rest with
        | '-' :: ds => (true, ds)
        | '+' :: ds => (false, ds)
        | ds => (false, ds)
      match readIn 10 digits with
      | some (n, rest) => (if negative then -n else n, rest)
      | none => (0, t)
    else (0, t)
  | [] => (0, t)

/-- The digits around a point in a base at the start of a text, as a whole
number and the number of digits behind the point, and the rest; none if no
digit is there. -/
def readPointed (base : Nat) (t : Octets) : Option (Nat × Nat × Octets) :=
  let isDigit (c : Char) : Bool := (Text.hexValue? c).any (· < base)
  let whole := t.takeWhile isDigit
  let (places, rest) := match t.drop whole.length with
    | '.' :: behind => (behind.takeWhile isDigit, behind.dropWhile isDigit)
    | behind => ([], behind)
  if whole.isEmpty && places.isEmpty then none
  else some ((Text.ofDigits? base Text.hexValue? (whole ++ places)).getD 0, places.length, rest)

/-- The floating-point number nearest to `n · 2 ^ e`. -/
def nearestBinary (n : Nat) (e : Int) : Float :=
  if n = 0 then 0.0
  else if 5000 < e then 1.0 / 0.0
  else if e < -((Nat.log2 n + 5000 : Nat) : Int) then 0.0
  else Number.floatOf false (Number.quotientBits (n * Number.pow 2 e) (Number.pow 2 (-e)))

/-- The words for numbers that are not finite. -/
def endless : List (String × Float) :=
  [("infinity", 1.0 / 0.0), ("inf", 1.0 / 0.0), ("nan", 0.0 / 0.0)]

/-- The number without a sign at the start of a text, with a point or an
exponent, and the rest; none if there is none. -/
def readUnsignedReal (t : Octets) : Option (Float × Octets) :=
  let binary? : Option (Float × Octets) := match t with
    | '0' :: x :: digits =>
      if x.toLower = 'x' then
        (readPointed 16 digits).map fun (n, places, rest) =>
          let (e, rest) := readExponent 'p' rest
          (nearestBinary n (e - 4 * places), rest)
      else none
    | _ => none
  let decimal? := (readPointed 10 t).map fun (n, places, rest) =>
    let (e, rest) := readExponent 'e' rest
    (Number.nearest n (e - places), rest)
  let word? := (endless.find? fun w => Text.startsWith (t.map Char.toLower) w.1.toList).map
    fun w => (w.2, t.drop w.1.length)
  (binary?.orElse fun _ => decimal?).orElse fun _ => word?

/-- The number at the start of a text, whether it is negative, and the rest;
none if there is none. -/
def readReal (t : Octets) : Option (Bool × Float × Octets) :=
  let (negative, t) := sign t
  (readUnsignedReal t).map fun (x, rest) => (negative, x, rest)

end Numeral

end LintRepair.Shell
