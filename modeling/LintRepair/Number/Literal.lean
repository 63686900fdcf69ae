/-
Numbers that people write by hand.

* `nearest`: the floating-point number nearest to a decimal one;
* `whole`: a whole number, of a limited number of digits;
* `real?`: a number with a fraction or an exponent, or a word for an infinite
  one.

Blanks around a number are skipped, digits of any script count, and one
underscore may stand between two digits.
-/
import LintRepair.Number.Shortest
import LintRepair.Text.Basic

namespace LintRepair.Number

open Text

/-- The floating-point number nearest to `digits · 10 ^ e`. -/
def nearest (digits : Nat) (e : Int) : Float :=
  if digits = 0 then 0.0
  else if 400 < e then 1.0 / 0.0
  else if e < -((Nat.toDigits 10 digits).length + 400 : Nat) then 0.0
  else floatOf false (quotientBits (digits * pow 10 e) (pow 10 (-e)))

/-! ### Plain form -/

/-- The blanks of ASCII. The information separators are none. -/
def isPlainBlank (c : Char) : Bool := c == ' ' || (9 ≤ c.toNat && c.toNat ≤ 13)

/-- A character in plain form: a plain digit for one of any script, and a
space for a blank beyond ASCII. -/
def plainChar (c : Char) : Char :=
  if c.toNat < 128 then c
  else if isBlank c then ' '
  else match decimalValue? c with
    | some n => Char.ofNat (48 + n)
    | none => c

/-- A text in plain form, without the blanks at its ends. -/
def plainForm (t : Text) : Text :=
  dropEndWhile isPlainBlank ((t.map plainChar).dropWhile isPlainBlank)

/-- A text without the underscores that stand between two digits; none if
another one is left. -/
def joined? (prev : Option Char) : Text → Option Text
  | [] => some []
  | '_' :: rest =>
    if prev.any isAsciiDigit && startsIn isAsciiDigit rest then joined? (some '_') rest
    else none
  | c :: rest => (joined? (some c) rest).map (c :: ·)

/-- A sign in front, and the rest. -/
def sign (t : Text) : Bool × Text :=
  match t with
  | '-' :: rest => (true, rest)
  | '+' :: rest => (false, rest)
  | _ => (false, t)

/-! ### Whole numbers -/

/-- The greatest number of decimal digits that are read as a whole number. -/
def maxDigits : Nat := 4300

/-- Why a text is no whole number. -/
inductive WholeFault
  | malformed
  /-- It has too many digits. -/
  | tooLong (digits : Nat)
  deriving DecidableEq, Repr

/-- What is said about a number with too many digits. -/
def tooLongText (digits : Nat) : String :=
  "Exceeds the limit (" ++ digitsText maxDigits ++
    " digits) for integer string conversion: value has " ++ digitsText digits ++
    " digits; use sys.set_int_max_str_digits() to increase the limit"

/-- The number that decimal digits spell, if they are not too many. -/
def ofDigits (ds : Text) : Except WholeFault Nat :=
  if maxDigits < ds.length then .error (.tooLong ds.length) else .ok (ofDecimal ds)

/-- The whole number that a text is. Digits are counted before what follows
them is looked at. -/
def whole (t : Text) : Except WholeFault Int := do
  let (negative, t) := sign (plainForm t)
  match joined? none (t.takeWhile fun c => isAsciiDigit c || c == '_') with
  | none | some [] => throw .malformed
  | some ds =>
    let n : Int ← ofDigits ds
    if t.all fun c => isAsciiDigit c || c == '_' then
      return if negative then -n else n
    else throw .malformed

/-! ### Numbers with a fraction -/

/-- The exponent that a text is, from its letter on; zero if the text is
empty. -/
def exponentOf? : Text → Option Int
  | [] => some 0
  | c :: rest =>
    if c == 'e' || c == 'E' then
      let (negative, ds) := sign rest
      if ds.isEmpty || !ds.all isAsciiDigit then none
      else
        let n : Int := ofDecimal ds
        some (if negative then -n else n)
    else none

/-- The number without a sign that a text in plain form is. -/
def unsigned? (t : Text) : Option Float :=
  let lower := t.map Char.toLower
  if lower == "inf".toList || lower == "infinity".toList then some (1.0 / 0.0)
  else if lower == "nan".toList then some (0.0 / 0.0)
  else do
    let whole := t.takeWhile isAsciiDigit
    let rest := t.dropWhile isAsciiDigit
    let (frac, rest) := match rest with
      | '.' :: behind => (behind.takeWhile isAsciiDigit, behind.dropWhile isAsciiDigit)
      | _ => ([], rest)
    if whole.isEmpty && frac.isEmpty then none
    else
      let e ← exponentOf? rest
      return nearest (ofDecimal (whole ++ frac)) (e - frac.length)

/-- The floating-point number that a text is. -/
def real? (t : Text) : Option Float := do
  let (negative, rest) := sign (← joined? none (plainForm t))
  let x ← unsigned? rest
  return if negative then -x else x

end LintRepair.Number
