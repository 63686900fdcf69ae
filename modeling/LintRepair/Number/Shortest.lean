/-
Floating-point numbers: the nearest one to a quotient, and the decimal text of
one, which has the fewest digits that read back as the same number, and of
those the nearest.

* `roundDiv`: the nearest natural number to a quotient;
* `lead`: the exponent of the leading binary digit of a quotient;
* `quotientBits`: the word of the floating-point number nearest to a positive
  quotient;
* `quotient?`: that number, unless the quotient is too large for a finite one;
* `Binary`: a positive number as a whole multiple of a power of two;
* `Binary.shortest`: its shortest decimal, as digits times a power of ten;
* `Float.text`: the text, positional from 0.0001 up to below 10¹⁶ and with an
  exponent elsewhere;
* `roundPlaces`: the nearest number with a given count of decimal places.

A quotient is rounded once: all steps before that are exact. All searches are
exact: they compare natural numbers only.
-/

namespace LintRepair.Number

/-! ### Quotients -/

/-- A power with a negative exponent counted as one, so that `pow b e / pow b
(-e)` is the rational power. -/
def pow (base : Nat) (e : Int) : Nat := Nat.pow base e.toNat

/-- The nearest natural number to a quotient; a tie goes to the even one. -/
def roundDiv (num den : Nat) : Nat :=
  let whole := num / den
  let twice := 2 * (num % den)
  if twice < den then whole
  else if den < twice then whole + 1
  else whole + whole % 2

/-- The exponent of the leading binary digit of `num / den`, for positive
numbers. -/
def lead (num den : Nat) : Int :=
  let e : Int := (Nat.log2 num : Int) - Nat.log2 den
  if num * pow 2 (-e) < den * pow 2 e then e - 1 else e

/-- The word of the floating-point number nearest to `num / den`; a tie goes
to the even mantissa. The unit of the mantissa is `2 ^ (lead - 52)`, but not
below the smallest number. A mantissa that is rounded up to the next power of
two carries into the exponent. -/
def quotientBits (num den : Nat) : Nat :=
  if num = 0 then 0
  else
    let e := max (lead num den - 52) (-1074)
    (e + 1074).toNat * pow 2 52 + roundDiv (num * pow 2 (-e)) (den * pow 2 e)

/-- The word of the infinite number, above those of all finite ones. -/
def infinityBits : Nat := 2047 * pow 2 52

/-- The number with a sign and the word of its magnitude, which is infinite
where no finite number has the word. -/
def floatOf (negative : Bool) (bits : Nat) : Float :=
  Float.ofBits (UInt64.ofNat ((if negative then pow 2 63 else 0) + min bits infinityBits))

/-- The floating-point number nearest to `num / den`; none if no finite number
is near. -/
def quotient? (num den : Int) : Option Float :=
  let bits := quotientBits num.natAbs den.natAbs
  if infinityBits ≤ bits then none else some (floatOf ((num < 0) != (den < 0)) bits)

/-! ### Decimals -/

/-- The positive number `mantissa · 2 ^ exponent`; `narrow` says that the gap
to the number below is half the gap to the number above. -/
structure Binary where
  mantissa : Nat
  exponent : Int
  narrow : Bool
  deriving DecidableEq, Repr

/-- The decimal `digits · 10 ^ exponent`. -/
structure Decimal where
  digits : Nat
  exponent : Int
  deriving DecidableEq, Repr

namespace Binary

/-- The number in quarters of its unit, as a fraction of grid steps `10 ^ p`:
numerator factor and denominator. -/
def scale (b : Binary) (p : Int) : Nat × Nat :=
  let q := b.exponent - 2
  (pow 2 q * pow 10 (-p), pow 2 (-q) * pow 10 p)

/-- Whether `k · 10 ^ p` reads back as the number: it lies between the
midpoints to the two neighbours, and on a midpoint only where the mantissa is
even. -/
def readsBack (b : Binary) (p : Int) (k : Nat) : Bool :=
  let (f, den) := b.scale p
  let lo := (4 * b.mantissa - if b.narrow then 1 else 2) * f
  let hi := (4 * b.mantissa + 2) * f
  let x := k * den
  if b.mantissa % 2 == 0 then lo ≤ x && x ≤ hi else lo < x && x < hi

/-- The multiple of `10 ^ p` next to the number that reads back; of two the
nearer, and the even one on a tie. -/
def onGrid (b : Binary) (p : Int) : Option Nat :=
  let (f, den) := b.scale p
  let num := 4 * b.mantissa * f
  let below := num / den
  match b.readsBack p below, b.readsBack p (below + 1) with
  | true, true => some (roundDiv num den)
  | true, false => some below
  | false, true => some (below + 1)
  | false, false => none

/-- The first grid with a hit among `count` of them, each ten times finer than
the one before. -/
def search (b : Binary) (p : Int) : Nat → Decimal
  | 0 => ⟨4 * b.mantissa * (b.scale p).1 / (b.scale p).2, p⟩
  | count + 1 =>
    match b.onGrid p with
    | some k => if k = 0 then search b (p - 1) count else ⟨k, p⟩
    | none => search b (p - 1) count

/-- The decimal exponent from which the search may start: not below that of
the leading digit. -/
def topExponent (b : Binary) : Int :=
  ((Nat.log2 b.mantissa : Int) + b.exponent + 1) * 30103 / 100000 + 1

/-- The shortest decimal that reads back as the number. -/
def shortest (b : Binary) : Decimal := b.search b.topExponent 400

end Binary

/-- A decimal without zeros at the end of its digits. -/
def Decimal.strip (d : Decimal) : Decimal :=
  go d (Nat.toDigits 10 d.digits).length
where
  go (d : Decimal) : Nat → Decimal
    | 0 => d
    | n + 1 =>
      if d.digits % 10 = 0 ∧ d.digits ≠ 0 then go ⟨d.digits / 10, d.exponent + 1⟩ n
      else d

/-- The sign of a number and its magnitude, if that is finite. -/
inductive Shape
  | nan
  | infinite (negative : Bool)
  | zero (negative : Bool)
  | finite (negative : Bool) (magnitude : Binary)

/-- A floating-point number read from its bits. -/
def shapeOf (x : Float) : Shape :=
  let bits := x.toBits.toNat
  let negative := bits / pow 2 63 == 1
  let e : Nat := bits / pow 2 52 % 2048
  let f : Nat := bits % pow 2 52
  if e == 2047 then if f == 0 then .infinite negative else .nan
  else if e == 0 then
    if f == 0 then .zero negative else .finite negative ⟨f, -1074, false⟩
  else .finite negative ⟨f + pow 2 52, (e : Int) - 1075, f == 0 && e != 1⟩

/-- The decimal digits of a natural number. -/
def digitsText (n : Nat) : String := String.ofList (Nat.toDigits 10 n)

/-- A count of zeros. -/
def zeros (n : Nat) : String := String.ofList (List.replicate n '0')

/-- The text of a positive decimal: positional where the leading digit stands
for 10⁻⁴ up to 10¹⁵, with an exponent of at least two digits elsewhere. -/
def Decimal.text (d : Decimal) : String :=
  let d := d.strip
  let ds := Nat.toDigits 10 d.digits
  let lead : Int := d.exponent + ds.length - 1
  if -4 ≤ lead ∧ lead < 16 then
    if 0 ≤ d.exponent then
      String.ofList ds ++ zeros d.exponent.toNat ++ ".0"
    else if 0 ≤ lead then
      let k := (lead + 1).toNat
      String.ofList (ds.take k) ++ "." ++ String.ofList (ds.drop k)
    else "0." ++ zeros (-lead - 1).toNat ++ String.ofList ds
  else
    let e := digitsText lead.natAbs
    String.ofList (ds.take 1) ++
      (if ds.length = 1 then "" else "." ++ String.ofList (ds.drop 1)) ++
      (if lead < 0 then "e-" else "e+") ++ (if e.length < 2 then "0" ++ e else e)

/-- The text of a floating-point number. -/
def floatText (x : Float) : String :=
  match shapeOf x with
  | .nan => "nan"
  | .infinite negative => if negative then "-inf" else "inf"
  | .zero negative => if negative then "-0.0" else "0.0"
  | .finite negative b => (if negative then "-" else "") ++ b.shortest.text

/-- The nearest number with `places` decimal places; a tie of the exact value
goes to the even last place. -/
def roundPlaces (x : Float) (places : Nat) : Float :=
  match shapeOf x with
  | .finite negative b =>
    let k := roundDiv (b.mantissa * pow 2 b.exponent * pow 10 places)
      (pow 2 (-b.exponent))
    floatOf negative (quotientBits k (pow 10 places))
  | _ => x

end LintRepair.Number
