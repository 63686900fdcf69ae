/-
Formats: texts with places for arguments.

* `Directive`: a place for an argument, with how it is laid out;
* `Format.next`: the first piece of a format, and the rest;
* `Format.fill`: a format with arguments in its places, filled again until no
  argument is left.

An argument that is missing counts as the empty text or as zero.
-/
import LintRepair.Shell.Numeral

namespace LintRepair.Shell

/-- A width or a number of places. -/
inductive Amount
  | fixed (n : Nat)
  /-- The next argument tells it. -/
  | given
  deriving DecidableEq, Repr

/-- A place for an argument. -/
structure Directive where
  /-- How it is written. -/
  text : Octets
  flags : Octets
  width : Amount
  places : Option Amount
  /-- The letter that tells what the argument is. -/
  letter : Char
  deriving DecidableEq, Repr

/-- A piece of a format. -/
inductive Piece
  | char (c : Char)
  | place (d : Directive)
  /-- A place without a letter. -/
  | cutOff

/-- How an argument is laid out. -/
structure Layout where
  flags : Octets
  width : Nat
  places : Option Nat

namespace Layout

/-- Whether blanks come behind. -/
def isLeft (l : Layout) : Bool := l.flags.contains '-'

/-- The greatest width. -/
def maxWidth : Nat := 1000000

/-- Copies of a character up to a width. -/
def filling (c : Char) (width length : Nat) : Octets :=
  List.replicate (min width maxWidth - length) c

/-- A text with blanks up to the width. -/
def pad (l : Layout) (t : Octets) : Octets :=
  let blanks := filling ' ' l.width t.length
  if l.isLeft then t ++ blanks else blanks ++ t

/-- Digits behind a sign, with zeros between them up to the width if asked
for. -/
def padNumber (l : Layout) (zeros : Bool) (sign digits : Octets) : Octets :=
  if zeros && l.flags.contains '0' && !l.isLeft then
    sign ++ filling '0' l.width (sign.length + digits.length) ++ digits
  else l.pad (sign ++ digits)

/-- The sign in front of a number. -/
def sign (l : Layout) (negative : Bool) : Octets :=
  if negative then ['-']
  else if l.flags.contains '+' then ['+']
  else if l.flags.contains ' ' then [' ']
  else []

/-- A whole number without a sign in a base, behind a sign, with the least
number of digits. -/
def whole (l : Layout) (base : Nat) (sign : Octets) (n : Nat) : Octets :=
  let digits := if n = 0 ∧ l.places = some 0 then [] else Nat.toDigits base n
  let digits := filling '0' (l.places.getD 0) digits.length ++ digits
  let digits :=
    if base = 8 ∧ l.flags.contains '#' ∧ digits.head? ≠ some '0' then '0' :: digits else digits
  l.padNumber l.places.isNone sign digits

/-- Digits with a point before the last `places`. -/
def pointed (l : Layout) (places : Nat) (n : Nat) : Octets :=
  let ds := Nat.toDigits 10 n
  let ds := List.replicate (places + 1 - ds.length) '0' ++ ds
  ds.take (ds.length - places) ++
    (if places = 0 ∧ !l.flags.contains '#' then [] else '.' :: ds.drop (ds.length - places))

/-- A positive number in units of a power of ten, rounded. -/
def inUnits (b : Number.Binary) (exponent : Int) : Nat :=
  Number.roundDiv
    (b.mantissa * Number.pow 2 b.exponent * Number.pow 10 (-exponent))
    (Number.pow 2 (-b.exponent) * Number.pow 10 exponent)

/-- The leading digits of a positive number, and the power of ten of the first
of them. -/
def leading (b : Number.Binary) (count : Nat) : Nat × Int :=
  let top := b.shortest.strip
  let guess : Int := top.exponent + (Nat.toDigits 10 top.digits).length - 1
  let fits (e : Int) : Bool := (Nat.toDigits 10 (inUnits b (e - (count - 1 : Nat)))).length ≤ count
  let e := if !fits guess then guess + 1 else if fits (guess - 1) then guess - 1 else guess
  (inUnits b (e - (count - 1 : Nat)), e)

/-- An exponent of at least two digits. -/
def exponentText (e : Int) : Octets :=
  let ds := Nat.toDigits 10 e.natAbs
  (if e < 0 then ['e', '-'] else ['e', '+']) ++ (if ds.length < 2 then '0' :: ds else ds)

/-- Digits without zeros at the end of their places. -/
def withoutZeros (t : Octets) : Octets :=
  if t.contains '.' then
    Text.dropEndWhile (· == '.') (Text.dropEndWhile (· == '0') t)
  else t

/-- A positive number, or zero, by the small letter of its notation. -/
def magnitude (l : Layout) (letter : Char) (b? : Option Number.Binary) : Octets :=
  let places := min (l.places.getD 6) 2000
  let scientific (places : Nat) : Octets × Int :=
    match b? with
    | none => (l.pointed places 0, 0)
    | some b => let (n, e) := leading b (places + 1); (l.pointed places n, e)
  let positional (places : Nat) : Octets :=
    l.pointed places (match b? with
      | none => 0
      | some b => inUnits b (-places))
  if letter = 'f' then positional places
  else if letter = 'e' then let (t, e) := scientific places; t ++ exponentText e
  else
    let count := max places 1
    let shown (t : Octets) : Octets := if l.flags.contains '#' then t else withoutZeros t
    let (t, e) := scientific (count - 1)
    if e < -4 ∨ (count : Int) ≤ e then shown t ++ exponentText e
    else shown (positional ((count : Int) - 1 - e).toNat)

/-- A number with a point by the letter of its notation; a capital letter asks
for capital ones. -/
def real (l : Layout) (letter : Char) (negative : Bool) (x : Float) : Octets :=
  let sign := l.sign negative
  let t := match Number.shapeOf x with
    | .finite _ b => l.padNumber true sign (l.magnitude letter.toLower (some b))
    | .zero _ => l.padNumber true sign (l.magnitude letter.toLower none)
    | .infinite _ => l.padNumber false sign "inf".toList
    | .nan => l.padNumber false sign "nan".toList
  if letter.isUpper then t.map Char.toUpper else t

end Layout

namespace Format

/-- The digits of an amount as a number. -/
def ofDigits (ds : Octets) : Nat := Text.ofDecimal (ds.takeWhile Text.isAsciiDigit)

/-- An amount at the start of a text, with how many characters it takes. -/
def amount (t : Octets) : Amount × Nat :=
  match t with
  | '*' :: _ => (.given, 1)
  | _ =>
    let ds := t.takeWhile fun c => Text.isAsciiDigit c || c == '*'
    (.fixed (ofDigits ds), ds.length)

/-- The place that is written behind a percent sign, and how many characters
it takes. -/
def directive? (t : Octets) : Option (Directive × Nat) :=
  let flags := t.takeWhile fun c => "#-+ 0".toList.contains c
  let (width, n) := amount (t.drop flags.length)
  let behind := t.drop (flags.length + n)
  let (places, m) := match behind with
    | '.' :: rest => let (a, k) := amount rest; (some a, k + 1)
    | _ => (none, 0)
  (t.drop (flags.length + n + m)).head?.map fun letter =>
    let length := flags.length + n + m + 1
    ({ text := '%' :: t.take length, flags, width, places, letter }, length)

/-- The first piece of a format, and the rest. -/
def next (c : Char) (rest : Octets) : Piece × Octets :=
  if c = '\\' then (.char (escaped rest).1, (escaped rest).2)
  else if c = '%' then
    if rest.head? = some '%' then (.char '%', rest.drop 1)
    else match directive? rest with
      | some (d, n) => (.place d, rest.drop n)
      | none => (.cutOff, [])
  else (.char c, rest)

theorem length_next_le (c : Char) (rest : Octets) : (next c rest).2.length ≤ rest.length := by
  unfold next
  split
  · exact length_escaped_le rest
  · split
    · split
      · simp
      · split <;> simp
    · exact Nat.le_refl _

/-- The pieces of a format. -/
def pieces (t : Octets) : List Piece :=
  match t with
  | [] => []
  | c :: rest => (next c rest).1 :: pieces (next c rest).2
termination_by t.length
decreasing_by
  have := length_next_le c rest
  simp only [List.length_cons]
  omega

/-- How the filling of a format ends. -/
inductive Outcome
  | filled
  /-- An argument breaks it off. -/
  | stopped
  | failed (message : Octets)
  deriving DecidableEq, Repr

/-- A format that is half filled. -/
structure Draft where
  output : Octets := []
  /-- The arguments that are left. -/
  arguments : List Octets
  /-- What is wrong with arguments. -/
  complaints : List Octets := []
  outcome : Outcome := .filled

namespace Draft

/-- The next argument and the draft without it. -/
def argument? (d : Draft) : Option Octets × Draft :=
  (d.arguments.head?, { d with arguments := d.arguments.tail })

/-- The draft with more output. -/
def write (d : Draft) (t : Octets) : Draft := { d with output := d.output ++ t }

/-- The draft with a complaint about an argument of which a part was no
number, or which did not fit. -/
def check (d : Draft) (argument rest : Octets) (fits : Bool) : Draft :=
  let about (words : String) : Draft :=
    { d with complaints := d.complaints ++ [argument ++ ": ".toList ++ words.toList] }
  if !rest.isEmpty then
    about (if rest = argument then "expected numeric value" else "not completely converted")
  else if fits then d
  else about "Numerical result out of range"

/-- The character that an argument quotes. -/
def quoted? : Octets → Option Nat
  | '\x22' :: rest | '\x27' :: rest => some ((rest.head?.map Char.toNat).getD 0)
  | _ => none

/-- The next argument as a number with a sign. -/
def signed (d : Draft) : Int × Draft :=
  match d.argument? with
  | (none, d) => (0, d)
  | (some a, d) =>
    match quoted? a with
    | some n => (n, d)
    | none => let n := Numeral.read a; (n.signed, d.check a n.rest n.fitsSigned)

/-- The next argument as a number without a sign. -/
def unsigned (d : Draft) : Nat × Draft :=
  match d.argument? with
  | (none, d) => (0, d)
  | (some a, d) =>
    match quoted? a with
    | some n => (n, d)
    | none => let n := Numeral.read a; (n.unsigned, d.check a n.rest n.fitsUnsigned)

/-- The next argument as a number with a point. -/
def real (d : Draft) : Bool × Float × Draft :=
  match d.argument? with
  | (none, d) => (false, 0.0, d)
  | (some a, d) =>
    match quoted? a with
    | some n => (false, Float.ofNat n, d)
    | none =>
      match Numeral.readReal a with
      | some (negative, x, rest) => (negative, x, d.check a rest true)
      | none => (false, 0.0, d.check a a true)

/-- The number that an amount means, which fits into a word of 32 bits. -/
def amount (d : Draft) : Amount → Int × Draft
  | .fixed n => (n, d)
  | .given => let (n, d) := d.signed; (Int.bmod n 4294967296, d)

/-- The draft with the next argument in a place. -/
def place (d : Draft) (p : Directive) : Draft :=
  let (width, d) := d.amount p.width
  let (places, d) := match p.places with
    | none => (none, d)
    | some a => let (n, d) := d.amount a; (if n < 0 then none else some n.toNat, d)
  let l : Layout :=
    { flags := if width < 0 then '-' :: p.flags else p.flags, width := width.natAbs, places }
  let cut (t : Octets) : Octets := match places with
    | none => t
    | some n => t.take n
  match p.letter with
  | 's' => let (a?, d) := d.argument?; d.write (l.pad (cut (a?.getD [])))
  | 'b' =>
    let (a?, d) := d.argument?
    let (t, stops) := unescape (a?.getD [])
    { d.write (l.pad (cut t)) with outcome := if stops then .stopped else .filled }
  | 'c' => let (a?, d) := d.argument?; d.write (l.pad [((a?.getD []).head?).getD '\x00'])
  | 'd' | 'i' => let (n, d) := d.signed; d.write (l.whole 10 (l.sign (n < 0)) n.natAbs)
  | 'u' => let (n, d) := d.unsigned; d.write (l.whole 10 [] n)
  | 'o' => let (n, d) := d.unsigned; d.write (l.whole 8 [] n)
  | 'x' | 'X' =>
    let (n, d) := d.unsigned
    let mark := if l.flags.contains '#' ∧ n ≠ 0 then ['0', 'x'] else []
    let t := l.whole 16 mark n
    d.write (if p.letter = 'X' then t.map Char.toUpper else t)
  | 'e' | 'E' | 'f' | 'F' | 'g' | 'G' =>
    let (negative, x, d) := d.real
    d.write (l.real p.letter negative x)
  | _ => { d with outcome := .failed (p.text ++ ": invalid directive".toList) }

/-- The draft after a piece of its format. -/
def add (d : Draft) (p : Piece) : Draft :=
  if d.outcome ≠ .filled then d
  else match p with
    | .char c => d.write [c]
    | .place p => d.place p
    | .cutOff => { d with outcome := .failed "missing format character".toList }

/-- The draft after its format was filled up to so many times. -/
def fillAgain (format : List Piece) (d : Draft) : Nat → Draft
  | 0 => d
  | n + 1 =>
    let after := format.foldl add d
    if after.outcome ≠ .filled ∨ after.arguments.isEmpty ∨
        after.arguments.length = d.arguments.length then after
    else fillAgain format after n

end Draft

/-- A format with arguments in its places. -/
def fill (format : Octets) (arguments : List Octets) : Draft :=
  Draft.fillAgain (pieces format) { arguments } (arguments.length + 1)

end Format

end LintRepair.Shell
