/-
Reading JSON text.

* `read`: the value that a text is, if it is one JSON value with nothing but
  white space around it;
* `Fault`: why a text is no value, or one that is not read.

Besides the standard's literals the three words for numbers without digits
are read. Escapes of a pair of surrogates give one character; a surrogate that
stands alone is no character and is read as the replacement character.
-/
import LintRepair.Json.Value
import LintRepair.Number.Literal

namespace LintRepair.Json

open Text

/-- The white space between tokens. -/
def isSpace (c : Char) : Bool := c == ' ' || c == '\t' || c == '\n' || c == '\r'

/-- What holds other values. -/
inductive Container
  | array
  | object
  deriving DecidableEq, Repr

/-- The word for a container. -/
def Container.word : Container → String
  | .array => "array"
  | .object => "object"

/-- Why a text is not read as a value. -/
inductive Fault
  | malformed
  /-- A whole number has too many digits. -/
  | tooLong (digits : Nat)
  /-- Too many arrays and objects are open where one more begins. -/
  | tooDeep (form : Container)
  deriving DecidableEq, Repr

/-- The fault of a text with a faulty number. -/
def Fault.ofNumber : Number.WholeFault → Fault
  | .malformed => .malformed
  | .tooLong digits => .tooLong digits

/-- How many arrays and objects may be open at a time. -/
def maxDepth : Nat := 985

namespace Reader

/-- How many more containers may be opened inside one that begins. -/
def inner (form : Container) : Nat → Except Fault Nat
  | 0 => .error (.tooDeep form)
  | depth + 1 => .ok depth

/-- The character of an escape with a code unit, and the rest. -/
def escapedUnit (t : Text) : Option (Char × Text) := do
  let (u, rest) ← codeUnit? t
  if 0xD800 ≤ u ∧ u < 0xDC00 then
    match rest with
    | '\\' :: 'u' :: low =>
      match codeUnit? low with
      | some (v, rest') =>
        if 0xDC00 ≤ v ∧ v < 0xE000 then
          return (Char.ofNat (0x10000 + (u - 0xD800) * 0x400 + (v - 0xDC00)), rest')
        else return ('\uFFFD', rest)
      | none => return ('\uFFFD', rest)
    | _ => return ('\uFFFD', rest)
  else if 0xDC00 ≤ u ∧ u < 0xE000 then return ('\uFFFD', rest)
  else return (Char.ofNat u, rest)

/-- The character of an escape that names it by a letter. -/
def escapedLetter? : Char → Option Char
  | '\x22' => some '\x22'
  | '\\' => some '\\'
  | '/' => some '/'
  | 'b' => some '\x08'
  | 'f' => some '\x0C'
  | 'n' => some '\n'
  | 'r' => some '\r'
  | 't' => some '\t'
  | _ => none

/-- The rest of a string behind its opening quote; `fuel` bounds the number
of characters. -/
def stringRest : Nat → Text → Text → Except Fault (String × Text)
  | 0, _, _ => .error .malformed
  | fuel + 1, sofar, t =>
    match t with
    | '\x22' :: rest => .ok (String.ofList sofar.reverse, rest)
    | '\\' :: 'u' :: rest =>
      match escapedUnit rest with
      | some (c, rest) => stringRest fuel (c :: sofar) rest
      | none => .error .malformed
    | '\\' :: c :: rest =>
      match escapedLetter? c with
      | some c => stringRest fuel (c :: sofar) rest
      | none => .error .malformed
    | c :: rest => if c.toNat < 32 then .error .malformed else stringRest fuel (c :: sofar) rest
    | [] => .error .malformed

/-- A whole number without needless zeros: its digits and the rest. -/
def wholeDigits? (t : Text) : Option (Text × Text) :=
  match t with
  | '0' :: rest => some (['0'], rest)
  | _ =>
    let ds := t.takeWhile isAsciiDigit
    if ds.isEmpty then none else some (ds, t.dropWhile isAsciiDigit)

/-- The digits behind a decimal point, if they follow. -/
def fraction (t : Text) : Option Text × Text :=
  match t with
  | '.' :: rest =>
    let ds := rest.takeWhile isAsciiDigit
    if ds.isEmpty then (none, t) else (some ds, rest.dropWhile isAsciiDigit)
  | _ => (none, t)

/-- The exponent, if it follows. -/
def exponent (t : Text) : Option Int × Text :=
  match t with
  | e :: rest =>
    if e == 'e' || e == 'E' then
      let (negative, digits) : Bool × Text := match rest with
        | '-' :: r => (true, r)
        | '+' :: r => (false, r)
        | r => (false, r)
      let ds := digits.takeWhile isAsciiDigit
      if ds.isEmpty then (none, t)
      else
        let n : Int := ofDecimal ds
        (some (if negative then -n else n), digits.dropWhile isAsciiDigit)
    else (none, t)
  | [] => (none, t)

/-- A number. A whole one has a limited number of digits. -/
def number (t : Text) : Except Fault (Value × Text) := do
  let (negative, digits) : Bool × Text := match t with
    | '-' :: r => (true, r)
    | r => (false, r)
  let some (whole, rest) := wholeDigits? digits | throw .malformed
  let (frac, rest) := fraction rest
  let (e, rest) := exponent rest
  if frac.isNone && e.isNone then
    let n : Int ← (Number.ofDigits whole).mapError .ofNumber
    return (.int (if negative then -n else n), rest)
  else
    let fracDigits := frac.getD []
    let x := Number.nearest (ofDecimal (whole ++ fracDigits)) (e.getD 0 - fracDigits.length)
    return (.float (if negative then -x else x), rest)

/-- The words that are values. -/
def words : List (Text × Value) :=
  [("null".toList, .null), ("true".toList, .bool true), ("false".toList, .bool false),
    ("NaN".toList, .float (0.0 / 0.0)), ("Infinity".toList, .float (1.0 / 0.0)),
    ("-Infinity".toList, .float (-1.0 / 0.0))]

/-- The word that a text starts with. -/
def word? (t : Text) : Option (Value × Text) :=
  (words.find? fun (w, _) => startsWith t w).map fun (w, v) => (v, t.drop w.length)

/-- A text without its leading white space. -/
def skip (t : Text) : Text := t.dropWhile isSpace

/-- What the reader expects next: a value, the rest of an array after an
item, or the rest of an object from a key on. -/
inductive Expect
  | value
  | items (sofar : List Value)
  | fields (sofar : Fields)

/-- What is expected, and the rest of the text. `depth` says how many more
arrays and objects may be opened inside each other; `fuel` bounds the number
of tokens. -/
def expect (depth : Nat) : Nat → Expect → Text → Except Fault (Value × Text)
  | 0, _, _ => .error .malformed
  | fuel + 1, .value, t =>
    match skip t with
    | '\x22' :: rest => do
      let (s, rest) ← stringRest (rest.length + 1) [] rest
      return (.string s, rest)
    | '[' :: rest => do
      let depth ← inner .array depth
      match skip rest with
      | ']' :: rest => return (.array [], rest)
      | rest => expect depth fuel (.items []) rest
    | '{' :: rest => do
      let depth ← inner .object depth
      match skip rest with
      | '}' :: rest => return (.object [], rest)
      | rest => expect depth fuel (.fields []) rest
    | rest =>
      match word? rest with
      | some found => .ok found
      | none => number rest
  | fuel + 1, .items sofar, t => do
    let (v, rest) ← expect depth fuel .value t
    match skip rest with
    | ',' :: rest => expect depth fuel (.items (v :: sofar)) rest
    | ']' :: rest => return (.array (v :: sofar).reverse, rest)
    | _ => throw .malformed
  | fuel + 1, .fields sofar, t =>
    match skip t with
    | '\x22' :: rest => do
      let (key, rest) ← stringRest (rest.length + 1) [] rest
      match skip rest with
      | ':' :: rest =>
        let (v, rest) ← expect depth fuel .value rest
        match skip rest with
        | ',' :: rest => expect depth fuel (.fields (Fields.put key v sofar)) rest
        | '}' :: rest => return (.object (Fields.put key v sofar), rest)
        | _ => throw .malformed
      | _ => throw .malformed
    | _ => .error .malformed

end Reader

/-- The value that a text is, or why it is none. -/
def read (s : Text) : Except Fault Value := do
  let (v, rest) ← Reader.expect maxDepth (2 * s.length + 2) .value s
  if (Reader.skip rest).isEmpty then return v else throw .malformed

end LintRepair.Json
