/-
Reading TOML documents.

* `value`: a value, with `stringLiteral`, `moment?` and `number?` for those
  that hold no other;
* `statement`: a `header`, or a key with its value;
* `read`: the fields of a whole document, or why there are none;
* `Fault`: why a text is no document, or one that is not read.
-/
import LintRepair.Number.Literal
import LintRepair.Toml.Table

namespace LintRepair.Toml

open Text Json

/-- Why a text is not read as a document. -/
inductive Fault
  | malformed
  /-- A whole number has too many digits. -/
  | tooLong (digits : Nat)
  /-- Too many arrays and tables are open where one more begins. -/
  | tooDeep
  deriving DecidableEq, Repr

/-- The fault of a text with a faulty number. -/
def Fault.ofNumber : Number.WholeFault → Fault
  | .malformed => .malformed
  | .tooLong digits => .tooLong digits

/-- What has been read, unless that was nothing. -/
def found {α : Type} : Option α → Except Fault α
  | some a => .ok a
  | none => .error .malformed

/-! ### Blanks and comments -/

/-- A control character, which no comment and no string holds; the tabulator
is none. -/
def isControl (c : Char) : Bool := (c.toNat < 32 && c != '\t') || c.toNat == 127

/-- A text without leading spaces and tabulators. -/
def skipBlanks (t : Text) : Text := t.dropWhile isSpaceOrTab

/-- A text without the comment that it starts with. -/
def skipComment (t : Text) : Option Text :=
  match t with
  | '#' :: rest =>
    if (rest.takeWhile (· != '\n')).any isControl then none
    else some (rest.dropWhile (· != '\n'))
  | _ => some t

/-- A text without leading blanks, ends of lines and comments; `fuel` bounds
the number of comments. -/
def skipLines : Nat → Text → Option Text
  | 0, t => some t
  | fuel + 1, t =>
    match t.dropWhile fun c => isSpaceOrTab c || c == '\n' with
    | '#' :: rest => do skipLines fuel (← skipComment ('#' :: rest))
    | t => some t

/-! ### Strings -/

/-- The character that a number of hexadecimal digits stand for. -/
def coded (digits : Nat) (t : Text) : Option (Char × Text) := do
  if t.length < digits then none
  else
    let n ← ofDigits? 16 hexValue? (t.take digits)
    if n < 0x110000 && !(0xD800 ≤ n && n < 0xE000) then some (Char.ofNat n, t.drop digits)
    else none

/-- The character behind a backslash, and the rest. -/
def escaped : Text → Option (Char × Text)
  | 'b' :: rest => some ('\x08', rest)
  | 't' :: rest => some ('\t', rest)
  | 'n' :: rest => some ('\n', rest)
  | 'f' :: rest => some ('\x0c', rest)
  | 'r' :: rest => some ('\x0d', rest)
  | '\x22' :: rest => some ('\x22', rest)
  | '\\' :: rest => some ('\\', rest)
  | 'u' :: rest => coded 4 rest
  | 'U' :: rest => coded 8 rest
  | _ => none

/-- A text without the break that a backslash at the end of a line joins; none
if no break follows. -/
def joinedLine (t : Text) : Option Text :=
  match skipBlanks t with
  | [] => some []
  | '\n' :: rest => some (rest.dropWhile fun c => isSpaceOrTab c || c == '\n')
  | _ => none

/-- The rest of a string on one line; `fuel` bounds its length. -/
def basicRest : Nat → Text → Text → Option (Text × Text)
  | 0, _, _ => none
  | fuel + 1, sofar, t =>
    match t with
    | '\x22' :: rest => some (sofar.reverse, rest)
    | '\\' :: rest => do
      let (c, rest) ← escaped rest
      basicRest fuel (c :: sofar) rest
    | c :: rest => if isControl c || c == '\n' then none else basicRest fuel (c :: sofar) rest
    | [] => none

/-- The rest of a string on several lines; `fuel` bounds its length. -/
def basicLines : Nat → Text → Text → Option (Text × Text)
  | 0, _, _ => none
  | fuel + 1, sofar, t =>
    match t with
    | '\x22' :: '\x22' :: '\x22' :: rest => some (sofar.reverse, rest)
    | '\\' :: rest =>
      if startsIn (fun c => isSpaceOrTab c || c == '\n') rest then do
        basicLines fuel sofar (← joinedLine rest)
      else do
        let (c, rest) ← escaped rest
        basicLines fuel (c :: sofar) rest
    | c :: rest =>
      if isControl c && c != '\n' then none else basicLines fuel (c :: sofar) rest
    | [] => none

/-- A literal string up to an end, without the characters that it may not
hold. -/
def literalRest (ending : Text) (isBad : Char → Bool) (t : Text) : Option (Text × Text) := do
  let n ← find? ending t
  if (t.take n).any isBad then none else some (t.take n, t.drop (n + ending.length))

/-- Up to two quotes that stand between a string on several lines and its
end. -/
def extraQuotes (quote : Char) (s t : Text) : Text × Text :=
  let n := min 2 (t.takeWhile (· == quote)).length
  (s ++ List.replicate n quote, t.drop n)

/-- A text without the end of a line that it starts with. -/
def skipBreak : Text → Text
  | '\n' :: rest => rest
  | t => t

/-- A string on one line. -/
def lineString : Text → Option (Text × Text)
  | '\x22' :: rest => basicRest (rest.length + 1) [] rest
  | '\x27' :: rest => literalRest ['\x27'] (fun c => isControl c) rest
  | _ => none

/-- A string of any form. -/
def stringLiteral (t : Text) : Option (Text × Text) :=
  match t with
  | '\x22' :: '\x22' :: '\x22' :: rest => do
    let rest := skipBreak rest
    let (s, rest) ← basicLines (rest.length + 1) [] rest
    some (extraQuotes '\x22' s rest)
  | '\x27' :: '\x27' :: '\x27' :: rest => do
    let (s, rest) ← literalRest ['\x27', '\x27', '\x27']
      (fun c => isControl c && c != '\n') (skipBreak rest)
    some (extraQuotes '\x27' s rest)
  | _ => lineString t

/-! ### Keys -/

/-- A character of a bare key. -/
def isBare (c : Char) : Bool :=
  isAsciiLetter c || isAsciiDigit c || c == '-' || c == '_'

/-- One part of a key. -/
def keyPart (t : Text) : Option (String × Text) :=
  if startsIn isBare t then
    some (String.ofList (t.takeWhile isBare), t.dropWhile isBare)
  else (lineString t).map fun (s, rest) => (String.ofList s, rest)

/-- A dotted key and the blanks around it; `fuel` bounds its parts. -/
def dottedKey : Nat → Text → Option (Path × Text)
  | 0, _ => none
  | fuel + 1, t => do
    let (part, rest) ← keyPart t
    match skipBlanks rest with
    | '.' :: rest =>
      let (parts, rest) ← dottedKey fuel (skipBlanks rest)
      return (part :: parts, rest)
    | rest => return ([part], rest)

/-- A dotted key. -/
def key (t : Text) : Option (Path × Text) := dottedKey (t.length + 1) t

/-! ### Points in time -/

/-- The number that two digits spell, and the rest. -/
def twoDigits : Text → Option (Nat × Text)
  | a :: b :: rest =>
    if isAsciiDigit a && isAsciiDigit b then some (ofDecimal [a, b], rest) else none
  | _ => none

/-- A character that must come next. -/
def expect (c : Char) : Text → Option Text
  | d :: rest => if d == c then some rest else none
  | [] => none

/-- The rest behind a fraction of a second, if there is one. -/
def afterFraction (t : Text) : Text :=
  match t with
  | '.' :: rest => if startsIn isAsciiDigit rest then rest.dropWhile isAsciiDigit else t
  | _ => t

/-- The rest behind a time of day. -/
def afterTime (t : Text) : Option Text := do
  let (hour, t) ← twoDigits t
  let (minute, t) ← twoDigits (← expect ':' t)
  let (second, t) ← twoDigits (← expect ':' t)
  if hour < 24 && minute < 60 && second < 60 then some (afterFraction t) else none

/-- The rest behind an offset from universal time, if there is one. -/
def afterOffset (t : Text) : Text :=
  match t with
  | c :: rest =>
    if c == 'Z' || c == 'z' then rest
    else if c == '+' || c == '-' then
      let behind? : Option Text := do
        let (hour, rest) ← twoDigits rest
        let (minute, rest) ← twoDigits (← expect ':' rest)
        if hour < 24 && minute < 60 then some rest else none
      behind?.getD t
    else t
  | [] => t

/-- The number of days of a month. -/
def daysOf (year month : Nat) : Nat :=
  if month = 2 then
    if year % 4 = 0 && (year % 100 != 0 || year % 400 = 0) then 29 else 28
  else if [4, 6, 9, 11].contains month then 30
  else 31

/-- A date as it is spelled: year, month and day, and the rest. -/
def datePart (t : Text) : Option (Nat × Nat × Nat × Text) := do
  let ds := t.take 4
  if ds.length < 4 || !ds.all isAsciiDigit then none
  else
    let (month, rest) ← twoDigits (← expect '-' (t.drop 4))
    let (day, rest) ← twoDigits (← expect '-' rest)
    if 1 ≤ month && month ≤ 12 && 1 ≤ day && day ≤ 31 then
      some (ofDecimal ds, month, day, rest)
    else none

/-- What has been read of a text up to its rest. -/
def readPart (t rest : Text) : String := String.ofList (t.take (t.length - rest.length))

/-- A point in time. The outer option says whether the text starts with one,
the inner one whether the date exists. -/
def moment? (t : Text) : Option (Option (Value × Text)) :=
  match datePart t with
  | some (year, month, day, rest) =>
    if year = 0 || daysOf year month < day then some none
    else
      let time? : Option Text := match rest with
        | c :: behind =>
          if c == 'T' || c == 't' || c == ' ' then (afterTime behind).map afterOffset else none
        | [] => none
      match time? with
      | some rest => some (some (.moment .dateTime (readPart t rest), rest))
      | none => some (some (.moment .date (readPart t rest), rest))
  | none => (afterTime t).map fun rest => some (.moment .time (readPart t rest), rest)

/-! ### Numbers -/

/-- Digits of a class with single underscores between them: the digits and the
rest. -/
def digitRun (isDigit : Char → Bool) : Text → Text × Text
  | '_' :: d :: rest =>
    if isDigit d then
      let (ds, rest) := digitRun isDigit rest
      (d :: ds, rest)
    else ([], '_' :: d :: rest)
  | c :: rest =>
    if isDigit c then
      let (ds, rest) := digitRun isDigit rest
      (c :: ds, rest)
    else ([], c :: rest)
  | [] => ([], [])

/-- At least one digit, and more with single underscores between them. -/
def digits? (isDigit : Char → Bool) (t : Text) : Option (Text × Text) :=
  if startsIn isDigit t then some (digitRun isDigit t) else none

/-- A number in another base behind its letter. -/
def based (base : Nat) (t : Text) : Option (Value × Text) := do
  let isDigit (c : Char) : Bool := (hexValue? c).any (· < base)
  let (ds, rest) ← digits? isDigit t
  return (.int (Int.ofNat (← ofDigits? base hexValue? ds)), rest)

/-- The part of a number before its point: a zero, or digits without a leading
one. -/
def wholePart (t : Text) : Option (Text × Text) :=
  match t with
  | '0' :: rest => some (['0'], rest)
  | _ => digits? isAsciiDigit t

/-- The digits behind a point, and the rest. -/
def fractionPart (t : Text) : Option Text × Text :=
  match t with
  | '.' :: rest =>
    match digits? isAsciiDigit rest with
    | some (ds, rest) => (some ds, rest)
    | none => (none, t)
  | _ => (none, t)

/-- The exponent, and the rest. -/
def exponentPart (t : Text) : Option Int × Text :=
  match t with
  | e :: rest =>
    if e == 'e' || e == 'E' then
      let (negative, behind) := Number.sign rest
      match digits? isAsciiDigit behind with
      | some (ds, rest) =>
        let n : Int := ofDecimal ds
        (some (if negative then -n else n), rest)
      | none => (none, t)
    else (none, t)
  | [] => (none, t)

/-- A number in base ten. Whole ones have a limited number of digits. -/
def decimal (t : Text) : Except Fault (Value × Text) := do
  let (negative, t) := Number.sign t
  let (ds, rest) ← found (wholePart t)
  let (fraction?, rest) := fractionPart rest
  let (exponent?, rest) := exponentPart rest
  if fraction?.isNone && exponent?.isNone then
    let n : Int ← (Number.ofDigits ds).mapError .ofNumber
    return (.int (if negative then -n else n), rest)
  else
    let fraction := fraction?.getD []
    let x := Number.nearest (ofDecimal (ds ++ fraction)) (exponent?.getD 0 - fraction.length)
    return (.float (if negative then -x else x), rest)

/-- The words for numbers without digits. -/
def numberWords : List (Text × Float) :=
  [("inf".toList, 1.0 / 0.0), ("nan".toList, 0.0 / 0.0), ("-inf".toList, -1.0 / 0.0),
    ("+inf".toList, 1.0 / 0.0), ("-nan".toList, 0.0 / 0.0), ("+nan".toList, 0.0 / 0.0)]

/-- The word for a number that a text starts with. -/
def numberWord? (t : Text) : Option (Value × Text) :=
  (numberWords.find? fun (w, _) => startsWith t w).map fun (w, x) => (.float x, t.drop w.length)

/-- A number. -/
def number (t : Text) : Except Fault (Value × Text) :=
  let special? := (match t with
    | '0' :: 'x' :: rest => based 16 rest
    | '0' :: 'o' :: rest => based 8 rest
    | '0' :: 'b' :: rest => based 2 rest
    | _ => none) <|> numberWord? t
  match special? with
  | some found => .ok found
  | none => decimal t

/-! ### Values -/

/-- What the reader expects next: a value, the rest of an array before an
item, or the rest of an inline table before a key. -/
inductive Expect
  | value
  | items (sofar : List Value)
  | fields (sofar : Nodes)

/-- How much may be open at a time, where an array weighs two and an inline
table three. -/
def maxWeight : Nat := 985

/-- What may still be open inside something that begins and has a weight. -/
def inner (weight room : Nat) : Except Fault Nat :=
  if room < weight then .error .tooDeep else .ok (room - weight)

/-- What is expected, and the rest of the text. `room` bounds the weight of
what is opened inside each other; `fuel` bounds the number of tokens. -/
def readNext (room : Nat) : Nat → Expect → Text → Except Fault (Value × Text)
  | 0, _, _ => .error .malformed
  | fuel + 1, .value, t =>
    if startsWith t "true".toList then .ok (.bool true, t.drop 4)
    else if startsWith t "false".toList then .ok (.bool false, t.drop 5)
    else match t with
      | '\x22' :: _ | '\x27' :: _ =>
        found ((stringLiteral t).map fun (s, rest) => (.string (String.ofList s), rest))
      | '[' :: rest => do
        let room ← inner 2 room
        match ← found (skipLines rest.length rest) with
        | ']' :: rest => return (.array [], rest)
        | rest => readNext room fuel (.items []) rest
      | '{' :: rest => do
        let room ← inner 3 room
        match skipBlanks rest with
        | '}' :: rest => return (.object [], rest)
        | rest => readNext room fuel (.fields []) rest
      | _ =>
        match moment? t with
        | some moment => found moment
        | none => number t
  | fuel + 1, .items sofar, t => do
    let (v, rest) ← readNext room fuel .value t
    match ← found (skipLines rest.length rest) with
    | ']' :: rest => return (.array (v :: sofar).reverse, rest)
    | ',' :: rest =>
      match ← found (skipLines rest.length rest) with
      | ']' :: rest => return (.array (v :: sofar).reverse, rest)
      | rest => readNext room fuel (.items (v :: sofar)) rest
    | _ => throw .malformed
  | fuel + 1, .fields sofar, t => do
    let (path, rest) ← found (key t)
    let (v, rest) ← readNext room fuel .value (skipBlanks (← found (expect '=' rest)))
    let next ← found (insert 0 path v sofar)
    match skipBlanks rest with
    | '}' :: rest => return (.object (fieldsOf next), rest)
    | ',' :: rest => readNext room fuel (.fields next) (skipBlanks rest)
    | _ => throw .malformed

/-- A value. -/
def value (t : Text) : Except Fault (Value × Text) :=
  readNext maxWeight (2 * t.length + 2) .value t

/-! ### Documents -/

/-- A document while it is read: its tables, the path of the last header, and
how many headers there were. -/
structure Document where
  nodes : Nodes := []
  header : Path := []
  count : Nat := 0

/-- A header in brackets, behind its first one. -/
def header (d : Document) (t : Text) : Option (Document × Text) :=
  match t with
  | '[' :: rest => do
    let (path, rest) ← key (skipBlanks rest)
    let nodes ← declareItem path d.nodes
    return (⟨nodes, path, d.count + 1⟩, ← expect ']' (← expect ']' rest))
  | rest => do
    let (path, rest) ← key (skipBlanks rest)
    let nodes ← declareTable path d.nodes
    return (⟨nodes, path, d.count + 1⟩, ← expect ']' rest)

/-- A header, or a key with its value, at the start of a text. -/
def statement (d : Document) (t : Text) : Except Fault (Document × Text) :=
  match t with
  | '[' :: rest => found (header d rest)
  | _ => do
    let (path, rest) ← found (key t)
    let (v, rest) ← value (skipBlanks (← found (expect '=' rest)))
    let nodes ← found (changeAt d.header (insert d.count path v) d.nodes)
    return ({ d with nodes }, rest)

/-- The document that the rest of a text completes; `fuel` bounds the number
of lines. -/
def documentFrom : Nat → Document → Text → Except Fault Document
  | 0, _, _ => .error .malformed
  | fuel + 1, d, t =>
    match skipBlanks t with
    | [] => .ok d
    | '\n' :: rest => documentFrom fuel d rest
    | t => do
      let (d, rest) ← if startsIn (· == '#') t then .ok (d, t) else statement d t
      match ← found (skipComment (skipBlanks rest)) with
      | [] => return d
      | '\n' :: rest => documentFrom fuel d rest
      | _ => throw .malformed

/-- A text with plain ends of lines. -/
def plainBreaks : Text → Text
  | '\x0d' :: '\n' :: rest => '\n' :: plainBreaks rest
  | c :: rest => c :: plainBreaks rest
  | [] => []

/-- The fields of a document, or why there are none. -/
def read (t : Text) : Except Fault Fields :=
  (documentFrom (t.length + 1) {} (plainBreaks t)).map fun d => fieldsOf d.nodes

end LintRepair.Toml
