/-
The tokens of JavaScript.

* `newStarts`, `newParts`: characters of names that Unicode has gained between its
  versions 14 and 16;
* `skipTrivia`: white space and comments, and whether a line ended in them;
* `Token`, `Token.scan`: one token and the text behind it;
* `regexRest`, `templateRest`: the literals whose start only the grammar can
  tell from an operator or a brace.

A slash and the end of an interpolation are scanned as punctuation; the
grammar asks for the literal where it expects one.
-/
import LintRepair.Text.Basic

namespace LintRepair.Grammar

open Text

/-! ### The alphabet of names -/

/-- Code points that a name may start with. -/
def newStarts : Array (Nat × Nat) := #[
  (0x1C89, 0x1C8A), (0xA7CB, 0xA7CD), (0xA7DA, 0xA7DC), (0x105C0, 0x105F3),
  (0x10D4A, 0x10D65), (0x10D6F, 0x10D85), (0x10EC2, 0x10EC4),
  (0x1123F, 0x11240), (0x11380, 0x11389), (0x1138B, 0x1138B),
  (0x1138E, 0x1138E), (0x11390, 0x113B5), (0x113B7, 0x113B7),
  (0x113D1, 0x113D1), (0x113D3, 0x113D3), (0x11BC0, 0x11BE0),
  (0x11F02, 0x11F02), (0x11F04, 0x11F10), (0x11F12, 0x11F33),
  (0x1342F, 0x1342F), (0x13441, 0x13446), (0x13460, 0x143FA),
  (0x16100, 0x1611D), (0x16D40, 0x16D6C), (0x18CFF, 0x18CFF),
  (0x1B132, 0x1B132), (0x1B155, 0x1B155), (0x1DF25, 0x1DF2A),
  (0x1E030, 0x1E06D), (0x1E4D0, 0x1E4EB), (0x1E5D0, 0x1E5ED),
  (0x1E5F0, 0x1E5F0), (0x2B739, 0x2B739), (0x2EBF0, 0x2EE5D), (0x31350, 0x323AF)]

/-- Code points that a name may go on with, but not start with. -/
def newParts : Array (Nat × Nat) := #[
  (0x897, 0x897), (0xCF3, 0xCF3), (0xECE, 0xECE), (0x30FB, 0x30FB),
  (0xFF65, 0xFF65), (0x10D40, 0x10D49), (0x10D69, 0x10D6D), (0x10EFC, 0x10EFF),
  (0x11241, 0x11241), (0x113B8, 0x113C0), (0x113C2, 0x113C2),
  (0x113C5, 0x113C5), (0x113C7, 0x113CA), (0x113CC, 0x113D0),
  (0x113D2, 0x113D2), (0x113E1, 0x113E2), (0x116D0, 0x116E3),
  (0x11BF0, 0x11BF9), (0x11F00, 0x11F01), (0x11F03, 0x11F03),
  (0x11F34, 0x11F3A), (0x11F3E, 0x11F42), (0x11F50, 0x11F5A),
  (0x13440, 0x13440), (0x13447, 0x13455), (0x1611E, 0x16139),
  (0x16D70, 0x16D79), (0x1CCF0, 0x1CCF9), (0x1E08F, 0x1E08F),
  (0x1E4EC, 0x1E4F9), (0x1E5EE, 0x1E5EF), (0x1E5F1, 0x1E5FA)]

/-! ### White space and comments -/

/-- What ends a line. -/
def isLineEnd (c : Char) : Bool :=
  c == '\n' || c == '\r' || c == '\u2028' || c == '\u2029'

/-- White space within a line. -/
def isSpace (c : Char) : Bool :=
  let n := c.toNat
  n == 9 || n == 11 || n == 12 || n == 32 || n == 0xA0 || n == 0xFEFF ||
    n == 0x1680 || (0x2000 ≤ n && n ≤ 0x200A) || n == 0x202F || n == 0x205F ||
    n == 0x3000

/-- What lies between two tokens. -/
inductive Gap
  | space
  | lineComment
  | blockComment
  deriving DecidableEq

/-- White space and comments skipped from inside a gap: whether a line ended in
them, and the text behind; none if a comment does not end. Where `arrows` is
set, an arrow of the markup comments opens a comment as well: the left one
anywhere, the right one at the start of a line. -/
def skipFrom (arrows : Bool) (gap : Gap) (ended : Bool) (t : Text) : Option (Bool × Text) :=
  match gap, t with
  | .blockComment, [] => none
  | _, [] => some (ended, [])
  | .blockComment, '*' :: '/' :: rest => skipFrom arrows .space ended rest
  | .blockComment, c :: rest => skipFrom arrows .blockComment (ended || isLineEnd c) rest
  | .lineComment, c :: rest =>
    if isLineEnd c then skipFrom arrows .space true rest
    else skipFrom arrows .lineComment ended rest
  | .space, '/' :: '/' :: rest => skipFrom arrows .lineComment ended rest
  | .space, '/' :: '*' :: rest => skipFrom arrows .blockComment ended rest
  | .space, c :: rest =>
    if isLineEnd c then skipFrom arrows .space true rest
    else if isSpace c then skipFrom arrows .space ended rest
    else if arrows && (startsWith (c :: rest) ['<', '!', '-', '-'] ||
        (ended && startsWith (c :: rest) ['-', '-', '>'])) then
      skipFrom arrows .lineComment ended rest
    else some (ended, c :: rest)

/-- White space and comments skipped: whether a line ended in them or just
before them, and the text behind. -/
def skipTrivia (arrows ended : Bool) (t : Text) : Option (Bool × Text) :=
  skipFrom arrows .space ended t

/-! ### Names -/

/-- What an identifier may start with, escapes apart. -/
def isIdentifierStart (c : Char) : Bool :=
  let n := c.toNat
  if n < 128 then isNameStart c
  else (Ranges.within Ranges.letters n && n != 0x2E2F) ||
    Ranges.within Ranges.letterNumerals n ||
    [0x1885, 0x1886, 0x2118, 0x212E, 0x309B, 0x309C].contains n ||
    Ranges.within newStarts n

/-- What an identifier may go on with, escapes apart. -/
def isIdentifierPart (c : Char) : Bool :=
  let n := c.toNat
  if n < 128 then isName c
  else isIdentifierStart c || Ranges.within Ranges.marks n ||
    (decimalValue? c).isSome || Ranges.within Ranges.connectors n ||
    [0xB7, 0x387, 0x19DA, 0x200C, 0x200D].contains n ||
    (0x1369 ≤ n && n ≤ 0x1371) || Ranges.within newParts n

/-- The character of a Unicode escape, behind its letter. -/
def unicodeEscape (t : Text) : Option (Char × Text) :=
  match t with
  | '{' :: rest => do
    let ds := rest.takeWhile (· != '}')
    if ds.isEmpty then none else
    let n ← ofDigits? 16 hexValue? ds
    match rest.dropWhile (· != '}') with
    | _ :: rest => if n < 0x110000 then some (Char.ofNat n, rest) else none
    | [] => none
  | _ => do
    let (n, rest) ← codeUnit? t
    some (Char.ofNat n, rest)

/-- The rest of a name from an escape on: its characters and the text behind;
`fuel` bounds their number. -/
def nameRest : Nat → Text → Text → Option (Text × Text)
  | 0, sofar, t => some (sofar.reverse, t)
  | fuel + 1, sofar, t =>
    match t with
    | '\\' :: 'u' :: rest => do
      let (c, rest) ← unicodeEscape rest
      if isIdentifierPart c then nameRest fuel (c :: sofar) rest else none
    | '\\' :: _ => none
    | c :: rest =>
      if isIdentifierPart c then nameRest fuel (c :: sofar) rest
      else some (sofar.reverse, t)
    | [] => some (sofar.reverse, [])

/-- A name: its characters, whether it holds an escape, and the text behind. -/
def name? (t : Text) : Option (Text × Bool × Text) :=
  match t with
  | '\\' :: 'u' :: rest => do
    let (c, rest) ← unicodeEscape rest
    if isIdentifierStart c then
      (nameRest (rest.length + 1) [c] rest).map fun (name, rest) => (name, true, rest)
    else none
  | c :: rest =>
    if isIdentifierStart c then
      let plain := c :: rest.takeWhile isIdentifierPart
      match rest.dropWhile isIdentifierPart with
      | '\\' :: rest =>
        (nameRest (rest.length + 2) plain.reverse ('\\' :: rest)).map fun (name, rest) =>
          (name, true, rest)
      | rest => some (plain, false, rest)
    else none
  | [] => none

/-! ### Numbers -/

/-- Digits of a class with single underscores between them; none if there is
no digit or an underscore stands elsewhere. -/
def digitRun? (p : Char → Bool) (t : Text) : Option Text :=
  let run := t.takeWhile fun c => p c || c == '_'
  let misplaced := run.head? == some '_' || run.getLast? == some '_' ||
    contains run ['_', '_']
  if run.isEmpty || misplaced then none else some (t.drop run.length)

/-- The text behind an exponent, if one follows; none if it has no digits. -/
def exponentRest (t : Text) : Option Text :=
  match t with
  | e :: rest =>
    if e == 'e' || e == 'E' then
      match rest with
      | s :: rest' =>
        if s == '+' || s == '-' then digitRun? isAsciiDigit rest'
        else digitRun? isAsciiDigit rest
      | [] => none
    else some t
  | [] => some t

/-- The text behind a fraction and an exponent, if they follow. -/
def fractionRest (t : Text) : Option Text :=
  match t with
  | '.' :: rest =>
    if startsIn isAsciiDigit rest then do exponentRest (← digitRun? isAsciiDigit rest)
    else if startsIn (· == '_') rest then none
    else exponentRest rest
  | _ => exponentRest t

/-- The text behind the letter that marks a whole number of any size. -/
def bigRest (t : Text) : Text :=
  match t with
  | 'n' :: rest => rest
  | _ => t

/-- The text behind a numeric literal, before the check that no name
follows. -/
def numberBody (t : Text) : Option Text :=
  match t with
  | '0' :: b :: rest =>
    if b == 'x' || b == 'X' then
      (digitRun? (fun c => (hexValue? c).isSome) rest).map bigRest
    else if b == 'o' || b == 'O' then
      (digitRun? (fun c => '0' ≤ c && c ≤ '7') rest).map bigRest
    else if b == 'b' || b == 'B' then
      (digitRun? (fun c => c == '0' || c == '1') rest).map bigRest
    else if isAsciiDigit b then
      let run := (b :: rest).takeWhile isAsciiDigit
      let behind := (b :: rest).dropWhile isAsciiDigit
      if run.all fun c => c ≤ '7' then some behind else fractionRest behind
    else if b == '_' then none
    else if b == 'n' then some rest
    else fractionRest (b :: rest)
  | '.' :: _ => fractionRest t
  | _ => do
    let rest ← digitRun? isAsciiDigit t
    match rest with
    | 'n' :: rest => some rest
    | _ => fractionRest rest

/-- The text behind a numeric literal; no name and no digit may follow. -/
def numberRest (t : Text) : Option Text := do
  let rest ← numberBody t
  if startsIn (fun c => isIdentifierStart c || isAsciiDigit c || c == '\\') rest then none
  else some rest

/-! ### Strings, regular expressions and templates -/

/-- Whether an escape in a string has a meaning, by what follows its
backslash. -/
def isEscape (t : Text) : Bool :=
  match t with
  | 'x' :: rest =>
    let ds := rest.take 2
    ds.length == 2 && ds.all fun c => (hexValue? c).isSome
  | 'u' :: rest => (unicodeEscape rest).isSome
  | _ :: _ => true
  | [] => false

/-- The text behind a string literal, behind its opening quote. What an escape
holds behind its first character is read as text. -/
def stringRest (quote : Char) : Text → Option Text
  | '\\' :: '\r' :: '\n' :: rest => stringRest quote rest
  | '\\' :: c :: rest => if isEscape (c :: rest) then stringRest quote rest else none
  | c :: rest =>
    if c == quote then some rest
    else if c == '\n' || c == '\r' then none
    else stringRest quote rest
  | [] => none

/-- The text behind the body of a regular expression, behind its opening
slash. -/
def regexBody (inClass : Bool) : Text → Option Text
  | '\\' :: c :: rest => if isLineEnd c then none else regexBody inClass rest
  | c :: rest =>
    if isLineEnd c then none
    else if c == '/' && !inClass then some rest
    else if c == '[' then regexBody true rest
    else if c == ']' then regexBody false rest
    else regexBody inClass rest
  | [] => none

/-- The text behind a regular expression and its flags, which are small
letters. -/
def regexRest (t : Text) : Option Text :=
  match t with
  | '/' :: rest => do
    let rest ← regexBody false rest
    let behind := rest.dropWhile fun c => 'a' ≤ c && c ≤ 'z'
    if startsIn (fun c => isIdentifierPart c || c == '\\') behind then none else some behind
  | _ => none

/-- What ends a stretch of template text. -/
inductive TemplateEnd
  | closed
  | interpolation
  deriving DecidableEq

/-- A stretch of template text: what ends it, and the text behind. Whether an
escape has a meaning is not asked, for a tag may take the raw text. -/
def templateRest : Text → Option (TemplateEnd × Text)
  | '\x60' :: rest => some (.closed, rest)
  | '$' :: '{' :: rest => some (.interpolation, rest)
  | '\\' :: _ :: rest => templateRest rest
  | _ :: rest => templateRest rest
  | [] => none

/-! ### Tokens -/

/-- Words that are never identifiers. -/
def reservedWords : List String :=
  ["break", "case", "catch", "class", "const", "continue", "debugger", "default",
    "delete", "do", "else", "export", "extends", "false", "finally", "for",
    "function", "if", "import", "in", "instanceof", "new", "null", "return", "super",
    "switch", "this", "throw", "true", "try", "typeof", "var", "void", "while", "with"]

/-- Whether a word may be an identifier. -/
def isIdentifier (name : String) : Bool := !reservedWords.contains name

/-- A token. A word keeps its name and whether it is an identifier that an
escape spells in part, for such a one has no other part in the grammar; `bad`
stands where no token can be read. -/
inductive Token
  | word (name : String) (escaped : Bool)
  | privateName
  | number
  | string
  | mark (text : String)
  | tick
  | stop
  | bad
  deriving DecidableEq, Repr

/-- The punctuation, the longer marks first. -/
def marks : List (String × Text) :=
  [">>>=", "...", "===", "!==", "**=", "<<=", ">>=", ">>>", "&&=", "||=", "??=",
    "=>", "==", "!=", "<=", ">=", "&&", "||", "??", "?.", "++", "--", "+=", "-=",
    "*=", "/=", "%=", "&=", "|=", "^=", "<<", ">>", "**",
    "\x7b", "\x7d", "(", ")", "[", "]", ";", ",", "<", ">", "+", "-", "*", "/", "%",
    "&", "|", "^", "!", "~", "?", ":", "=", "."].map fun s => (s, s.toList)

/-- The punctuation that a text starts with. A question mark and a dot before
a digit are two marks. -/
def punctuation? (t : Text) : Option (String × Text) :=
  match t with
  | '?' :: '.' :: rest =>
    if startsIn isAsciiDigit rest then some ("?", '.' :: rest) else some ("?.", rest)
  | _ => (marks.find? fun (_, m) => startsWith t m).map fun (s, m) => (s, t.drop m.length)

/-- The token that a text starts with, and the text behind. -/
def Token.scan (t : Text) : Token × Text :=
  match t with
  | [] => (.stop, [])
  | '\x60' :: rest => (.tick, rest)
  | '#' :: rest =>
    match name? rest with
    | some (_, _, rest) => (.privateName, rest)
    | none => (.bad, rest)
  | c :: rest =>
    if c == '\x22' || c == '\x27' then
      match stringRest c rest with
      | some rest => (.string, rest)
      | none => (.bad, rest)
    else if isAsciiDigit c || (c == '.' && startsIn isAsciiDigit rest) then
      match numberRest t with
      | some rest => (.number, rest)
      | none => (.bad, rest)
    else if isIdentifierStart c || c == '\\' then
      match name? t with
      | some (name, escaped, rest) =>
        let name := String.ofList name
        (.word name (escaped && isIdentifier name), rest)
      | none => (.bad, rest)
    else match punctuation? t with
      | some (s, rest) => (.mark s, rest)
      | none => (.bad, rest)

end LintRepair.Grammar
