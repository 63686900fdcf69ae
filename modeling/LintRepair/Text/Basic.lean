/-
Text as the list of its characters, with the classes and cuts that the rest
of the library is written in.

* `isBlank`, `isAlnum`, `isName`, `isNameStart`: classes of characters;
* `trimLeft`, `trimRight`, `trim`: a text without the blanks at its ends;
* `slice`: the part between two offsets;
* `trimRight_append_blanks`: nothing but blanks is cut from the end;
* `ofDigits?`, `ofDecimal`, `codeUnit?`: numbers spelled by digits.

Offsets, columns and lengths count characters.
-/
import LintRepair.Text.Ranges

namespace LintRepair

/-- A text as the list of its characters. -/
abbrev Text := List Char

namespace Text

/-! ### Classes of characters -/

/-- The blanks: spaces of every width, line and page breaks, and the four
information separators. -/
def isBlank (c : Char) : Bool :=
  let n := c.toNat
  (9 ≤ n && n ≤ 13) || (28 ≤ n && n ≤ 32) || n == 0x85 || n == 0xA0 ||
    n == 0x1680 || (0x2000 ≤ n && n ≤ 0x200A) || n == 0x2028 ||
    n == 0x2029 || n == 0x202F || n == 0x205F || n == 0x3000

/-- The decimal digits zero to nine of ASCII. -/
def isAsciiDigit (c : Char) : Bool := '0' ≤ c && c ≤ '9'

/-- The letters a to z of either case. -/
def isAsciiLetter (c : Char) : Bool :=
  ('a' ≤ c && c ≤ 'z') || ('A' ≤ c && c ≤ 'Z')

/-- The value of a decimal digit of any script. -/
def decimalValue? (c : Char) : Option Nat :=
  if isAsciiDigit c then some (c.toNat - 48)
  else if c.toNat < 128 then none
  else (Ranges.zeros.find? fun z => z ≤ c.toNat && c.toNat < z + 10).map
    (c.toNat - ·)

/-- Letters and numerals of every script. -/
def isAlnum (c : Char) : Bool :=
  if c.toNat < 128 then isAsciiLetter c || isAsciiDigit c
  else Ranges.within Ranges.letters c.toNat ||
    (decimalValue? c).isSome ||
    Ranges.within Ranges.letterNumerals c.toNat ||
    Ranges.within Ranges.otherNumerals c.toNat

/-- What makes up a word: letters, numerals and the underscore. -/
def isWord (c : Char) : Bool := isAlnum c || c == '_'

/-- What an identifier goes on with. -/
def isName (c : Char) : Bool := isWord c || c == '$'

/-- What a plain identifier starts with. -/
def isNameStart (c : Char) : Bool := isAsciiLetter c || c == '_' || c == '$'

/-- A space or a tab. -/
def isSpaceOrTab (c : Char) : Bool := c == ' ' || c == '\t'

/-! ### Cutting -/

/-- The part of a text from offset `lo` up to offset `hi`. -/
def slice (t : Text) (lo hi : Nat) : Text := (t.drop lo).take (hi - lo)

/-- A text without the characters of a class at its end. -/
def dropEndWhile (p : Char → Bool) (t : Text) : Text :=
  (t.reverse.dropWhile p).reverse

/-- A text without its leading blanks. -/
def trimLeft (t : Text) : Text := t.dropWhile isBlank

/-- A text without its trailing blanks. -/
def trimRight (t : Text) : Text := dropEndWhile isBlank t

/-- A text without the blanks at either end. -/
def trim (t : Text) : Text := trimRight (trimLeft t)

/-- The blanks that a text starts with. -/
def leadingBlanks (t : Text) : Text := t.takeWhile isBlank

/-- The small letter for a capital one. Only letters of ASCII and Latin-1 and
the signs for kelvin and angstrom, whose small letters are among them, are
changed. -/
def lowerChar (c : Char) : Char :=
  if 'À' ≤ c ∧ c ≤ 'Þ' ∧ c ≠ '×' then Char.ofNat (c.toNat + 32)
  else if c = '\u212a' then 'k'
  else if c = '\u212b' then 'å'
  else c.toLower

/-- A text with small letters for capital ones. -/
def lower (t : Text) : Text := t.map lowerChar

/-! ### Comparing and finding -/

/-- Whether a text starts with another. -/
def startsWith (t head : Text) : Bool := head.isPrefixOf t

/-- Whether a text ends with another. -/
def endsWith (t tail : Text) : Bool := tail.isSuffixOf t

/-- Whether the last character is in a class; false for the empty text. -/
def endsIn (p : Char → Bool) (t : Text) : Bool := t.getLast?.any p

/-- Whether the first character is in a class; false for the empty text. -/
def startsIn (p : Char → Bool) (t : Text) : Bool := t.head?.any p

/-- The offset of the first occurrence of `part`. -/
def find? (part : Text) : Text → Option Nat
  | [] => if part.isEmpty then some 0 else none
  | t@(_ :: rest) =>
    if part.isPrefixOf t then some 0 else (find? part rest).map (· + 1)

/-- Whether one text occurs in another. -/
def contains (t part : Text) : Bool := (find? part t).isSome

/-- The offset of the last character equal to `c`. -/
def findLast? (c : Char) (t : Text) : Option Nat :=
  (t.reverse.findIdx? (· == c)).map (t.length - 1 - ·)

/-- How often a doubled character occurs, where no two occurrences
overlap. -/
def countPairs (c : Char) : Text → Nat
  | a :: b :: rest =>
    if a == c && b == c then countPairs c rest + 1 else countPairs c (b :: rest)
  | _ => 0

/-- A text with every character of a class left out. -/
def without (p : Char → Bool) (t : Text) : Text := t.filter (! p ·)

/-! ### Laws -/

theorem slice_zero_length (t : Text) : slice t 0 t.length = t := by
  simp [slice]

theorem take_append_slice_append_drop (t : Text) {lo hi : Nat} (h : lo ≤ hi) :
    t.take lo ++ slice t lo hi ++ t.drop hi = t := by
  have : t.drop hi = (t.drop lo).drop (hi - lo) := by
    rw [List.drop_drop]; congr 1; omega
  rw [List.append_assoc, slice, this, List.take_append_drop, List.take_append_drop]

theorem dropEndWhile_append (p : Char → Bool) (t : Text) :
    ∃ tail : Text, t = dropEndWhile p t ++ tail ∧ ∀ c ∈ tail, p c := by
  refine ⟨(t.reverse.takeWhile p).reverse, ?_, ?_⟩
  · rw [dropEndWhile, ← List.reverse_append, List.takeWhile_append_dropWhile,
      List.reverse_reverse]
  · intro c hc
    have := List.all_takeWhile (p := p) (l := t.reverse)
    rw [List.all_eq_true] at this
    exact this c (List.mem_reverse.1 hc)

/-- What is cut from the end of a text is blank. -/
theorem trimRight_append_blanks (t : Text) :
    ∃ tail : Text, t = trimRight t ++ tail ∧ ∀ c ∈ tail, isBlank c :=
  dropEndWhile_append isBlank t

/-! ### Numbers spelled by digits -/

/-- The value of a hexadecimal digit. -/
def hexValue? (c : Char) : Option Nat :=
  if isAsciiDigit c then some (c.toNat - 48)
  else if 'a' ≤ c && c ≤ 'f' then some (c.toNat - 87)
  else if 'A' ≤ c && c ≤ 'F' then some (c.toNat - 55)
  else none

/-- The number that digits in a base spell; none if one of them is no digit. -/
def ofDigits? (base : Nat) (value? : Char → Option Nat) (ds : Text) : Option Nat :=
  ds.foldl (fun n c => return (← n) * base + (← value? c)) (some 0)

/-- The number that decimal digits spell. -/
def ofDecimal (ds : Text) : Nat :=
  ds.foldl (fun n c => n * 10 + (c.toNat - 48)) 0

/-- The number that four hexadecimal digits spell, and the rest. -/
def codeUnit? (t : Text) : Option (Nat × Text) :=
  let ds := t.take 4
  if ds.length < 4 then none else (ofDigits? 16 hexValue? ds).map (·, t.drop 4)

end Text

end LintRepair
