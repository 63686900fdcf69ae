/-
The text of a value in a message: words for null and the flags, quoted
strings, brackets around items.

* `quoted`: a string in apostrophes, or in quotation marks where it holds an
  apostrophe and no quotation mark; what has no visible form is written by
  its code;
* `display`: any value;
* `plain`: a string as it is and any other value as `display`.
-/
import LintRepair.Json.Printer
import LintRepair.Text.Invisible
import LintRepair.Text.Ranges

namespace LintRepair.Json

/-- Whether a character has a visible form. -/
def isVisible (c : Char) : Bool :=
  if c.toNat < 127 then 32 ≤ c.toNat
  else !Text.Ranges.within Text.Ranges.invisible c.toNat

/-- Hexadecimal digits, at least `width` of them. -/
def hexText (width n : Nat) : String :=
  let ds := Nat.toDigits 16 n
  String.ofList (List.replicate (width - ds.length) '0' ++ ds)

/-- A character inside the given quote. -/
def quotedChar (quote c : Char) : String :=
  if c == quote || c == '\\' then String.ofList ['\\', c]
  else if c == '\n' then "\\n"
  else if c == '\r' then "\\r"
  else if c == '\t' then "\\t"
  else if isVisible c then String.singleton c
  else if c.toNat < 0x100 then "\\x" ++ hexText 2 c.toNat
  else if c.toNat < 0x10000 then "\\u" ++ hexText 4 c.toNat
  else "\\U" ++ hexText 8 c.toNat

/-- A string in quotes. -/
def quoted (s : String) : String :=
  let cs := s.toList
  let quote := if cs.contains '\x27' && !cs.contains '\x22' then '\x22' else '\x27'
  String.singleton quote ++ String.join (cs.map (quotedChar quote)) ++
    String.singleton quote

/-- The text of a whole number. -/
def intText (n : Int) : String :=
  if n < 0 then "-" ++ Number.digitsText n.natAbs else Number.digitsText n.natAbs

/-- The word for a flag. -/
def flagText (b : Bool) : String := if b then "True" else "False"

mutual

/-- The text of a value. -/
def display : Value → String
  | .null => "None"
  | .bool b => flagText b
  | .int n => intText n
  | .float x => Number.floatText x
  | .string s => quoted s
  | .array items => "[" ++ String.intercalate ", " (displayItems items) ++ "]"
  | .object fields => "\x7b" ++ String.intercalate ", " (displayFields fields) ++ "\x7d"
  | .moment _ text => text

/-- The texts of the items of an array. -/
def displayItems : List Value → List String
  | [] => []
  | v :: rest => display v :: displayItems rest

/-- The texts of the fields of an object. -/
def displayFields : List (String × Value) → List String
  | [] => []
  | (k, v) :: rest => (quoted k ++ ": " ++ display v) :: displayFields rest

end

/-- A string as it is, any other value as its text. -/
def plain : Value → String
  | .string s => s
  | v => display v

end LintRepair.Json
