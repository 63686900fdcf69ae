/-
Printing JSON values.

* `compact`: a value on one line, every character of a text as it is;
* `indented`: a value with one item a line and two blanks a level, characters
  beyond ASCII escaped by their UTF-16 units.
-/
import LintRepair.Json.Value
import LintRepair.Number.Shortest

namespace LintRepair.Json

/-- Hexadecimal digits of a code unit, four of them. -/
def unitText (n : Nat) : String :=
  let ds := Nat.toDigits 16 n
  String.ofList (List.replicate (4 - ds.length) '0' ++ ds)

/-- A character inside quotes; one beyond ASCII is escaped if `ascii`. -/
def charText (ascii : Bool) (c : Char) : String :=
  let n := c.toNat
  if c == '\x22' then "\\\x22"
  else if c == '\\' then "\\\\"
  else if c == '\n' then "\\n"
  else if c == '\r' then "\\r"
  else if c == '\t' then "\\t"
  else if n == 8 then "\\b"
  else if n == 12 then "\\f"
  else if n < 32 || (ascii && n == 127) then "\\u" ++ unitText n
  else if n < 127 || !ascii then String.singleton c
  else if n < 0x10000 then "\\u" ++ unitText n
  else
    let m := n - 0x10000
    "\\u" ++ unitText (0xD800 + m / 0x400) ++ "\\u" ++ unitText (0xDC00 + m % 0x400)

/-- A text inside quotes. -/
def stringText (ascii : Bool) (s : String) : String :=
  "\x22" ++ String.join (s.toList.map (charText ascii)) ++ "\x22"

/-- The text of a number. -/
def floatText (x : Float) : String :=
  match Number.floatText x with
  | "nan" => "NaN"
  | "inf" => "Infinity"
  | "-inf" => "-Infinity"
  | s => s

/-- The text of a value that holds no other. -/
def atomText (ascii : Bool) : Value → String
  | .null => "null"
  | .bool b => if b then "true" else "false"
  | .int n => if n < 0 then "-" ++ Number.digitsText n.natAbs else Number.digitsText n.natAbs
  | .float x => floatText x
  | .string s => stringText ascii s
  | .moment _ text => stringText ascii text
  | .array _ | .object _ => ""

mutual

/-- A value on one line. -/
def compact : Value → String
  | .array items => "[" ++ String.intercalate "," (compactItems items) ++ "]"
  | .object fields => "\x7b" ++ String.intercalate "," (compactFields fields) ++ "\x7d"
  | v => atomText false v

/-- Each item of an array on one line. -/
def compactItems : List Value → List String
  | [] => []
  | v :: rest => compact v :: compactItems rest

/-- Each field of an object on one line. -/
def compactFields : List (String × Value) → List String
  | [] => []
  | (k, v) :: rest => (stringText false k ++ ":" ++ compact v) :: compactFields rest

end

/-- The start of a line at a level. -/
def lineStart (level : Nat) : String :=
  "\n" ++ String.ofList (List.replicate (2 * level) ' ')

mutual

/-- A value with one item a line, inside `level` others. -/
def indentedAt (level : Nat) : Value → String
  | .array [] => "[]"
  | .array items =>
    "[" ++ String.intercalate "," (indentedItems (level + 1) items) ++ lineStart level ++ "]"
  | .object [] => "\x7b\x7d"
  | .object fields =>
    "\x7b" ++ String.intercalate "," (indentedFields (level + 1) fields) ++
      lineStart level ++ "\x7d"
  | v => atomText true v

/-- Each item of an array on a line of its own. -/
def indentedItems (level : Nat) : List Value → List String
  | [] => []
  | v :: rest => (lineStart level ++ indentedAt level v) :: indentedItems level rest

/-- Each field of an object on a line of its own. -/
def indentedFields (level : Nat) : List (String × Value) → List String
  | [] => []
  | (k, v) :: rest =>
    (lineStart level ++ stringText true k ++ ": " ++ indentedAt level v) ::
      indentedFields level rest

end

/-- A value with one item a line. -/
def indented (v : Value) : String := indentedAt 0 v

end LintRepair.Json
