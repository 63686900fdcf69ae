/-
Words in masked text.

* `wordOffsets`: where a word stands by itself;
* `isPropertyAccess`: whether a word is the name of a member;
* `endsWithWord`, `lastWord`: the word at the end of a text;
* `isIdentifier`: whether a text is one plain identifier.
-/
import LintRepair.Text.Basic

namespace LintRepair.Code

open Text

/-- Whether a text is one plain identifier. -/
def isIdentifier (t : Text) : Bool :=
  match t with
  | c :: rest => isNameStart c && rest.all isName
  | [] => false

/-- Whether a word starts a text and no name goes on behind it. -/
def startsWithWord (word t : Text) : Bool :=
  word.isPrefixOf t && !startsIn isName (t.drop word.length)

/-- Whether a text ends with a word and no name goes on before it. -/
def endsWithWord (word t : Text) : Bool :=
  endsWith t word && !endsIn isName (t.take (t.length - word.length))

/-- The name characters at the end of a text, blanks behind them apart. -/
def lastWord (t : Text) : Text :=
  ((trimRight t).reverse.takeWhile isName).reverse

/-- The offsets at which a word stands: no character of the class `barred`
before it and no name behind it. `prev` is the character before the text,
`offset` its place, and the first `skipped` characters belong to the
occurrence before. -/
def wordOffsetsFrom (barred : Char → Bool) (word : Text) (prev : Option Char)
    (offset skipped : Nat) : Text → List Nat
  | [] => if skipped == 0 && word.isEmpty && !prev.any barred then [offset] else []
  | t@(c :: rest) =>
    match skipped with
    | n + 1 => wordOffsetsFrom barred word (some c) (offset + 1) n rest
    | 0 =>
      if !prev.any barred && startsWithWord word t then
        offset :: wordOffsetsFrom barred word (some c) (offset + 1) (word.length - 1) rest
      else wordOffsetsFrom barred word (some c) (offset + 1) 0 rest

/-- The offsets at which a word stands as an identifier of its own. -/
def wordOffsets (word t : Text) : List Nat := wordOffsetsFrom isName word none 0 0 t

/-- The offsets of a word between two offsets. The character before the first
is seen, the one behind the last is not. -/
def wordOffsetsBetween (word t : Text) (lo hi : Nat) : List Nat :=
  let t := t.take hi
  wordOffsetsFrom isName word (if lo = 0 then none else t[lo - 1]?) lo 0 (t.drop lo)

/-- Whether the word at an offset follows the dot of a member access; the
three dots of a spread are none. -/
def isPropertyAccess (masked : Text) (offset : Nat) : Bool :=
  match (masked.take offset).reverse.dropWhile isSpaceOrTab with
  | '.' :: '.' :: '.' :: _ => false
  | '.' :: _ => true
  | _ => false

end LintRepair.Code
