/-
The rules `semi` and `no-extra-semi`.

* `semi`: inserts a missing semicolon or takes out an extra one, as the
  message asks;
* `noExtraSemi`: takes out a semicolon that makes an empty statement.
-/
import LintRepair.Code.Bracket
import LintRepair.Code.Word
import LintRepair.Rules.Editing

namespace LintRepair.Rules.Semicolon

open Text Lexical Code Repair Check

/-! ### What the message asks for -/

/-- Messages that ask for a semicolon. -/
def missingMessages : List String :=
  ["Missing semicolon", "Expected \x22;\x22", "semicolon is required"]

/-- Messages about a semicolon too many. -/
def extraMessages : List String :=
  ["Extra semicolon", "Unnecessary semicolon", "Unexpected token \x22;\x22"]

/-- Whether a message asks for a semicolon. -/
def isMissing (message : String) : Bool :=
  missingMessages.any fun m => contains message.toList m.toList

/-- Whether a message is about a semicolon too many. -/
def isExtra (message : String) : Bool :=
  extraMessages.any fun m => contains message.toList m.toList

/-! ### Inserting -/

/-- A line that ends like this goes on behind it. -/
def goesOn (c : Char) : Bool :=
  ['{', ',', ';', '(', '[', '=', '+', '-', '*', '/', '%', '&', '|', '^', '!', '?',
    ':', '<', '>', '.'].contains c

/-- Where a semicolon would be inserted: at the column if a statement ends
there within the line, else behind the last code of the line. -/
def insertion? (code : Text) (d : Diagnostic) : Option Nat :=
  let masked := maskedLineOf code d
  let text := trimRight masked
  let column := columnOf d
  if text.isEmpty ∨
      (endsIn goesOn text ∧ ¬ (endsWith text ['+', '+'] ∨ endsWith text ['-', '-'])) then
    none
  else if 0 < column ∧ column < text.length then
    let k := column.toNat
    if masked[k - 1]?.all isBlank ∨ masked[k]? = some ';' then some text.length
    else if startsIn (· == ';') (trimLeft (masked.drop k)) then none
    else some k
  else some text.length

/-- Words whose head may be followed by an empty body. -/
def headWords : List Text := ["if", "while", "for"].map String.toList

/-- Whether a control head opens in a text: one of the words, by itself on the
left, with an opening parenthesis behind it. -/
def opensHead (prev : Option Char) : Text → Bool
  | [] => false
  | t@(c :: rest) =>
    (!prev.any isWord && headWords.any fun w =>
      startsWith t w && startsIn (· == '(') (trimLeft (t.drop w.length))) ||
    opensHead (some c) rest

/-- Whether a semicolon behind a text would be the empty body of a control
head. -/
def endsHead (t : Text) : Bool :=
  let text := trimRight t
  endsIn (· == ')') text && opensHead none text.dropLast

/-! ### Taking out -/

/-- How far from the column a semicolon is looked for. -/
def searchRadius : Nat := 5

/-- The semicolon to take out: the one at the column, else the first one near
it. -/
def extra? (code : Text) (d : Diagnostic) : Option Nat :=
  let masked := maskedLineOf code d
  let column := columnOf d
  let isSemicolon (i : Nat) : Bool := masked[i]? == some ';'
  if 0 ≤ column ∧ isSemicolon column.toNat then some column.toNat
  else
    let low := (column - searchRadius).toNat
    let high := (column + searchRadius + 1).toNat
    ((List.range (min masked.length high)).drop low).find? isSemicolon

/-- The line without the character at an offset. -/
def takeOut (code : Text) (d : Diagnostic) (i : Nat) : Except Setback Text :=
  setLine code d ((lineOf code d).eraseIdx i)

/-- The rule `semi`. -/
def semi : Method where
  detect code d :=
    if isMissing d.message then (insertion? code d).isSome
    else isExtra d.message && (extra? code d).isSome
  edit code d :=
    let line := lineOf code d
    if isMissing d.message then
      match insertion? code d with
      | none => decline "no insertion point for a semicolon"
      | some i =>
        if endsHead (line.take i) then
          decline "semicolon would create an empty control statement body"
        else setLine code d (line.take i ++ ';' :: line.drop i)
    else
      match extra? code d with
      | none => decline "no semicolon near the reported position"
      | some i => takeOut code d i
  keeps before after := distance (codeCount ';' after) (codeCount ';' before) == 1

/-! ### Empty statements -/

/-- Whether a place, given by the text before it in reverse, lies inside an
unclosed parenthesis. -/
def inParens (depth : Nat) : Text → Bool
  | [] => false
  | c :: rest =>
    if c == ')' then inParens (depth + 1) rest
    else if c == '(' then if depth = 0 then true else inParens (depth - 1) rest
    else inParens depth rest

/-- Whether an equals sign in a text assigns. -/
def holdsAssignment (prev : Option Char) : Text → Bool
  | [] => false
  | c :: rest =>
    (c == '=' && !prev.any (fun p => p == '=' || p == '!' || p == '<' || p == '>') &&
      !startsIn (fun n => n == '=' || n == '>') rest) || holdsAssignment (some c) rest

/-- Whether a text starts with a word that no letter, numeral or underscore
goes on. -/
def startsWithPlainWord (word t : Text) : Bool :=
  startsWith t word && !startsIn isWord (t.drop word.length)

/-- A word and the blanks behind it taken off; none unless both are there. -/
def wordAndBlanks? (word t : Text) : Option Text :=
  let rest := t.drop word.length
  if startsWith t word && startsIn isBlank rest then some (trimLeft rest) else none

/-- Whether a statement before a brace makes it part of an expression. -/
def makesExpression (statement : Text) : Bool :=
  holdsAssignment none statement ||
    startsWithPlainWord "return".toList statement ||
    ((wordAndBlanks? "export".toList statement).any
      (startsWithPlainWord "default".toList)) ||
    startsIn (· == '(') statement

/-- Words before the brace of a block. -/
def blockWords : List Text := ["else", "try", "finally", "do"].map String.toList

/-- Whether a statement declares a function or a class. -/
def declares (statement : Text) : Bool :=
  let starts (t : Text) : Bool :=
    startsWithPlainWord "function".toList t || startsWithPlainWord "class".toList t
  starts statement || (wordAndBlanks? "async".toList statement).any starts

/-- The last statement of a text: what follows its last semicolon or brace. -/
def lastStatement (t : Text) : Text :=
  trim (t.reverse.takeWhile fun c => c != ';' && c != '{' && c != '}').reverse

/-- Whether the brace at an offset closes a block of statements rather than an
expression. -/
def closesBlock (masked : Text) (offset : Nat) : Bool :=
  match findMatchingBackward masked offset with
  | none => false
  | some opener =>
    let statement := lastStatement (trimRight (masked.take opener))
    if statement.isEmpty then true
    else if makesExpression statement then false
    else endsIn (· == ')') statement || blockWords.any (endsWithWord · statement) ||
      declares statement

/-- Whether the semicolon at an offset of a line is a statement of its own:
behind another one, behind a block, or alone where a statement may start. -/
def isEmptyStatement (code : Text) (d : Diagnostic) (masked : Text) (i : Nat) : Bool :=
  if inParens 0 (masked.take i).reverse then false
  else
    let before := trimRight (masked.take i)
    if endsIn (· == ';') before then true
    else
      let all := mask code
      let start := lineStartOf code d
      if endsIn (· == '}') before then closesBlock all (start + before.length - 1)
      else if before.isEmpty then
        let above := trimRight (all.take start)
        above.isEmpty || endsIn (fun c => c == ';' || c == '{' || c == '}') above
      else false

/-- The semicolon of the empty statement nearest to the column. -/
def empty? (code : Text) (d : Diagnostic) : Option Nat :=
  let masked := maskedLineOf code d
  (around (columnOf d) searchRadius masked.length).find? fun i =>
    masked[i]? == some ';' && isEmptyStatement code d masked i

/-- The rule `no-extra-semi`. -/
def noExtraSemi : Method where
  detect code d := (empty? code d).isSome
  edit code d :=
    match empty? code d with
    | none => decline "no unnecessary semicolon near the reported position"
    | some i => takeOut code d i
  keeps before after := codeCount ';' before == codeCount ';' after + 1

end LintRepair.Rules.Semicolon
