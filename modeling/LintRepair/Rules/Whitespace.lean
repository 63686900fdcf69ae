/-
The rules `no-trailing-spaces`, `eol-last`, `space-before-blocks` and
`indent`.

* `noTrailingSpaces`, `eolLast`: the ends of lines and of the text;
* `spaceBeforeBlocks`: the blank before an opening brace;
* `indent`: the blanks a line starts with, with `indentUnit` and
  `expectedDepth`.
-/
import LintRepair.Code.Bracket
import LintRepair.Number.Literal
import LintRepair.Rules.Editing

namespace LintRepair.Rules.Whitespace

open Text Lexical Code Repair

/-- A text without the spaces and tabs at its end. -/
def withoutTrailing (t : Text) : Text := dropEndWhile isSpaceOrTab t

/-- The rule `no-trailing-spaces`. -/
def noTrailingSpaces : Method where
  detect code d := lineOf code d != withoutTrailing (lineOf code d)
  edit code d := setLine code d (withoutTrailing (lineOf code d))

/-- Whether a message forbids the line feed at the end. -/
def forbidsNewline (d : Diagnostic) : Bool :=
  contains d.message.toList "not allowed".toList

/-- The rule `eol-last`. -/
def eolLast : Method where
  detect code d :=
    !code.isEmpty && (endsIn (· == '\n') code == forbidsNewline d)
  edit code d :=
    if forbidsNewline d then .ok (dropEndWhile (· == '\n') code)
    else .ok (code ++ ['\n'])

/-! ### Before blocks -/

/-- Whether a message is about a blank too many. -/
def removesSpace (d : Diagnostic) : Bool :=
  contains d.message.toList "Unexpected space".toList

/-- How far from the column a brace is looked for. -/
def braceRadius : Nat := 20

/-- The opening brace nearest to the column whose blank is to be changed: one
with a blank before it that something else precedes, or one directly behind a
word or a closing parenthesis. -/
def brace? (code : Text) (d : Diagnostic) : Option Nat :=
  let masked := maskedLineOf code d
  (around (columnOf d) braceRadius masked.length).find? fun i =>
    0 < i && masked[i]? == some '{' &&
      match masked[i - 1]? with
      | none => false
      | some prev =>
        if removesSpace d then isSpaceOrTab prev && !(masked.take i).all isBlank
        else prev == ')' || isWord prev

/-- The rule `space-before-blocks`. -/
def spaceBeforeBlocks : Method where
  detect code d := (brace? code d).isSome
  edit code d :=
    match brace? code d with
    | none => decline "no opening brace near the reported position"
    | some i =>
      let line := lineOf code d
      if removesSpace d then setLine code d (withoutTrailing (line.take i) ++ line.drop i)
      else setLine code d (line.take i ++ ' ' :: line.drop i)
  keeps before after := bracketCounts before == bracketCounts after

/-! ### Indentation -/

/-- The smallest of some numbers. -/
def least? : List Nat → Option Nat
  | [] => none
  | n :: rest => some (rest.foldl min n)

/-- The blanks that indent by one level where nothing says otherwise. -/
def defaultUnit : Text := [' ', ' ']

/-- The unit that a text is indented by: a tab if some line starts with one,
else the narrowest indentation if that is two, four or eight blanks. -/
def indentUnit (code : Text) : Text :=
  go [] ((lines code).filter fun l => !l.all isBlank)
where
  /-- The unit, given the widths of the lines so far. -/
  go (widths : List Nat) : List Text → Text
    | [] =>
      match least? widths with
      | some n => if n = 2 ∨ n = 4 ∨ n = 8 then List.replicate n ' ' else defaultUnit
      | none => defaultUnit
    | l :: rest =>
      match leadingBlanks l with
      | [] => go widths rest
      | indent@(c :: _) => if c = '\t' then ['\t'] else go (indent.length :: widths) rest

/-- How many brackets are open behind a text, closing ones without a partner
ignored. -/
def openBrackets (t : Text) : Nat :=
  t.foldl (fun depth c =>
    if isOpener c then depth + 1 else if isCloser c then depth - 1 else depth) 0

/-- The number of levels that a line is indented by: the brackets left open
before it, one fewer if it starts with a closing one. -/
def expectedDepth (code : Text) (line : Int) : Nat :=
  let depth := openBrackets ((mask code).take (lineStart code line))
  if startsIn isCloser (trimLeft (maskedLine code line)) then depth - 1 else depth

/-- The digits of a count and the kind of blanks that a message names behind
its lead. -/
def namedIndent? (t : Text) : Option (Text × Char) :=
  let ds := t.takeWhile fun c => (decimalValue? c).isSome
  let rest := t.drop ds.length
  if ds.isEmpty then none
  else if startsWith rest " space".toList then some (ds, ' ')
  else if startsWith rest " tab".toList then some (ds, '\t')
  else none

/-- The lead of a message that names an indentation. -/
def indentLead : Text := "Expected indentation of ".toList

/-- The indentation that a message names: the digits of a count, and the kind
of blanks. -/
def messageIndent? : Text → Option (Text × Char)
  | [] => none
  | t@(_ :: rest) =>
    let here := if startsWith t indentLead then namedIndent? (t.drop indentLead.length)
      else none
    here <|> messageIndent? rest

/-- An indentation: a unit and how often it is repeated. -/
structure Indent where
  unit : Text
  count : Nat
  deriving DecidableEq, Repr

/-- The blanks of an indentation. -/
def Indent.blanks (i : Indent) : Text := (List.replicate i.count i.unit).flatten

/-- Whether a text is the blanks of an indentation. Those are written out only
where there are not more of them than characters. -/
def Indent.isOf (t : Text) (i : Indent) : Bool :=
  i.count * i.unit.length = t.length && t == i.blanks

/-- The indentation that a line should have: the one that the message names,
else as many units as there are levels. None if the count is too long to be
read. -/
def expectedIndent? (code : Text) (d : Diagnostic) : Option Indent :=
  match messageIndent? d.message.toList with
  | some (ds, c) => (Number.ofDigits (ds.map Number.plainChar)).toOption.map (⟨[c], ·⟩)
  | none => some ⟨indentUnit code, expectedDepth code d.line.value⟩

/-- The least length of a text that cannot be counted. -/
def uncountable : Nat := Nat.pow 2 63

/-- A length of a text that is too long to be held. -/
def unholdable : Nat := Nat.pow 2 36

/-- The error that writing out an indentation ends in. -/
def Indent.obstacle? (i : Indent) : Option Raised :=
  if uncountable ≤ i.count then some .uncountable
  else if unholdable ≤ i.count then some .outOfMemory
  else none

/-- The rule `indent`. -/
def indent : Method where
  detect code d :=
    let line := lineOf code d
    !line.all isBlank &&
      (expectedIndent? code d).any fun i => !i.isOf (leadingBlanks line)
  edit code d :=
    match expectedIndent? code d with
    | none => decline "the expected indentation is too long"
    | some i => setLine code d (i.blanks ++ (lineOf code d).dropWhile isSpaceOrTab)
  keeps before after := bracketCounts before == bracketCounts after
  obstacle? code d :=
    if (lineOf code d).all isBlank then none
    else (expectedIndent? code d).bind Indent.obstacle?

end LintRepair.Rules.Whitespace
