/-
The rules `curly` and `brace-style`.

* `curly`: puts the body of a control statement into braces;
* `braceStyle`: puts braces where one style wants them.
-/
import LintRepair.Code.Scope
import LintRepair.Rules.Whitespace

namespace LintRepair.Rules.Brace

open Text Lexical Code Repair
open Whitespace (indentUnit)

/-! ### Bodies without braces -/

/-- The words whose body may lack braces. -/
def curlyWords : List Text := ["if", "else", "for", "while", "do"].map String.toList

/-- Words that start a statement with a body of its own. -/
def nestedWords : List Text :=
  ["if", "for", "while", "do", "switch", "try", "function", "class"].map String.toList

/-- The word that a message puts in quotes behind its lead. -/
def quotedWord? : Text → Option Text
  | [] => none
  | t@(_ :: rest) =>
    let lead := "after '".toList
    let word := (t.drop lead.length).takeWhile isWord
    if startsWith t lead && !word.isEmpty &&
        (t.drop (lead.length + word.length)).head? == some '\x27' then some word
    else quotedWord? rest

/-- The words that a message may be about. -/
def wordsOf (d : Diagnostic) : List Text :=
  match quotedWord? d.message.toList with
  | some word => if curlyWords.contains word then [word] else curlyWords
  | none => curlyWords

/-- A control statement without braces: its keyword, the end of its head, and
the start of its body. -/
structure Bare where
  keyword : Nat
  headEnd : Nat
  bodyStart : Nat
  deriving DecidableEq, Repr

/-- The offset behind the blanks and line ends at an offset. -/
def skipBlanks (masked : Text) (i : Nat) : Nat :=
  i + ((masked.drop i).takeWhile isBodyBlank).length

/-- The end of the head of a control statement, if it has one. -/
def headEnd? (masked : Text) (word : Text) (i : Nat) : Option Nat :=
  if ["if".toList, "for".toList, "while".toList].contains word then
    let paren := skipBlanks masked i
    if masked[paren]? = some '(' then (findMatching masked paren).map (· + 1) else none
  else some i

/-- The control statement without braces nearest to the column. The tail of a
`do` loop is none, and neither is an `else` that goes on with `if`. -/
def bare? (code : Text) (d : Diagnostic) : Option Bare := do
  let masked := mask code
  let found := (wordsOf d).filterMap fun word =>
    (findKeyword code masked d.line.value d.column.value word).map (word, ·)
  let (word, keyword) ← nearest? (fun f => gap (lineStartOf code d + columnOf d) f.2) found
  let headEnd ← headEnd? masked word (keyword + word.length)
  let bodyStart := skipBlanks masked headEnd
  let first ← masked[bodyStart]?
  if first = '{' then none
  else if word = "else".toList ∧ startsWith (masked.drop bodyStart) ['i', 'f'] then none
  else if word = "while".toList ∧ first = ';' then none
  else some ⟨keyword, headEnd, bodyStart⟩

/-- The rule `curly`. -/
def curly : Method where
  detect code d := (bare? code d).isSome
  edit code d :=
    match bare? code d with
    | none => decline "no unbraced control statement at the reported position"
    | some b =>
      let masked := mask code
      let start := b.bodyStart
      if masked[start]? = some ';' then decline "empty statement body"
      else if nestedWords.any fun w => startsWithWord w (masked.drop start) then
        decline "body is itself a control statement"
      else
        let body := trimRight (slice code start (statementEnd masked start))
        if body.isEmpty then decline "statement body not found"
        else
          let line := lineStartAt code b.keyword
          let indent := leadingBlanks (slice code line (b.keyword + 1))
          let block := [' ', '{', '\n'] ++ (indent ++ indentUnit code) ++ body ++
            ['\n'] ++ indent ++ ['}']
          .ok (splice code b.headEnd (start + body.length) block)
  keeps before after :=
    codeCount '{' after == codeCount '{' before + 1 &&
      codeCount '}' after == codeCount '}' before + 1

/-! ### Style -/

/-- What a message says about a brace. -/
inductive Misplacement
  /-- The opening brace stands on a line of its own. -/
  | openingApart
  /-- A statement follows the opening brace on its line. -/
  | bodyBehindOpening
  /-- The block that goes on starts on the line below the closing brace. -/
  | nextApart
  /-- The closing brace follows a statement on its line. -/
  | closingBehindBody
  deriving DecidableEq, Repr

/-- The messages and what they say. -/
def misplacements : List (Text × Misplacement) :=
  [("Opening curly brace does not appear on the same line".toList, .openingApart),
    ("Statement inside of curly braces should be on next line".toList, .bodyBehindOpening),
    ("Closing curly brace does not appear on the same line as the subsequent block".toList,
      .nextApart),
    ("Closing curly brace should be on the same line as opening curly brace".toList,
      .closingBehindBody)]

/-- What a diagnostic says about a brace. -/
def misplacement? (d : Diagnostic) : Option Misplacement :=
  (misplacements.find? fun (m, _) => contains d.message.toList m).map (·.2)

/-- The opening brace nearest to a column behind which code follows on its
line. -/
def openingWithBody? (masked : Text) (column : Int) : Option Nat :=
  nearest? (gap column) ((List.range masked.length).filter fun i =>
    masked[i]? == some '{' && !(masked.drop (i + 1)).all isBlank)

/-- The closing brace nearest to a column before which code other than an
opening brace stands on its line. -/
def closingBehindBody? (masked : Text) (column : Int) : Option Nat :=
  nearest? (gap column) ((List.range masked.length).filter fun i =>
    let before := trimRight (masked.take i)
    masked[i]? == some '}' && !before.isEmpty && !endsIn (· == '{') before)

/-- Words that go on a statement behind a block. -/
def joiningWords : List Text := ["else", "catch", "finally"].map String.toList

/-- The number of the next line with code, if it goes on a statement; a line
with nothing but a comment stands in the way. `count` bounds the lines. -/
def nextCodeLine (code : Text) : Nat → Int → Option Int
  | 0, _ => none
  | count + 1, line =>
    let text := trim (maskedLine code line)
    if text.isEmpty then
      if (getLine code line).all isBlank then nextCodeLine code count (line + 1) else none
    else if joiningWords.any fun w => startsWithWord w text then some line
    else none

/-- The next line with code below the diagnostic's, if it goes on a
statement. -/
def following? (code : Text) (d : Diagnostic) : Option Int :=
  let line := d.line.value
  nextCodeLine code ((lines code).length - line.toNat) (line + 1)

/-- The opening brace pulled up to the line above. -/
def pullUp (code : Text) (d : Diagnostic) : Except Setback Text :=
  let line := d.line.value
  let above := getLine code (line - 1)
  let aboveMasked := trimRight (maskedLine code (line - 1))
  if above.all isBlank then decline "no controlling statement on the previous line"
  else if trimRight above != aboveMasked then decline "previous line ends in a comment"
  else if endsIn (fun c => c == ';' || c == '{' || c == '}') aboveMasked then
    decline "opening brace starts a standalone block"
  else
    let current := lineOf code d
    let rest := trim ((trimLeft current).drop 1)
    let k := (line - 1).toNat
    let pulled := (lines code).set (k - 1) (trimRight above ++ [' ', '{'])
    .ok (unlines (if rest.isEmpty then pulled.eraseIdx k
      else pulled.set k (leadingBlanks current ++ rest)))

/-- The statement behind an opening brace put on the next line. -/
def splitBehindOpening (code : Text) (d : Diagnostic) : Except Setback Text :=
  match openingWithBody? (maskedLineOf code d) (columnOf d) with
  | none => decline "no block body on the opening brace line"
  | some i =>
    let line := lineOf code d
    setLine code d (trimRight (line.take (i + 1)) ++ ['\n'] ++ leadingBlanks line ++
      indentUnit code ++ trim (line.drop (i + 1)))

/-- The line that goes on a statement joined to the closing brace. -/
def joinNext (code : Text) (d : Diagnostic) : Except Setback Text :=
  match following? code d with
  | none => decline "no else, catch or finally after the closing brace"
  | some next =>
    let current := trimRight (lineOf code d)
    if current != trimRight (maskedLineOf code d) then
      decline "closing brace line ends in a comment"
    else
      let ls := lines code
      let k := (d.line.value - 1).toNat
      .ok (unlines (ls.take k ++ (current ++ [' '] ++ trimLeft (getLine code next)) ::
        ls.drop next.toNat))

/-- A closing brace behind a statement put on the next line. -/
def splitBeforeClosing (code : Text) (d : Diagnostic) : Except Setback Text :=
  match closingBehindBody? (maskedLineOf code d) (columnOf d) with
  | none => decline "no closing brace after a statement"
  | some i =>
    match findMatchingBackward (mask code) (lineStartOf code d + i) with
    | none => decline "closing brace has no matching opening brace"
    | some opener =>
      let indent := leadingBlanks (slice code (lineStartAt code opener) opener)
      let line := lineOf code d
      setLine code d (trimRight (line.take i) ++ ['\n'] ++ indent ++ line.drop i)

/-- The rule `brace-style`. -/
def braceStyle : Method where
  detect code d :=
    let masked := maskedLineOf code d
    match misplacement? d with
    | some .openingApart => startsIn (· == '{') (trimLeft masked) && 1 < d.line.value
    | some .bodyBehindOpening => (openingWithBody? masked (columnOf d)).isSome
    | some .nextApart => (following? code d).isSome && endsIn (· == '}') (trimRight masked)
    | some .closingBehindBody => (closingBehindBody? masked (columnOf d)).isSome
    | none => false
  edit code d :=
    match misplacement? d with
    | some .openingApart => pullUp code d
    | some .bodyBehindOpening => splitBehindOpening code d
    | some .nextApart => joinNext code d
    | some .closingBehindBody | none => splitBeforeClosing code d
  keeps before after := bracketCounts before == bracketCounts after

end LintRepair.Rules.Brace
