/-
The rule `prefer-for-of`.

* `Header`, `header?`: the head of a loop that counts through a collection;
* `elementAccesses`: the reads of the current element;
* `elementName?`: a free name for the element;
* `preferForOf`: goes through the elements instead of counting.

The index may only be used to read the element, and the collection may not be
changed in the loop.
-/
import LintRepair.Code.Occurrence
import LintRepair.Rules.Operator

namespace LintRepair.Rules.Loop

open Text Lexical Code Repair
open Operator (identifierLength)

/-! ### The head of a counting loop -/

/-- The head of a loop that counts through a collection. -/
structure Header where
  keyword : Text
  index : Text
  collection : Text
  deriving DecidableEq, Repr

/-- The text behind blanks and a part that it must go on with. -/
def expect? (part t : Text) : Option Text :=
  let t := trimLeft t
  if startsWith t part then some (t.drop part.length) else none

/-- An identifier and the text behind it. -/
def identifier? (t : Text) : Option (Text × Text) :=
  let n := identifierLength t
  if n = 0 then none else some (t.take n, t.drop n)

/-- The keyword of a loop variable, with blanks behind it. -/
def keyword? (t : Text) : Option (Text × Text) :=
  ["let".toList, "var".toList].findSome? fun w =>
    let rest := t.drop w.length
    if startsWith t w && startsIn isBlank rest then some (w, trimLeft rest) else none

/-- The lengths at which a chain of members joined by dots may end, the
shortest first; `fuel` bounds their number. -/
def chainLengths : Nat → Nat → Text → List Nat
  | 0, _, _ => []
  | fuel + 1, taken, t =>
    taken :: match t with
      | '.' :: rest =>
        let n := identifierLength rest
        if n = 0 then [] else chainLengths fuel (taken + 1 + n) (rest.drop n)
      | _ => []

/-- The bound of a counting loop: the collection whose length it is, and the
text behind the semicolon. -/
def bound? (t : Text) : Option (Text × Text) :=
  let n := identifierLength t
  if n = 0 then none
  else (chainLengths (t.length + 1) n (t.drop n)).reverse.findSome? fun k => do
    let rest ← expect? ['.'] (t.drop k)
    let rest ← expect? "length".toList rest
    let rest ← expect? [';'] rest
    return (t.take k, rest)

/-- Whether a text is a step by one of an index, in one of four forms. -/
def isStep (index t : Text) : Bool :=
  let forms : List (List Text) :=
    [[index, ['+', '+']], [['+', '+'], index], [index, ['+', '='], ['1']],
      [index, ['='], index, ['+'], ['1']]]
  forms.any fun form =>
    (form.foldlM (fun rest part => expect? part rest) t).any fun rest => rest.all isBlank

/-- The head of a loop that counts from zero to the length of a collection in
steps of one. -/
def header? (t : Text) : Option Header := do
  let (keyword, rest) ← keyword? (trimLeft t)
  let (index, rest) ← identifier? rest
  let rest ← expect? ['='] rest
  let rest ← expect? ['0'] rest
  let rest ← expect? [';'] rest
  let rest ← expect? index rest
  let rest ← expect? ['<'] rest
  let (collection, rest) ← bound? (trimLeft rest)
  if isStep index rest then some ⟨keyword, index, collection⟩ else none

/-! ### The loop -/

/-- A counting loop: the parentheses of its head, the braces of its body, and
what the head says. -/
structure Counting where
  paren : Nat
  close : Nat
  bodyOpen : Nat
  bodyClose : Nat
  header : Header
  deriving DecidableEq, Repr

/-- The offset of the parenthesis of the first loop head in a text. -/
def loopParen? (prev : Option Char) (offset : Nat) : Text → Option Nat
  | [] => none
  | t@(c :: rest) =>
    let blanks := (leadingBlanks (t.drop 3)).length
    if !prev.any (fun p => isName p || p == '.') && startsWith t ['f', 'o', 'r'] &&
        t[3 + blanks]? == some '(' then some (offset + 3 + blanks)
    else loopParen? (some c) (offset + 1) rest

/-- The counting loop whose head starts on the line. -/
def counting? (code : Text) (d : Diagnostic) : Option Counting := do
  let masked := mask code
  let start := lineStartOf code d
  let prev := if start = 0 then none else masked[start - 1]?
  let paren ← loopParen? prev start (maskedLineOf code d)
  let close ← findMatching masked paren
  let header ← header? (slice code (paren + 1) close)
  let bodyOpen := close + 1 + ((masked.drop (close + 1)).takeWhile isBodyBlank).length
  if masked[bodyOpen]? ≠ some '{' then none
  else
    let bodyClose ← findMatching masked bodyOpen
    return ⟨paren, close, bodyOpen, bodyClose, header⟩

/-! ### Uses in the body -/

/-- Where a collection starts whose opening bracket ends a part of a text: the
part starts at `lo` and ends at `hi`. -/
def accessStart? (masked collection : Text) (lo hi : Nat) : Option Nat :=
  match (slice masked lo hi).reverse.dropWhile isBlank with
  | '[' :: rest =>
    let rest := rest.dropWhile isBlank
    if startsWith rest collection.reverse then
      let start := lo + rest.length - collection.length
      let prev := if start = 0 then none else masked[start - 1]?
      if prev.any fun p => isName p || p == '.' then none else some start
    else none
  | _ => none

/-- Whether a text goes on with an operator that writes. -/
def writesBehind (t : Text) : Bool :=
  match trimLeft t with
  | '+' :: '+' :: _ | '-' :: '-' :: _ => true
  | '*' :: '*' :: '=' :: _ | '<' :: '<' :: '=' :: _ => true
  | '>' :: '>' :: '=' :: _ | '>' :: '>' :: '>' :: '=' :: _ => true
  | '=' :: rest => !startsIn (fun c => c == '=' || c == '>') rest
  | c :: '=' :: _ => ['+', '-', '*', '/', '%', '&', '|', '^'].contains c
  | _ => false

/-- The span of the element read at one use of the index. -/
def elementAccess (masked : Text) (h : Header) (lo offset : Nat) : Except Setback Span :=
  let behind := masked.drop (offset + h.index.length)
  match accessStart? masked h.collection lo offset, trimLeft behind with
  | some start, ']' :: rest =>
    if writesBehind rest ||
        (let before := trimRight (masked.take start)
         endsWith before ['+', '+'] || endsWith before ['-', '-']) then
      decline ("'" ++ String.ofList (h.collection ++ ['['] ++ h.index ++ [']']) ++
        "' is assigned inside the loop")
    else .ok ⟨start, masked.length - rest.length⟩
  | _, _ =>
    decline ("loop index '" ++ String.ofList h.index ++ "' is used beyond element access")

/-- The spans of all element reads between two offsets; any other use of the
index is declined. -/
def elementAccesses (masked : Text) (h : Header) (lo hi : Nat) :
    Except Setback (List Span) := do
  let uses := (wordOffsetsBetween h.index masked lo hi).filter (! isPropertyAccess masked ·)
  let spans ← uses.mapM (elementAccess masked h lo)
  if spans.isEmpty then decline "loop body never reads the current element" else return spans

/-- Methods that change a collection. -/
def mutatingMethods : List Text :=
  ["push", "pop", "shift", "unshift", "splice"].map String.toList

/-- Whether a collection named at the start of a text is changed there: by a
method, by its length, or by an assignment. -/
def mutatesHere (t : Text) : Bool :=
  let assigns (t : Text) : Bool :=
    match t with
    | '=' :: rest => !startsIn (fun c => c == '=' || c == '>') rest
    | _ => false
  match trimLeft t with
  | '.' :: rest =>
    let rest := trimLeft rest
    mutatingMethods.any (fun m =>
      startsWith rest m && startsIn (· == '(') (trimLeft (rest.drop m.length))) ||
    (startsWith rest "length".toList &&
      match trimLeft (rest.drop 6) with
      | '=' :: behind => !startsIn (· == '=') behind
      | _ => false)
  | t => assigns t

/-- Whether a collection is changed in a text. -/
def mutates (collection : Text) (prev : Option Char) : Text → Bool
  | [] => false
  | t@(c :: rest) =>
    (!prev.any (fun p => isName p || p == '.') && startsWith t collection &&
      mutatesHere (t.drop collection.length)) || mutates collection (some c) rest

/-- Whether a word is used in a span other than as the name of a member. -/
def isUsed (masked word : Text) (lo hi : Nat) : Bool :=
  (wordOffsetsBetween word masked lo hi).any (! isPropertyAccess masked ·)

/-! ### A name for the element -/

/-- Words that name nothing. -/
def reservedWords : List Text :=
  ["break", "case", "catch", "class", "const", "continue", "debugger", "default",
    "delete", "do", "else", "export", "extends", "false", "finally", "for", "function",
    "if", "import", "in", "instanceof", "let", "new", "null", "of", "return", "static",
    "super", "switch", "this", "throw", "true", "try", "typeof", "var", "void", "while",
    "with", "yield", "await", "enum"].map String.toList

/-- A text without an ending, if it has that and more. -/
def withoutEnding? (ending t : Text) : Option Text :=
  if endsWith t ending ∧ ending.length < t.length then
    some (t.take (t.length - ending.length))
  else none

/-- The name of one element of a collection, by the ending of the collection's
name. -/
def singularize (collection : Text) : Option Text :=
  let base := (collection.reverse.takeWhile (· != '.')).reverse
  withoutEnding? "List".toList base <|> withoutEnding? "Array".toList base <|>
    withoutEnding? ['s'] base

/-- A free name for the element: the collection's singular, or a general
one. -/
def elementName? (masked : Text) (c : Counting) : Option Text :=
  let function := functionScope masked c.paren
  let root := c.header.collection.takeWhile (· != '.')
  let candidates := (singularize c.header.collection).toList ++
    ["item".toList, "element".toList]
  candidates.find? fun name =>
    !name.isEmpty && !reservedWords.contains name && name != root &&
      name != c.header.index && isIdentifier name &&
      !isUsed masked name function.start function.stop

/-! ### The rule -/

/-- The text with spans replaced by one word, the spans in order. -/
def replaceSpans (code : Text) (word : Text) (spans : List Span) : Text :=
  spans.foldr (fun s t => splice t s.start s.stop word) code

/-- Whether a loop through elements starts a text. -/
def startsForOf (t : Text) : Bool :=
  let after : Option Text := do
    let rest ← if startsWith t ['f', 'o', 'r'] then some (t.drop 3) else none
    let rest := trimLeft (← expect? ['('] rest)
    let rest ← ["const", "let", "var"].findSome? fun w =>
      let behind := rest.drop w.length
      if startsWith rest w.toList && startsIn isBlank behind then some (trimLeft behind)
      else none
    let (_, rest) ← identifier? rest
    if startsIn isBlank rest then expect? ['o', 'f'] rest else none
  after.any (startsIn isBlank)

/-- How many loops through elements stand in a text. -/
def forOfCount (prev : Option Char) : Text → Nat
  | [] => 0
  | t@(c :: rest) =>
    (if !prev.any isName && startsForOf t then 1 else 0) + forOfCount (some c) rest

/-- A counting loop as one through the elements. -/
def throughElements (code : Text) (c : Counting) : Except Setback Text := do
  let masked := mask code
  let h := c.header
  let spans ← elementAccesses masked h (c.bodyOpen + 1) c.bodyClose
  if mutates h.collection none (slice masked (c.bodyOpen + 1) c.bodyClose) then
    decline ("'" ++ String.ofList h.collection ++ "' is modified inside the loop")
  else if h.keyword == "var".toList &&
      isUsed masked h.index (c.bodyClose + 1) (functionScope masked c.bodyClose).stop then
    decline ("'" ++ String.ofList h.index ++ "' is used after the loop")
  else match elementName? masked c with
    | none => decline "no free name for the loop element"
    | some element =>
      let head := "(const ".toList ++ element ++ " of ".toList ++ h.collection ++ [')']
      .ok (splice (replaceSpans code element spans) c.paren (c.close + 1) head)

/-- The rule `prefer-for-of`. -/
def preferForOf : Method where
  detect code d := (counting? code d).isSome
  edit code d :=
    match counting? code d with
    | none => decline "no counted loop over an array at the reported position"
    | some c => throughElements code c
  keeps before after :=
    forOfCount none (mask after) == forOfCount none (mask before) + 1

end LintRepair.Rules.Loop
