/-
Declarations by `var`, `let` and `const`.

* `bindingNames`: the names that a target binds;
* `Declaration`, `parseDeclaration`: a declaration read at its keyword;
* `findKeyword`, `locateDeclaration`: the declaration nearest to a position.
-/
import LintRepair.Code.Statement
import LintRepair.Code.Word

namespace LintRepair.Code

open Text Lexical

/-! ### The names of a target -/

/-- The three dots of a rest element taken off. -/
def withoutDots (t : Text) : Text :=
  match t with
  | '.' :: '.' :: '.' :: rest => trim rest
  | _ => t

/-- A target without the value that follows it. -/
def withoutValue (t : Text) : Text :=
  match topLevelAssignment? t with
  | some i => trim (t.take i)
  | none => t

/-- The text between a first and a last character. -/
def inside (t : Text) : Text := (t.drop 1).dropLast

/-- Whether a text starts and ends with a pair of brackets. -/
def isEnclosed (opener closer : Char) (t : Text) : Bool :=
  startsIn (· == opener) t && endsIn (· == closer) t

/-- What a property of an object pattern binds: its target if it names one. -/
def propertyTarget (part : Text) : Text :=
  if startsWith part ['.', '.', '.'] then part
  else match splitTopLevel ':' part with
    | _ :: target :: _ => target
    | only :: _ => only
    | [] => []

/-- The names that a target binds, patterns being opened to a depth. -/
def namesWithin : Nat → Text → List Text
  | 0, _ => []
  | depth + 1, target =>
    let p := withoutValue (withoutDots (trim target))
    if isEnclosed '{' '}' p then
      (splitTopLevel ',' (inside p)).flatMap fun part =>
        let part := trim part
        if part.isEmpty then [] else namesWithin depth (propertyTarget part)
    else if isEnclosed '[' ']' p then
      (splitTopLevel ',' (inside p)).flatMap fun part =>
        if (trim part).isEmpty then [] else namesWithin depth part
    else if isIdentifier p then [p]
    else []

/-- The names that a target binds: an identifier, or the identifiers of an
object or array pattern with its defaults, renamings and rest element. Each
pattern inside another is shorter, which bounds the depth. -/
def bindingNames (target : Text) : List Text := namesWithin (target.length + 1) target

/-! ### Declarations -/

/-- The kind of loop whose head a declaration stands in. -/
inductive ForKind
  | classic
  | of
  | in
  deriving DecidableEq, Repr

/-- The word for a kind of loop. -/
def ForKind.word : ForKind → String
  | .classic => "classic"
  | .of => "of"
  | .in => "in"

/-- A declaration in a text. -/
structure Declaration where
  keyword : Text
  /-- The offset of the keyword. -/
  start : Nat
  /-- The offset just past the statement. -/
  stop : Nat
  /-- The texts of the declarators. -/
  declarators : List Text := []
  /-- All names bound, in order. -/
  names : List Text := []
  /-- Whether each declarator has a value. -/
  initialized : Bool := true
  /-- The kind of loop whose head the declaration stands in. -/
  forKind : Option ForKind := none
  /-- The opening parenthesis of that head. -/
  forParen : Option Nat := none
  deriving DecidableEq, Repr

/-- Whether a text ends with the start of a loop head: the keyword and an
opening parenthesis. -/
def endsWithForHead (t : Text) : Bool :=
  match t.reverse.dropWhile isBlank with
  | '(' :: rest => startsWith (rest.dropWhile isBlank) ['r', 'o', 'f']
  | _ => false

/-- Whether a text starts with the keyword of a passage, by itself; letters,
numerals and underscores are what may not follow. -/
def passageKeyword? (t : Text) : Option ForKind :=
  match t with
  | 'o' :: 'f' :: rest => if startsIn isWord rest then none else some .of
  | 'i' :: 'n' :: rest => if startsIn isWord rest then none else some .in
  | _ => none

/-- The first place behind the start of a text, on the same line, at which
blanks and the keyword of a passage follow; `moved` counts what has been
passed. -/
def passageFrom (moved : Nat) : Text → Option (Nat × ForKind)
  | [] => none
  | t@(c :: rest) =>
    let found := if 0 < moved && isBlank c then passageKeyword? (trimLeft t) else none
    match found with
    | some kind => some (moved, kind)
    | none => if c == '\n' then none else passageFrom (moved + 1) rest

/-- Where the target in the head of a passage ends, and the kind of passage.
The target starts behind the blanks; only if none is found there, blanks are
counted to it, the fewest first. -/
def passageIn (t : Text) : Option (Nat × ForKind) :=
  let blanks := (leadingBlanks t).length
  (List.range (blanks + 1)).reverse.findSome? fun j =>
    (passageFrom 0 (t.drop j)).map fun (n, kind) => (j + n, kind)

/-- The declaration whose keyword stands at an offset. -/
def parseDeclaration (code masked : Text) (offset : Nat) : Declaration :=
  let keyword := (masked.drop offset).takeWhile fun c => 'a' ≤ c && c ≤ 'z'
  let bodyStart := offset + keyword.length
  let stop := statementEnd masked bodyStart
  let before := masked.take offset
  let inHead := endsWithForHead before
  let forParen := if inHead then findLast? '(' before else none
  match if inHead then passageIn (slice masked bodyStart stop) else none with
  | some (length, kind) =>
    let target := slice code bodyStart (bodyStart + length)
    { keyword, start := offset, stop, forParen, forKind := some kind
      declarators := [trim target], names := bindingNames target }
  | none =>
    let body := dropEndWhile (· == ';') (trimRight (slice code bodyStart stop))
    let declarators := ((splitTopLevel ',' body).map trim).filter (! ·.isEmpty)
    { keyword, start := offset, stop, forParen
      forKind := if inHead then some .classic else none
      declarators, names := declarators.flatMap bindingNames
      initialized := declarators.all fun d => (topLevelAssignment? d).isSome }

/-! ### Finding a declaration -/

/-- The offset of a keyword on a line nearest to a column: the last one at or
before the column, else the first. -/
def findKeyword (code masked : Text) (line column : Int) (keyword : Text) :
    Option Nat :=
  let start := lineStart code line
  let text := (masked.drop start).takeWhile (· != '\n')
  let offsets := wordOffsetsFrom (fun c => isName c || c == '.') keyword none start 0 text
  let atOrBefore := offsets.filter fun (o : Nat) => (o : Int) ≤ start + column - 1
  atOrBefore.getLast? <|> offsets.head?

/-- The masked text and the declaration by a keyword on a line nearest to a
column. -/
def locateDeclaration (code : Text) (line column : Int) (keyword : Text) :
    Option (Text × Declaration) :=
  let masked := mask code
  (findKeyword code masked line column keyword).map fun offset =>
    (masked, parseDeclaration code masked offset)

end LintRepair.Code
