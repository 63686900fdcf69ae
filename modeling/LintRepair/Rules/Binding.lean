/-
The rules `no-var` and `prefer-const`.

* `noVar`: declares by `let` or `const` what `var` declared;
* `preferConst`: declares by `const` what is never changed.

Only the keyword changes, and only where the new one binds the same names over
the same uses: none lies before the declaration or outside its block, no name
is declared twice, and no value is carried from one turn of a loop to the
next.
-/
import LintRepair.Code.Occurrence
import LintRepair.Rules.Editing

namespace LintRepair.Rules.Binding

open Text Lexical Code Repair Check

/-- The declaration by a keyword nearest to the position, if it binds a name,
with the masked text. -/
def located? (keyword : Text) (code : Text) (d : Diagnostic) : Option (Text × Declaration) :=
  (locateDeclaration code d.line.value d.column.value keyword).filter fun (_, decl) =>
    !decl.names.isEmpty

/-- The text with another keyword in a declaration. -/
def withKeyword (code : Text) (decl : Declaration) (keyword : Text) : Text :=
  splice code decl.start (decl.start + decl.keyword.length) keyword

/-! ### Parameters -/

/-- The text of the parameters of the function whose body starts at an
offset. -/
def parameterText (masked : Text) (bodyStart : Nat) : Text :=
  let before := trimRight (masked.take (bodyStart - 1))
  let isArrow := endsWith before ['=', '>']
  let head := if isArrow then trimRight (before.take (before.length - 2)) else before
  if endsIn (· == ')') head then
    match findMatchingBackward head (head.length - 1) with
    | some opener => slice head (opener + 1) (head.length - 1)
    | none => []
  else if isArrow then (head.reverse.takeWhile isName).reverse
  else []

/-! ### Obstacles -/

/-- The first use of a name that the block around the declaration would not
bind. -/
def misplacedUse? (masked : Text) (decl : Declaration) (scope function : Span) :
    Option String :=
  decl.names.findSome? fun name =>
    (findOccurrences masked name function (some decl)).findSome? fun o =>
      if o.use = .declaration then none
      else if o.offset < decl.start then
        some ("'" ++ String.ofList name ++ "' is used before its declaration")
      else if ¬ (scope.start ≤ o.offset ∧ o.offset < scope.stop) then
        some ("'" ++ String.ofList name ++ "' is used outside its block")
      else none

/-- The offsets in a span at which a declaration keyword stands. -/
def keywordOffsets (masked : Text) (span : Span) : List Nat :=
  let text := masked.take span.stop
  let prev := if span.start = 0 then none else text[span.start - 1]?
  let offsets (keyword : String) : List Nat :=
    wordOffsetsFrom (fun c => isName c || c == '.') keyword.toList prev span.start 0
      (text.drop span.start)
  (offsets "var" ++ offsets "let" ++ offsets "const").mergeSort (· ≤ ·)

/-- The least of some names. -/
def leastName? : List Text → Option String
  | [] => none
  | first :: others => some ((others.map String.ofList).foldl
      (fun least name => if name < least then name else least) (String.ofList first))

/-- The name that another declaration of the function declares as well. -/
def declaredTwice? (masked : Text) (decl : Declaration) (function : Span) : Option String :=
  (keywordOffsets masked function).findSome? fun offset =>
    if offset = decl.start ∨ (functionScope masked offset).start ≠ function.start then none
    else
      let other := parseDeclaration masked masked offset
      (leastName? (other.names.filter decl.names.contains)).map fun name =>
        "'" ++ name ++ "' is declared more than once"

/-- The name that is a parameter of the function as well. -/
def shadowsParameter? (masked : Text) (decl : Declaration) (function : Span) :
    Option String :=
  if (enclosingBlock masked decl.start).start = function.start ∧ function.start ≠ 0 then
    let parameters := parameterText masked function.start
    (decl.names.find? fun name => !(wordOffsets name parameters).isEmpty).map fun name =>
      "'" ++ String.ofList name ++ "' shadows a parameter"
  else none

/-- Whether a block, or one around it inside the function, is the body of a
loop; `fuel` bounds their number. -/
def insideLoop (masked : Text) (functionStart : Nat) : Nat → Span → Bool
  | 0, _ => false
  | fuel + 1, block =>
    if functionStart < block.start then
      blockHead masked block.start == .loop ||
        insideLoop masked functionStart fuel (enclosingBlock masked (block.start - 1))
    else false

/-- Whether a declaration lacks a value in the body of a loop, where a variable
of the function would keep the one it had. -/
def carriesValue (masked : Text) (decl : Declaration) (function : Span) : Bool :=
  !decl.initialized &&
    insideLoop masked function.start (masked.length + 1) (enclosingBlock masked decl.start)

/-- Why a declaration by `var` cannot be bound to its block. -/
def obstacle? (masked : Text) (decl : Declaration) : Option String :=
  let function := functionScope masked decl.start
  misplacedUse? masked decl (declarationScope masked decl) function <|>
    declaredTwice? masked decl function <|>
    shadowsParameter? masked decl function <|>
    if carriesValue masked decl function then
      some "uninitialised var inside a loop body keeps its value between iterations"
    else none

/-! ### The rules -/

/-- How many declarations by `let` or `const` stand in code. -/
def blockCount (t : Text) : Nat :=
  countKeyword t "let".toList + countKeyword t "const".toList

/-- The rule `no-var`; where `preferConst` is set, names that have a value and
are never changed become constants. -/
def noVar (preferConst : Bool) : Method where
  detect code d := (located? "var".toList code d).isSome
  edit code d :=
    match located? "var".toList code d with
    | none => decline "no var declaration at the reported position"
    | some (masked, decl) =>
      match obstacle? masked decl with
      | some reason => decline reason
      | none =>
        let usage := analyzeUsage masked decl (declarationScope masked decl)
        let constant := preferConst && decl.initialized &&
          decl.forKind != some .classic && usage.reassigned.isEmpty
        .ok (withKeyword code decl (if constant then "const" else "let").toList)
  keeps before after :=
    countKeyword before "var".toList == countKeyword after "var".toList + 1 &&
      blockCount after == blockCount before + 1

/-- The rule `prefer-const`. -/
def preferConst : Method where
  detect code d := (located? "let".toList code d).isSome
  edit code d :=
    match located? "let".toList code d with
    | none => decline "no let declaration at the reported position"
    | some (masked, decl) =>
      if decl.forKind = some .classic then decline "loop counter declared in a for header"
      else if !decl.initialized then decline "not every declared name is initialised"
      else if !(analyzeUsage masked decl (declarationScope masked decl)).reassigned.isEmpty then
        decline "Cannot convert to const: variables are reassigned"
      else .ok (withKeyword code decl "const".toList)
  keeps before after :=
    countKeyword before "let".toList == countKeyword after "let".toList + 1 &&
      countKeyword after "const".toList == countKeyword before "const".toList + 1

end LintRepair.Rules.Binding
