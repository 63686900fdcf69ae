/-
Occurrences of a name: where it is bound, read and changed.

* `Use`: what an occurrence does;
* `findOccurrences`: the occurrences of a name in a span;
* `Usage`, `analyzeUsage`: the occurrences of all names of a declaration.
-/
import LintRepair.Code.Scope

namespace LintRepair.Code

open Text

/-- How a name is changed. -/
inductive Reassignment
  | increment
  | decrement
  | assign
  | add
  | subtract
  | multiply
  | divide
  | modulo
  | compound
  | loop
  deriving DecidableEq, Repr

/-- The word for a change of a name. -/
def Reassignment.word : Reassignment → String
  | .increment => "increment"
  | .decrement => "decrement"
  | .assign => "assignment"
  | .add => "add-assign"
  | .subtract => "subtract-assign"
  | .multiply => "multiply-assign"
  | .divide => "divide-assign"
  | .modulo => "modulo-assign"
  | .compound => "compound-assign"
  | .loop => "loop-assign"

/-- What an occurrence of a name does. -/
inductive Use
  | declaration
  | reference
  | reassignment (how : Reassignment)
  deriving DecidableEq, Repr

/-- An occurrence of a name. -/
structure Occurrence where
  name : Text
  offset : Nat
  use : Use
  deriving DecidableEq, Repr

/-- Whether an occurrence changes the name. -/
def Occurrence.isReassignment (o : Occurrence) : Bool := o.use matches .reassignment _

/-! ### Classifying one occurrence -/

/-- The change that an operator directly behind a name makes. -/
def reassignmentBehind? (t : Text) : Option Reassignment :=
  match trimLeft t with
  | '+' :: '+' :: _ => some .increment
  | '-' :: '-' :: _ => some .decrement
  | '*' :: '*' :: '=' :: _ => some .compound
  | '>' :: '>' :: '>' :: '=' :: _ => some .compound
  | '<' :: '<' :: '=' :: _ => some .compound
  | '>' :: '>' :: '=' :: _ => some .compound
  | '&' :: '&' :: '=' :: _ => some .compound
  | '|' :: '|' :: '=' :: _ => some .compound
  | '?' :: '?' :: '=' :: _ => some .compound
  | '+' :: '=' :: _ => some .add
  | '-' :: '=' :: _ => some .subtract
  | '*' :: '=' :: _ => some .multiply
  | '/' :: '=' :: _ => some .divide
  | '%' :: '=' :: _ => some .modulo
  | '&' :: '=' :: _ => some .compound
  | '|' :: '=' :: _ => some .compound
  | '^' :: '=' :: _ => some .compound
  | '=' :: rest => if startsIn (fun c => c == '=' || c == '>') rest then none else some .assign
  | _ => none

/-- The change that an operator directly before a name makes. -/
def reassignmentBefore? (before : Text) : Option Reassignment :=
  match before.reverse.dropWhile isBlank with
  | '+' :: '+' :: _ => some .increment
  | '-' :: '-' :: _ => some .decrement
  | _ => none

/-- Whether a text goes on with blanks and the keyword of a passage. -/
def startsWithPassage (t : Text) : Bool :=
  startsIn isBlank t && (passageKeyword? (trimLeft t)).isSome

/-- An occurrence that binds nothing: a change of the name or a reference. -/
def classifyOccurrence (masked name : Text) (offset : Nat) : Occurrence :=
  let before := masked.take offset
  let behind := masked.drop (offset + name.length)
  let how := reassignmentBehind? behind <|> reassignmentBefore? before <|>
    if endsWithForHead before && startsWithPassage behind then some .loop else none
  ⟨name, offset, match how with
    | some how => .reassignment how
    | none => .reference⟩

/-! ### Keys and bindings -/

/-- Whether an occurrence is the key of a property. -/
def isObjectKey (masked name : Text) (offset : Nat) : Bool :=
  match trimLeft (masked.drop (offset + name.length)) with
  | ':' :: rest =>
    !startsIn (· == ':') rest &&
      endsIn (fun c => c == '{' || c == ',') (trimRight (masked.take offset))
  | _ => false

/-- Whether the end of a segment of a declaration lies in the value of a
declarator. -/
def endsInValue (prev : Option Char) (depth : Int) (inValue : Bool) : Text → Bool
  | [] => inValue
  | c :: rest =>
    if isOpener c then endsInValue (some c) (depth + 1) inValue rest
    else if isCloser c then endsInValue (some c) (depth - 1) inValue rest
    else if c == ',' && depth == 0 then endsInValue (some c) depth false rest
    else if c == '=' && depth == 0 && assigns prev rest.head? then
      endsInValue (some c) depth true rest
    else endsInValue (some c) depth inValue rest

/-- Whether the keyword of a passage stands in a text; `prev` is the character
before it. -/
def holdsPassageKeyword (prev : Option Char) : Text → Bool
  | [] => false
  | t@(c :: rest) =>
    (!prev.any isWord && (passageKeyword? t).isSome) || holdsPassageKeyword (some c) rest

/-- Whether an occurrence inside a declaration is bound by it, rather than
used in a value. -/
def isDeclaredTarget (masked name : Text) (offset : Nat) (d : Declaration) : Bool :=
  let segment := slice masked d.start offset
  d.names.contains name && !endsInValue none 0 false segment &&
    match d.forKind with
    | some .of | some .in => !holdsPassageKeyword none (segment.drop d.keyword.length)
    | _ => true

/-! ### All occurrences -/

/-- The occurrences of a name in a span, the names of members and the keys of
properties apart. Inside the given declaration they may be its bindings. -/
def findOccurrences (masked name : Text) (span : Span) (d : Option Declaration) :
    List Occurrence :=
  (wordOffsetsBetween name masked span.start span.stop).filterMap fun offset =>
    if isPropertyAccess masked offset || isObjectKey masked name offset then none
    else match d with
      | some d =>
        if d.start ≤ offset && offset < d.stop && isDeclaredTarget masked name offset d then
          some ⟨name, offset, .declaration⟩
        else some (classifyOccurrence masked name offset)
      | none => some (classifyOccurrence masked name offset)

/-- The occurrences of the names of a declaration within a scope. -/
structure Usage where
  declaration : Declaration
  occurrences : Text → List Occurrence

/-- The names that are changed somewhere, in the order of the declaration. -/
def Usage.reassigned (u : Usage) : List Text :=
  u.declaration.names.filter fun name =>
    (u.occurrences name).any Occurrence.isReassignment

/-- The occurrences of a name other than its bindings. -/
def Usage.references (u : Usage) (name : Text) : List Occurrence :=
  (u.occurrences name).filter (·.use ≠ .declaration)

/-- The occurrences of all names of a declaration within a scope. -/
def analyzeUsage (masked : Text) (d : Declaration) (scope : Span) : Usage :=
  ⟨d, fun name => findOccurrences masked name scope (some d)⟩

end LintRepair.Code
