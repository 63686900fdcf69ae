/-
The rules `eqeqeq` and `no-plusplus`.

* `eqeqeq`: makes a loose comparison strict;
* `noPlusplus`: writes an update whose value is not used as an assignment.
-/
import LintRepair.Code.Bracket
import LintRepair.Code.Word
import LintRepair.Rules.Editing

namespace LintRepair.Rules.Operator

open Text Lexical Code Repair

/-! ### Comparisons -/

/-- The offsets at which a loose comparison stands: an equals or exclamation
mark and an equals sign, with no other such mark around them. -/
def looseFrom (prev : Option Char) (offset : Nat) : Text → List Nat
  | [] => []
  | c :: rest =>
    let later := looseFrom (some c) (offset + 1) rest
    match rest with
    | '=' :: behind =>
      if (c == '=' || c == '!') &&
          !prev.any (fun p => p == '=' || p == '!' || p == '<' || p == '>') &&
          behind.head? != some '=' then offset :: later
      else later
    | _ => later

/-- The loose comparisons of a masked text. -/
def looseOffsets (masked : Text) : List Nat := looseFrom none 0 masked

/-- The first loose comparison on the line at or behind the column. -/
def loose? (code : Text) (d : Diagnostic) : Option Nat :=
  (looseOffsets (maskedLineOf code d)).find? fun i => columnOf d ≤ (i : Int)

/-- The rule `eqeqeq`. -/
def eqeqeq : Method where
  detect code d := (loose? code d).isSome
  edit code d :=
    match loose? code d with
    | none => decline "no loose equality operator on the line"
    | some i =>
      let line := lineOf code d
      setLine code d (line.take (i + 2) ++ '=' :: line.drop (i + 2))
  keeps before after :=
    (looseOffsets (mask before)).length == (looseOffsets (mask after)).length + 1

/-! ### Updates -/

/-- An update of a name or member: where it starts and ends, its target
without blanks, and whether it adds. -/
structure Update where
  start : Nat
  stop : Nat
  target : Text
  adds : Bool
  deriving DecidableEq, Repr

/-- The length of the plain identifier that a text starts with; zero if there
is none. -/
def identifierLength (t : Text) : Nat :=
  if startsIn isNameStart t then (t.takeWhile isName).length else 0

/-- The length of the accesses by name behind an identifier; `fuel` bounds
their number. -/
def accessLength : Nat → Text → Nat
  | 0, _ => 0
  | fuel + 1, t =>
    let gap := (leadingBlanks t).length
    match t.drop gap with
    | '.' :: rest =>
      let gap' := (leadingBlanks rest).length
      let n := identifierLength (rest.drop gap')
      if n = 0 then 0
      else
        let taken := gap + 1 + gap' + n
        taken + accessLength fuel (t.drop taken)
    | _ => 0

/-- The length of the name or chain of members that a text starts with; zero
if there is none. -/
def targetLength (t : Text) : Nat :=
  let n := identifierLength t
  if n = 0 then 0 else n + accessLength t.length (t.drop n)

/-- Whether a text starts with an update operator, and whether that adds. -/
def updateOperator? : Text → Option Bool
  | '+' :: '+' :: _ => some true
  | '-' :: '-' :: _ => some false
  | _ => none

/-- The update with its operator behind that a text starts with. -/
def postfixed? (prev : Option Char) (offset : Nat) (t : Text) : Option Update :=
  let n := targetLength t
  if n = 0 ∨ prev.any fun c => isName c || c == '.' then none
  else
    let gap := (leadingBlanks (t.drop n)).length
    (updateOperator? (t.drop (n + gap))).map fun adds =>
      ⟨offset, offset + n + gap + 2, without isBlank (t.take n), adds⟩

/-- The update with its operator in front that a text starts with. -/
def prefixed? (_prev : Option Char) (offset : Nat) (t : Text) : Option Update := do
  let adds ← updateOperator? t
  let gap := (leadingBlanks (t.drop 2)).length
  let n := targetLength (t.drop (2 + gap))
  if n = 0 then none
  else some ⟨offset, offset + 2 + gap + n, without isBlank (slice t (2 + gap) (2 + gap + n)), adds⟩

/-- The updates of one form in a text, none inside another; the first
`skipped` characters belong to the one before. -/
def updatesFrom (form : Option Char → Nat → Text → Option Update)
    (prev : Option Char) (offset skipped : Nat) : Text → List Update
  | [] => []
  | t@(c :: rest) =>
    match skipped with
    | n + 1 => updatesFrom form (some c) (offset + 1) n rest
    | 0 =>
      match form prev offset t with
      | some u => u :: updatesFrom form (some c) (offset + 1) (u.stop - u.start - 1) rest
      | none => updatesFrom form (some c) (offset + 1) 0 rest

/-- How far an update lies from a column; zero if it covers it. -/
def Update.distance (column : Int) (u : Update) : Nat :=
  if u.start ≤ column ∧ column < u.stop then 0
  else min (column - u.start).natAbs (column - u.stop).natAbs

/-- The update on the line nearest to the column, with offsets in the text. -/
def update? (code : Text) (d : Diagnostic) : Option Update :=
  let masked := maskedLineOf code d
  let base := lineStartOf code d
  let found := updatesFrom postfixed? none 0 0 masked ++ updatesFrom prefixed? none 0 0 masked
  (nearest? (Update.distance (columnOf d)) found).map fun u =>
    { u with start := base + u.start, stop := base + u.stop }

/-- Whether an offset lies in the third part of the head of a counting loop. -/
def inLoopUpdate (masked : Text) (offset : Nat) : Bool :=
  let before := masked.take offset
  match unclosedBracket? 0 before.reverse with
  | some ('(', rest) =>
    endsWithWord "for".toList (trimRight rest.reverse) &&
      (before.drop rest.length).count ';' == 2
  | _ => false

/-- Words behind whose head a statement starts. -/
def controlWords : List Text := ["if", "else", "for", "while", "do"].map String.toList

/-- Whether the value of the expression between two offsets is not used: it is
a statement of its own, or the last part of the head of a counting loop. -/
def valueDiscarded (masked : Text) (start stop : Nat) : Bool :=
  let before := trimRight (masked.take start)
  let behind := (masked.drop stop).dropWhile isSpaceOrTab
  if inLoopUpdate masked start then
    endsIn (fun c => c == ';' || c == ',') before &&
      startsIn (fun c => c == ')' || c == ',') behind
  else if behind.isEmpty || startsIn (fun c => c == ';' || c == '\n' || c == '}') behind then
    if before.isEmpty || endsIn (fun c => c == ';' || c == '{' || c == '}') before then true
    else if endsIn (· == ')') before then
      match findMatchingBackward before (before.length - 1) with
      | none => false
      | some opener => controlWords.contains (lastWord (before.take opener))
    else endsWithWord "else".toList before || endsWithWord "do".toList before
  else false

/-- How many update operators stand in code. -/
def updateCount (t : Text) : Nat := countPairs '+' (mask t) + countPairs '-' (mask t)

/-- The rule `no-plusplus`. -/
def noPlusplus : Method where
  detect code d := (update? code d).isSome
  edit code d :=
    match update? code d with
    | none => decline "no increment or decrement operator at the reported position"
    | some u =>
      if valueDiscarded (mask code) u.start u.stop then
        .ok (splice code u.start u.stop
          (u.target ++ (if u.adds then " += 1" else " -= 1").toList))
      else decline "the value of the update expression is used"
  keeps before after := updateCount before == updateCount after + 1

end LintRepair.Rules.Operator
