/-
Text with marks for its style. The marks do not show, and a mark that closes
a style needs one that opens it.

* `tag?`: the mark at the start of a text;
* `pieces`: a text as its marks and what stands between them;
* `shown`: what a text shows, unless a mark closes what is not open.

A mark is a name in brackets that starts with a small letter or one of the
signs `#`, `/` and `@`; a value may follow the name after an equals sign. An
odd number of backslashes before it makes it plain text. Plain text may name
emoji, and controls that move the cursor are left out of it.
-/
import LintRepair.Cli.Emoji
import LintRepair.Cli.Style

namespace LintRepair.Cli.Markup

/-! ### Marks -/

/-- A mark: a name and perhaps a value. -/
structure Tag where
  name : Text
  value? : Option Text := none

/-- A part of a text: plain text or a mark. -/
inductive Piece
  | plain (t : Text)
  | tag (tag : Tag)

/-- Whether a character may come first in a mark. -/
def isTagStart (c : Char) : Bool := ('a' ≤ c && c ≤ 'z') || "#/@".toList.contains c

/-- What stands between the brackets of the mark that a text starts with. -/
def tag? : Text → Option Text
  | '[' :: c :: rest =>
    let inner := rest.takeWhile fun c => c != '[' && c != ']'
    if isTagStart c && (rest.drop inner.length).head? = some ']' then some (c :: inner) else none
  | _ => none

/-- The mark with some text between its brackets. -/
def Tag.ofInner (inner : Text) : Tag :=
  let name := inner.takeWhile (· != '=')
  { name, value? := (inner.drop name.length).tail? }

/-- The parts of a text that follows the plain text `before`, which is kept
in reverse. -/
def piecesFrom (before t : Text) : List Piece :=
  let slashes := (t.takeWhile (· == '\\')).length
  match _h : t.drop slashes with
  | [] => [.plain (before.reverse ++ List.replicate slashes '\\')]
  | c :: rest =>
    match tag? (c :: rest) with
    | some inner =>
      .plain before.reverse :: .plain (List.replicate (slashes / 2) '\\') ::
        (if slashes % 2 = 1 then .plain ('[' :: inner ++ [']']) else .tag (.ofInner inner)) ::
        piecesFrom [] (rest.drop (inner.length + 1))
    | none => piecesFrom (c :: (List.replicate slashes '\\' ++ before)) rest
termination_by t.length
decreasing_by
  all_goals
    have := congrArg List.length _h
    simp only [List.length_drop, List.length_cons] at this ⊢
    omega

/-- A text as its marks and what stands between them. -/
def pieces (t : Text) : List Piece := piecesFrom [] t

/-! ### Values -/

/-- Whether a text is a plain value: a word for truth or for nothing, a whole
number or a quoted text without backslashes. -/
def isPlainValue (t : Text) : Bool :=
  match Text.trim t with
  | [] => false
  | q :: rest =>
    if q = '\'' ∨ q = '"' then
      rest.getLast? = some q ∧ !rest.dropLast.any fun c => c == q || c == '\\' || c == '\n'
    else if q = '0' then rest.all (· == '0')
    else (q :: rest).all Text.isAsciiDigit ||
      ["True", "False", "None"].any fun word => word.toList == q :: rest

/-- Whether a text is a plain value or several of them with commas between
them, perhaps in parentheses. -/
def isValue (t : Text) : Bool :=
  let inner? := if Text.startsWith t ['('] ∧ Text.endsWith t [')'] then some t.tail.dropLast
    else none
  let items := (inner?.getD t).splitOn ','
  let items := if 1 < items.length ∧ items.getLast?.any (·.all Text.isBlank)
    then items.dropLast else items
  (inner?.any fun t => t.all Text.isBlank) || items.all isPlainValue

/-- The arguments in the value of a mark for an action: those that follow the
name of the action, if the value is an action. -/
def argumentsOf (value : Text) : Text :=
  let value := Text.trim value
  let name := value.takeWhile fun c => Text.isWord c || c == '.'
  match value.drop name.length with
  | [] => "()".toList
  | '(' :: rest =>
    if rest.getLast? = some ')' ∧ !rest.contains '\n' then '(' :: rest else value
  | _ => value

/-- Whether a mark may be closed: one for an action holds a value. -/
def Tag.isSound (tag : Tag) : Bool :=
  match tag.name, tag.value? with
  | '@' :: _, some (c :: value) => isValue (argumentsOf (c :: value))
  | _, _ => true

/-! ### What is shown -/

/-- The marks that are open after one more, the latest first. -/
def turn (opened : List Tag) (tag : Tag) : Except MarkFault (List Tag) := do
  match tag.name with
  | '/' :: name =>
    let name := Text.trim name
    let rest ← if name.isEmpty then pure opened else do
      let name ← Style.normalize name
      pure (opened.dropWhile fun t => t.name != name)
    match rest with
    | [] => throw .mismatch
    | closed :: below =>
      if !closed.isSound then throw .mismatch
      return opened.take (opened.length - rest.length) ++ below
  | name => return { tag with name := ← Style.normalize name } :: opened

/-- Plain text with a backslash left out before each bracket that opens. -/
def unescaped : Text → Text
  | '\\' :: '[' :: rest => '[' :: unescaped rest
  | c :: rest => c :: unescaped rest
  | [] => []

/-- Whether a character moves the cursor and is left out: a bell, a backspace,
a vertical tab, a page break or a carriage return. -/
def movesCursor (c : Char) : Bool := [7, 8, 11, 12, 13].contains c.toNat

/-- A text without what moves the cursor. -/
def visible (t : Text) : Text := Text.without movesCursor t

/-- What parts of a text show while some marks are open. -/
def shownFrom (opened : List Tag) : List Piece → Except MarkFault Text
  | [] => .ok []
  | .plain t :: rest => do
    return visible (Emoji.replace (unescaped t)) ++ (← shownFrom opened rest)
  | .tag tag :: rest => do shownFrom (← turn opened tag) rest

/-- What a text shows. -/
def shown (t : Text) : Except MarkFault Text := shownFrom [] (pieces t)

end LintRepair.Cli.Markup
