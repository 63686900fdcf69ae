/-
The context of an offset: what the text around it is, and whether an edit
may be made there.

* `Context`: the parts of the scanner's state that an edit depends on;
* `contextAt`: the context before the character at an offset;
* `Zone`: the verdict on a position, with its reason;
* `zoneOf`: the verdict that a context gives.
-/
import LintRepair.Diagnostic.Basic
import LintRepair.Lexical.Scan
import LintRepair.Text.Lines

namespace LintRepair.Lexical

open Text

/-- The two forms of comments. -/
inductive CommentForm
  | single
  | multi
  deriving DecidableEq, Repr

/-- The word for a form of comments. -/
def CommentForm.word : CommentForm → String
  | .single => "single"
  | .multi => "multi"

/-- What the text at an offset is part of. -/
structure Context where
  inString : Bool
  inComment : Bool
  inRegex : Bool
  /-- Inside a template, its interpolations included. -/
  inTemplate : Bool
  /-- Inside an interpolation of a template. -/
  inTemplateExpression : Bool
  /-- The quote or tick of the literal around the offset. -/
  stringChar : Option Char
  commentForm : Option CommentForm
  deriving DecidableEq, Repr

/-- Whether an edit may be made: the offset is plain code, or code inside an
interpolation. -/
def Context.isCode (c : Context) : Bool :=
  !(c.inString || c.inComment || c.inRegex) &&
    (!c.inTemplate || c.inTemplateExpression)

/-- The quote that the scanner waits for. -/
def State.quote? (st : State) : Option Char :=
  match st.mode with
  | .string quote => some quote
  | _ => none

/-- What the scanner's state says about the next character. -/
def State.context (st : State) : Context :=
  let inTemplate := decide (0 < st.templateDepth)
  let form := match st.mode with
    | .lineComment => some CommentForm.single
    | .blockComment => some .multi
    | _ => none
  { inString := st.quote?.isSome
    inComment := form.isSome
    inRegex := st.mode matches .regex _
    inTemplate
    inTemplateExpression := inTemplate && st.mode != .template
    stringChar := st.quote? <|> if inTemplate then some '\x60' else none
    commentForm := form }

/-- The context before the character at an offset. -/
def contextAt (t : Text) (offset : Nat) : Context := (stateAt t offset).context

/-- An offset moved to the nearest end of the text if it lies outside. -/
def clampOffset (t : Text) (offset : Int) : Nat := min t.length offset.toNat

/-! ### Safe positions -/

/-- Why a position may not be edited. -/
inductive Hazard
  | position (fault : PositionFault)
  | string (quote : Char)
  | comment (form : CommentForm)
  | regex
  | template
  deriving DecidableEq, Repr

/-- The hazard that a context is, if it is one. -/
def Context.hazard? (c : Context) : Option Hazard :=
  if c.inString then c.stringChar.map .string
  else if c.inComment then c.commentForm.map .comment
  else if c.inRegex then some .regex
  else if c.inTemplate && !c.inTemplateExpression then some .template
  else none

/-- The verdict on a position, and the context there if it lies in the text. -/
structure Zone where
  hazard? : Option Hazard
  context? : Option Context
  deriving DecidableEq, Repr

/-- Whether the position may be edited. -/
def Zone.isSafe (z : Zone) : Bool := z.hazard?.isNone

/-- The verdict that a context gives. -/
def zoneOf (c : Context) : Zone := ⟨c.hazard?, some c⟩

/-- The verdict on the position of a diagnostic. -/
def zone (t : Text) (d : Diagnostic) : Zone :=
  match absoluteOffset t d.line.value d.column.value with
  | .error fault => ⟨some (.position fault), none⟩
  | .ok offset => zoneOf (contextAt t offset)

/-- The wording of a hazard at the position of a diagnostic. -/
def Hazard.reason (d : Diagnostic) : Hazard → String
  | .position fault => "Position is invalid: " ++ d.faultMessage fault
  | .string quote =>
    "Position is inside a string literal (" ++ String.singleton quote ++ ")"
  | .comment form => "Position is inside a " ++ form.word ++ " comment"
  | .regex => "Position is inside a regular expression literal"
  | .template => "Position is inside template literal text"

/-- The wording of the verdict on the position of a diagnostic. -/
def Zone.reason (d : Diagnostic) (z : Zone) : String :=
  (z.hazard?.map (Hazard.reason d)).getD "Position is safe for modifications"

/-- The verdict agrees with the context's own. -/
theorem isSafe_zoneOf (st : State) :
    (zoneOf st.context).isSafe = st.context.isCode := by
  cases hm : st.mode <;> by_cases ht : 0 < st.templateDepth <;>
    simp [zoneOf, Zone.isSafe, Context.hazard?, Context.isCode, State.context,
      State.quote?, hm, ht]

end LintRepair.Lexical
