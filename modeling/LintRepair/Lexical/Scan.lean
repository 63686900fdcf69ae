/-
The scanner: one pass over JavaScript text that tells code from strings,
comments, regular expressions and template text.

* `Kind`: what a character is part of;
* `State`: what the scanner remembers between two characters;
* `State.step`: the kind of one character and the state after it;
* `kinds`: the kind of every character of a text;
* `stateAt`: the state before the character at an offset;
* `length_kinds`: one kind per character;
* `mask`, `maskedLine`: the text with everything blanked out that is not code, so that
  brackets and operators inside literals and comments are never seen;
* `length_mask`: offsets in the masked text are offsets in the text.

A slash opens a regular expression only where an operand may stand: after an
operator, an opening bracket, the head of `if`, `for`, `while` or `with`, or
one of a few keywords. Elsewhere it divides.
-/
import LintRepair.Text.Basic
import LintRepair.Text.Lines

namespace LintRepair.Lexical

open Text

/-- What a character is part of. The quotes of strings and the ticks of
templates are delimiters; what opens and closes an interpolation is code. -/
inductive Kind
  | code
  | delimiter
  | string
  | comment
  | regex
  | template
  deriving DecidableEq, Repr

/-- The letter that stands for a kind. -/
def Kind.letter : Kind → Char
  | .code => 'c'
  | .delimiter => 'q'
  | .string => 's'
  | .comment => 'm'
  | .regex => 'r'
  | .template => 't'

/-- What the scanner is inside of. A string knows its quote, a regular
expression whether a character class is open. -/
inductive Mode
  | code
  | lineComment
  | blockComment
  | string (quote : Char)
  | regex (inClass : Bool)
  | template
  deriving DecidableEq, Repr

/-- What the scanner remembers between two characters. -/
structure State where
  /-- What the next character is inside of. -/
  mode : Mode := .code
  /-- The kind of the next character where it belongs to the one before: the
  second half of an escape, of a comment's ends, or of an interpolation's
  start. -/
  joined : Option Kind := none
  /-- How many templates are open. -/
  templateDepth : Int := 0
  /-- For each open interpolation, the innermost first, how many braces are
  open inside it. -/
  interpolations : List Int := []
  /-- Whether a slash would open a regular expression. -/
  regexAllowed : Bool := true
  /-- The word last read. -/
  word : Text := []
  /-- Whether the word goes on with the next character. -/
  inWord : Bool := false
  /-- Whether nothing but blanks and comments followed the word. -/
  afterWord : Bool := false
  /-- For each open parenthesis, the innermost first, whether it belongs to
  the head of a control statement. -/
  parens : List Bool := []
  deriving DecidableEq, Repr

/-- Whether an operand may follow this character. -/
def precedesRegex (c : Char) : Bool :=
  c ∈ ['(', '[', '{', ',', ';', ':', '!', '&', '|', '?', '+', '-', '*', '/',
    '%', '=', '<', '>', '^', '~']

/-- Words after which an operand follows. -/
def operandKeywords : List Text :=
  ["return", "throw", "case", "in", "of", "delete", "void", "typeof", "new",
    "instanceof", "yield", "await", "else", "do"].map String.toList

/-- Words whose parenthesised head is followed by a statement. -/
def controlHeads : List Text := ["if", "while", "for", "with"].map String.toList

namespace State

/-- A character of plain code that opens or closes nothing: words, blanks and
punctuation decide whether a slash may follow as a regular expression. -/
def codeChar (st : State) (c : Char) : State :=
  if isAlnum c || c == '_' || c == '$' then
    let word := if st.inWord then st.word ++ [c] else [c]
    { st with
      word, inWord := true, afterWord := true
      regexAllowed := operandKeywords.contains word }
  else if isBlank c then { st with inWord := false }
  else if c == '(' then
    { st with
      inWord := false, afterWord := false, regexAllowed := true
      parens := (st.afterWord && controlHeads.contains st.word) :: st.parens }
  else if c == ')' then
    { st with
      inWord := false, afterWord := false
      regexAllowed := st.parens.headD false, parens := st.parens.tail }
  else { st with inWord := false, afterWord := false, regexAllowed := precedesRegex c }

/-- A character of code. -/
def stepCode (st : State) (c : Char) (next : Option Char) : Kind × State :=
  if c == '/' && next == some '/' then
    (.comment, { st with mode := .lineComment, joined := some .comment })
  else if c == '/' && next == some '*' then
    (.comment, { st with mode := .blockComment, joined := some .comment })
  else if c == '/' && st.regexAllowed then
    (.regex, { st with mode := .regex false, afterWord := false })
  else if c == '\x27' || c == '\x22' then
    (.delimiter, { st with mode := .string c, inWord := false, afterWord := false })
  else if c == '\x60' then
    (.delimiter, { st with
      mode := .template, templateDepth := st.templateDepth + 1
      inWord := false, afterWord := false })
  else match st.interpolations with
    | [] => (.code, st.codeChar c)
    | opened :: outer =>
      if c == '{' then
        (.code, { st with interpolations := (opened + 1) :: outer }.codeChar c)
      else if c == '}' then
        if opened == 0 then
          (.code, { st with mode := .template, interpolations := outer })
        else (.code, { st with interpolations := (opened - 1) :: outer }.codeChar c)
      else (.code, st.codeChar c)

/-- A character of a string literal. A line feed ends a string that has no
closing quote. -/
def stepString (st : State) (quote c : Char) : Kind × State :=
  if c == '\\' then (.string, { st with joined := some .string })
  else if c == quote then
    (.delimiter, { st with mode := .code, regexAllowed := false })
  else if c == '\n' then (.code, { st with mode := .code })
  else (.string, st)

/-- A character of a regular expression. A line feed ends one that has no
closing slash. -/
def stepRegex (st : State) (inClass : Bool) (c : Char) : Kind × State :=
  if c == '\\' then (.regex, { st with joined := some .regex })
  else if c == '\n' then (.code, { st with mode := .code })
  else if inClass then (.regex, { st with mode := .regex (c != ']') })
  else if c == '[' then (.regex, { st with mode := .regex true })
  else if c == '/' then
    (.regex, { st with mode := .code, regexAllowed := false, inWord := false })
  else (.regex, st)

/-- A character of template text. -/
def stepTemplate (st : State) (c : Char) (next : Option Char) : Kind × State :=
  if c == '\\' then (.template, { st with joined := some .template })
  else if c == '\x60' then
    (.delimiter, { st with
      mode := .code, templateDepth := st.templateDepth - 1, regexAllowed := false })
  else if c == '$' && next == some '{' then
    (.code, { st with
      mode := .code, joined := some .code
      interpolations := 0 :: st.interpolations
      regexAllowed := true, inWord := false })
  else (.template, st)

/-- The kind of the next character, and the state after it. -/
def step (st : State) (c : Char) (next : Option Char) : Kind × State :=
  match st.joined with
  | some kind => (kind, { st with joined := none })
  | none =>
    match st.mode with
    | .code => st.stepCode c next
    | .lineComment =>
      if c == '\n' then (.code, { st with mode := .code }) else (.comment, st)
    | .blockComment =>
      if c == '*' && next == some '/' then
        (.comment, { st with mode := .code, joined := some .comment })
      else (.comment, st)
    | .string quote => st.stepString quote c
    | .regex inClass => st.stepRegex inClass c
    | .template => st.stepTemplate c next

/-- The kinds of the characters of a text, read from a state on. -/
def kinds (st : State) : Text → List Kind
  | [] => []
  | c :: rest => (st.step c rest.head?).1 :: kinds (st.step c rest.head?).2 rest

/-- The state after the first `count` characters of a text. -/
def after (st : State) : Text → Nat → State
  | [], _ => st
  | _, 0 => st
  | c :: rest, count + 1 => after (st.step c rest.head?).2 rest count

@[simp]
theorem length_kinds (st : State) (t : Text) : (st.kinds t).length = t.length := by
  induction t generalizing st with
  | nil => rfl
  | cons c rest ih => simp [kinds, ih]

end State

/-- The kind of every character of a text. -/
def kinds (t : Text) : List Kind := State.kinds {} t

/-- The state before the character at an offset; at or past the end, the state
after the whole text. -/
def stateAt (t : Text) (offset : Nat) : State := State.after {} t offset

/-- One kind per character. -/
@[simp]
theorem length_kinds (t : Text) : (kinds t).length = t.length :=
  State.length_kinds _ t

/-! ### Masking -/

/-- Whether a character of this kind stays in the masked text. -/
def Kind.isKept : Kind → Bool
  | .code | .delimiter => true
  | _ => false

/-- The text with every character filled in that is neither code nor a
delimiter nor a line feed. -/
def maskWith (fill : Text) (t : Text) : Text :=
  ((t.zip (kinds t)).map fun (c, kind) =>
    if kind.isKept || c == '\n' then [c] else fill).flatten

/-- The text with every character blanked out that is neither code nor a
delimiter nor a line feed. -/
def mask (t : Text) : Text :=
  List.zipWith (fun c kind => if kind.isKept || c == '\n' then c else ' ')
    t (kinds t)

@[simp]
theorem length_mask (t : Text) : (mask t).length = t.length := by
  simp [mask]

/-- The line of the masked text that starts where a line of the text does. -/
def maskedLine (t : Text) (line : Int) : Text :=
  ((mask t).drop (lineStart t line)).takeWhile (· != '\n')

end LintRepair.Lexical
