/-
The rule `quotes`.

* `targetQuote?`: the quote that a message asks for;
* `literalBounds?`: the delimiters of a literal;
* `quotes`: changes the delimiters of a string literal.

A literal that holds the new quote is left alone, and so is a template that
spans lines or holds an interpolation.
-/
import LintRepair.Rules.Editing

namespace LintRepair.Rules.Quote

open Text Lexical Repair

/-- The quotes and the words for them. -/
def quoteWords : List (Text × Char) :=
  [("singlequote".toList, '\x27'), ("doublequote".toList, '\x22'),
    ("backtick".toList, '\x60')]

/-- The quote that a message asks for. -/
def targetQuote? (message : String) : Option Char :=
  (quoteWords.find? fun (w, _) => contains message.toList w).map (·.2)

/-- The offset of the delimiter that closes a literal; a delimiter of another
literal inside a template stands in the way. -/
def closing? (quote : Char) (offset : Nat) : List (Char × Kind) → Option Nat
  | [] => none
  | (c, kind) :: rest =>
    if kind == .delimiter then
      if c == quote then some offset
      else if quote == '\x60' then none
      else closing? quote (offset + 1) rest
    else closing? quote (offset + 1) rest

/-- The offsets of the two delimiters of the literal that starts at an
offset. -/
def literalBounds? (code : Text) (offset : Nat) : Option (Nat × Nat) :=
  match (code.zip (kinds code)).drop offset with
  | (c, .delimiter) :: rest => (closing? c (offset + 1) rest).map (offset, ·)
  | _ => none

/-- How often a quote stands as a delimiter. -/
def delimiterCount (code : Text) (quote : Char) : Nat :=
  ((code.zip (kinds code)).filter fun (c, kind) => kind == .delimiter && c == quote).length

/-- A content in which the given quote is no longer escaped. -/
def unescape (quote : Char) : Text → Text
  | '\\' :: c :: rest =>
    if c == quote then c :: unescape quote rest else '\\' :: c :: unescape quote rest
  | c :: rest => c :: unescape quote rest
  | [] => []

/-- The delimiters of the literal at the position. -/
def bounds? (code : Text) (d : Diagnostic) : Option (Nat × Nat) :=
  match absoluteOffset code d.line.value d.column.value with
  | .ok offset => literalBounds? code offset
  | .error _ => none

/-- The rule `quotes`. -/
def quotes : Method where
  detect code d :=
    match targetQuote? d.message, bounds? code d with
    | some target, some (start, _) => code[start]? != some target
    | _, _ => false
  edit code d :=
    match targetQuote? d.message, bounds? code d with
    | some target, some (start, stop) =>
      let quote := code.getD start '\x22'
      let content := slice code (start + 1) stop
      let interpolates := contains content ['$', '{']
      if quote == '\x60' && (interpolates || content.any (· == '\n')) then
        decline "template literal cannot be expressed as a plain string"
      else if target == '\x60' && interpolates then
        decline "content would become a template interpolation"
      else
        let content := unescape quote content
        if content.any (· == target) then
          decline ("string content contains " ++ String.singleton target)
        else .ok (splice code start (stop + 1) (target :: content ++ [target]))
    | _, _ => decline "no string literal at the reported position"
  keeps before after :=
    after.length ≤ before.length &&
      ['\x27', '\x22', '\x60'].any fun q =>
        delimiterCount after q == delimiterCount before q + 2

end LintRepair.Rules.Quote
