/-
The rule `no-unused-vars`.

* `unusedName?`: the name that a message puts in quotes;
* `removeDeclarator`, `removeFunction`, `removeParameter`: the three kinds of
  bindings that can go;
* `noUnusedVars`: the rule.

A binding stays if its removal could drop an effect, or if its name is still
used somewhere.
-/
import LintRepair.Code.Occurrence
import LintRepair.Rules.Operator

namespace LintRepair.Rules.Unused

open Text Lexical Code Repair
open Operator (identifierLength)

/-! ### The name -/

/-- Messages about a binding that is not used. -/
def unusedMessages : List String :=
  ["is defined but never used", "is assigned a value but never used", "Unused variable",
    "no-unused-vars"]

/-- The identifier that a text puts in quotes. -/
def quotedIdentifier? : Text → Option Text
  | [] => none
  | c :: rest =>
    let n := identifierLength rest
    if c == '\x27' && n != 0 && (rest.drop n).head? == some '\x27' then some (rest.take n)
    else quotedIdentifier? rest

/-- The name that a message is about. -/
def unusedName? (message : String) : Option Text := quotedIdentifier? message.toList

/-- The identifier at an offset. -/
def identifierAt (masked : Text) (offset : Nat) : Text :=
  (masked.drop offset).take (identifierLength (masked.drop offset))

/-- The offset of the unused name: the use on the line nearest to the position,
or the identifier at the position where the message names none. -/
def nameOffset? (code : Text) (d : Diagnostic) : Option Nat :=
  match absoluteOffset code d.line.value d.column.value with
  | .error _ => none
  | .ok target =>
    let masked := mask code
    match unusedName? d.message with
    | none => if (identifierAt masked target).isEmpty then none else some target
    | some name =>
      nearest? (gap target)
        ((wordOffsetsBetween name masked (lineStartAt code target)
          (lineEndAt masked target)).filter (! isPropertyAccess masked ·))

/-! ### Declarators -/

/-- The offset of the last declaration keyword with a blank behind it in a part
of a text given by its ends. -/
def lastKeyword? (masked : Text) (lo hi : Nat) : Option Nat :=
  let text := masked.take hi
  let prev := if lo = 0 then none else text[lo - 1]?
  (["var", "let", "const"].flatMap fun w =>
    (wordOffsetsFrom (fun c => isName c || c == '.') w.toList prev lo 0
      (text.drop lo)).filter fun i => startsIn isBlank (text.drop (i + w.length))).max?

/-- The offset of the keyword of the declaration that binds the name at an
offset. -/
def declarationKeyword? (masked : Text) (offset : Nat) : Option Nat :=
  match lastKeyword? masked (lineStartAt masked offset) offset with
  | none => none
  | some keyword =>
    let decl := parseDeclaration masked masked keyword
    if keyword < offset ∧ offset < decl.stop ∧
        decl.names.contains (identifierAt masked offset) then some keyword
    else none

/-- Words that have an effect. -/
def effectWords : List Text := ["new", "await", "yield", "delete"].map String.toList

/-- Whether an expression may have an effect: it calls, constructs, waits,
deletes, updates or assigns. -/
def hasEffect (prev : Option Char) : Text → Bool
  | [] => false
  | t@(c :: rest) =>
    c == '(' || startsWith t ['+', '+'] || startsWith t ['-', '-'] ||
      (c == '=' && assigns prev rest.head?) ||
      (!prev.any isWord && effectWords.any fun w =>
        startsWith t w && !startsIn isWord (t.drop w.length)) ||
      hasEffect (some c) rest

/-- The text without a part, or without its whole lines if nothing else stands
on them. -/
def deleteSpan (code : Text) (start stop : Nat) : Text :=
  let masked := mask code
  let lo := lineStartAt code start
  let hi := lineEndAt code stop
  if (slice masked lo start).all isBlank && (slice masked stop hi).all isBlank then
    if hi < code.length then code.take lo ++ code.drop (hi + 1) else code.take (lo - 1)
  else code.take start ++ (code.drop stop).dropWhile isSpaceOrTab

/-- The target of a declarator and its value, if it has one. -/
def declaratorParts (declarator : Text) : Text × Option Text :=
  match topLevelAssignment? declarator with
  | some i => (declarator.take i, some (declarator.drop (i + 1)))
  | none => (declarator, none)

/-- The declarators but for one; a declarator of a single letter goes with all
its repetitions. -/
def withoutDeclarator (target : Text) (ds : List Text) : List Text :=
  if target.length = 1 then ds.filter (· != target) else ds.erase target

/-- The text without the declarator of a name. -/
def removeDeclarator (code masked name : Text) (keyword : Nat) : Except Setback Text :=
  let decl := parseDeclaration code masked keyword
  if decl.forKind.isSome then decline "declaration heads a for loop"
  else
    let target? := decl.declarators.find? fun declarator =>
      bindingNames declarator == [name] && isIdentifier (trim (declaratorParts declarator).1)
    match target? with
    | none => decline ("'" ++ String.ofList name ++ "' is bound by destructuring")
    | some target =>
      if (declaratorParts target).2.any fun value => hasEffect none (mask value) then
        decline "initializer may have side effects"
      else if (findOccurrences masked name (declarationScope masked decl) (some decl)).any
          (·.use != .declaration) then
        decline ("'" ++ String.ofList name ++ "' is still referenced")
      else
        let remaining := withoutDeclarator target decl.declarators
        if remaining.isEmpty then .ok (deleteSpan code decl.start decl.stop)
        else
          let statement := trimRight (slice code decl.start decl.stop)
          .ok (splice code decl.start decl.stop
            (decl.keyword ++ [' '] ++ List.intercalate [',', ' '] remaining ++
              (if endsIn (· == ';') statement then [';'] else [])))

/-! ### Functions -/

/-- A part of a text taken off the end of another, given in reverse. -/
def stripEnd? (part rev : Text) : Option Text :=
  if startsWith rev part.reverse then some (rev.drop part.length) else none

/-- Where the function starts whose name stands behind a text. -/
def functionHead? (before : Text) : Option Nat :=
  let rev := before.reverse.dropWhile isBlank
  let rev := match rev with
    | '*' :: rest => rest.dropWhile isBlank
    | _ => rev
  let isFree (rev : Text) : Bool := !startsIn (fun c => isName c || c == '.') rev
  match stripEnd? "function".toList rev with
  | none => none
  | some rev =>
    let asynchronous := if startsIn isBlank rev then
        (stripEnd? "async".toList (rev.dropWhile isBlank)).filter isFree
      else none
    match asynchronous with
    | some rev => some rev.length
    | none => if isFree rev then some rev.length else none

/-- The first offset from `lo` on at which a character stands. -/
def charFrom? (t : Text) (c : Char) (lo : Nat) : Option Nat :=
  ((t.drop lo).findIdx? (· == c)).map (lo + ·)

/-- The text without the function whose name stands at an offset. -/
def removeFunction (code masked name : Text) (start offset : Nat) : Except Setback Text :=
  let before := trimRight (masked.take start)
  if !before.isEmpty && !endsIn (fun c => c == ';' || c == '{' || c == '}') before then
    decline "function is part of an expression"
  else
    match charFrom? masked '(' offset with
    | none => decline "function has no parameter list"
    | some paren =>
      match findMatching masked paren with
      | none => decline "function body not found"
      | some close =>
        match charFrom? masked '{' close with
        | none => decline "function body not found"
        | some bodyOpen =>
          if !(slice masked (close + 1) bodyOpen).all isBlank then
            decline "function body not found"
          else
            match findMatching masked bodyOpen with
            | none => decline "function body is not closed"
            | some bodyClose =>
              if (findOccurrences masked name ⟨0, masked.length⟩ none).any fun o =>
                  o.offset < start || bodyClose < o.offset then
                decline ("'" ++ String.ofList name ++ "' is referenced outside its own body")
              else .ok (deleteSpan code start (bodyClose + 1))

/-! ### Parameters -/

/-- The span of the body of the function whose parameters close at an offset;
empty if it does not end. -/
def bodySpan? (masked : Text) (close : Nat) : Option Span :=
  let behind := masked.drop (close + 1)
  let start := close + 1 + (leadingBlanks behind).length
  let closed (start brace : Nat) : Span := ⟨start, (findMatching masked brace).getD start⟩
  match masked.drop start with
  | '=' :: '>' :: rest =>
    let bodyStart := start + 2
    let brace := bodyStart + (leadingBlanks rest).length
    if masked[brace]? = some '{' then some (closed bodyStart brace)
    else some ⟨bodyStart, lineEndAt masked brace⟩
  | '{' :: _ => some (closed start start)
  | _ => none

/-- The text without the parameter at an offset, which must be the last of its
function. -/
def removeParameter (code masked name : Text) (offset : Nat) : Except Setback Text :=
  let quoted := "'" ++ String.ofList name ++ "'"
  match unclosedBracket? 0 (masked.take offset).reverse with
  | some ('(', before) =>
    let paren := before.length
    match findMatching masked paren with
    | none => decline "parameter list is not closed"
    | some close =>
      if (slice masked paren close).any (· == '\n') then
        decline "parameter list spans several lines"
      else if endsWithWord "catch".toList (trimRight before.reverse) then
        decline "catch clause binding"
      else
        match bodySpan? masked close with
        | none => decline (quoted ++ " is not a function parameter")
        | some body =>
          let parameters := splitTopLevel ',' (slice code (paren + 1) close)
          let named := (parameters.map trim).filter (! ·.isEmpty)
          let last := named.getLastD []
          if named.isEmpty || bindingNames last != [name] then
            decline "only the last parameter can be removed"
          else if !isIdentifier (trim (last.takeWhile (· != '='))) then
            decline (quoted ++ " is bound by destructuring")
          else if !(wordOffsetsBetween name masked (paren + 1)
              (close - (parameters.getLastD []).length)).isEmpty then
            decline (quoted ++ " is used by another parameter")
          else if (wordOffsetsBetween name masked body.start body.stop).any
              (! isPropertyAccess masked ·) then
            decline (quoted ++ " is used in the function body")
          else
            .ok (splice code (paren + 1) close
              (List.intercalate [',', ' '] named.dropLast))
  | _ => decline (quoted ++ " is not a variable, parameter or function")

/-- The rule `no-unused-vars`. -/
def noUnusedVars : Method where
  detect code d :=
    (unusedMessages.any fun m => contains d.message.toList m.toList) &&
      (nameOffset? code d).isSome
  edit code d :=
    match nameOffset? code d with
    | none => decline "unused binding not found at the reported position"
    | some offset =>
      let masked := mask code
      let name := identifierAt masked offset
      match functionHead? (masked.take offset) with
      | some start => removeFunction code masked name start offset
      | none =>
        match declarationKeyword? masked offset with
        | some keyword => removeDeclarator code masked name keyword
        | none => removeParameter code masked name offset
  keeps before after := after.length < before.length

end LintRepair.Rules.Unused
