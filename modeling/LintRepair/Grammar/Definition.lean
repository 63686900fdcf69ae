/-
The productions for functions, classes and the names they bind.

* `binding`, `bindingItems`, `bindingProperties`: names and patterns;
* `parameters`, `functionRest`: functions from their parameters on;
* `classRest`, `members`: classes.
-/
import LintRepair.Grammar.Expression

namespace LintRepair.Grammar.Definition

open Parse Expression

/-! ### Names and patterns -/

/-- A name or pattern that is bound. -/
def binding (read : Reader) (s : Setting) : Parse Shape := do
  if ← mark? "[" then read s .bindingItems
  else if ← mark? "\x7b" then read s .bindingProperties
  else
    discard identifier
    return {}

/-- A binding with the value it takes where there is none. -/
def bindingElement (read : Reader) (s : Setting) : Parse Unit := do
  discard (read s .binding)
  if ← mark? "=" then value read s.open .assignment

/-- The items of an array pattern up to its end. -/
def bindingItems (read : Reader) (s : Setting) : Parse Shape := do
  if ← mark? "]" then return {}
  if ← mark? "," then return ← read s .bindingItems
  if ← mark? "..." then
    discard (read s .binding)
    mark "]"
    return {}
  bindingElement read s
  if ← mark? "]" then return {}
  mark ","
  read s .bindingItems

/-- The properties of an object pattern up to its end. -/
def bindingProperties (read : Reader) (s : Setting) : Parse Shape := do
  if ← mark? "\x7d" then return {}
  if ← mark? "..." then discard identifier
  else
    let key ← propertyKey read s false
    if ← mark? ":" then bindingElement read s
    else
      match key with
      | .name name _ =>
        require (isIdentifier name)
        if ← mark? "=" then value read s.open .assignment
      | .other => failure
  if ← mark? "\x7d" then return {}
  mark ","
  read s .bindingProperties

/-! ### Functions -/

/-- Parameters up to the closing parenthesis. -/
def parameters (read : Reader) (s : Setting) : Parse Shape := do
  if ← mark? ")" then return {}
  if ← mark? "..." then
    discard (read s .binding)
    mark ")"
    return {}
  bindingElement read s
  if ← mark? ")" then return {}
  mark ","
  read s .parameters

/-- A function from its parameters on. -/
def functionRest (read : Reader) (s : Setting) : Parse Shape := do
  mark "("
  discard (read s .parameters)
  mark "\x7b"
  discard (read s .statements)
  mark "\x7d"
  return {}

/-! ### Classes -/

/-- A class from its name on. -/
def classRest (read : Reader) (s : Setting) : Parse Shape := do
  if (← atIdentifier) then discard take
  if ← word? "extends" then
    let head ← read s .primary
    require (← read s (.accesses true head)).isValue
  mark "\x7b"
  read s.open .members

/-- A field behind its name. -/
def field (read : Reader) (s : Setting) : Parse Unit := do
  if ← mark? "=" then value read (s.within false false) .assignment
  semicolon

/-- One member of a class. -/
def member (read : Reader) (s : Setting) : Parse Unit := do
  let ends := ["(", "=", ";", "\x7d"]
  if (← atWord "static") && (← modifies ends) then
    discard take
    if ← mark? "\x7b" then
      discard (read (s.within false false) .statements)
      mark "\x7d"
      return
  if ← mark? "*" then
    discard (propertyKey read s true)
    method read s false true
    return
  if (← atWord "async") && (← modifies ends) && !(← second).2 then
    discard take
    let generator ← mark? "*"
    discard (propertyKey read s true)
    method read s true generator
    return
  if ((← atWord "get") || (← atWord "set")) && (← modifies ("*" :: ends)) then
    discard take
    discard (propertyKey read s true)
    method read s false false
    return
  discard (propertyKey read s true)
  if ← atMark "(" then method read s false false
  else field read s

/-- The members of a class up to its end. -/
def members (read : Reader) (s : Setting) : Parse Shape := do
  if ← mark? "\x7d" then return {}
  if ← mark? ";" then return ← read s .members
  member read s
  read s .members

end LintRepair.Grammar.Definition
