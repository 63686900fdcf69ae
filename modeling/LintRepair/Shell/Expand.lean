/-
Words with their parameters replaced, as fields.

* `Expand.items`: what a word comes to, character by character;
* `Expand.split`: items as fields, taken apart at separators;
* `Expand.fields`: the fields of words, with names of files for patterns;
* `Expand.whole`: a word as one text;
* `Expand.pattern`: a word as a pattern.
-/
import LintRepair.Shell.Session

namespace LintRepair.Shell.Expand

/-- What words come to. -/
inductive Item
  /-- A character; one that `splits` may separate fields. -/
  | glyph (c : Char) (quoted splits : Bool)
  /-- There is a field here, even if it stays empty. -/
  | mark
  /-- One field ends, and another one may begin. -/
  | border
  deriving DecidableEq, Repr

/-- The characters of a value, in quotes or not. -/
def ofValue (quoted : Bool) (t : Octets) : List Item := t.map fun c => .glyph c quoted (!quoted)

/-- Values one after another. -/
def ofValues (quoted : Bool) (ts : List Octets) : List Item :=
  [Item.border].intercalate (ts.map fun t =>
    if quoted then .mark :: ofValue quoted t else ofValue quoted t)

/-- The characters of items, with single blanks for borders. -/
def glyphs (items : List Item) : List Glyph :=
  items.filterMap fun
    | .glyph c quoted _ => some (c, quoted)
    | .mark => none
    | .border => some (' ', true)

/-- Items as one text. -/
def text (items : List Item) : Octets := (glyphs items).map (·.1)

/-! ### Parameters -/

/-- The value of a parameter that is no list. -/
def value? (s : Session) (name : Octets) : Option Octets :=
  match name with
  | ['?'] => some (Json.intText s.status).toList
  | ['#'] => some (Json.intText s.arguments.length).toList
  | ['$'] => some Session.processNumber
  | ['!'] => none
  | ['-'] => some ("CaubEVvxsnmiIfe".toList.filter s.has)
  | ['0'] => some s.name
  | _ =>
    if name.all Text.isAsciiDigit then s.arguments[Text.ofDecimal name - 1]?
    else s.value? name

/-- Whether a parameter is the list of arguments. -/
def isList (name : Octets) : Bool := name == ['@'] || name == ['*']

/-- The list of arguments as one text. -/
def joined (s : Session) (name : Octets) : Octets :=
  if name = ['@'] then spaced s.arguments
  else (s.separators.take 1).intercalate s.arguments

/-- The items for a parameter. -/
def ofParameter (s : Session) (quoted : Bool) (name : Octets) : List Item :=
  if !isList name then ofValue quoted ((value? s name).getD [])
  else if quoted && name == ['*'] then ofValue true (joined s name)
  else ofValues quoted s.arguments

/-- Ends if a parameter has no value though it needs one. -/
def require (name : Octets) : Act Unit := do
  let s ← get
  if s.has 'u' && !isList name && (value? s name).isNone then
    Act.fail (name ++ ": parameter not set".toList)

/-- Writes a variable that has no value yet. -/
def assign (name value : Octets) : Act Unit := do
  if !Reader.isName name then Act.fail (name ++ ": bad variable name".toList)
  Act.setValue name value

/-! ### Items -/

mutual

/-- The items for a part of a word. What stands `inUse`, as the value of a
parameter, may separate fields. -/
def ofPart (k : Kit) (quoted inUse : Bool) : Part → Act (List Item)
  | .char c => return [.glyph c quoted (inUse && !quoted)]
  | .kept c => return [.glyph c true false]
  | .quotes inside => do
    match inside with
    | [.parameter ['@'] .value] => return ofParameter (← get) true ['@']
    | _ => return .mark :: (← ofParts k true false inside)
  | .parameter name use => ofUse k quoted name use
  | .output script => return ofValue quoted (← k.outputOf script)
  | .sum inside => do
    let t := text (← ofParts k true false inside)
    let s ← get
    match Arithmetic.evaluate s.value? t with
    | .error fault => Act.fail (fault.message t)
    | .ok (n, values) =>
      for (name, value) in values.reverse do
        Act.setValue name value
      return ofValue quoted (Json.intText n).toList

/-- The items for the parts of a word. -/
def ofParts (k : Kit) (quoted inUse : Bool) : List Part → Act (List Item)
  | [] => return []
  | p :: rest => return (← ofPart k quoted inUse p) ++ (← ofParts k quoted inUse rest)

/-- The items for the use of a parameter. -/
def ofUse (k : Kit) (quoted : Bool) (name : Octets) : Use → Act (List Item)
  | .value => do
    require name
    return ofParameter (← get) quoted name
  | .length => do
    require name
    let s ← get
    let t := if isList name then joined s name else (value? s name).getD []
    return ofValue quoted (Json.intText t.length).toList
  | .cut front longest inside => do
    require name
    let p := Pattern.read (glyphs (← ofParts k false false inside))
    let s ← get
    let t := if isList name then joined s name else (value? s name).getD []
    return ofValue quoted (p.cut front longest t)
  | .unset emptyToo remedy word => do
    let s ← get
    let t? := if isList name then some (joined s name) else value? s name
    let isSet : Bool := match t? with
      | some t => !emptyToo || !t.isEmpty
      | none => false
    match remedy with
    | .replace => if isSet then return ofParameter s quoted name else ofParts k quoted true word
    | .instead => if isSet then ofParts k quoted true word else return []
    | .assign =>
      if isSet then return ofParameter s quoted name
      else do
        assign name (text (← ofParts k quoted true word))
        return ofParameter (← get) quoted name
    | .complain =>
      if isSet then return ofParameter s quoted name
      else do
        let words := text (← ofParts k quoted true word)
        let words :=
          if !words.isEmpty then words
          else if emptyToo then "parameter not set or null".toList
          else "parameter not set".toList
        Act.fail (name ++ ": ".toList ++ words)
  | .faulty => Act.fail "Bad substitution".toList

end

/-- The items for a word. -/
def items (k : Kit) (w : Word) : Act (List Item) := ofParts k false false w

/-- A word as one text. -/
def whole (k : Kit) (w : Word) : Act Octets := return text (← items k w)

/-- A word as a pattern. -/
def pattern (k : Kit) (w : Word) : Act Pattern := return Pattern.read (glyphs (← items k w))

/-! ### Fields -/

/-- Items as fields, where a field may have begun; `closed` says that blanks
have just ended one. -/
def splitFrom (separators : Octets) (field? : Option (List Glyph)) (closed : Bool) :
    List Item → List (List Glyph)
  | [] => field?.toList
  | .mark :: rest => splitFrom separators (some (field?.getD [])) false rest
  | .border :: rest => field?.toList ++ splitFrom separators none false rest
  | .glyph c quoted splits :: rest =>
    if !splits || !separators.contains c then
      splitFrom separators (some (field?.getD [] ++ [(c, quoted)])) false rest
    else if c = ' ' ∨ c = '\t' ∨ c = '\n' then
      match field? with
      | some f => f :: splitFrom separators none true rest
      | none => splitFrom separators none closed rest
    else if closed then splitFrom separators none false rest
    else field?.getD [] :: splitFrom separators none false rest

/-- Items as fields. -/
def split (separators : Octets) (items : List Item) : List (List Glyph) :=
  splitFrom separators none false items

/-! ### Names of files -/

/-- A path as the parts between its slashes. -/
def pathParts : List Glyph → List (List Glyph)
  | [] => [[]]
  | g :: rest =>
    match pathParts rest with
    | [] => [[g]]
    | part :: more => if g.1 = '/' then [] :: part :: more else (g :: part) :: more

/-- Paths with one more part that a pattern fits. -/
def extend (p : Place) (paths : List Octets) (part : List Glyph) (isLast : Bool) :
    List Octets :=
  let behind := if isLast then [] else ['/']
  let pat := Pattern.read part
  if pat.isOpen then
    paths.flatMap fun path =>
      let showsHidden : Bool := (part.head?.map (·.1)) == some '.'
      let names := (p.names (p.locate (if path.isEmpty then ['.'] else path))).filter fun name =>
        (showsHidden || name.head? != some '.') && pat.accepts name &&
          (isLast || p.isDirectory (path ++ name))
      names.map fun name => path ++ name ++ behind
  else
    (paths.map fun path => path ++ part.map (·.1) ++ behind).filter fun path =>
      path == ['/'] || p.holds path

/-- The paths that a field is a pattern for, in order. -/
def paths (p : Place) (field : List Glyph) : List Octets :=
  let parts := pathParts field
  let last := parts.length - 1
  let found := (parts.zipIdx).foldl (fun paths (part, i) => extend p paths part (i == last)) [[]]
  found.mergeSort fun a b => !(String.ofList b < String.ofList a)

/-- A field as the names of files that it is a pattern for, or as it is. -/
def named (s : Session) (field : List Glyph) : List Octets :=
  let plain := field.map (·.1)
  if s.has 'f' || !(Pattern.read field).isOpen then [plain]
  else match paths s.place field with
    | [] => [plain]
    | found => found

/-- The fields of a word. -/
def fieldsOf (k : Kit) (w : Word) : Act (List Octets) := do
  let found ← items k w
  let s ← get
  return (split s.separators found).flatMap (named s)

/-- The fields of words. -/
def fields (k : Kit) : List Word → Act (List Octets)
  | [] => return []
  | w :: rest => return (← fieldsOf k w) ++ (← fields k rest)

end LintRepair.Shell.Expand
