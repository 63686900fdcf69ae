/-
Sums: whole numbers, variables and operators.

* `Arithmetic.tokens`: the tokens of a sum;
* `Arithmetic.evaluate`: the number that a sum comes to, with the variables that it
  sets, or why there is none.

Numbers are words of 64 bits with a sign and wrap around. What is not needed
is read but not carried out.
-/
import LintRepair.Json.Display
import LintRepair.Shell.Numeral

namespace LintRepair.Shell.Arithmetic

/-- An operator between two numbers. -/
inductive Operator
  | times | over | modulo | plus | minus | shiftLeft | shiftRight
  | less | atMost | greater | atLeast | equal | unequal | bitAnd | bitXor | bitOr
  deriving DecidableEq, Repr

/-- How loosely an operator binds. -/
def Operator.looseness : Operator → Nat
  | .times | .over | .modulo => 0
  | .plus | .minus => 1
  | .shiftLeft | .shiftRight => 2
  | .less | .atMost | .greater | .atLeast => 3
  | .equal | .unequal => 4
  | .bitAnd => 5
  | .bitXor => 6
  | .bitOr => 7

/-- The word without a sign that has the bits of a number. -/
def bits (n : Int) : Nat := (Int.emod n Numeral.wordCount).toNat

/-- The truth of a statement as a number. -/
def truth (b : Bool) : Int := if b then 1 else 0

/-- What an operator makes of two numbers; none if it divides by zero. -/
def Operator.apply? (o : Operator) (a b : Int) : Option Int :=
  let amount := bits b % 64
  match o with
  | .times => some (Numeral.wrap (a * b))
  | .over => if b = 0 then none else some (Numeral.wrap (Int.tdiv a b))
  | .modulo => if b = 0 then none else some (Numeral.wrap (Int.tmod a b))
  | .plus => some (Numeral.wrap (a + b))
  | .minus => some (Numeral.wrap (a - b))
  | .shiftLeft => some (Numeral.wrap (a * (Nat.pow 2 amount : Nat)))
  | .shiftRight => some (Int.fdiv a (Nat.pow 2 amount : Nat))
  | .less => some (truth (a < b))
  | .atMost => some (truth (a ≤ b))
  | .greater => some (truth (b < a))
  | .atLeast => some (truth (b ≤ a))
  | .equal => some (truth (a = b))
  | .unequal => some (truth (a ≠ b))
  | .bitAnd => some (Numeral.wrap (Nat.land (bits a) (bits b)))
  | .bitXor => some (Numeral.wrap (Nat.xor (bits a) (bits b)))
  | .bitOr => some (Numeral.wrap (Nat.lor (bits a) (bits b)))

/-- A token of a sum. -/
inductive Token
  | number (n : Int)
  | variable (name : Octets)
  | operator (o : Operator)
  /-- Sets a variable, perhaps by an operator on its value. -/
  | set (o? : Option Operator)
  | both | either | not | bitNot | opening | closing | question | colon
  /-- A character that means nothing in a sum. -/
  | alien
  deriving DecidableEq, Repr

/-- What a variable's name starts with. -/
def isNameStart (c : Char) : Bool := Text.isAsciiLetter c || c == '_'

/-- What a variable's name goes on with. -/
def isNamePart (c : Char) : Bool := isNameStart c || Text.isAsciiDigit c

/-- The token that signs at the start of a text are, and how many there
are. -/
def sign (t : Octets) : Token × Nat :=
  match t with
  | '<' :: '<' :: '=' :: _ => (.set (some .shiftLeft), 3)
  | '>' :: '>' :: '=' :: _ => (.set (some .shiftRight), 3)
  | '<' :: '<' :: _ => (.operator .shiftLeft, 2)
  | '>' :: '>' :: _ => (.operator .shiftRight, 2)
  | '<' :: '=' :: _ => (.operator .atMost, 2)
  | '>' :: '=' :: _ => (.operator .atLeast, 2)
  | '=' :: '=' :: _ => (.operator .equal, 2)
  | '!' :: '=' :: _ => (.operator .unequal, 2)
  | '&' :: '&' :: _ => (.both, 2)
  | '|' :: '|' :: _ => (.either, 2)
  | '*' :: '=' :: _ => (.set (some .times), 2)
  | '/' :: '=' :: _ => (.set (some .over), 2)
  | '%' :: '=' :: _ => (.set (some .modulo), 2)
  | '+' :: '=' :: _ => (.set (some .plus), 2)
  | '-' :: '=' :: _ => (.set (some .minus), 2)
  | '&' :: '=' :: _ => (.set (some .bitAnd), 2)
  | '^' :: '=' :: _ => (.set (some .bitXor), 2)
  | '|' :: '=' :: _ => (.set (some .bitOr), 2)
  | '<' :: _ => (.operator .less, 1)
  | '>' :: _ => (.operator .greater, 1)
  | '=' :: _ => (.set none, 1)
  | '!' :: _ => (.not, 1)
  | '~' :: _ => (.bitNot, 1)
  | '&' :: _ => (.operator .bitAnd, 1)
  | '^' :: _ => (.operator .bitXor, 1)
  | '|' :: _ => (.operator .bitOr, 1)
  | '*' :: _ => (.operator .times, 1)
  | '/' :: _ => (.operator .over, 1)
  | '%' :: _ => (.operator .modulo, 1)
  | '+' :: _ => (.operator .plus, 1)
  | '-' :: _ => (.operator .minus, 1)
  | '(' :: _ => (.opening, 1)
  | ')' :: _ => (.closing, 1)
  | '?' :: _ => (.question, 1)
  | ':' :: _ => (.colon, 1)
  | _ => (.alien, 1)

/-- The tokens of a sum; `skip` characters are still to be left out. -/
def tokensFrom : Nat → Octets → List Token
  | _, [] => []
  | skip + 1, _ :: rest => tokensFrom skip rest
  | 0, c :: rest =>
    if Text.isSpaceOrTab c || c == '\n' then tokensFrom 0 rest
    else if Text.isAsciiDigit c then
      let n := Numeral.read (c :: rest)
      .number n.signed :: tokensFrom (rest.length - n.rest.length) rest
    else if isNameStart c then
      let name := c :: rest.takeWhile isNamePart
      .variable name :: tokensFrom (name.length - 1) rest
    else
      let (token, length) := sign (c :: rest)
      token :: tokensFrom (length - 1) rest

/-- The tokens of a sum. -/
def tokens (t : Octets) : List Token := tokensFrom 0 t

/-- Why a sum comes to nothing. -/
inductive Fault
  | noPrimary
  | noColon
  | noClosing
  | noEnd
  | zeroDivisor
  /-- The value of a variable is no number. -/
  | noNumber (value : Octets)
  deriving DecidableEq, Repr

/-- The wording of a fault of a sum. -/
def Fault.message (sum : Octets) (f : Fault) : Octets :=
  let about (words : String) : Octets :=
    "arithmetic expression: ".toList ++ words.toList ++ ": \x22".toList ++ sum ++ ['\x22']
  match f with
  | .noPrimary => about "expecting primary"
  | .noColon => about "expecting ':'"
  | .noClosing => about "expecting ')'"
  | .noEnd => about "expecting EOF"
  | .zeroDivisor => about "division by zero"
  | .noNumber value => "Illegal number: ".toList ++ value

/-- What is left of a sum, and the variables that were set. -/
structure State where
  tokens : List Token
  values : List (Octets × Octets) := []

/-- A step through a sum. -/
abbrev Step := StateT State (Except Fault)

/-- The number that a text is, with blanks around it. -/
def valueOf (t : Octets) : Except Fault Int :=
  let n := Numeral.read t
  if n.fitsSigned && (n.rest.dropWhile Number.isPlainBlank).isEmpty then .ok n.signed
  else .error (.noNumber t)

/-- The value of a variable. -/
def fetch (lookup : Octets → Option Octets) (name : Octets) : Step Int := do
  let value? := ((← get).values.lookup name).orElse fun _ => lookup name
  match value? with
  | some t => if t.all Number.isPlainBlank then return 0 else valueOf t
  | none => return 0

/-- Sets a variable. -/
def store (name : Octets) (n : Int) : Step Unit :=
  modify fun s => { s with values := (name, (Json.intText n).toList) :: s.values }

/-- The next token. -/
def peek : Step (Option Token) := return (← get).tokens.head?

/-- Goes on behind the next token. -/
def advance : Step Unit := modify fun s => { s with tokens := s.tokens.tail }

/-- What an operator makes of two numbers. -/
def combine (o : Operator) (a b : Int) : Step Int :=
  match o.apply? a b with
  | some n => return n
  | none => throw .zeroDivisor

mutual

/-- A number, a variable or a sum in parentheses, with signs in front. -/
def primary (lookup : Octets → Option Octets) (skips : Bool) : Nat → Step Int
  | 0 => throw .noPrimary
  | n + 1 => do
    let token? ← peek
    advance
    match token? with
    | some (.number k) => return k
    | some (.variable name) => if skips then return 0 else fetch lookup name
    | some (.operator .plus) => primary lookup skips n
    | some (.operator .minus) => return Numeral.wrap (-(← primary lookup skips n))
    | some .not => return truth ((← primary lookup skips n) == 0)
    | some .bitNot => return -1 - (← primary lookup skips n)
    | some .opening => do
      let k ← assignment lookup skips n
      if (← peek) ≠ some .closing then throw .noClosing
      advance
      return k
    | _ => throw .noPrimary

/-- What follows a number, up to an operator that binds as loosely as the
bound. -/
def climb (lookup : Octets → Option Octets) (skips : Bool) (bound : Nat) (a : Int) :
    Nat → Step Int
  | 0 => return a
  | n + 1 => do
    match ← peek with
    | some (.operator o) =>
      if o.looseness < bound then do
        advance
        let b ← primary lookup skips n
        let b ← climb lookup skips o.looseness b n
        let c ← if skips then pure b else combine o a b
        climb lookup skips bound c n
      else return a
    | _ => return a

/-- A conjunction. -/
def conjunction (lookup : Octets → Option Octets) (skips : Bool) : Nat → Step Int
  | 0 => throw .noPrimary
  | n + 1 => do
    let a ← climb lookup skips 8 (← primary lookup skips n) n
    if (← peek) ≠ some .both then return a
    advance
    let b ← conjunction lookup (skips || a == 0) n
    return truth (a ≠ 0 && b ≠ 0)

/-- A disjunction. -/
def disjunction (lookup : Octets → Option Octets) (skips : Bool) : Nat → Step Int
  | 0 => throw .noPrimary
  | n + 1 => do
    let a ← conjunction lookup skips n
    if (← peek) ≠ some .either then return a
    advance
    let b ← disjunction lookup (skips || a ≠ 0) n
    return truth (a ≠ 0 || b ≠ 0)

/-- A choice between two sums. -/
def choice (lookup : Octets → Option Octets) (skips : Bool) : Nat → Step Int
  | 0 => throw .noPrimary
  | n + 1 => do
    let a ← disjunction lookup skips n
    if (← peek) ≠ some .question then return a
    advance
    let b ← assignment lookup (skips || a == 0) n
    if (← peek) ≠ some .colon then throw .noColon
    advance
    let c ← choice lookup (skips || a ≠ 0) n
    return if a ≠ 0 then b else c

/-- A sum that may set a variable. -/
def assignment (lookup : Octets → Option Octets) (skips : Bool) : Nat → Step Int
  | 0 => throw .noPrimary
  | n + 1 => do
    match (← get).tokens with
    | .variable name :: .set o? :: _ => do
      advance
      advance
      let b ← assignment lookup skips n
      if skips then return b
      let k ← match o? with
        | none => pure b
        | some o => combine o (← fetch lookup name) b
      store name k
      return k
    | _ => choice lookup skips n

end

/-- The number that a sum comes to, with the variables that it sets, the last
one first. -/
def evaluate (lookup : Octets → Option Octets) (t : Octets) :
    Except Fault (Int × List (Octets × Octets)) := do
  let ts := tokens t
  let (n, s) ← (assignment lookup false (8 * ts.length + 8)).run { tokens := ts }
  if s.tokens.isEmpty then return (n, s.values) else throw .noEnd

end LintRepair.Shell.Arithmetic
