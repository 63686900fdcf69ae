/-
Text as bytes, in UTF-8.

* `encode`: the bytes of a text;
* `pieces`: what a list of bytes holds, characters and faulty stretches;
* `decode`: the text that bytes are, if there is no fault among them;
* `repaired`: the text with a mark in place of each faulty stretch;
* `unifyLineEnds`: line ends of every kind as line feeds;
* `Octets`, `Octets.ofBytes`, `Octets.toBytes`: bytes as characters, each the one with
  the number of the byte; `Octets.ofText`, `Octets.toText`: from a text and back;
* `toBytes_ofBytes`: no byte is lost.

A faulty stretch is the longest start of a character that the next byte does
not continue, or a byte that starts none. What takes bytes apart at signs of
ASCII is written over octets like what takes a text apart.
-/
import LintRepair.Json.Display
import LintRepair.Text.Basic

namespace LintRepair.Utf8

/-- What a file or a stream holds. -/
abbrev Bytes := List UInt8

/-- What is wrong with a stretch of bytes. -/
inductive Flaw
  /-- A byte that starts no character. -/
  | start
  /-- The next byte does not go on with the character. -/
  | continuation
  /-- There are no more bytes. -/
  | cutOff
  deriving DecidableEq, Repr

/-- The words for a flaw. -/
def Flaw.text : Flaw → String
  | .start => "invalid start byte"
  | .continuation => "invalid continuation byte"
  | .cutOff => "unexpected end of data"

/-- A stretch of bytes that is no character. -/
structure Fault where
  flaw : Flaw
  /-- The first byte of the stretch. -/
  byte : UInt8
  /-- Where the stretch starts, and where it is over. -/
  start : Nat
  stop : Nat
  deriving DecidableEq, Repr

/-- The wording of a fault. -/
def Fault.message (f : Fault) : String :=
  "'utf-8' codec can't decode " ++
  (if f.stop = f.start + 1 then
    "byte 0x" ++ Json.hexText 2 f.byte.toNat ++ " in position " ++ Json.intText f.start
  else
    "bytes in position " ++ Json.intText f.start ++ "-" ++ Json.intText (f.stop - 1)) ++
  ": " ++ f.flaw.text

/-! ### Reading bytes -/

/-- A character of which some bytes are still to come. -/
structure Unfinished where
  byte : UInt8
  start : Nat
  /-- How many bytes are to come. -/
  owed : Nat
  /-- The bounds of the next one. -/
  low : UInt8 := 0x80
  high : UInt8 := 0xBF
  /-- What the bytes so far contribute to the number of the character. -/
  code : Nat

/-- What a byte is that does not continue a character: one by itself, the
first of several, or a fault. -/
def first (offset : Nat) (b : UInt8) : Except Fault (Char ⊕ Unfinished) :=
  let more (owed : Nat) (code : UInt8) (low high : UInt8) : Except Fault (Char ⊕ Unfinished) :=
    .ok (.inr { byte := b, start := offset, owed, low, high, code := code.toNat })
  if b < 0x80 then .ok (.inl (Char.ofNat b.toNat))
  else if b < 0xC2 then .error ⟨.start, b, offset, offset + 1⟩
  else if b < 0xE0 then more 1 (b - 0xC0) 0x80 0xBF
  else if b < 0xF0 then
    more 2 (b - 0xE0) (if b = 0xE0 then 0xA0 else 0x80) (if b = 0xED then 0x9F else 0xBF)
  else if b < 0xF5 then
    more 3 (b - 0xF0) (if b = 0xF0 then 0x90 else 0x80) (if b = 0xF4 then 0x8F else 0xBF)
  else .error ⟨.start, b, offset, offset + 1⟩

/-- A character or a faulty stretch. -/
abbrev Piece := Except Fault Char

/-- What a byte adds that does not continue a character, and what is then
still open. -/
def Piece.opening (offset : Nat) (b : UInt8) : List Piece × Option Unfinished :=
  match first offset b with
  | .ok (.inl c) => ([.ok c], none)
  | .ok (.inr p) => ([], some p)
  | .error f => ([.error f], none)

/-- What bytes hold from an offset on, with a character perhaps still open. -/
def piecesFrom (offset : Nat) : Option Unfinished → Bytes → List Piece
  | none, [] => []
  | some p, [] => [.error ⟨.cutOff, p.byte, p.start, offset⟩]
  | none, b :: rest =>
    let (found, next?) := Piece.opening offset b
    found ++ piecesFrom (offset + 1) next? rest
  | some p, b :: rest =>
    if p.low ≤ b && b ≤ p.high then
      let code := p.code * 64 + (b - 0x80).toNat
      if p.owed ≤ 1 then .ok (Char.ofNat code) :: piecesFrom (offset + 1) none rest
      else
        piecesFrom (offset + 1)
          (some { byte := p.byte, start := p.start, owed := p.owed - 1, code }) rest
    else
      let (found, next?) := Piece.opening offset b
      .error ⟨.continuation, p.byte, p.start, offset⟩ :: found ++
        piecesFrom (offset + 1) next? rest

/-- What bytes hold. -/
def pieces (bs : Bytes) : List Piece := piecesFrom 0 none bs

/-- The text that bytes are. -/
def decode (bs : Bytes) : Except Fault Text := (pieces bs).mapM id

/-- The text that bytes are, with a mark in place of each fault. -/
def repaired (bs : Bytes) : Text :=
  (pieces bs).map fun
    | .ok c => c
    | .error _ => '\ufffd'

/-- The bytes of a text. -/
def encode (t : Text) : Bytes := (String.ofList t).toUTF8.toList

/-! ### Line ends -/

/-- A text with a line feed for every line end of one or two characters. -/
def unifyLineEnds : Text → Text
  | '\r' :: '\n' :: rest => '\n' :: unifyLineEnds rest
  | c :: rest => (if c = '\r' then '\n' else c) :: unifyLineEnds rest
  | [] => []

end LintRepair.Utf8

namespace LintRepair

/-- Characters that stand for bytes. -/
abbrev Octets := List Char

namespace Octets

open Utf8

/-- The characters for bytes. -/
def ofBytes (bs : Bytes) : Octets := bs.map fun b => Char.ofNat b.toNat

/-- The bytes that characters stand for. -/
def toBytes (t : Octets) : Bytes := t.map fun c => UInt8.ofNat c.toNat

/-- The bytes of a text. -/
def ofText (t : Text) : Octets := ofBytes (encode t)

/-- The text that bytes are, with a mark in place of each fault. -/
def toText (t : Octets) : Text := repaired (toBytes t)

/-- The bytes of a string. -/
def ofString (s : String) : Octets := ofText s.toList

/-- The string that bytes are, with a mark in place of each fault. -/
def toString (t : Octets) : String := String.ofList (toText t)

theorem toNat_ofNat_of_lt {n : Nat} (h : n < 256) : (Char.ofNat n).toNat = n := by
  have isValid : n.isValidChar := Or.inl (by omega)
  rw [Char.ofNat, dif_pos isValid]
  rfl

/-- No byte is lost. -/
theorem toBytes_ofBytes (bs : Bytes) : toBytes (ofBytes bs) = bs := by
  induction bs with
  | nil => rfl
  | cons b rest ih =>
    rw [ofBytes, List.map_cons, toBytes, List.map_cons, toNat_ofNat_of_lt b.toNat_lt,
      UInt8.ofNat_toNat]
    exact congrArg (b :: ·) ih

end Octets

end LintRepair
