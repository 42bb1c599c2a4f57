import OmniLayer.Text.Decimal
import OmniLayer.Text.Escape

/-! # Hexadecimal text

Bytes as pairs of hexadecimal digits. Writing uses small letters; reading accepts both cases and
says what is wrong: first an odd length, then the first byte that is no digit. -/

namespace OmniLayer.Hex

/-- Why a text is no hexadecimal byte string. -/
inductive HexError
  /-- The text has an odd number of bytes. -/
  | oddLength
  /-- The byte at `position` is no digit; `character` is that byte read as a code point. -/
  | invalidCharacter (character : Char) (position : Nat)
  deriving DecidableEq, Repr

/-- The wording of a hexadecimal error. -/
def HexError.message : HexError → String
  | .oddLength => "Odd number of digits"
  | .invalidCharacter character position =>
    "Invalid character " ++ Escape.quoted '\'' (String.singleton character) ++ " at position " ++
      Decimal.natText position

/-- The digit of a number below sixteen. -/
def digit (n : Nat) : Char := "0123456789abcdef".toList.getD n '0'

/-- The digits of a byte string, two for each byte. -/
def digits (bs : Bytes) : List Char :=
  bs.flatMap fun b => [digit (b.toNat / 16), digit (b.toNat % 16)]

/-- A byte string as **hexadecimal text**. -/
def encode (bs : Bytes) : String := String.ofList (digits bs)

/-- The value of a digit, given as its byte. -/
def digitValue? (b : UInt8) : Option Nat :=
  let n := b.toNat
  if 0x30 ≤ n ∧ n ≤ 0x39 then some (n - 0x30)
  else if 0x61 ≤ n ∧ n ≤ 0x66 then some (n - 0x57)
  else if 0x41 ≤ n ∧ n ≤ 0x46 then some (n - 0x37)
  else none

/-- Reads pairs of digits, the first of which stands at `position`. -/
def decodePairs (position : Nat) : Bytes → Except HexError Bytes
  | [] => .ok []
  | [_] => .error .oddLength
  | high :: low :: rest =>
    match digitValue? high, digitValue? low with
    | none, _ => .error (.invalidCharacter (Char.ofNat high.toNat) position)
    | _, none => .error (.invalidCharacter (Char.ofNat low.toNat) (position + 1))
    | some h, some l => do
      let bs ← decodePairs (position + 2) rest
      .ok (UInt8.ofNat (16 * h + l) :: bs)

/-- The byte string that a **hexadecimal text** spells. -/
def decode (text : String) : Except HexError Bytes :=
  let bs := Text.utf8 text
  if bs.length % 2 = 1 then .error .oddLength else decodePairs 0 bs

end OmniLayer.Hex
