import OmniLayer.Hash.Sha256

/-! # Base58 and Base58Check

Byte strings as numbers in base 58, with one `1` for each leading zero byte, and the variant that
carries a four-byte checksum. Reading takes exactly the texts that writing produces. -/

namespace OmniLayer.Base58

/-- The fifty-eight **digits**, in order of value. -/
def alphabet : List Char := "123456789ABCDEFGHJKLMNPQRSTUVWXYZabcdefghijkmnopqrstuvwxyz".toList

/-- The digits of a number in base `base + 2`, lowest first and without a leading zero. -/
def radixDigits (base n : Nat) : List Nat :=
  if n = 0 then [] else n % (base + 2) :: radixDigits base (n / (base + 2))
termination_by n
decreasing_by exact Nat.div_lt_self (by omega) (by omega)

/-- The number that digits in base `base + 2` spell, lowest first. -/
def ofRadixDigits (base : Nat) : List Nat → Nat
  | [] => 0
  | d :: rest => d + (base + 2) * ofRadixDigits base rest

/-- The base 58 digit of a value. -/
def digit (value : Nat) : Char := alphabet.getD value '1'

/-- The value of a base 58 digit. -/
def digitValue? (c : Char) : Option Nat := alphabet.findIdx? (· == c)

/-- A byte string in **base 58**. -/
def encode (bs : Bytes) : String :=
  let zeros := (bs.takeWhile (· == 0)).length
  let digits := (radixDigits 56 (Bytes.toNatBE bs)).reverse.map digit
  String.ofList (List.replicate zeros '1' ++ digits)

/-- The byte string that a **base 58** text spells. -/
def decode? (text : String) : Option Bytes := do
  let values ← text.toList.mapM digitValue?
  let zeros := (values.takeWhile (· == 0)).length
  let number := ofRadixDigits 56 values.reverse
  return List.replicate zeros 0 ++ ((radixDigits 254 number).reverse.map UInt8.ofNat)

/-- The four bytes that guard a Base58Check payload. -/
def checksum (payload : Bytes) : Bytes := (Sha256.doubleDigest payload).bytes.take 4

/-- A byte string in **Base58Check**. -/
def encodeCheck (payload : Bytes) : String := encode (payload ++ checksum payload)

/-- The byte string that a **Base58Check** text spells, if its checksum holds. -/
def decodeCheck? (text : String) : Option Bytes := do
  let bs ← decode? text
  if bs.length < 4 then none
  else
    let payload := bs.take (bs.length - 4)
    if checksum payload = bs.drop (bs.length - 4) then some payload else none

end OmniLayer.Base58
