import OmniLayer.Bytes
import OmniLayer.Text.Decimal

/-! # Binary64 numbers

Floating-point numbers of 64 bits, kept as their bits. Each operation computes its exact result as a
quotient of naturals and rounds it once, to the nearest number and to the even one of two. -/

namespace OmniLayer

/-- A **binary64 number**, given by its bits. -/
structure Binary64 where
  /-- Sign, exponent field and fraction. -/
  bits : UInt64
  deriving DecidableEq, Repr

namespace Binary64

/-- What stands behind the sign of a number. -/
inductive Magnitude
  /-- The number `mantissa` times two to the power `exponent`. -/
  | finite (mantissa : Nat) (exponent : Int)
  /-- An infinity. -/
  | infinite
  /-- No number. -/
  | nan
  deriving DecidableEq, Repr

/-- The weight of the **leading bit** of a normal mantissa, which has 53 bits. -/
def leadingBit : Nat := 0x10000000000000

/-- The bit that makes a number negative. -/
def signBit : Nat := 0x8000000000000000

/-- The bits of the positive infinity. -/
def infinityBits : Nat := 0x7ff * leadingBit

/-- Whether the sign is negative. -/
def isNegative (x : Binary64) : Bool := signBit ≤ x.bits.toNat

/-- The magnitude of a number. -/
def magnitude (x : Binary64) : Magnitude :=
  let field : Nat := x.bits.toNat / leadingBit % 0x800
  let fraction : Nat := x.bits.toNat % leadingBit
  if field = 0x7ff then if fraction = 0 then .infinite else .nan
  else if field = 0 then .finite fraction (-1074)
  else .finite (leadingBit + fraction) ((field : Int) - 1075)

/-- A number from its sign and the bits behind it. -/
def ofSigned (negative : Bool) (bits : Nat) : Binary64 :=
  ⟨UInt64.ofNat (if negative then signBit + bits else bits)⟩

/-- The number zero. -/
def zero : Binary64 := ⟨0⟩

/-- The positive infinity. -/
def infinity : Binary64 := ofSigned false infinityBits

/-- No number, with a positive sign. -/
def nan : Binary64 := ofSigned false (infinityBits + leadingBit / 2)

/-- A number with the other sign. -/
def neg (x : Binary64) : Binary64 := ⟨x.bits ^^^ 0x8000000000000000⟩

/-- A quotient rounded to the **nearest** natural, and to the even one of two. -/
def roundHalfEven (num den : Nat) : Nat :=
  let q := num / den
  let twice := 2 * (num % den)
  if twice < den then q else if den < twice then q + 1 else q + q % 2

/-- A quotient with its numerator or denominator multiplied by a power of a base, so that it is
divided by `base` to the power `exponent`. -/
def scaleDown (base num den : Nat) (exponent : Int) : Nat × Nat :=
  (num * base.pow (-exponent).toNat, den * base.pow exponent.toNat)

/-- The exponent with which a positive quotient has a mantissa of 53 bits, or the least exponent. -/
def exponentFor (num den : Nat) : Int :=
  let guess := (Nat.log2 num : Int) - (Nat.log2 den : Int)
  let (n, d) := scaleDown 2 num den guess
  max (-1074) ((if n < d then guess - 1 else guess) - 52)

/-- The bits of the number **nearest** to a quotient. -/
def bitsOfRatio (num den : Nat) : Nat :=
  if num = 0 then 0
  else
    let exponent := exponentFor num den
    let (n, d) := scaleDown 2 num den exponent
    min infinityBits ((exponent + 1074).toNat * leadingBit + roundHalfEven n d)

/-- The number nearest to a **decimal**: `mantissa` times ten to the power `exponent`. Decimals far
outside the range are recognised by the count of their digits. -/
def ofDecimal (negative : Bool) (mantissa : Nat) (exponent : Int) : Binary64 :=
  let size := ((Nat.toDigits 10 mantissa).length : Int) + exponent
  if mantissa = 0 ∨ size < -340 then ofSigned negative 0
  else if size > 320 then ofSigned negative infinityBits
  else
    let (n, d) := scaleDown 10 mantissa 1 (-exponent)
    ofSigned negative (bitsOfRatio n d)

/-- The number nearest to a natural. -/
def ofNat (n : Nat) : Binary64 := ofSigned false (bitsOfRatio n 1)

/-- The **product** of two numbers. -/
def mul (x y : Binary64) : Binary64 :=
  let negative := x.isNegative != y.isNegative
  match x.magnitude, y.magnitude with
  | .finite m e, .finite n f =>
    let (a, b) := scaleDown 2 (m * n) 1 (-(e + f))
    ofSigned negative (bitsOfRatio a b)
  | .nan, _ => nan
  | _, .nan => nan
  | .infinite, .finite 0 _ => nan
  | .finite 0 _, .infinite => nan
  | _, _ => ofSigned negative infinityBits

/-- The **quotient** of two numbers. Zero over zero is no number, and neither is an infinity over an
infinity. -/
def div (x y : Binary64) : Binary64 :=
  let negative := x.isNegative != y.isNegative
  match x.magnitude, y.magnitude with
  | .finite m e, .finite n f =>
    if n = 0 then if m = 0 then nan else ofSigned negative infinityBits
    else
      let (a, b) := scaleDown 2 m n (f - e)
      ofSigned negative (bitsOfRatio a b)
  | .infinite, .finite _ _ => ofSigned negative infinityBits
  | .finite _ _, .infinite => ofSigned negative 0
  | _, _ => nan

/-- The quotient of two naturals, each first rounded to a number. -/
def ratio (num den : Nat) : Binary64 := (ofNat num).div (ofNat den)

/-- The whole part of a number as a 64-bit word: negative numbers and no number give zero, numbers
past the last word that word. -/
def truncate (x : Binary64) : Nat :=
  if x.isNegative then 0
  else
    match x.magnitude with
    | .finite m e =>
      let (n, d) := scaleDown 2 m 1 (-e)
      min wordMax (n / d)
    | .infinite => wordMax
    | .nan => 0

/-- The whole part of a number is a word. -/
theorem truncate_le (x : Binary64) : x.truncate ≤ wordMax := by
  unfold truncate
  split
  · exact Nat.zero_le _
  · cases x.magnitude with
    | finite mantissa exponent => exact Nat.min_le_left ..
    | infinite => exact Nat.le_refl _
    | nan => exact Nat.zero_le _

/-- A number as a 64-bit word after rounding a half away from zero. -/
def round (x : Binary64) : Nat :=
  if x.isNegative then 0
  else
    match x.magnitude with
    | .finite m e =>
      let (n, d) := scaleDown 2 m 1 (-e)
      min wordMax ((2 * n + d) / (2 * d))
    | .infinite => wordMax
    | .nan => 0

end Binary64

end OmniLayer
