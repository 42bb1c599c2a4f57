import OmniLayer.Binary64.Decimal

/-! # Decimals scaled from a word

A reader of decimals that needs one word: the leading digits are gathered as a whole number, and the
number nearest to it is multiplied or divided by the one nearest to a power of ten. Digits past the
word count by their place alone. The result is the nearest number where the whole number and the
power are exact, and may be a neighbour of it elsewhere. -/

namespace OmniLayer.Binary64

/-- The largest power of ten that is a finite number. -/
def maxTens : Nat := 308

/-- The number nearest to a **power of ten**. -/
def tenTo (n : Nat) : Binary64 := ofDecimal false 1 n

/-- A number times a **power of ten**, rounded at each division by the largest power. -/
def scale (x : Binary64) (exponent : Int) : Binary64 :=
  if x.bits.toNat % signBit = 0 then x
  else if (maxTens : Int) < exponent then ofSigned x.isNegative infinityBits
  else if 0 ≤ exponent then x.mul (tenTo exponent.toNat)
  else if -(maxTens : Int) ≤ exponent then x.div (tenTo (-exponent).toNat)
  else scale (x.div (tenTo maxTens)) (exponent + maxTens)
termination_by exponent.natAbs
decreasing_by simp only [maxTens] at *; omega

/-- Gathers digits behind a number while it fits in a word: the number, and how many digits it
took. -/
def gather (value : Nat) : List Char → Nat × Nat
  | [] => (value, 0)
  | c :: rest =>
    let next := value * 10 + (Decimal.digitValue? c).getD 0
    if next ≤ wordMax then
      let (gathered, count) := gather next rest
      (gathered, count + 1)
    else (value, 0)

/-- The number that a decimal's **gathered digits** give. Digits are gathered anew behind the point,
so one there may fit where one in front of it did not. -/
def ofGathered (parts : DecimalParts) : Binary64 :=
  let (whole, taken) := gather 0 parts.whole
  let (digits, behind) := gather whole parts.fraction
  (ofNat digits).scale (parts.exponent + (parts.whole.length - taken : Nat) - behind)

/-- Reads a **decimal** by its gathered digits, with an optional minus sign. -/
def scaledOfText? (text : String) : Option Binary64 :=
  match text.toList with
  | '-' :: rest => (decimalParts? rest).map fun parts => (ofGathered parts).neg
  | cs => (decimalParts? cs).map ofGathered

end OmniLayer.Binary64
