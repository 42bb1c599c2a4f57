import OmniLayer.Bytes

/-! # Public keys of secp256k1

The curve y² = x³ + 7 over a prime field, and the test whether bytes are the serialised form of a
point on it: compressed (a header and x), uncompressed (a header, x and y) or hybrid (the header of
an uncompressed key also gives the parity of y). -/

namespace OmniLayer.Secp256k1

/-- The order of the **field**, a prime that is 3 modulo 4. -/
def prime : Nat :=
  0xfffffffffffffffffffffffffffffffffffffffffffffffffffffffefffffc2f

/-- A power modulo `m`, by repeated squaring. -/
def powMod (m base exponent : Nat) : Nat :=
  if exponent = 0 then 1 % m
  else
    let half := powMod m (base * base % m) (exponent / 2)
    if exponent % 2 = 1 then half * base % m else half
termination_by exponent
decreasing_by omega

/-- The right-hand side of the curve equation. -/
def curveValue (x : Nat) : Nat := (x * x * x + 7) % prime

/-- Whether a field element has a square root: for this prime the power `(p + 1) / 4` is one if any
is. -/
def hasSquareRoot (a : Nat) : Bool :=
  let root := powMod prime a ((prime + 1) / 4)
  root * root % prime == a

/-- Whether some point of the curve has abscissa `x`. -/
def isAbscissa (x : Nat) : Bool := x < prime && hasSquareRoot (curveValue x)

/-- Whether `(x, y)` is a point of the curve. -/
def isPoint (x y : Nat) : Bool := x < prime && y < prime && y * y % prime == curveValue x

/-- The shape of a serialised key: a header byte and the length that goes with it. The point itself
is not looked at. -/
def hasKeyShape : Bytes → Bool
  | [] => false
  | header :: body =>
    if header = 2 ∨ header = 3 then body.length == 32
    else if header = 4 ∨ header = 6 ∨ header = 7 then body.length == 64
    else false

/-- Whether bytes are a **valid public key**. -/
def isPublicKey : Bytes → Bool
  | [] => false
  | header :: body =>
    hasKeyShape (header :: body) &&
      let x := Bytes.toNatBE (body.take 32)
      let y := Bytes.toNatBE (body.drop 32)
      if header = 2 ∨ header = 3 then isAbscissa x
      else isPoint x y && (header == 4 || y % 2 == header.toNat % 2)

/-- A valid public key has the shape of one. -/
theorem hasKeyShape_of_isPublicKey {key : Bytes} (h : isPublicKey key = true) :
    hasKeyShape key = true := by
  cases key with
  | nil => simp [isPublicKey] at h
  | cons header body =>
    simp only [isPublicKey, Bool.and_eq_true] at h
    exact h.1

end OmniLayer.Secp256k1
