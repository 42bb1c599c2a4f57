import OmniLayer.Binary64.Decimal
import OmniLayer.Settings.Tree

/-! # Converting settings

A setting is converted to the kind of value that its field wants: truth values and texts pass for
numbers, numbers and truth values for texts. -/

namespace OmniLayer.Setting

/-- The truth value that a text spells, in any case. -/
def truthOfText? (s : String) : Option Bool :=
  let word := Text.lower s
  if word = "true" ∨ word = "on" ∨ word = "yes" then some true
  else if word = "false" ∨ word = "off" ∨ word = "no" then some false
  else none

/-- A setting as a **natural number** of at most `limit`. Fractions are rounded, a half away from
zero. -/
def toNat? (limit : Nat) (setting : Setting) : Option Nat := do
  let n ← match setting with
    | .integer n => if 0 ≤ n then some n.toNat else none
    | .boolean b => some b.toNat
    | .float x => some x.round
    | .text s =>
      match truthOfText? s with
      | some b => some b.toNat
      | none => Decimal.nat? wordMax s.toList
    | _ => none
  if n ≤ limit then some n else none

/-- The number of an integer. -/
def ofInt (n : Int) : Binary64 :=
  if n < 0 then (Binary64.ofNat n.natAbs).neg else Binary64.ofNat n.natAbs

/-- A setting as a **floating-point number**. -/
def toFloat? : Setting → Option Binary64
  | .integer n => some (ofInt n)
  | .boolean b => some (Binary64.ofNat b.toNat)
  | .float x => some x
  | .text s =>
    match truthOfText? s with
    | some b => some (Binary64.ofNat b.toNat)
    | none => Binary64.ofText? s
  | _ => none

/-- A setting as a **text**. -/
def toText? : Setting → Option String
  | .integer n => some (Decimal.intText n)
  | .boolean b => some (if b then "true" else "false")
  | .float x => some x.text
  | .text s => some s
  | _ => none

end OmniLayer.Setting
