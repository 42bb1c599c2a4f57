import OmniLayer.Message.Header

/-! # Simple sends

The only messages that fit in an address: version 0, type 0, one of two properties and an amount of
eight bytes. -/

namespace OmniLayer

/-- The **properties** that a data address can move. -/
inductive Property
  /-- The main property. -/
  | msc
  /-- The test property. -/
  | tmsc
  deriving DecidableEq, Repr

namespace Property

/-- The number of a property. -/
def id : Property → Nat
  | .msc => 1
  | .tmsc => 2

/-- The property with a number. -/
def ofId? (id : Nat) : Option Property :=
  if id = 1 then some .msc else if id = 2 then some .tmsc else none

/-- The name of a property. -/
def name : Property → String
  | .msc => "Msc"
  | .tmsc => "Tmsc"

end Property

/-- A **simple send**. -/
structure SimpleSend where
  /-- The property sent. -/
  property : Property
  /-- The amount sent. -/
  amount : UInt64
  deriving DecidableEq, Repr

/-- Reads a simple send off the front of a payload: four zero bytes, the number of a property in
four bytes and the amount in eight. Bytes after the amount are ignored. -/
def SimpleSend.ofPayload? (payload : Bytes) : Option SimpleSend := do
  let (header, rest) ← Bytes.takeExact? 4 payload
  if header ≠ [0, 0, 0, 0] then none
  else
    let (id, rest) ← Bytes.takeExact? 4 rest
    let property ← Property.ofId? (Bytes.toNatBE id)
    let (amount, _) ← Bytes.takeExact? 8 rest
    return ⟨property, UInt64.ofNat (Bytes.toNatBE amount)⟩

end OmniLayer
