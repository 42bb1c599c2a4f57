import OmniLayer.Transaction.Wire

/-! # Raw transactions

A transaction as text: its serialised form in hexadecimal digits, blanks around them aside. -/

namespace OmniLayer

/-- Why a text is no **raw transaction**. -/
inductive RawError
  /-- The text is not hexadecimal. -/
  | hex (cause : Hex.HexError)
  /-- The bytes are no serialised transaction. -/
  | wire (cause : Wire.WireError)
  deriving DecidableEq, Repr

/-- The wording of a raw error. -/
def RawError.message : RawError → String
  | .hex cause => "Failed to decode raw transaction hex: " ++ cause.message
  | .wire cause => "Failed to deserialise raw transaction: " ++ cause.message

/-- Reads a **raw transaction**. -/
def Transaction.ofRaw (text : String) : Except RawError Transaction :=
  match Hex.decode (Text.trim text) with
  | .error cause => .error (.hex cause)
  | .ok bs => (Wire.deserialize bs).mapError RawError.wire

end OmniLayer
