import OmniLayer.Carrier.Request
import OmniLayer.Text.Json

/-! # Reports of laid-out payloads

Requests with their byte strings in hexadecimal digits, and the JSON form of the outputs that carry
a payload. -/

namespace OmniLayer

/-- A **request** whose byte strings are still text. -/
inductive RequestText
  /-- A simple send to a receiver. -/
  | address (receiver payload : String)
  /-- Packets masked with the keystream of the sender. -/
  | multisig (sender redeemingKey payload : String)
  /-- Tagged null data, with an optional receiver. -/
  | nullData (receiver : Option String) (payload : String)
  deriving DecidableEq, Repr

/-- Reads the byte strings of a request, in their order. -/
def RequestText.toRequest : RequestText → Except Hex.HexError Request
  | .address receiver payload => do return .address receiver (← Hex.decode payload)
  | .multisig sender redeemingKey payload => do
    return .multisig sender (← Hex.decode redeemingKey) (← Hex.decode payload)
  | .nullData receiver payload => do return .nullData receiver (← Hex.decode payload)

/-- The JSON form of a laid-out output; one without an address has no field for it. -/
def Output.toJson (params : Params) (output : Output) (vout : Nat) : Json :=
  let address := match params.addressOf? output.script with
    | none => []
    | some address => [("address", Json.string address)]
  .object
    ([("vout", .nat vout),
      ("value", .nat output.value.toNat),
      ("script_pubkey", .string (Hex.encode output.script)),
      ("script_class", .string output.scriptClass.name)] ++ address)

/-- The **JSON form** of laid-out outputs. -/
def outputsToJson (params : Params) (outputs : List Output) : Json :=
  .array (outputs.zipIdx.map fun (output, vout) => output.toJson params vout)

end OmniLayer
