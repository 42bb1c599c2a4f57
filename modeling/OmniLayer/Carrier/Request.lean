import OmniLayer.Carrier.Address
import OmniLayer.Carrier.Multisig
import OmniLayer.Carrier.NullData

/-! # Requests

One entry to the three encoders and one to the three decoders. -/

namespace OmniLayer

/-- A **request** to lay out a payload as outputs. -/
inductive Request
  /-- A simple send to a receiver. -/
  | address (receiver : String) (payload : Bytes)
  /-- Packets masked with the keystream of the sender. -/
  | multisig (sender : String) (redeemingKey payload : Bytes)
  /-- Tagged null data, with an optional receiver. -/
  | nullData (receiver : Option String) (payload : Bytes)
  deriving DecidableEq, Repr

namespace Request

/-- The carrier that a request asks for. -/
def carrier : Request → Carrier
  | .address _ _ => .address
  | .multisig _ _ _ => .multisig
  | .nullData _ _ => .nullData

/-- **Lays out** the payload of a request. -/
def encode (params : Params) : Request → Except EncodeError (List Output)
  | .address receiver payload => AddressCarrier.encode params receiver payload
  | .multisig sender redeemingKey payload =>
    MultisigCarrier.encode params sender redeemingKey payload
  | .nullData receiver payload => NullDataCarrier.encode params receiver payload

end Request

/-- **Reads** the payload that outputs carry in a given way. Multisig packets need the sender. -/
def Carrier.decode (params : Params) (active : Activation) (sender : Option String)
    (outputs : List Output) : Carrier → Except ParseError Bytes
  | .address => (AddressCarrier.decode params active outputs).map (·.payload)
  | .multisig =>
    match sender with
    | none => .error (.unresolvableSender .senderRequired)
    | some sender => MultisigCarrier.decode params active sender outputs
  | .nullData => NullDataCarrier.decode params active outputs

end OmniLayer
