import OmniLayer.Carrier
import OmniLayer.Transaction

/-! # Causes of failure

Why a transaction cannot be parsed and why a payload cannot be laid out, each cause with its
wording. One cause is no answer to anybody: when a size passes the largest 64-bit word the run
breaks off then and there, and nobody who handles errors is given this one. -/

namespace OmniLayer

/-- What is wrong with the **structure** of a payload. -/
inductive Malformation
  /-- No output carries data in its address. -/
  | noDataOutput
  /-- More than one output carries data in its address. -/
  | severalDataOutputs (count : Nat)
  /-- The receiver of an address payload is not determined. -/
  | ambiguousReference (count : Nat)
  /-- A key is too short for a packet. -/
  | shortKey (length vout packetSize : Nat)
  /-- No recognised null-data output starts with the marker. -/
  | noMarker
  /-- The first null-data output has the marker only when its pushes are joined. -/
  | splitMarker
  deriving DecidableEq, Repr

/-- The wording of a malformation. -/
def Malformation.message : Malformation → String
  | .noDataOutput => "no Class A data output"
  | .severalDataOutputs count => Decimal.natText count ++ " Class A data outputs"
  | .ambiguousReference count =>
    "ambiguous Class A reference: " ++ Decimal.natText count ++ " outputs match by value"
  | .shortKey length vout packetSize =>
    "key of " ++ Decimal.natText length ++ " bytes at vout " ++ Decimal.natText vout ++
      " cannot hold a " ++ Decimal.natText packetSize ++ "-byte packet"
  | .noMarker => "no allowed null-data output carries the marker"
  | .splitMarker => "first null-data push does not carry the marker"

/-- Why the **sender** of a transaction cannot be told. -/
inductive SenderProblem
  /-- The transaction has no inputs. -/
  | noInputs
  /-- The coin at an outpoint is not known. -/
  | missingCoin (outpoint : OutPoint)
  /-- An input spends a coin of a class that has no sender, or none yet. -/
  | ineligibleCoin (outpoint : OutPoint) (className : String)
  /-- No input spends any value. -/
  | noValue
  /-- Multisig packets cannot be read without a sender. -/
  | senderRequired
  deriving DecidableEq, Repr

/-- The wording for a coin that is not known. -/
def missingCoinMessage (outpoint : OutPoint) : String := "Coin not found: " ++ outpoint.text

/-- The wording of a sender problem. -/
def SenderProblem.message : SenderProblem → String
  | .noInputs => "transaction has no inputs"
  | .missingCoin outpoint => missingCoinMessage outpoint
  | .ineligibleCoin outpoint className =>
    "input " ++ outpoint.text ++ " spends a " ++ className ++ " output"
  | .noValue => "no input contributed any value"
  | .senderRequired => "Class B decode requires a sender"

/-- Why a transaction cannot be **parsed**. -/
inductive ParseError
  /-- The payload is malformed. -/
  | malformedPayload (cause : Malformation)
  /-- The sender cannot be told. -/
  | unresolvableSender (cause : SenderProblem)
  /-- The carrier was not recognised yet at the height. -/
  | activationNotReached (carrier : Carrier) (height : UInt32)
  /-- A size passes the largest word, and the run breaks off. -/
  | overflow
  deriving DecidableEq, Repr

/-- The wording of a parse error; a run that breaks off says nothing. -/
def ParseError.message : ParseError → String
  | .malformedPayload cause => "Malformed payload: " ++ cause.message
  | .unresolvableSender cause => "Unresolvable sender: " ++ cause.message
  | .activationNotReached carrier height =>
    "Encoding class " ++ carrier.letter ++ " not active at height " ++
      Decimal.natText height.toNat
  | .overflow => ""

/-- Why a payload cannot be **laid out**. -/
inductive EncodeError
  /-- An address does not belong to the network. -/
  | invalidAddress (address : String)
  /-- The redeeming key is no public key. -/
  | invalidPubkey (key : Bytes)
  /-- Something is larger than it may be. -/
  | payloadTooLarge (size max : Nat)
  /-- The payload is no simple send. -/
  | unsupportedAddressPayload (payload : Bytes)
  /-- No closing byte makes a packet a public key. -/
  | noValidPoint (sequence : UInt8)
  /-- A size passes the largest word, and the run breaks off. -/
  | overflow
  deriving DecidableEq, Repr

/-- The wording of an encode error; a run that breaks off says nothing. -/
def EncodeError.message : EncodeError → String
  | .invalidAddress address => "Invalid address: " ++ address
  | .invalidPubkey key => "Invalid public key: " ++ Hex.encode key ++ ": malformed public key"
  | .payloadTooLarge size max =>
    "Payload too large: " ++ Decimal.natText size ++ " bytes exceeds " ++ Decimal.natText max ++
      " bytes"
  | .unsupportedAddressPayload payload =>
    "Unsupported Class A payload: " ++ Hex.encode payload ++
      " is not a simple send of MSC or TMSC"
  | .noValidPoint sequence =>
    "Could not find a valid public key for packet " ++ Decimal.natText sequence.toNat
  | .overflow => ""

end OmniLayer
