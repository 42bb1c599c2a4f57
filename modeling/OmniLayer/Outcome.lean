import OmniLayer.Error
import OmniLayer.Message.Header

/-! # Outcomes

What a parse yields: a message with all that is known about it, or the finding that the transaction
carries none. -/

namespace OmniLayer

/-- A **message**. -/
structure Message where
  /-- The identifier of the transaction, as text. -/
  txid : String
  /-- The address of the sender. -/
  sender : String
  /-- The address of the receiver, if there is one. -/
  receiver : Option String
  /-- The fee in satoshis. -/
  fee : Int64
  /-- The payload. -/
  payload : Bytes
  /-- How the payload was carried. -/
  carrier : Carrier
  /-- The height of the block. -/
  blockHeight : UInt32
  /-- The time of the block. -/
  blockTime : UInt32
  deriving DecidableEq, Repr

/-- The header of a message, if its payload is long enough for one. -/
def Message.header? (message : Message) : Option Header := Header.ofPayload? message.payload

/-- The **outcome** of a parse. -/
inductive Outcome
  /-- The transaction carries a message. -/
  | message (message : Message)
  /-- The transaction carries none. -/
  | notProtocol
  deriving DecidableEq, Repr

namespace Outcome

/-- The message of an outcome. -/
def message? : Outcome → Option Message
  | .message m => some m
  | .notProtocol => none

/-- Whether there is a message. -/
def isProtocol : Outcome → Bool
  | .message _ => true
  | .notProtocol => false

end Outcome

/-- The **result** of a parse. -/
abbrev ParseResult := Except ParseError Outcome

/-- Whether a parse **broke off**, so that nobody is given a result. -/
def ParseResult.brokeOff : ParseResult → Bool
  | .error .overflow => true
  | _ => false

/-- A parse broke off when a size passed the largest word. -/
@[simp] theorem ParseResult.brokeOff_iff {result : ParseResult} :
    result.brokeOff = true ↔ result = .error .overflow := by
  cases result with
  | ok outcome => simp [brokeOff]
  | error cause => cases cause <;> simp [brokeOff]

end OmniLayer
