import OmniLayer.Outcome.Report
import OmniLayer.Parse

/-! # Inspections

An inspection keeps every step of a parse: how each output is seen, the decision on the carrier, the
sender or why there is none, the packets of a multisig payload, and the result of the parse. There
is none of a parse that breaks off. -/

namespace OmniLayer

/-- An **output** as the steps of a parse see it. -/
structure OutputView where
  /-- Its place. -/
  vout : Nat
  /-- Its value. -/
  value : UInt64
  /-- The class of its script. -/
  scriptClass : ScriptClass
  /-- Its address. -/
  address : Option String
  /-- Whether it pays the Exodus address. -/
  exodus : Bool
  /-- Whether its class is recognised. -/
  allowed : Bool
  deriving DecidableEq, Repr

/-- How an output is seen. -/
def OutputView.ofOutput (params : Params) (active : Activation) (output : Output) (vout : Nat) :
    OutputView where
  vout := vout
  value := output.value
  scriptClass := output.scriptClass
  address := params.addressOf? output.script
  exodus := params.isExodus output.script
  allowed := output.scriptClass.isAllowed active

/-- An **inspection** of a transaction. -/
structure Inspection where
  /-- The identifier of the transaction. -/
  txid : Txid
  /-- The height at which it is inspected. -/
  height : UInt32
  /-- The number of its inputs. -/
  inputCount : Nat
  /-- Its outputs. -/
  outputs : List OutputView
  /-- The decision on its carrier. -/
  decision : Decision
  /-- Its sender, or why it cannot be told; looked for only if there is a carrier. -/
  sender : Option (Except ParseError String)
  /-- Its packets, or why they cannot be read; looked for only behind a multisig carrier with a
  sender. -/
  packets : Except ParseError (List MultisigCarrier.Packet)
  /-- The result of the parse. -/
  result : ParseResult

/-- The carrier of a decision. -/
def Decision.carrier? : Decision → Option Carrier
  | .carrier c => some c
  | _ => none

/-- The packets that an inspection shows. -/
def inspectPackets (params : Params) (active : Activation) (outputs : List Output) :
    Option Carrier → Option (Except ParseError String) →
      Except ParseError (List MultisigCarrier.Packet)
  | some .multisig, some (.ok sender) => MultisigCarrier.packets params active sender outputs
  | _, _ => .ok []

/-- The steps of a parse at a height, each taken by itself, beside a result of the parse. -/
def Transaction.inspectSteps (params : Params) (coins : CoinLookup) (height : UInt32)
    (tx : Transaction) (result : ParseResult) : Inspection :=
  let active := params.activation.activeAt height
  let decision := Decision.ofOutputs params active tx.outputs
  let sender := decision.carrier?.map fun carrier =>
    Sender.byRule params active coins tx.previous (.ofCarrier carrier)
  { txid := tx.txid
    height := height
    inputCount := tx.inputs.length
    outputs := tx.outputs.zipIdx.map fun (output, vout) =>
      OutputView.ofOutput params active output vout
    decision := decision
    sender := sender
    packets := inspectPackets params active tx.outputs decision.carrier? sender
    result := result }

/-- **Inspects** a transaction at a height, unless its parse breaks off. -/
def Transaction.inspect (params : Params) (coins : CoinLookup) (height : UInt32)
    (tx : Transaction) : Option Inspection :=
  let result := tx.parse params coins height 0
  if result.brokeOff then none else some (tx.inspectSteps params coins height result)

namespace Inspection

/-- The carrier, if the decision is for one. -/
def carrier? (inspection : Inspection) : Option Carrier := inspection.decision.carrier?

/-- The rule by which the sender is told. -/
def senderRule? (inspection : Inspection) : Option SenderRule :=
  inspection.carrier?.map SenderRule.ofCarrier

/-- The sender, if it could be told. -/
def sender? (inspection : Inspection) : Option String := inspection.sender.bind Except.toOption

/-- The error of a result. -/
def error? {ε α : Type} : Except ε α → Option ε
  | .error e => some e
  | .ok _ => none

/-- Why the sender could not be told. -/
def senderError? (inspection : Inspection) : Option String :=
  (inspection.sender.bind error?).map ParseError.message

/-- Why the packets could not be read. -/
def packetError? (inspection : Inspection) : Option String :=
  (error? inspection.packets).map ParseError.message

/-- The outcome of the parse. -/
def outcome? (inspection : Inspection) : Option Outcome := inspection.result.toOption

/-- The error of the parse. -/
def parseError? (inspection : Inspection) : Option String :=
  (error? inspection.result).map ParseError.message

end Inspection

end OmniLayer
