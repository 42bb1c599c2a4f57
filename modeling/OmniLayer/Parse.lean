import OmniLayer.Carrier.Request
import OmniLayer.Chunks
import OmniLayer.Fee
import OmniLayer.Outcome
import OmniLayer.Receiver

/-! # Parsing transactions

A parse decides on the carrier, tells the sender, reads the payload, tells the receiver and computes
the fee, in this order; the first step that fails gives the error. A batch is parsed by several
workers; it gives the results of all transactions, or none when a worker breaks off. -/

namespace OmniLayer.Transaction

/-- The payload and the receiver of a transaction with a known carrier and sender. -/
def content (params : Params) (active : Activation) (sender : String) (outputs : List Output) :
    Carrier → Except ParseError (Bytes × Option String)
  | .address => do
    let reading ← AddressCarrier.decode params active outputs
    let receiver := outputs[reading.referenceVout]?.bind fun output =>
      params.addressOf? output.script
    return (reading.payload, receiver)
  | carrier => do
    let payload ← carrier.decode params active (some sender) outputs
    return (payload, Receiver.identify? params active sender outputs)

/-- The message that a transaction carries in a given way. -/
def message (params : Params) (coins : CoinLookup) (height time : UInt32) (tx : Transaction)
    (carrier : Carrier) : Except ParseError Message := do
  let active := params.activation.activeAt height
  let sender ← Sender.byRule params active coins tx.previous (.ofCarrier carrier)
  let (payload, receiver) ← content params active sender tx.outputs carrier
  let fee ← Fee.ofTransaction coins tx
  return ⟨tx.txid.text, sender, receiver, fee, payload, carrier, height, time⟩

/-- **Parses** a transaction of a block of some height and time, with a lookup for the coins it
spends. -/
def parse (params : Params) (coins : CoinLookup) (height time : UInt32) (tx : Transaction) :
    ParseResult :=
  match Decision.ofOutputs params (params.activation.activeAt height) tx.outputs with
  | .carrier carrier => (message params coins height time tx carrier).map Outcome.message
  | .notProtocol => .ok .notProtocol
  | .notActivated => .error (.activationNotReached .nullData height)
  | .splitMarker => .error (.malformedPayload .splitMarker)

/-- The **shares** into which work is divided among workers: consecutive, none of them empty, and at
most as many as there are workers. -/
def shares {α : Type} (workers : Nat) (work : List α) : List (List α) :=
  let workers := max 1 (min workers work.length)
  chunks ((work.length + workers - 1) / workers) work

/-- Why a **batch** gives no results. -/
inductive BatchError
  /-- One worker broke off, and was waited for. -/
  | worker
  /-- Others broke off behind it, when nobody waited for them any more. -/
  | scope
  deriving DecidableEq, Repr

/-- The wording of a batch error. -/
def BatchError.message : BatchError → String
  | .worker => "batch parse worker panicked"
  | .scope => "batch parse scope panicked"

/-- Whether a worker **breaks off** at a transaction of its share. -/
def breaksOff (results : List ParseResult) : Bool := results.any ParseResult.brokeOff

/-- Takes the results of the workers, in the order of their shares. Waiting ends at the first worker
that broke off; if there are others, they are only found when all are through. -/
def gather (results : List (List ParseResult)) : Except BatchError (List ParseResult) :=
  match results.filter breaksOff with
  | [] => .ok results.flatten
  | [_] => .error .worker
  | _ => .error .scope

/-- Parses transactions on several workers at once, each on its own share; the results stand in the
order of the transactions. -/
def parseBatch (params : Params) (coins : CoinLookup) (height time : UInt32) (workers : Nat)
    (txs : List Transaction) : Except BatchError (List ParseResult) :=
  let tasks := (shares workers txs).map fun share =>
    Task.spawn fun _ => share.map (parse params coins height time)
  gather (tasks.map Task.get)

end OmniLayer.Transaction
