import OmniLayer.Node

/-! # Errors of the node client

Why the client does not get what it asks the node for, with the wording of each cause. -/

namespace OmniLayer

/-- Why a question to the **node** fails. -/
inductive RpcError
  /-- There is no connection to the node. -/
  | connectionFailed (cause : CallFailure)
  /-- A text is no transaction identifier. -/
  | invalidTxid (text : String)
  /-- A call fails. -/
  | callFailed (method : String) (cause : CallFailure)
  /-- A raw transaction cannot be read. -/
  | deserialisationFailed (cause : RawError)
  /-- All attempts fail. -/
  | maxRetriesExceeded (operation : String)
  /-- A call takes too long. -/
  | timeout (seconds : UInt64) (operation : String)
  /-- The node does not know the transaction. -/
  | transactionNotFound (txid : Txid)
  /-- More calls at one time are asked for than can be permitted, and the run breaks off. -/
  | tooManyPermits
  deriving DecidableEq, Repr

namespace RpcError

/-- The wording of an error; a run that breaks off says nothing. -/
def message : RpcError → String
  | .connectionFailed cause =>
    "Connection failed: Failed to connect to Bitcoin RPC - check URL, credentials, and that " ++
      "Bitcoin Core is running: " ++ cause.message
  | .invalidTxid text => "Invalid txid: " ++ text
  | .callFailed method cause => "RPC call failed: " ++ method ++ " - " ++ cause.message
  | .deserialisationFailed cause => "Deserialisation failed: " ++ cause.message
  | .maxRetriesExceeded operation => "Max retries exceeded: " ++ operation
  | .timeout seconds operation =>
    "Request timeout: " ++ Decimal.natText seconds.toNat ++ "s for " ++ operation
  | .transactionNotFound txid => "Transaction not found: " ++ txid.text
  | .tooManyPermits => ""

/-- What the node says about a transaction that it does not have. -/
def notFoundPhrases : List String :=
  ["No such mempool or blockchain transaction", "Invalid or non-wallet transaction id"]

/-- Whether a wording says that a transaction **does not exist**. -/
def isNotFound (message : String) : Bool :=
  notFoundPhrases.any fun phrase => Text.contains message phrase

end RpcError

/-- Reads a transaction identifier. -/
def Txid.parse (text : String) : Except RpcError Txid :=
  match Txid.ofText? text with
  | some txid => .ok txid
  | none => .error (.invalidTxid text)

/-- Reads a raw transaction. -/
def Transaction.decodeRaw (text : String) : Except RpcError Transaction :=
  (Transaction.ofRaw text).mapError RpcError.deserialisationFailed

end OmniLayer
