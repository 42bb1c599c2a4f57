import OmniLayer.Coins
import OmniLayer.Inspection
import OmniLayer.Node.Cache
import OmniLayer.Node.Retry

/-! # The node client

A client asks one node for transactions, keeps those it was given, and counts its calls. The coins
that a transaction spends are read off the transactions it names; one that the node does not know
leaves its coins out. -/

namespace OmniLayer

/-- A **client** of a node. -/
structure Client where
  /-- The node. -/
  node : Node
  /-- How questions are asked again. -/
  policy : RetryPolicy
  /-- The number of calls at one time. -/
  concurrentRequests : UInt64
  /-- The transactions that were given. -/
  cache : Cache
  /-- The number of calls for transactions that failed. -/
  errorCount : Nat
  /-- The number of questions for the chain. -/
  infoCalls : Nat
  /-- The number of calls for each transaction. -/
  transactionCalls : FinMap Txid Nat

namespace Client

/-- The largest number of calls that can be permitted at one time: an eighth of the 64-bit words. -/
def maxPermits : Nat := wordMax / 8

/-- A client that has asked **nothing yet**, but what the chain is. -/
def fresh (node : Node) (rpc : RpcSettings) : Client where
  node := node
  policy := .ofSettings rpc
  concurrentRequests := rpc.concurrentRequests
  cache := Cache.empty
  errorCount := 0
  infoCalls := 1
  transactionCalls := FinMap.empty

/-- **Connects** to a node, which must say what its chain is, in whatever time. Only then are the
permits for calls made out. -/
def connect (node : Node) (rpc : RpcSettings) : Except RpcError Client :=
  match (node.info 0).answer with
  | .error cause => .error (.connectionFailed cause)
  | .ok _ =>
    if maxPermits < rpc.concurrentRequests.toNat then .error .tooManyPermits
    else .ok (fresh node rpc)

/-- A client that connects has asked nothing yet. -/
theorem eq_fresh_of_connect {node : Node} {rpc : RpcSettings} {client : Client}
    (h : connect node rpc = .ok client) : client = fresh node rpc := by
  unfold connect at h
  split at h
  · cases h
  · split at h
    · cases h
    · exact (Except.ok.inj h).symm

/-- Asks the node what its **chain** is. -/
def testConnection (client : Client) : Except RpcError ChainInfo × Client :=
  let result := match (client.node.info client.infoCalls).inTime? with
    | none => .error (.timeout client.policy.timeoutSeconds "connection_test")
    | some (.error cause) => .error (.callFailed "getblockchaininfo" cause)
    | some (.ok info) => .ok info
  (result, { client with infoCalls := client.infoCalls + 1 })

/-- The number of calls for a transaction so far. -/
def callsFor (client : Client) (txid : Txid) : Nat :=
  (client.transactionCalls.get? txid).getD 0

/-- The run of attempts that asks the node for a transaction now. -/
def run (client : Client) (txid : Txid) : RetryRun :=
  RetryRun.ofReplies client.policy txid fun attempt =>
    client.node.transaction txid (client.callsFor txid + attempt)

/-- **Asks** the node for a transaction, and keeps what it gives. -/
def ask (client : Client) (txid : Txid) : Except RpcError Transaction × Client :=
  let run := client.run txid
  let cache := match run.result with
    | .ok tx => client.cache.put tx
    | .error _ => client.cache
  (run.result,
    { client with
      cache := cache
      errorCount := client.errorCount + run.failures
      transactionCalls :=
        client.transactionCalls.insert txid (client.callsFor txid + run.calls) })

/-- Looks a transaction up among those that were given. -/
def lookup (client : Client) (txid : Txid) : Option Transaction × Client :=
  let (found, cache) := client.cache.get txid
  (found, { client with cache := cache })

/-- Gets a **transaction**, from the cache or else from the node. -/
def getTransaction (client : Client) (txid : Txid) : Except RpcError Transaction × Client :=
  match client.lookup txid with
  | (some tx, client) => (.ok tx, client)
  | (none, client) => client.ask txid

/-- Inserts an identifier into identifiers in ascending order, unless it is there. -/
def insertTxid (txid : Txid) : List Txid → List Txid
  | [] => [txid]
  | other :: rest =>
    if txid = other then other :: rest
    else if txid.before other then txid :: other :: rest
    else other :: insertTxid txid rest

/-- The **transactions** that a transaction spends from, in ascending order; a null outpoint names
none. -/
def previousTxids (tx : Transaction) : List Txid :=
  (tx.previous.filter fun outpoint => !outpoint.isNull).foldr
    (fun outpoint txids => insertTxid outpoint.txid txids) []

/-- Looks up transactions in turn. -/
def lookupAll (client : Client) : List Txid → List (Txid × Option Transaction) × Client
  | [] => ([], client)
  | txid :: rest =>
    let (found, client) := client.lookup txid
    let (others, client) := lookupAll client rest
    ((txid, found) :: others, client)

/-- Asks for the transactions that were not found, in turn. -/
def askMissing (client : Client) :
    List (Txid × Option Transaction) → List (Except RpcError Transaction) × Client
  | [] => ([], client)
  | (_, some tx) :: rest =>
    let (others, client) := askMissing client rest
    (.ok tx :: others, client)
  | (txid, none) :: rest =>
    let (result, client) := client.ask txid
    let (others, client) := askMissing client rest
    (result :: others, client)

/-- Adds a transaction that was asked for to the coins; one that does not exist adds nothing. -/
def addFetched (view : CoinView) : Except RpcError Transaction → Except RpcError CoinView
  | .ok tx => .ok (CoinView.addTransaction view tx)
  | .error (.transactionNotFound _) => .ok view
  | .error error => .error error

/-- The **coins** that a transaction may spend. All lookups come before all calls, and all calls
before the first error is reported. -/
def fetchCoinView (client : Client) (tx : Transaction) : Except RpcError CoinView × Client :=
  let (found, client) := client.lookupAll (previousTxids tx)
  let (fetched, client) := client.askMissing found
  (fetched.foldlM addFetched FinMap.empty, client)

end Client

/-- Why a transaction of the node cannot be **inspected**. -/
inductive InspectError
  /-- There is no transaction. -/
  | transaction (cause : RpcError)
  /-- Its coins cannot be fetched. -/
  | coins (cause : RpcError)
  /-- The parse breaks off, and the inspection with it. -/
  | brokenOff
  deriving DecidableEq, Repr

/-- The wording of a failure to inspect; a run that breaks off says nothing. -/
def InspectError.message : InspectError → String
  | .transaction cause => "Failed to fetch transaction from Bitcoin Core: " ++ cause.message
  | .coins cause => "Failed to fetch previous outputs: " ++ cause.message
  | .brokenOff => ""

/-- **Inspects** the transaction with an identifier. -/
def Client.inspect (client : Client) (params : Params) (height : UInt32) (txid : Txid) :
    Except InspectError Inspection × Client :=
  match client.getTransaction txid with
  | (.error cause, client) => (.error (.transaction cause), client)
  | (.ok tx, client) =>
    match client.fetchCoinView tx with
    | (.error cause, client) => (.error (.coins cause), client)
    | (.ok view, client) =>
      match tx.inspect params view.resolve height with
      | some inspection => (.ok inspection, client)
      | none => (.error .brokenOff, client)

end OmniLayer
