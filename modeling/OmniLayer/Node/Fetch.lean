import OmniLayer.Node.Client

/-! # Requests side by side

The transactions that a transaction spends from are asked for by requests that run side by side.
Each of them looks into the cache, hands its question to a worker through a channel of bounded
length, waits for one of the permits to call, and calls until an attempt ends the run. Which request
moves next is left open: a schedule lists the requests in the order in which they move. -/

namespace OmniLayer

/-- How far the **request** for a transaction is. -/
inductive RequestStage
  /-- Nothing has been done. -/
  | idle
  /-- The transaction is not in the cache. -/
  | missed
  /-- The question is in the channel. -/
  | queued
  /-- The worker has taken the question. -/
  | accepted
  /-- A call is due, behind failed ones. -/
  | calling (failures : Nat)
  /-- A call has been answered, behind failed ones. -/
  | answered (failures : Nat) (attempt : Attempt)
  /-- The run of attempts is over. -/
  | returning (result : Except RpcError Transaction)
  /-- The result has been handed back. -/
  | settled (result : Except RpcError Transaction)

namespace RequestStage

/-- Whether a request holds a **permit**. -/
def holdsPermit : RequestStage → Bool
  | .calling _ | .answered _ _ | .returning _ => true
  | _ => false

/-- The result of a request, once it has been handed back. -/
def result? : RequestStage → Option (Except RpcError Transaction)
  | .settled result => some result
  | _ => none

/-- The stage behind an attempt: an error that may pass is followed by a further call, as long as
the policy allows one. -/
def afterAttempt (policy : RetryPolicy) (txid : Txid) (failures : Nat) (attempt : Attempt) :
    RequestStage :=
  match attempt with
  | .success tx => .returning (.ok tx)
  | .final error => .returning (.error error)
  | .passing error =>
    if failures + 1 < policy.attempts then .calling (failures + 1)
    else .returning (.error (Attempt.exhausted txid error))

end RequestStage

namespace Client

/-- **Calls** the node for a transaction once. -/
def call (client : Client) (txid : Txid) : Attempt × Client :=
  let asked := client.callsFor txid
  (Attempt.ofReply client.policy.timeoutSeconds txid (client.node.transaction txid asked),
    { client with transactionCalls := client.transactionCalls.insert txid (asked + 1) })

/-- Takes **note** of an attempt: a transaction is kept, a failure is counted. -/
def note (client : Client) : Attempt → Client
  | .success tx => { client with cache := client.cache.put tx }
  | .final _ | .passing _ => { client with errorCount := client.errorCount + 1 }

/-- How a request **moves on** from a stage. -/
def advance (client : Client) (txid : Txid) : RequestStage → RequestStage × Client
  | .idle =>
    match client.lookup txid with
    | (some tx, client) => (.settled (.ok tx), client)
    | (none, client) => (.missed, client)
  | .missed => (.queued, client)
  | .queued => (.accepted, client)
  | .accepted => (.calling 0, client)
  | .calling failures =>
    let (attempt, client) := client.call txid
    (.answered failures attempt, client)
  | .answered failures attempt =>
    (RequestStage.afterAttempt client.policy txid failures attempt, client.note attempt)
  | .returning result => (.settled result, client)
  | .settled result => (.settled result, client)

/-- The number of **permits** to call. -/
def permits (client : Client) : Nat := max 1 client.concurrentRequests.toNat

end Client

/-- Requests that run **side by side**. -/
structure Fetch where
  /-- The transactions that are asked for, each once. -/
  wanted : List Txid
  /-- How far each request is. -/
  stage : Txid → RequestStage
  /-- The questions in the channel, the oldest in front. -/
  channel : List Txid
  /-- The questions that were ever handed to the worker, the oldest in front. -/
  sent : List Txid
  /-- The client that they share. -/
  client : Client

namespace Fetch

/-- The most questions that the **channel** holds. -/
def channelCapacity : Nat := 100

/-- The requests for what a transaction spends from, before any of them moves. -/
def start (client : Client) (tx : Transaction) : Fetch where
  wanted := Client.previousTxids tx
  stage _ := .idle
  channel := []
  sent := []
  client := client

/-- The number of requests that hold a permit. -/
def busy (fetch : Fetch) : Nat :=
  fetch.wanted.countP fun txid => (fetch.stage txid).holdsPermit

/-- Whether a request **may move**: a question waits for room in the channel and for its turn there,
and the first call for a permit. -/
def mayMove (fetch : Fetch) (txid : Txid) : Bool :=
  fetch.wanted.contains txid &&
    match fetch.stage txid with
    | .missed => fetch.channel.length < channelCapacity
    | .queued => fetch.channel.head? == some txid
    | .accepted => fetch.busy < fetch.client.permits
    | .settled _ => false
    | _ => true

/-- The requests behind the **move** of one of them. -/
def move (fetch : Fetch) (txid : Txid) : Fetch :=
  let (stage, client) := fetch.client.advance txid (fetch.stage txid)
  { fetch with
    stage := fun other => if other = txid then stage else fetch.stage other
    channel := match fetch.stage txid with
      | .missed => fetch.channel ++ [txid]
      | .queued => fetch.channel.tail
      | _ => fetch.channel
    sent := match fetch.stage txid with
      | .missed => fetch.sent ++ [txid]
      | _ => fetch.sent
    client := client }

/-- The requests behind the moves of a **schedule**, if each may move when it is its turn. -/
def run? (fetch : Fetch) : (schedule : List Txid) → Option Fetch
  | [] => some fetch
  | txid :: rest => if fetch.mayMove txid then (fetch.move txid).run? rest else none

/-- The **coins** that were fetched, once all results have been handed back. The results are looked
at in the order of the transactions. -/
def result? (fetch : Fetch) : Option (Except RpcError CoinView) :=
  (fetch.wanted.mapM fun txid => (fetch.stage txid).result?).map fun results =>
    results.foldlM Client.addFetched FinMap.empty

end Fetch

/-- The clients that come of **connecting** to a node and of asking it. -/
inductive Client.Reachable : Client → Prop
  /-- A client that has just connected. -/
  | connect {node : Node} {rpc : RpcSettings} {client : Client}
    (h : Client.connect node rpc = .ok client) : Reachable client
  /-- A client that has asked for the chain. -/
  | testConnection {client : Client} (h : Reachable client) : Reachable client.testConnection.2
  /-- A client that has got a transaction. -/
  | getTransaction {client : Client} (h : Reachable client) (txid : Txid) :
    Reachable (client.getTransaction txid).2
  /-- A client that has fetched coins one after the other. -/
  | fetchCoinView {client : Client} (h : Reachable client) (tx : Transaction) :
    Reachable (client.fetchCoinView tx).2
  /-- A client that is fetching coins side by side. -/
  | fetch {client : Client} (h : Reachable client) {tx : Transaction} {schedule : List Txid}
    {fetch : Fetch} (hrun : (Fetch.start client tx).run? schedule = some fetch) :
    Reachable fetch.client

end OmniLayer
