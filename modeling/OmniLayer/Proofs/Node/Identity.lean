import OmniLayer.Proofs.Node.Archive
import OmniLayer.Proofs.Node.Fetch

/-! # Which transaction an identifier brings

A transaction from the cache always has the identifier that was asked for; one from the node is
whatever the node answered, and its identifier is not compared with the question. It is kept under
its own. So an identifier brings its transaction in every run of requests as long as the node is
truthful, and the cache then answers every repeated request (`Client.Reachable.identifies`); a node
that answers with other transactions gets them through, and the cache does not answer for the
identifier that was asked for. -/

namespace OmniLayer

/-- Whether a node's answers are **fixed**: they do not depend on how often it was asked. -/
def Node.IsFixed (node : Node) : Prop :=
  ∀ txid asked, node.transaction txid asked = node.transaction txid 0

namespace Client

variable {client client' : Client} {txid other : Txid} {tx : Transaction}

/-- The client behind **requests in turn**. -/
def getInTurn (client : Client) : List Txid → Client
  | [] => client
  | txid :: rest => (client.getTransaction txid).2.getInTurn rest

/-! ## One request -/

/-- What is in the cache **stays** there, perhaps as another transaction with its identifier. -/
theorem cached?_getTransaction_ne_none (txid : Txid) (h : client.cached? other ≠ none) :
    (client.getTransaction txid).2.cached? other ≠ none := by
  cases hcached : client.cached? txid with
  | some tx =>
    rw [getTransaction_of_cached hcached, (client.agreesOn_lookup txid other).cached]
    exact h
  | none =>
    rw [getTransaction_of_missed hcached, cached?_ask, (client.agreesOn_lookup txid other).cached]
    cases ((client.lookup txid).2.run txid).result with
    | error e => exact h
    | ok tx =>
      dsimp only
      split
      · exact Option.some_ne_none tx
      · exact h

/-- A transaction that was asked of the node is **kept** under its own identifier. -/
theorem cached?_getTransaction_of_missed (hmissed : client.cached? txid = none)
    (h : (client.getTransaction txid).1 = .ok tx) (other : Txid) :
    (client.getTransaction txid).2.cached? other
      = if tx.txid = other then some tx else client.cached? other := by
  rw [getTransaction_of_missed hmissed] at h ⊢
  have hrun : ((client.lookup txid).2.run txid).result = .ok tx := h
  rw [cached?_ask, hrun, (client.agreesOn_lookup txid other).cached]

/-! ## Requests in turn -/

/-- Requests in turn lead to a client that **can be**. -/
theorem Reachable.getInTurn (h : client.Reachable) (txids : List Txid) :
    (client.getInTurn txids).Reachable := by
  induction txids generalizing client with
  | nil => exact h
  | cons txid rest ih => exact ih (h.getTransaction txid)

/-- What is in the cache stays there through **all** requests. -/
theorem cached?_getInTurn_ne_none (txids : List Txid) (h : client.cached? other ≠ none) :
    (client.getInTurn txids).cached? other ≠ none := by
  induction txids generalizing client with
  | nil => exact h
  | cons txid rest ih => exact ih (cached?_getTransaction_ne_none txid h)

/-! ## Fixed answers -/

/-- A node with fixed answers makes the same run whenever it is asked. -/
theorem run_of_isFixed (hfixed : client.node.IsFixed) (txid : Txid) :
    client.run txid
      = RetryRun.ofReplies client.policy txid fun _ => client.node.transaction txid 0 := by
  unfold run
  congr 1
  exact funext fun attempt => hfixed txid _

/-- What a node with fixed answers **gives**, every question to it comes to, with one call. -/
theorem run_of_gives (hfixed : client.node.IsFixed) (h : client.node.Gives txid tx) :
    client.run txid = ⟨.ok tx, 1, 0, []⟩ := by
  obtain ⟨asked, raw, hraw, hdecode⟩ := h
  rw [hfixed] at hraw
  have hattempt : Attempt.ofReply client.policy.timeoutSeconds txid
      (client.node.transaction txid 0) = .success tx :=
    Attempt.ofReply_eq_success_iff.2 ⟨raw, hraw, hdecode⟩
  rw [run_of_isFixed hfixed, RetryRun.ofReplies_eq_last, hattempt]
  · rfl
  · rw [hattempt]
    exact not_false

/-- A question for it brings it. -/
theorem ask_of_gives (hfixed : client.node.IsFixed) (h : client.node.Gives txid tx) :
    (client.ask txid).1 = .ok tx :=
  congrArg RetryRun.result (run_of_gives hfixed h)

/-- So does a request, if it is not in the cache. -/
theorem getTransaction_of_gives (hfixed : client.node.IsFixed) (h : client.node.Gives txid tx)
    (hmissed : client.cached? txid = none) : (client.getTransaction txid).1 = .ok tx := by
  have hlookup := client.agreesOn_lookup txid txid
  rw [getTransaction_of_missed hmissed]
  exact ask_of_gives (hlookup.node ▸ hfixed) (hlookup.node ▸ h)

/-- It takes one call. -/
theorem callsFor_getTransaction_of_gives (hfixed : client.node.IsFixed)
    (h : client.node.Gives txid tx) (hmissed : client.cached? txid = none) :
    (client.getTransaction txid).2.callsFor txid = client.callsFor txid + 1 := by
  rw [callsFor_getTransaction, if_pos hmissed, run_of_gives hfixed h]

/-- A truthful node with fixed answers is asked in vain: the **cache** has the same answer. -/
theorem getTransaction_eq_ask (hsound : client.IsSound) (htruthful : client.node.Truthful)
    (hfixed : client.node.IsFixed) (txid : Txid) :
    (client.getTransaction txid).1 = (client.ask txid).1 := by
  cases hcached : client.cached? txid with
  | some tx =>
    rw [getTransaction_of_cached hcached]
    exact (ask_of_gives hfixed (hsound.gives htruthful hcached)).symm
  | none =>
    rw [getTransaction_of_missed hcached]
    exact congrArg RetryRun.result (run_congr (client.agreesOn_lookup txid txid))

/-! ## What identifiers bring -/

/-- What comes of requests to a client, and which transaction an **identifier brings**. -/
structure Identifies (client : Client) : Prop where
  /-- A transaction in the cache is the one with the identifier; it is got without a call. -/
  of_cached : ∀ txid tx, client.cached? txid = some tx →
    (client.getTransaction txid).1 = .ok tx ∧ tx.txid = txid ∧
      (client.getTransaction txid).2.callsFor txid = client.callsFor txid
  /-- Any other is what the node **gives**, whatever its identifier; it alone is new in the cache,
  and under its own identifier. -/
  of_missed : ∀ txid tx, client.cached? txid = none → (client.getTransaction txid).1 = .ok tx →
    client.node.Gives txid tx ∧ ∀ other, (client.getTransaction txid).2.cached? other
      = if tx.txid = other then some tx else client.cached? other
  /-- Whatever was got, the **cache answers** each further request for its own identifier, whatever
  is asked in between. -/
  kept : ∀ txid tx, (client.getTransaction txid).1 = .ok tx → ∀ between, ∃ again,
    ((client.getTransaction txid).2.getInTurn between).cached? tx.txid = some again ∧
      again.txid = tx.txid
  /-- A truthful node's transactions are **the ones that were asked for**, -/
  txid_eq : client.node.Truthful → ∀ txid tx, (client.getTransaction txid).1 = .ok tx →
    tx.txid = txid
  /-- a repeated request for one of them is answered from the cache, without a call, -/
  repeated : client.node.Truthful → ∀ txid tx, (client.getTransaction txid).1 = .ok tx →
    ∀ between, ∃ again,
      let later := (client.getTransaction txid).2.getInTurn between
      (later.getTransaction txid).1 = .ok again ∧ again.txid = txid ∧
        (later.getTransaction txid).2.callsFor txid = later.callsFor txid
  /-- and if its answers are fixed, cache and node have the **same answer** at any time. -/
  alike : client.node.Truthful → client.node.IsFixed → ∀ txid,
    (client.getTransaction txid).1 = (client.ask txid).1 ∧
      ∀ client' : Client, client'.Reachable → client'.node = client.node →
        client'.policy = client.policy →
          (client'.getTransaction txid).1 = (client.getTransaction txid).1

/-- A request for what is in the cache is answered **from there**. -/
theorem getTransaction_from_cache (hsound : client.IsSound)
    (hcached : client.cached? txid = some tx) :
    (client.getTransaction txid).1 = .ok tx ∧ tx.txid = txid ∧
      (client.getTransaction txid).2.callsFor txid = client.callsFor txid := by
  rw [getTransaction_of_cached hcached]
  exact ⟨rfl, (hsound txid tx hcached).1, (client.agreesOn_lookup txid txid).calls⟩

/-- What was got is **in the cache** then. -/
theorem cached?_getTransaction_self (hsound : client.IsSound)
    (h : (client.getTransaction txid).1 = .ok tx) :
    (client.getTransaction txid).2.cached? tx.txid = some tx := by
  cases hcached : client.cached? txid with
  | some known =>
    rw [getTransaction_of_cached hcached] at h ⊢
    cases h
    rw [(client.agreesOn_lookup txid _).cached, (hsound txid tx hcached).1]
    exact hcached
  | none => rw [cached?_getTransaction_of_missed hcached h, if_pos rfl]

/-- **Every client identifies**, whatever the node answers and whatever was asked before. -/
theorem Reachable.identifies (h : client.Reachable) (txids : List Txid) :
    (client.getInTurn txids).Identifies := by
  have hreachable := h.getInTurn txids
  generalize client.getInTurn txids = client at hreachable
  have hsound := hreachable.isSound
  have hkept : ∀ txid tx, (client.getTransaction txid).1 = .ok tx → ∀ between, ∃ again,
      ((client.getTransaction txid).2.getInTurn between).cached? tx.txid = some again ∧
        again.txid = tx.txid := by
    intro txid tx hget between
    -- It may have been replaced since, but only by another with the same identifier.
    have hin := cached?_getTransaction_self hsound hget
    have hlater := cached?_getInTurn_ne_none between (hin ▸ Option.some_ne_none tx)
    obtain ⟨again, hagain⟩ := Option.ne_none_iff_exists'.1 hlater
    have hlaterSound := ((hreachable.getTransaction txid).getInTurn between).isSound
    exact ⟨again, hagain, (hlaterSound _ _ hagain).1⟩
  have htxid : client.node.Truthful → ∀ txid tx, (client.getTransaction txid).1 = .ok tx →
      tx.txid = txid :=
    fun htruthful txid tx hget =>
      htruthful txid tx (gives_of_getTransaction hsound htruthful hget)
  refine ⟨fun txid tx hcached => getTransaction_from_cache hsound hcached, ?_, hkept, htxid, ?_, ?_⟩
  · intro txid tx hmissed hget
    refine ⟨?_, cached?_getTransaction_of_missed hmissed hget⟩
    rw [getTransaction_of_missed hmissed] at hget
    have hgives := gives_of_run hget
    rwa [(client.agreesOn_lookup txid txid).node] at hgives
  · intro htruthful txid tx hget between
    obtain ⟨again, hagain, -⟩ := hkept txid tx hget between
    rw [htxid htruthful txid tx hget] at hagain
    exact ⟨again, getTransaction_from_cache
      ((hreachable.getTransaction txid).getInTurn between).isSound hagain⟩
  · intro htruthful hfixed txid
    have hask := getTransaction_eq_ask hsound htruthful hfixed txid
    refine ⟨hask, fun client' hclient' hnode hpolicy => ?_⟩
    have hask' : (client'.getTransaction txid).1 = (client'.ask txid).1 :=
      getTransaction_eq_ask hclient'.isSound (hnode ▸ htruthful) (hnode ▸ hfixed) txid
    rw [hask, hask']
    show (client'.run txid).result = (client.run txid).result
    rw [run_of_isFixed (hnode ▸ hfixed), run_of_isFixed hfixed, hnode, hpolicy]

end Client

/-! ## A truthful node and one that is not -/

open Transaction

/-- An archive's answers are fixed. -/
theorem Archive.isFixed_node (archive : Archive) : archive.node.IsFixed := fun _ _ => rfl

/-- The identifier of a transaction in an archive brings it, and brings it again from the cache
after any other requests. -/
theorem Client.identifies_minted :
    Archive.minted.client.Reachable ∧ Archive.minted.node.Truthful ∧ Archive.minted.node.IsFixed ∧
      (Archive.minted.client.getTransaction mintingTxid).1 = .ok minting ∧
      minting.txid = mintingTxid ∧
      ∀ between, ∃ again,
        let later := (Archive.minted.client.getTransaction mintingTxid).2.getInTurn between
        (later.getTransaction mintingTxid).1 = .ok again ∧ again.txid = mintingTxid ∧
          (later.getTransaction mintingTxid).2.callsFor mintingTxid
            = later.callsFor mintingTxid := by
  have hreachable := Archive.minted.reachable_client
  have hidentifies : Archive.minted.client.Identifies := hreachable.identifies []
  have htruthful : Archive.minted.client.node.Truthful := Archive.minted.truthful
  have hfixed : Archive.minted.client.node.IsFixed := Archive.minted.isFixed_node
  have hgives : Archive.minted.client.node.Gives mintingTxid minting :=
    Archive.gives_iff.2 (by decide)
  have hget : (Archive.minted.client.getTransaction mintingTxid).1 = .ok minting :=
    Client.getTransaction_of_gives hfixed hgives rfl
  exact ⟨hreachable, htruthful, hfixed, hget, hidentifies.txid_eq htruthful _ _ hget,
    hidentifies.repeated htruthful _ _ hget⟩

/-- The identifier of no transaction at all. -/
def Txid.zero : Txid := ⟨FixedBytes.zero 32⟩

/-- A node that **mislabels** transactions: it answers with one when it is asked for an identifier
of none, and with another when it is asked for the first. -/
def Node.mislabelling : Node where
  info _ := ⟨.ok ⟨"main", 0⟩, false⟩
  transaction txid _ := ⟨.ok (if txid = Txid.zero then minting.raw else spendingMinted.raw), false⟩

/-- A client that has just connected to it. -/
def Client.misled : Client where
  node := .mislabelling
  policy := .ofSettings {}
  concurrentRequests := 10
  cache := Cache.empty
  errorCount := 0
  infoCalls := 1
  transactionCalls := FinMap.empty

/-- The node gives the wrong transactions. -/
theorem Node.gives_mislabelling :
    Node.mislabelling.Gives Txid.zero minting ∧
      Node.mislabelling.Gives mintingTxid spendingMinted := by
  have hminting : Wire.deserialize minting.serialize = .ok minting := by decide +kernel
  have hspending : Wire.deserialize spendingMinted.serialize = .ok spendingMinted := by
    decide +kernel
  have hne : mintingTxid ≠ Txid.zero := by decide
  refine ⟨⟨0, minting.raw, ?_, decodeRaw_raw hminting⟩,
    ⟨0, spendingMinted.raw, ?_, decodeRaw_raw hspending⟩⟩
  · simp [Node.mislabelling, Reply.inTime?]
  · simp [Node.mislabelling, Reply.inTime?, hne]

/-- A request to this node brings a transaction with **another identifier** than the one that was
asked for; a second request for it is not answered from the cache; and for the identifier of the
transaction itself, cache and node have different answers, although those of the node are fixed. -/
theorem Client.not_identified_misled :
    Client.misled.Reachable ∧ Node.mislabelling.IsFixed ∧
      (Client.misled.getTransaction Txid.zero).1 = .ok minting ∧ minting.txid ≠ Txid.zero ∧
      (Client.misled.getTransaction Txid.zero).2.cached? Txid.zero = none ∧
      (Client.misled.getInTurn [Txid.zero, Txid.zero]).callsFor Txid.zero = 2 ∧
      (Client.misled.getTransaction mintingTxid).1 = .ok spendingMinted ∧
      ((Client.misled.getTransaction Txid.zero).2.getTransaction mintingTxid).1 = .ok minting := by
  have hreachable : Client.misled.Reachable :=
    .connect (show Client.connect Node.mislabelling {} = .ok Client.misled from rfl)
  have hfixed : Client.misled.node.IsFixed := fun _ _ => rfl
  have hne : minting.txid ≠ Txid.zero := by
    rw [txid_minting]
    decide
  have hfirst : (Client.misled.getTransaction Txid.zero).1 = .ok minting :=
    Client.getTransaction_of_gives hfixed Node.gives_mislabelling.1 rfl
  have hkept := Client.cached?_getTransaction_of_missed rfl hfirst
  have hmissed : (Client.misled.getTransaction Txid.zero).2.cached? Txid.zero = none := by
    rw [hkept, if_neg hne]
    rfl
  have hother : (Client.misled.getTransaction mintingTxid).1 = .ok spendingMinted :=
    Client.getTransaction_of_gives hfixed Node.gives_mislabelling.2 rfl
  have hcached : (Client.misled.getTransaction Txid.zero).2.cached? mintingTxid = some minting := by
    rw [hkept, txid_minting, if_pos rfl]
  refine ⟨hreachable, hfixed, hfirst, hne, hmissed, ?_, hother, ?_⟩
  · have hnode : (Client.misled.getTransaction Txid.zero).2.node = Node.mislabelling :=
      (Client.misled.extends_getTransaction Txid.zero).node
    have hcalls : (Client.misled.getTransaction Txid.zero).2.callsFor Txid.zero = 0 + 1 :=
      Client.callsFor_getTransaction_of_gives hfixed Node.gives_mislabelling.1 rfl
    have hagain := Client.callsFor_getTransaction_of_gives (hnode ▸ hfixed)
      (hnode ▸ Node.gives_mislabelling.1) hmissed
    exact hagain.trans (congrArg (· + 1) hcalls)
  · rw [Client.getTransaction_of_cached hcached]

end OmniLayer
