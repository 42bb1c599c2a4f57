import OmniLayer.Proofs.Dependence
import OmniLayer.Proofs.Node.Fetch

/-! # Coins of a ledger

What the coins that a client fetched have to do with the transactions that there are. Whatever a
node answers, no coin is made up: it is an output of a transaction with the identifier of its
outpoint. With a node that answers from a ledger (`Node.Honest`), the coins of a transaction are
those of the ledger, found or missing, so that a parse sees no difference
(`Client.coins_of_fetchesCoins`). An identifier is the digest of a transaction without its
witnesses, so this rests on there being no two transactions of one identifier but for the witnesses
(`Transaction.CollisionFree`).

It is not needed where the node gives one answer for each identifier (`Node.Serves`): the client of
such a node gets what the ledger answers, and no coins but the ledger's (`Client.Mirrors`). -/

namespace OmniLayer

/-! ## Identifiers -/

namespace Transaction

/-- A transaction **without its witnesses**. -/
def withoutWitnesses (tx : Transaction) : Transaction :=
  { tx with inputs := tx.inputs.map fun input => { input with witness := [] } }

/-- The identifier does not depend on the witnesses. -/
@[simp] theorem txid_withoutWitnesses (tx : Transaction) : tx.withoutWitnesses.txid = tx.txid := by
  have hinputs : (tx.inputs.map fun input => { input with witness := [] }).flatMap Input.serialize
      = tx.inputs.flatMap Input.serialize := by
    rw [List.flatMap_map]
    rfl
  unfold txid serialize withoutWitnesses
  dsimp only
  rw [List.length_map, hinputs]

/-- Whether no two of some transactions have one identifier, but for their witnesses. -/
def CollisionFree (known : Transaction → Prop) : Prop :=
  ∀ tx tx', known tx → known tx' → tx.txid = tx'.txid →
    tx.withoutWitnesses = tx'.withoutWitnesses

end Transaction

/-! ## Ledgers -/

/-- A **ledger**: transactions under their own identifiers. -/
structure Ledger where
  /-- The transaction with an identifier. -/
  transaction? : Txid → Option Transaction
  /-- It has the identifier. -/
  txid_eq : ∀ txid tx, transaction? txid = some tx → tx.txid = txid
  /-- No output is at a null outpoint: that would take an identifier of zeros and all numbers for
  outputs. -/
  null : ∀ o : OutPoint, o.isNull = true →
    ((transaction? o.txid).bind fun tx => tx.numbered? o.vout) = none

namespace Ledger

/-- The **coins** of all transactions of a ledger. -/
def coins (ledger : Ledger) : CoinLookup := fun o =>
  (ledger.transaction? o.txid).bind fun tx => tx.numbered? o.vout

/-- Whether a transaction is in a ledger. -/
def Has (ledger : Ledger) (tx : Transaction) : Prop :=
  ∃ txid, ledger.transaction? txid = some tx

end Ledger

namespace Node

/-- Whether a node **denies** that there is a transaction with an identifier: some refusal in time
says so. -/
def Denies (node : Node) (txid : Txid) : Prop :=
  ∃ asked cause, (node.transaction txid asked).inTime? = some (.error cause) ∧
    RpcError.isNotFound (RpcError.callFailed "getrawtransaction" cause).message = true

/-- Whether a node is **honest** about a ledger: where it gives a transaction, that has the
identifier and the ledger has one, and where it denies that there is one, the ledger has none. -/
structure Honest (node : Node) (ledger : Ledger) : Prop where
  /-- What is given is what was asked for. -/
  gives : ∀ txid tx, node.Gives txid tx →
    tx.txid = txid ∧ ∃ known, ledger.transaction? txid = some known
  /-- What is denied is not there. -/
  denies : ∀ txid, node.Denies txid → ledger.transaction? txid = none

/-- An honest node is truthful. -/
theorem Honest.truthful {node : Node} {ledger : Ledger} (h : node.Honest ledger) : node.Truthful :=
  fun txid tx hgives => (h.gives txid tx hgives).1

end Node

/-! ## Fetched coins -/

namespace Client

variable {client : Client} {tx : Transaction} {view : CoinView} {ledger : Ledger} {txid : Txid}

/-- Whether fetching the coins of a transaction **comes to** a result, one request after the other
or side by side. -/
def FetchesCoins (client : Client) (tx : Transaction) (result : Except RpcError CoinView) : Prop :=
  (client.fetchCoinView tx).1 = result ∨
    ∃ schedule fetch, (Fetch.start client tx).run? schedule = some fetch ∧
      fetch.result? = some result

/-- Whatever a node answers, fetched coins are put together from fetched transactions. -/
theorem FetchesCoins.exists_results {result : Except RpcError CoinView}
    (h : client.FetchesCoins tx result) :
    ∃ results : List (Except RpcError Transaction),
      results.foldlM addFetched FinMap.empty = result := by
  rcases h with h | ⟨schedule, fetch, -, h⟩
  · exact ⟨_, h⟩
  · obtain ⟨results, -, hresults⟩ := Option.map_eq_some_iff.1 h
    exact ⟨results, hresults⟩

/-- With a truthful node, they are put together from what each transaction comes to alone. -/
theorem FetchesCoins.eq_foldlM {result : Except RpcError CoinView}
    (htruthful : client.node.Truthful) (h : client.FetchesCoins tx result) :
    ((previousTxids tx).map fun txid => (client.getTransaction txid).1).foldlM addFetched
      FinMap.empty = result := by
  rcases h with h | ⟨schedule, fetch, hrun, h⟩
  · rw [← (fetchCoinView_spec htruthful tx).1, h]
  · rw [Fetch.result?_eq htruthful hrun (Fetch.not_mayMove_of_result? h)] at h
    exact Option.some.inj h

/-- A transaction that does not exist, as far as the client can tell, the node **denied**. -/
theorem denies_of_getTransaction {e : RpcError} (h : (client.getTransaction txid).1 = .error e)
    (hmissing : e.IsMissing) : client.node.Denies txid := by
  cases hcached : client.cached? txid with
  | some tx =>
    rw [getTransaction_of_cached hcached] at h
    cases h
  | none =>
    rw [getTransaction_of_missed hcached] at h
    cases e with
    | transactionNotFound missing =>
      obtain ⟨-, count, cause, hreply, hphrase⟩ := RetryRun.exists_of_result_eq_notFound h
      rw [(client.agreesOn_lookup txid txid).node] at hreply
      exact ⟨_, cause, hreply, hphrase⟩
    | _ => cases hmissing

/-- What an honest node is asked for has the **outputs** that it has in the ledger. -/
theorem outputs_of_getTransaction (hsound : client.IsSound) (hhonest : client.node.Honest ledger)
    (hfree : Transaction.CollisionFree fun known =>
      (∃ asked, client.node.Gives asked known) ∨ ledger.Has known)
    (hresult : ∀ e, (client.getTransaction txid).1 = .error e → e.IsMissing) (vout : UInt32) :
    ((client.getTransaction txid).1.toOption.bind fun prev => prev.numbered? vout)
      = (ledger.transaction? txid).bind fun prev => prev.numbered? vout := by
  cases hgot : (client.getTransaction txid).1 with
  | error e =>
    have hdenies := denies_of_getTransaction hgot (hresult e hgot)
    rw [hhonest.denies txid hdenies]
    rfl
  | ok prev =>
    have hgives := gives_of_getTransaction hsound hhonest.truthful hgot
    obtain ⟨htxid, known, hknown⟩ := hhonest.gives txid prev hgives
    -- The two transactions have one identifier, so they differ in their witnesses at most.
    have hsame : prev.withoutWitnesses = known.withoutWitnesses :=
      hfree prev known (.inl ⟨txid, hgives⟩) (.inr ⟨txid, hknown⟩)
        (htxid.trans (ledger.txid_eq txid known hknown).symm)
    have houtputs : prev.outputs = known.outputs := by
      change prev.withoutWitnesses.outputs = known.withoutWitnesses.outputs
      rw [hsame]
    rw [hknown]
    simp [Except.toOption, Transaction.numbered?, houtputs]

/-- Coins put together from transactions with the outputs that they have in a ledger are coins **of
the ledger**, and all of those at the outpoints that are spent. -/
theorem resolve_of_outputs {given : Txid → Except RpcError Transaction}
    (hgiven : ∀ txid prev, given txid = .ok prev → prev.txid = txid)
    (houtputs : ∀ txid ∈ previousTxids tx, ∀ vout,
      ((given txid).toOption.bind fun prev => prev.numbered? vout)
        = (ledger.transaction? txid).bind fun prev => prev.numbered? vout)
    (h : ((previousTxids tx).map given).foldlM addFetched FinMap.empty = .ok view) :
    (∀ o coin, view.resolve o = some coin → ledger.coins o = some coin) ∧
      ∀ o ∈ tx.previous, view.resolve o = ledger.coins o := by
  have hresolve : ∀ o, view.resolve o
      = if o.txid ∈ previousTxids tx then ledger.coins o else none := by
    intro o
    have hempty : CoinView.resolve FinMap.empty o = none := rfl
    rw [resolve_of_foldlM_addFetched hgiven h o, hempty, Option.or_none]
    by_cases hmem : o.txid ∈ previousTxids tx
    · rw [if_pos hmem, if_pos hmem]
      exact houtputs o.txid hmem o.vout
    · rw [if_neg hmem, if_neg hmem]
  refine ⟨fun o coin hcoin => ?_, fun o ho => ?_⟩
  · rw [hresolve, Option.ite_none_right_eq_some] at hcoin
    exact hcoin.2
  · rw [hresolve]
    by_cases hmem : o.txid ∈ previousTxids tx
    · rw [if_pos hmem]
    · -- Only a null outpoint names a transaction that is not fetched.
      have hnull : o.isNull = true := by
        by_contra hnull
        exact hmem ((mem_previousTxids tx).2 ⟨o, ho, Bool.eq_false_iff.2 hnull, rfl⟩)
      rw [if_neg hmem]
      exact (ledger.null o hnull).symm

/-- Of the outpoints that a transaction spends, an honest node **resolves** those that the ledger
resolves, and to the same coins. -/
theorem FetchesCoins.resolve_eq_coins (hclient : client.Reachable)
    (hhonest : client.node.Honest ledger)
    (hfree : Transaction.CollisionFree fun known =>
      (∃ asked, client.node.Gives asked known) ∨ ledger.Has known)
    (h : client.FetchesCoins tx (.ok view)) {o : OutPoint} (ho : o ∈ tx.previous) :
    view.resolve o = ledger.coins o := by
  have hfold := h.eq_foldlM hhonest.truthful
  refine (resolve_of_outputs (fun txid prev hprev => ?_) (fun txid hmem vout => ?_) hfold).2 o ho
  · exact hhonest.truthful txid prev
      (gives_of_getTransaction hclient.isSound hhonest.truthful hprev)
  · refine outputs_of_getTransaction hclient.isSound hhonest hfree (fun e he => ?_) vout
    exact isMissing_of_foldlM_addFetched hfold (List.mem_map.2 ⟨txid, hmem, he⟩)

/-- **Fetched coins are genuine.** Whatever the node answers, a fetched coin is an output of a
transaction with the identifier of its outpoint. And if the node is honest about a ledger, every
outpoint that is spent resolves as it does in the ledger, so that the transaction parses as it would
with all coins of the ledger at hand. -/
theorem coins_of_fetchesCoins (h : client.FetchesCoins tx (.ok view)) :
    (∀ o coin, view.resolve o = some coin → ∃ prev : Transaction, prev.txid = o.txid ∧
      prev.numbered? o.vout = some coin ∧
      (prev.outputs.length ≤ UInt32.size → prev.outputs[o.vout.toNat]? = some coin)) ∧
    ∀ ledger : Ledger, client.Reachable → client.node.Honest ledger →
      (Transaction.CollisionFree fun known =>
        (∃ asked, client.node.Gives asked known) ∨ ledger.Has known) →
      (∀ o ∈ tx.previous, o.isNull = false → view.resolve o = ledger.coins o ∧
        ∀ prev, ledger.transaction? o.txid = some prev → prev.outputs.length ≤ UInt32.size →
          view.resolve o = prev.outputs[o.vout.toNat]?) ∧
      ∀ params height time,
        tx.parse params view.resolve height time = tx.parse params ledger.coins height time := by
  constructor
  · intro o coin hcoin
    obtain ⟨results, hresults⟩ := h.exists_results
    rcases exists_numbered?_of_resolve hresults hcoin with hempty | ⟨prev, -, htxid, hnumbered⟩
    · cases hempty
    · refine ⟨prev, htxid, hnumbered, fun hlength => ?_⟩
      rw [← Transaction.numbered?_eq_getElem? hlength, hnumbered]
  · intro ledger hclient hhonest hfree
    have hresolve : ∀ o ∈ tx.previous, view.resolve o = ledger.coins o :=
      fun o ho => h.resolve_eq_coins hclient hhonest hfree ho
    refine ⟨fun o ho _ => ⟨hresolve o ho, fun prev hprev hlength => ?_⟩, ?_⟩
    · rw [hresolve o ho, Ledger.coins, hprev]
      exact Transaction.numbered?_eq_getElem? hlength o.vout
    · exact fun params height time => Transaction.parse_congr hresolve

end Client

/-! ## Nodes that serve a ledger -/

/-- What a ledger **answers** to a question for a transaction. -/
def Ledger.answer (ledger : Ledger) (txid : Txid) : Except RpcError Transaction :=
  match ledger.transaction? txid with
  | some tx => .ok tx
  | none => .error (.transactionNotFound txid)

/-- It answers with the transactions in it. -/
@[simp] theorem Ledger.answer_eq_ok_iff {ledger : Ledger} {txid : Txid} {tx : Transaction} :
    ledger.answer txid = .ok tx ↔ ledger.transaction? txid = some tx := by
  unfold answer
  cases ledger.transaction? txid <;> simp

/-- Of all others it answers that they do not exist. -/
theorem Ledger.isMissing_of_answer {ledger : Ledger} {txid : Txid} {e : RpcError}
    (h : ledger.answer txid = .error e) : e.IsMissing := by
  unfold answer at h
  cases hknown : ledger.transaction? txid with
  | some tx =>
    rw [hknown] at h
    cases h
  | none =>
    rw [hknown] at h
    cases h
    trivial

/-- Whether a node **serves** a ledger to those who ask in a certain way: whatever the number of
calls before, a run of attempts comes to what the ledger answers. -/
def Node.Serves (node : Node) (policy : RetryPolicy) (ledger : Ledger) : Prop :=
  ∀ txid asked, (RetryRun.ofReplies policy txid fun attempt =>
    node.transaction txid (asked + attempt)).result = ledger.answer txid

/-- Such a node gives what is in the ledger. -/
theorem Node.Serves.transaction?_of_gives {node : Node} {policy : RetryPolicy} {ledger : Ledger}
    (h : node.Serves policy ledger) {txid : Txid} {tx : Transaction}
    (hgives : node.Gives txid tx) : ledger.transaction? txid = some tx := by
  obtain ⟨asked, raw, hraw, hdecode⟩ := hgives
  have hattempt : Attempt.ofReply policy.timeoutSeconds txid (node.transaction txid asked)
      = .success tx := Attempt.ofReply_eq_success_iff.2 ⟨raw, hraw, hdecode⟩
  -- The run that begins with this answer ends with it.
  have hrun : RetryRun.ofReplies policy txid (fun attempt =>
      node.transaction txid (asked + attempt)) = RetryRun.last txid (.success tx) := by
    rw [RetryRun.ofReplies_eq_last] <;> rw [Nat.add_zero, hattempt]
    exact not_false
  have hresult := h txid asked
  rw [hrun] at hresult
  exact Ledger.answer_eq_ok_iff.1 hresult.symm

namespace Client

variable {client client' : Client} {tx : Transaction} {ledger : Ledger}

/-- Whether a client **mirrors** a ledger: its node serves the ledger, and what is in its cache is
in the ledger. -/
structure Mirrors (client : Client) (ledger : Ledger) : Prop where
  /-- The node serves the ledger. -/
  serves : client.node.Serves client.policy ledger
  /-- What is in the cache is in the ledger. -/
  cached : ∀ txid tx, client.cached? txid = some tx → ledger.transaction? txid = some tx

namespace Mirrors

/-- The node of such a client is truthful. -/
theorem truthful (h : client.Mirrors ledger) : client.node.Truthful :=
  fun txid tx hgives => ledger.txid_eq txid tx (h.serves.transaction?_of_gives hgives)

/-- A client that comes of one that mirrors a ledger **goes on** to do so. -/
theorem of_extends (h : client.Mirrors ledger) (hextends : client.Extends client') :
    client'.Mirrors ledger := by
  refine ⟨?_, fun txid tx hcached => ?_⟩
  · rw [hextends.node, hextends.policy]
    exact h.serves
  · rcases hextends.cached txid tx hcached with hbefore | ⟨htxid, asked, hgives⟩
    · exact h.cached txid tx hbefore
    · have hknown := h.serves.transaction?_of_gives hgives
      rwa [← ledger.txid_eq asked tx hknown, htxid] at hknown

/-- It **gets** what the ledger answers. -/
theorem getTransaction_eq (h : client.Mirrors ledger) (txid : Txid) :
    (client.getTransaction txid).1 = ledger.answer txid := by
  cases hcached : client.cached? txid with
  | some tx =>
    rw [getTransaction_of_cached hcached]
    exact (Ledger.answer_eq_ok_iff.2 (h.cached txid tx hcached)).symm
  | none =>
    rw [getTransaction_of_missed hcached]
    have hagree := client.agreesOn_lookup txid txid
    change ((client.lookup txid).2.run txid).result = _
    rw [run_congr hagree]
    exact h.serves txid (client.callsFor txid)

/-- It **fetches** coins of the ledger, and all of those at the outpoints that are spent. -/
theorem exists_fetchCoinView_eq (h : client.Mirrors ledger) (tx : Transaction) :
    ∃ view, (client.fetchCoinView tx).1 = .ok view ∧
      (∀ o coin, view.resolve o = some coin → ledger.coins o = some coin) ∧
      ∀ o ∈ tx.previous, view.resolve o = ledger.coins o := by
  have hfold := (fetchCoinView_spec h.truthful tx).1
  simp only [h.getTransaction_eq] at hfold
  cases hview : (client.fetchCoinView tx).1 with
  | error e =>
    -- An error would be more than that a transaction does not exist.
    rw [hview] at hfold
    obtain ⟨txid, -, he, hnot, -⟩ := foldlM_previousTxids_eq_error_iff.1 hfold.symm
    exact absurd (Ledger.isMissing_of_answer he) hnot
  | ok view =>
    rw [hview] at hfold
    refine ⟨view, rfl, resolve_of_outputs (fun txid prev hprev => ?_) (fun txid _ vout => ?_)
      hfold.symm⟩
    · exact ledger.txid_eq txid prev (Ledger.answer_eq_ok_iff.1 hprev)
    · unfold Ledger.answer
      cases ledger.transaction? txid <;> rfl

end Mirrors

end Client

/-! ## Archives -/

namespace Archive

/-- An archive is a **ledger**. -/
def ledger (archive : Archive) : Ledger where
  transaction? := archive.find?
  txid_eq txid tx h := archive.txid_eq (txid, tx) (mem_of_find? h)
  null o hnull := by
    have hvout : o.vout = 0xffffffff := eq_of_beq (Bool.and_eq_true_iff.1 hnull).1
    cases hfind : archive.find? o.txid with
    | none => rfl
    | some tx =>
      have hfew : tx.outputs.length < UInt32.size :=
        archive.numbered (o.txid, tx) (mem_of_find? hfind)
      change tx.numbered? o.vout = none
      rw [Transaction.numbered?_eq_getElem? hfew.le, hvout]
      exact List.getElem?_eq_none (Nat.le_of_lt_succ hfew)

/-- The node of an archive is **honest** about it. -/
theorem honest (archive : Archive) : archive.node.Honest archive.ledger := by
  constructor
  · intro txid tx hgives
    exact ⟨archive.truthful txid tx hgives, tx, gives_iff.1 hgives⟩
  · rintro txid ⟨asked, cause, hreply, -⟩
    change archive.find? txid = none
    cases hfind : archive.find? txid with
    | none => rfl
    | some tx =>
      rw [inTime?_of_find? hfind] at hreply
      cases hreply

/-- It answers with what is in the archive. -/
theorem answer_of_find? {archive : Archive} {txid : Txid} {tx : Transaction}
    (h : archive.find? txid = some tx) : archive.ledger.answer txid = .ok tx :=
  Ledger.answer_eq_ok_iff.2 h

/-- The node of an archive **serves** it, however it is asked. -/
theorem serves (archive : Archive) (policy : RetryPolicy) :
    archive.node.Serves policy archive.ledger := by
  intro txid asked
  cases hfind : archive.find? txid with
  | some tx =>
    have hattempt : Attempt.ofReply policy.timeoutSeconds txid
        (archive.node.transaction txid (asked + 0)) = .success tx :=
      Attempt.ofReply_eq_success_iff.2
        ⟨tx.raw, inTime?_of_find? hfind _, decodeRaw_of_find? hfind⟩
    rw [answer_of_find? hfind, RetryRun.ofReplies_eq_last] <;> rw [hattempt]
    · rfl
    · exact not_false
  | none =>
    have hattempt : Attempt.ofReply policy.timeoutSeconds txid
        (archive.node.transaction txid (asked + 0)) = .final (.transactionNotFound txid) :=
      Attempt.ofReply_eq_notFound_iff.2
        ⟨rfl, _, inTime?_of_find?_eq_none hfind _, by decide +kernel⟩
    have hanswer : archive.ledger.answer txid = .error (.transactionNotFound txid) := by
      unfold Ledger.answer
      change (match archive.find? txid with
        | some tx => _
        | none => _) = _
      rw [hfind]
    rw [hanswer, RetryRun.ofReplies_eq_last] <;> rw [hattempt]
    · rfl
    · exact not_false

/-- So a client that has just connected to it mirrors the archive. -/
theorem mirrors_client (archive : Archive) : archive.client.Mirrors archive.ledger :=
  ⟨archive.serves _, fun _ _ hcached => by cases hcached⟩

end Archive

namespace Client

open Transaction in
/-- The node of an archive resolves a coin in it, and leaves out a transaction that does not
exist. -/
theorem coins_of_fetchesCoins_minted :
    ∃ view, Archive.minted.client.FetchesCoins spendingMinted (.ok view) ∧
      view.resolve ⟨mintingTxid, 0⟩ = some ⟨1000, []⟩ ∧
      view.resolve ⟨⟨FixedBytes.zero 32⟩, 0⟩ = none ∧
      spendingMinted.parse Params.bitcoin view.resolve 400000 0
        = spendingMinted.parse Params.bitcoin Archive.minted.ledger.coins 400000 0 := by
  obtain ⟨view, hview, -⟩ := Archive.minted.mirrors_client.exists_fetchCoinView_eq spendingMinted
  have hfree : CollisionFree fun known =>
      (∃ asked, Archive.minted.node.Gives asked known) ∨ Archive.minted.ledger.Has known := by
    have hfind : ∀ txid known, Archive.minted.find? txid = some known → known = minting :=
      fun txid known h => congrArg Prod.snd (List.mem_singleton.1 (Archive.mem_of_find? h))
    have hminting : ∀ known, (∃ asked, Archive.minted.node.Gives asked known) ∨
        Archive.minted.ledger.Has known → known = minting := by
      rintro known (⟨txid, hgives⟩ | ⟨txid, hknown⟩)
      · exact hfind txid known (Archive.gives_iff.1 hgives)
      · exact hfind txid known hknown
    intro tx tx' hknown hknown' _
    rw [hminting tx hknown, hminting tx' hknown']
  have hcoins := (coins_of_fetchesCoins (.inl hview)).2 Archive.minted.ledger
    Archive.minted.reachable_client Archive.minted.honest hfree
  refine ⟨view, .inl hview, ?_, ?_, hcoins.2 Params.bitcoin 400000 0⟩
  · rw [(hcoins.1 ⟨mintingTxid, 0⟩ List.mem_cons_self rfl).1]
    decide +kernel
  · rw [(hcoins.1 ⟨⟨FixedBytes.zero 32⟩, 0⟩ (by simp [spendingMinted, previous]) rfl).1]
    decide +kernel

end Client

end OmniLayer
