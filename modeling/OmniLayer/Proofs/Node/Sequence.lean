import OmniLayer.Proofs.Node.Previous
import OmniLayer.Proofs.Node.Request
import Mathlib.Algebra.Order.Ring.Nat

/-! # Requests one after the other

What a client gets and keeps when it asks for several transactions in turn. A question for one
transaction leaves the others alone (`Client.agreesOn_ask`), so that each of them is got as if it
were asked for alone, and the failures add up (`Client.Fetched`, `Client.askMissing_spec`,
`Client.fetchCoinView_spec`). -/

namespace OmniLayer.Client

variable {client client' client'' : Client} {txid other : Txid} {tx : Transaction}

/-! ## One question -/

/-- A question is asked as often as it was **called** for. -/
theorem callsFor_ask (client : Client) (txid other : Txid) :
    (client.ask txid).2.callsFor other
      = if txid = other then client.callsFor txid + (client.run txid).calls
        else client.callsFor other :=
  callsFor_insert ..

/-- Of what a question comes to, a transaction is **kept**. -/
theorem cached?_ask (client : Client) (txid other : Txid) :
    (client.ask txid).2.cached? other = match (client.run txid).result with
      | .ok tx => if tx.txid = other then some tx else client.cached? other
      | .error _ => client.cached? other := by
  unfold ask
  dsimp only
  cases (client.run txid).result with
  | ok tx => exact client.cached?_put tx other
  | error e => rfl

/-- A transaction that a question comes to is one that the node gives. -/
theorem gives_of_run (h : (client.run txid).result = .ok tx) : client.node.Gives txid tx := by
  obtain ⟨count, raw, hraw, hdecode⟩ := RetryRun.exists_of_result_eq_ok h
  exact ⟨_, raw, hraw, hdecode⟩

/-- What a question keeps, the node gave. -/
theorem extends_ask (client : Client) (txid : Txid) : client.Extends (client.ask txid).2 := by
  unfold ask
  dsimp only
  cases hresult : (client.run txid).result with
  | ok tx =>
    exact (client.extends_put (gives_of_run hresult)).trans (.of_cached rfl rfl fun _ => rfl)
  | error e => exact .of_cached rfl rfl fun _ => rfl

/-- A run of attempts depends on what clients agree on. -/
theorem run_congr (h : client.AgreesOn client' txid) : client'.run txid = client.run txid := by
  unfold run
  rw [h.node, h.policy, h.calls]

/-- Behind a question for a transaction, clients that agreed on it agree again. -/
theorem AgreesOn.ask (h : client.AgreesOn client' txid) :
    (client.ask txid).2.AgreesOn (client'.ask txid).2 txid := by
  refine ⟨h.node, h.policy, ?_, ?_⟩
  · rw [callsFor_ask, callsFor_ask, run_congr h, h.calls]
  · rw [cached?_ask, cached?_ask, run_congr h, h.cached]

/-- **A question leaves the other transactions alone.** -/
theorem agreesOn_ask (htruthful : client.node.Truthful) (hne : txid ≠ other) :
    client.AgreesOn (client.ask txid).2 other := by
  refine ⟨rfl, rfl, ?_, ?_⟩
  · rw [callsFor_ask, if_neg hne]
  · rw [cached?_ask]
    cases hresult : (client.run txid).result with
    | error e => rfl
    | ok tx =>
      have htxid : tx.txid = txid := htruthful _ _ (gives_of_run hresult)
      exact if_neg (htxid ▸ hne)

/-- The failures that it takes to **get** a transaction; one in the cache takes none. -/
def failuresFor (client : Client) (txid : Txid) : Nat :=
  if client.cached? txid = none then (client.run txid).failures else 0

/-- A transaction in the cache is got from there. -/
theorem getTransaction_of_cached (h : client.cached? txid = some tx) :
    client.getTransaction txid = (.ok tx, (client.lookup txid).2) := by
  rw [← lookup_fst] at h
  unfold getTransaction
  cases hlookup : client.lookup txid with
  | mk found next =>
    rw [hlookup] at h
    dsimp only at h
    rw [h]

/-- A transaction that is not in the cache is asked for. -/
theorem getTransaction_of_missed (h : client.cached? txid = none) :
    client.getTransaction txid = (client.lookup txid).2.ask txid := by
  rw [← lookup_fst] at h
  unfold getTransaction
  cases hlookup : client.lookup txid with
  | mk found next =>
    rw [hlookup] at h
    dsimp only at h
    rw [h]

/-- The failures are counted. -/
@[simp] theorem errorCount_getTransaction (client : Client) (txid : Txid) :
    (client.getTransaction txid).2.errorCount = client.errorCount + client.failuresFor txid := by
  unfold failuresFor
  cases hcached : client.cached? txid with
  | some tx =>
    rw [getTransaction_of_cached hcached, if_neg (Option.some_ne_none tx)]
    exact client.errorCount_lookup txid
  | none =>
    rw [getTransaction_of_missed hcached, if_pos rfl]
    change (client.lookup txid).2.errorCount + ((client.lookup txid).2.run txid).failures = _
    rw [errorCount_lookup, run_congr (client.agreesOn_lookup txid txid)]

/-- The calls are counted. -/
theorem callsFor_getTransaction (client : Client) (txid : Txid) :
    (client.getTransaction txid).2.callsFor txid = client.callsFor txid
      + if client.cached? txid = none then (client.run txid).calls else 0 := by
  cases hcached : client.cached? txid with
  | some tx =>
    rw [getTransaction_of_cached hcached, if_neg (Option.some_ne_none tx)]
    exact (client.agreesOn_lookup txid txid).calls
  | none =>
    rw [getTransaction_of_missed hcached, if_pos rfl, callsFor_ask, if_pos rfl,
      run_congr (client.agreesOn_lookup txid txid), (client.agreesOn_lookup txid txid).calls]

/-- Clients that agree on a transaction **get** the same, and agree again. -/
theorem AgreesOn.getTransaction (h : client.AgreesOn client' txid) :
    (client'.getTransaction txid).1 = (client.getTransaction txid).1 ∧
      (client.getTransaction txid).2.AgreesOn (client'.getTransaction txid).2 txid ∧
      client'.failuresFor txid = client.failuresFor txid := by
  have hlookup : (client.lookup txid).2.AgreesOn (client'.lookup txid).2 txid :=
    (client.agreesOn_lookup txid txid).symm.trans (h.trans (client'.agreesOn_lookup txid txid))
  have hfailures : client'.failuresFor txid = client.failuresFor txid := by
    unfold failuresFor
    rw [h.cached, run_congr h]
  cases hcached : client.cached? txid with
  | some tx =>
    rw [getTransaction_of_cached hcached, getTransaction_of_cached (h.cached.trans hcached)]
    exact ⟨rfl, hlookup, hfailures⟩
  | none =>
    rw [getTransaction_of_missed hcached, getTransaction_of_missed (h.cached.trans hcached)]
    exact ⟨congrArg RetryRun.result (run_congr hlookup), hlookup.ask, hfailures⟩

/-- What is kept when a transaction is got, the node gave. -/
theorem extends_getTransaction (client : Client) (txid : Txid) :
    client.Extends (client.getTransaction txid).2 := by
  cases hcached : client.cached? txid with
  | some tx =>
    rw [getTransaction_of_cached hcached]
    exact client.extends_lookup txid
  | none =>
    rw [getTransaction_of_missed hcached]
    exact (client.extends_lookup txid).trans (extends_ask _ txid)

/-! ## Several questions -/

/-- Whether a client has **got** transactions, each as if it were the only one. -/
structure Fetched (client : Client) (txids : List Txid) (client' : Client) : Prop where
  /-- Each transaction was got. -/
  asked : ∀ txid ∈ txids, (client.getTransaction txid).2.AgreesOn client' txid
  /-- All others were left alone. -/
  left : ∀ txid ∉ txids, client.AgreesOn client' txid
  /-- The failures of all of them were counted. -/
  errorCount : client'.errorCount = client.errorCount + (txids.map client.failuresFor).sum

namespace Fetched

variable {txids : List Txid}

/-- In whatever way transactions were got, the clients **agree** on all transactions. -/
theorem agreesOn (h : client.Fetched txids client') (h' : client.Fetched txids client'')
    (txid : Txid) : client'.AgreesOn client'' txid := by
  by_cases hmem : txid ∈ txids
  · exact (h.asked txid hmem).symm.trans (h'.asked txid hmem)
  · exact (h.left txid hmem).symm.trans (h'.left txid hmem)

/-- A transaction in the cache is got without a question. -/
theorem of_cached (h : client.cached? txid = some tx) : client.Fetched [txid] client := by
  refine ⟨fun other hother => ?_, fun other _ => .refl client other, ?_⟩
  · rw [List.mem_singleton] at hother
    rw [hother, getTransaction_of_cached h]
    exact (client.agreesOn_lookup txid txid).symm
  · simp [failuresFor, h]

/-- A transaction that is not in the cache is got by one question. -/
theorem ask (htruthful : client.node.Truthful) (h : client.cached? txid = none) :
    client.Fetched [txid] (client.ask txid).2 := by
  refine ⟨fun other hother => ?_, fun other hother => ?_, ?_⟩
  · rw [List.mem_singleton] at hother
    rw [hother, getTransaction_of_missed h]
    exact (client.agreesOn_lookup txid txid).symm.ask
  · exact agreesOn_ask htruthful fun heq => hother (List.mem_singleton.2 heq.symm)
  · simp [failuresFor, h, Client.ask]

/-- Transactions are got **one after the other**. -/
theorem cons (h : client.Fetched [txid] client') (h' : client'.Fetched txids client'')
    (hnew : txid ∉ txids) : client.Fetched (txid :: txids) client'' := by
  have hagree : ∀ other ∈ txids, client.AgreesOn client' other := by
    intro other hother
    refine h.left other fun heq => ?_
    exact hnew (List.mem_singleton.1 heq ▸ hother)
  refine ⟨fun other hother => ?_, fun other hother => ?_, ?_⟩
  · rcases List.mem_cons.1 hother with rfl | hother
    · exact (h.asked other List.mem_cons_self).trans (h'.left other hnew)
    · exact (hagree other hother).getTransaction.2.1.trans (h'.asked other hother)
  · rw [List.mem_cons, not_or] at hother
    have hother' : other ∉ [txid] := fun hmem => hother.1 (List.mem_singleton.1 hmem)
    exact (h.left other hother').trans (h'.left other hother.2)
  · have hfailures : txids.map client'.failuresFor = txids.map client.failuresFor :=
      List.map_congr_left fun other hother => (hagree other hother).getTransaction.2.2
    rw [h'.errorCount, h.errorCount, hfailures]
    simp [Nat.add_assoc]

/-- It makes no difference to begin with a client that agrees on all transactions. -/
theorem of_agreesOn (hagree : ∀ txid, client.AgreesOn client' txid)
    (herrors : client'.errorCount = client.errorCount) (h : client'.Fetched txids client'') :
    client.Fetched txids client'' := by
  refine ⟨fun txid hmem => ?_, fun txid hmem => ?_, ?_⟩
  · exact (hagree txid).getTransaction.2.1.trans (h.asked txid hmem)
  · exact (hagree txid).trans (h.left txid hmem)
  · have hfailures : txids.map client'.failuresFor = txids.map client.failuresFor :=
      List.map_congr_left fun txid _ => (hagree txid).getTransaction.2.2
    rw [h.errorCount, herrors, hfailures]

end Fetched

/-- Lookups in turn find what is in the cache, and count no failure. -/
theorem lookupAll_spec (client : Client) (txids : List Txid) :
    (client.lookupAll txids).1 = txids.map (fun txid => (txid, client.cached? txid)) ∧
      (∀ other, client.AgreesOn (client.lookupAll txids).2 other) ∧
      (client.lookupAll txids).2.errorCount = client.errorCount := by
  induction txids generalizing client with
  | nil => exact ⟨rfl, fun other => .refl client other, rfl⟩
  | cons txid rest ih =>
    have hcons : client.lookupAll (txid :: rest) =
        ((txid, client.cached? txid) :: ((client.lookup txid).2.lookupAll rest).1,
          ((client.lookup txid).2.lookupAll rest).2) := by
      rw [lookupAll, ← lookup_fst]
    obtain ⟨hfound, hagree, herrors⟩ := ih (client.lookup txid).2
    rw [hcons]
    refine ⟨?_, fun other => ?_, ?_⟩
    · rw [List.map_cons]
      refine congrArg _ (hfound.trans (List.map_congr_left fun other _ => ?_))
      rw [(client.agreesOn_lookup txid other).cached]
    · exact (client.agreesOn_lookup txid other).trans (hagree other)
    · exact herrors.trans (client.errorCount_lookup txid)

/-- **Questions in turn** come to what each of them comes to alone. -/
theorem askMissing_spec (htruthful : client.node.Truthful) {txids : List Txid}
    (hnodup : txids.Nodup) :
    (client.askMissing (txids.map fun txid => (txid, client.cached? txid))).1
        = txids.map (fun txid => (client.getTransaction txid).1) ∧
      client.Fetched txids
        (client.askMissing (txids.map fun txid => (txid, client.cached? txid))).2 := by
  induction txids generalizing client with
  | nil => exact ⟨rfl, fun _ h => absurd h List.not_mem_nil, fun txid _ => .refl client txid, rfl⟩
  | cons txid rest ih =>
    obtain ⟨hnew, hrest⟩ := List.nodup_cons.1 hnodup
    rw [List.map_cons, List.map_cons]
    cases hcached : client.cached? txid with
    | some tx =>
      obtain ⟨hresults, hfetched⟩ := ih htruthful hrest
      rw [askMissing, getTransaction_of_cached hcached]
      exact ⟨congrArg _ hresults, (Fetched.of_cached hcached).cons hfetched hnew⟩
    | none =>
      -- The others do not see the question, so they find the same in the cache.
      have hagree : ∀ other ∈ rest, client.AgreesOn (client.ask txid).2 other :=
        fun other hother => agreesOn_ask htruthful fun heq => hnew (heq ▸ hother)
      have hfound : rest.map (fun other => (other, client.cached? other))
          = rest.map fun other => (other, (client.ask txid).2.cached? other) :=
        List.map_congr_left fun other hother => by rw [(hagree other hother).cached]
      obtain ⟨hresults, hfetched⟩ := @ih (client.ask txid).2 htruthful hrest
      rw [askMissing, getTransaction_of_missed hcached, hfound]
      refine ⟨?_, (Fetched.ask htruthful hcached).cons hfetched hnew⟩
      have hhead : ((client.lookup txid).2.ask txid).1 = (client.ask txid).1 :=
        congrArg RetryRun.result (run_congr (client.agreesOn_lookup txid txid))
      have htail : rest.map (fun other => ((client.ask txid).2.getTransaction other).1)
          = rest.map fun other => (client.getTransaction other).1 :=
        List.map_congr_left fun other hother => (hagree other hother).getTransaction.1
      rw [hhead, ← htail, ← hresults]

/-- **Coins are fetched** from what each transaction comes to alone. -/
theorem fetchCoinView_spec (htruthful : client.node.Truthful) (tx : Transaction) :
    (client.fetchCoinView tx).1
        = ((previousTxids tx).map fun txid => (client.getTransaction txid).1).foldlM addFetched
            FinMap.empty ∧
      client.Fetched (previousTxids tx) (client.fetchCoinView tx).2 := by
  obtain ⟨hfound, hagree, herrors⟩ := client.lookupAll_spec (previousTxids tx)
  have hnode : (client.lookupAll (previousTxids tx)).2.node.Truthful := by
    rw [(hagree ⟨FixedBytes.zero 32⟩).node]
    exact htruthful
  obtain ⟨hresults, hfetched⟩ := askMissing_spec hnode (nodup_previousTxids tx)
  have hfound' : (client.lookupAll (previousTxids tx)).1 = (previousTxids tx).map fun txid =>
      (txid, (client.lookupAll (previousTxids tx)).2.cached? txid) :=
    hfound.trans (List.map_congr_left fun txid _ => by rw [(hagree txid).cached])
  have hsame : (previousTxids tx).map (fun txid =>
        ((client.lookupAll (previousTxids tx)).2.getTransaction txid).1)
      = (previousTxids tx).map fun txid => (client.getTransaction txid).1 :=
    List.map_congr_left fun txid _ => (hagree txid).getTransaction.1
  rw [← hfound'] at hresults hfetched
  refine ⟨?_, hfetched.of_agreesOn hagree herrors⟩
  change (((client.lookupAll (previousTxids tx)).2.askMissing
    (client.lookupAll (previousTxids tx)).1).1).foldlM addFetched FinMap.empty = _
  rw [hresults, hsame]

/-- What is kept when transactions are asked for in turn, the node gave. -/
theorem extends_askMissing (client : Client) (found : List (Txid × Option Transaction)) :
    client.Extends (client.askMissing found).2 := by
  induction found generalizing client with
  | nil => exact .of_cached rfl rfl fun _ => rfl
  | cons entry rest ih =>
    obtain ⟨txid, found⟩ := entry
    cases found with
    | some tx => exact ih client
    | none => exact (client.extends_ask txid).trans (ih (client.ask txid).2)

/-- What is kept when coins are fetched, the node gave. -/
theorem extends_fetchCoinView (client : Client) (tx : Transaction) :
    client.Extends (client.fetchCoinView tx).2 := by
  obtain ⟨-, hagree, -⟩ := client.lookupAll_spec (previousTxids tx)
  have hlookups : client.Extends (client.lookupAll (previousTxids tx)).2 :=
    .of_cached (hagree ⟨FixedBytes.zero 32⟩).node (hagree ⟨FixedBytes.zero 32⟩).policy
      fun txid => (hagree txid).cached
  exact hlookups.trans (extends_askMissing _ _)

end OmniLayer.Client
