import OmniLayer.Node.Fetch
import OmniLayer.Proofs.Node.Retry

/-! # A request on its own

A request that moves alone, `Client.alone`, comes to the result of `Client.getTransaction`, and
leaves the client that `Client.getTransaction` leaves (`Client.exists_alone_eq`). What it does
depends on little of the client: on the node, on the policy, and on the calls and the cache entry
for the one transaction (`Client.AgreesOn`, `Client.advance_congr`). And it leaves these alone for
every other transaction (`Client.agreesOn_advance`), as long as the node gives no transaction but
the one that was asked for (`Node.Truthful`). Whatever the node answers, a transaction enters the
cache under its own identifier, and only when the node gives it (`Client.extends_advance`). -/

namespace OmniLayer

/-! ## What a node says -/

namespace Node

/-- Whether a node **gives** a transaction when it is asked for one with an identifier: some answer
in time can be read as it. -/
def Gives (node : Node) (txid : Txid) (tx : Transaction) : Prop :=
  ∃ asked raw, (node.transaction txid asked).inTime? = some (.ok raw) ∧
    Transaction.decodeRaw raw = .ok tx

/-- Whether a node is **truthful**: it gives no transaction but the one that it was asked for. -/
def Truthful (node : Node) : Prop :=
  ∀ txid tx, node.Gives txid tx → tx.txid = txid

end Node

namespace Client

variable {client client' client'' : Client} {txid other : Txid} {tx : Transaction}
  {stage : RequestStage}

/-! ## What a request depends on -/

/-- The transaction with an identifier in the **cache**. -/
def cached? (client : Client) (txid : Txid) : Option Transaction :=
  client.cache.entries.get? txid

/-- Whether two clients **agree** on a transaction: they ask the same node in the same way, have
called for the transaction as often, and have the same in the cache. -/
structure AgreesOn (client client' : Client) (txid : Txid) : Prop where
  /-- They ask the same node. -/
  node : client'.node = client.node
  /-- They ask in the same way. -/
  policy : client'.policy = client.policy
  /-- They have called as often. -/
  calls : client'.callsFor txid = client.callsFor txid
  /-- They have the same in the cache. -/
  cached : client'.cached? txid = client.cached? txid

/-- Every client agrees with itself. -/
theorem AgreesOn.refl (client : Client) (txid : Txid) : client.AgreesOn client txid :=
  ⟨rfl, rfl, rfl, rfl⟩

/-- Agreement is passed on. -/
theorem AgreesOn.trans (h : client.AgreesOn client' txid) (h' : client'.AgreesOn client'' txid) :
    client.AgreesOn client'' txid :=
  ⟨h'.node.trans h.node, h'.policy.trans h.policy, h'.calls.trans h.calls,
    h'.cached.trans h.cached⟩

/-- Agreement goes both ways. -/
theorem AgreesOn.symm (h : client.AgreesOn client' txid) : client'.AgreesOn client txid :=
  ⟨h.node.symm, h.policy.symm, h.calls.symm, h.cached.symm⟩

/-- A lookup finds what is in the cache. -/
@[simp] theorem lookup_fst (client : Client) (txid : Txid) :
    (client.lookup txid).1 = client.cached? txid := by
  unfold lookup Cache.get cached?
  cases client.cache.entries.get? txid <;> rfl

/-- A lookup changes nothing but the counts of lookups. -/
theorem lookup_snd (client : Client) (txid : Txid) : ∃ stats,
    (client.lookup txid).2 = { client with cache := ⟨client.cache.entries, stats⟩ } := by
  unfold lookup Cache.get
  cases client.cache.entries.get? txid <;> exact ⟨_, rfl⟩

/-- Behind a lookup, the client agrees with itself. -/
theorem agreesOn_lookup (client : Client) (txid other : Txid) :
    client.AgreesOn (client.lookup txid).2 other := by
  obtain ⟨stats, hstats⟩ := client.lookup_snd txid
  rw [hstats]
  exact ⟨rfl, rfl, rfl, rfl⟩

/-- A lookup counts no failure. -/
@[simp] theorem errorCount_lookup (client : Client) (txid : Txid) :
    (client.lookup txid).2.errorCount = client.errorCount := by
  obtain ⟨stats, hstats⟩ := client.lookup_snd txid
  rw [hstats]

/-- The number of calls for a transaction behind some that were written down. -/
theorem callsFor_insert (client : Client) (txid other : Txid) (calls : Nat) :
    ({ client with transactionCalls := client.transactionCalls.insert txid calls }).callsFor other
      = if txid = other then calls else client.callsFor other := by
  unfold callsFor
  rw [FinMap.get?_insert]
  split <;> rfl

/-- A transaction that is kept is found under its own identifier, and all others stay. -/
theorem cached?_put (client : Client) (tx : Transaction) (other : Txid) :
    ({ client with cache := client.cache.put tx }).cached? other
      = if tx.txid = other then some tx else client.cached? other :=
  FinMap.get?_insert ..

/-! ## What a client keeps -/

/-- Whether a client **comes of** another by asking: it asks the same node in the same way, and what
is new in the cache is under its own identifier there and was given by the node. -/
structure Extends (client client' : Client) : Prop where
  /-- It asks the same node. -/
  node : client'.node = client.node
  /-- It asks in the same way. -/
  policy : client'.policy = client.policy
  /-- What is in the cache was there before, or was given. -/
  cached : ∀ txid tx, client'.cached? txid = some tx →
    client.cached? txid = some tx ∨ tx.txid = txid ∧ ∃ asked, client.node.Gives asked tx

/-- A client that asks alike and has the same in the cache comes of the first. -/
theorem Extends.of_cached (hnode : client'.node = client.node)
    (hpolicy : client'.policy = client.policy)
    (hcached : ∀ txid, client'.cached? txid = client.cached? txid) : client.Extends client' :=
  ⟨hnode, hpolicy, fun txid _ h => .inl (hcached txid ▸ h)⟩

/-- What comes of a client that comes of a first one comes of the first one. -/
theorem Extends.trans (h : client.Extends client') (h' : client'.Extends client'') :
    client.Extends client'' := by
  refine ⟨h'.node.trans h.node, h'.policy.trans h.policy, fun txid tx hcached => ?_⟩
  rcases h'.cached txid tx hcached with hbefore | ⟨htxid, asked, hgives⟩
  · exact h.cached txid tx hbefore
  · exact .inr ⟨htxid, asked, h.node ▸ hgives⟩

/-- A lookup keeps nothing new. -/
theorem extends_lookup (client : Client) (txid : Txid) :
    client.Extends (client.lookup txid).2 :=
  .of_cached (client.agreesOn_lookup txid txid).node (client.agreesOn_lookup txid txid).policy
    fun other => (client.agreesOn_lookup txid other).cached

/-- A transaction that the node gave may be kept. -/
theorem extends_put (client : Client) (hgives : client.node.Gives txid tx) :
    client.Extends { client with cache := client.cache.put tx } := by
  refine ⟨rfl, rfl, fun other tx' hcached => ?_⟩
  rw [cached?_put] at hcached
  by_cases hother : tx.txid = other
  · rw [if_pos hother] at hcached
    cases hcached
    exact .inr ⟨hother, txid, hgives⟩
  · rw [if_neg hother] at hcached
    exact .inl hcached

end Client

/-! ## One move -/

/-- The failures that a move **counts**. -/
def RequestStage.failed : RequestStage → Nat
  | .answered _ (.final _) | .answered _ (.passing _) => 1
  | _ => 0

/-- An attempt is followed by another call or by the **end** of the run. -/
theorem RequestStage.afterAttempt_cases (policy : RetryPolicy) (txid : Txid) (failures : Nat)
    (attempt : Attempt) :
    afterAttempt policy txid failures attempt = .calling (failures + 1) ∨
      ∃ result, afterAttempt policy txid failures attempt = .returning result := by
  cases attempt with
  | success tx => exact .inr ⟨_, rfl⟩
  | final error => exact .inr ⟨_, rfl⟩
  | passing error =>
    unfold afterAttempt
    dsimp only
    split
    · exact .inl rfl
    · exact .inr ⟨_, rfl⟩

/-- Whether a transaction that a request was answered with is one that the node **gives**. -/
def RequestStage.IsGiven (node : Node) (txid : Txid) : RequestStage → Prop
  | .answered _ (.success tx) => node.Gives txid tx
  | _ => True

namespace Client

variable {client client' client'' : Client} {txid other : Txid} {tx : Transaction}
  {stage : RequestStage}

/-- The **first move** is a lookup. -/
theorem advance_idle (client : Client) (txid : Txid) :
    client.advance txid .idle =
      (match client.cached? txid with
        | some tx => .settled (.ok tx)
        | none => .missed, (client.lookup txid).2) := by
  rw [← lookup_fst, advance]
  cases client.lookup txid with
  | mk found next => cases found <;> rfl

/-- **Where a move leads**: never back to the beginning, to a question that is to be sent from the
beginning only, and into the channel behind such a question only. -/
theorem advance_fst (client : Client) (txid : Txid) (stage : RequestStage) :
    (client.advance txid stage).1 ≠ .idle ∧
      ((client.advance txid stage).1 = .missed ↔ stage = .idle ∧ client.cached? txid = none) ∧
      ((client.advance txid stage).1 = .queued ↔ stage = .missed) := by
  cases stage with
  | idle =>
    rw [advance_idle]
    cases client.cached? txid <;> simp
  | answered failures attempt =>
    obtain h | ⟨result, h⟩ :=
      RequestStage.afterAttempt_cases client.policy txid failures attempt <;>
    simp [advance, h]
  | _ => simp [advance]

/-- A move counts the failure of the attempt that it follows. -/
@[simp] theorem errorCount_advance (client : Client) (txid : Txid) (stage : RequestStage) :
    (client.advance txid stage).2.errorCount = client.errorCount + stage.failed := by
  cases stage with
  | idle =>
    rw [advance_idle]
    exact client.errorCount_lookup txid
  | answered failures attempt => cases attempt <;> rfl
  | _ => rfl

/-- What a request is **answered** with, the node gives. -/
theorem isGiven_advance (client : Client) (txid : Txid) (stage : RequestStage) :
    (client.advance txid stage).1.IsGiven client.node txid := by
  cases stage with
  | idle =>
    rw [advance_idle]
    cases client.cached? txid <;> trivial
  | calling failures =>
    change (RequestStage.answered failures (client.call txid).1).IsGiven client.node txid
    cases hattempt : (client.call txid).1 with
    | success tx =>
      obtain ⟨raw, hraw, hdecode⟩ := Attempt.ofReply_eq_success_iff.1 hattempt
      exact ⟨_, raw, hraw, hdecode⟩
    | _ => trivial
  | answered failures attempt =>
    change (RequestStage.afterAttempt client.policy txid failures attempt).IsGiven client.node txid
    obtain h | ⟨result, h⟩ :=
      RequestStage.afterAttempt_cases client.policy txid failures attempt <;>
    rw [h] <;> trivial
  | _ => trivial

/-- What a move keeps, the node **gave**. -/
theorem extends_advance (hgiven : stage.IsGiven client.node txid) :
    client.Extends (client.advance txid stage).2 := by
  cases stage with
  | idle =>
    rw [advance_idle]
    exact client.extends_lookup txid
  | answered failures attempt =>
    cases attempt with
    | success tx => exact client.extends_put hgiven
    | final error => exact .of_cached rfl rfl fun _ => rfl
    | passing error => exact .of_cached rfl rfl fun _ => rfl
  | _ => exact .of_cached rfl rfl fun _ => rfl

/-- **A move leaves the other transactions alone.** -/
theorem agreesOn_advance (htruthful : client.node.Truthful)
    (hgiven : stage.IsGiven client.node txid) (hne : txid ≠ other) :
    client.AgreesOn (client.advance txid stage).2 other := by
  cases stage with
  | idle =>
    rw [advance_idle]
    exact client.agreesOn_lookup txid other
  | calling failures =>
    refine ⟨rfl, rfl, ?_, rfl⟩
    exact (client.callsFor_insert ..).trans (if_neg hne)
  | answered failures attempt =>
    cases attempt with
    | success tx =>
      have htxid : tx.txid = txid := htruthful _ _ hgiven
      refine ⟨rfl, rfl, rfl, ?_⟩
      exact (client.cached?_put ..).trans (if_neg (htxid ▸ hne))
    | final error => exact ⟨rfl, rfl, rfl, rfl⟩
    | passing error => exact ⟨rfl, rfl, rfl, rfl⟩
  | _ => exact .refl ..

/-- **A move depends on what clients agree on**, and what it leaves is agreed on again. -/
theorem advance_congr (h : client.AgreesOn client' txid) (stage : RequestStage) :
    (client'.advance txid stage).1 = (client.advance txid stage).1 ∧
      (client.advance txid stage).2.AgreesOn (client'.advance txid stage).2 txid := by
  cases stage with
  | idle =>
    rw [advance_idle, advance_idle, h.cached]
    refine ⟨rfl, ?_⟩
    have hbefore : (client.lookup txid).2.AgreesOn client txid :=
      (client.agreesOn_lookup txid txid).symm
    exact hbefore.trans (h.trans (client'.agreesOn_lookup txid txid))
  | calling failures =>
    have hcall : (client'.call txid).1 = (client.call txid).1 := by
      unfold call
      rw [h.node, h.policy, h.calls]
    refine ⟨congrArg (RequestStage.answered failures) hcall, h.node, h.policy, ?_, h.cached⟩
    refine (client'.callsFor_insert ..).trans ?_
    rw [if_pos rfl, h.calls]
    exact ((client.callsFor_insert ..).trans (if_pos rfl)).symm
  | answered failures attempt =>
    refine ⟨by rw [advance, advance, h.policy], ?_⟩
    cases attempt with
    | success tx =>
      refine ⟨h.node, h.policy, h.calls, ?_⟩
      refine (client'.cached?_put ..).trans ?_
      rw [h.cached]
      exact (client.cached?_put ..).symm
    | final error => exact ⟨h.node, h.policy, h.calls, h.cached⟩
    | passing error => exact ⟨h.node, h.policy, h.calls, h.cached⟩
  | _ => exact ⟨rfl, h⟩

/-! ## All moves -/

/-- A request that moves **alone**, after a number of moves. -/
def alone (client : Client) (txid : Txid) : (moves : Nat) → RequestStage × Client
  | 0 => (.idle, client)
  | moves + 1 =>
    let (stage, client) := alone client txid moves
    client.advance txid stage

/-- The next move of a request alone. -/
@[simp] theorem alone_succ (client : Client) (txid : Txid) (moves : Nat) :
    client.alone txid (moves + 1) =
      (client.alone txid moves).2.advance txid (client.alone txid moves).1 := rfl

/-- A request alone is about to send its question after one move, unless the transaction is in the
cache. -/
theorem alone_eq_missed_iff {moves : Nat} :
    (client.alone txid moves).1 = .missed ↔ moves = 1 ∧ client.cached? txid = none := by
  cases moves with
  | zero => simp [alone]
  | succ moves =>
    rw [alone_succ, (advance_fst ..).2.1]
    cases moves with
    | zero => simp [alone]
    | succ moves => simp [alone_succ, (advance_fst ..).1]

/-- A request alone takes back no failure. -/
theorem errorCount_le_alone (client : Client) (txid : Txid) (moves : Nat) :
    client.errorCount ≤ (client.alone txid moves).2.errorCount := by
  induction moves with
  | zero => exact Nat.le_refl _
  | succ moves ih =>
    rw [alone_succ, errorCount_advance]
    exact Nat.le_add_right_of_le ih

/-- Behind the result, nothing changes. -/
theorem alone_add_of_settled {moves : Nat} {result : Except RpcError Transaction}
    (h : (client.alone txid moves).1 = .settled result) (more : Nat) :
    client.alone txid (moves + more) = client.alone txid moves := by
  induction more with
  | zero => rfl
  | succ more ih =>
    rw [← Nat.add_assoc, alone_succ, ih, h, advance, ← h]

/-- The client behind a number of **failed calls**. -/
def failedTimes (client : Client) (txid : Txid) : (count : Nat) → Client
  | 0 => client
  | count + 1 =>
    { client with
      errorCount := client.errorCount + (count + 1)
      transactionCalls :=
        client.transactionCalls.insert txid (client.callsFor txid + (count + 1)) }

/-- A call behind failed ones is the next one that the node is asked. -/
theorem call_failedTimes (client : Client) (txid : Txid) (count : Nat) :
    (client.failedTimes txid count).call txid =
      (Attempt.ofReply client.policy.timeoutSeconds txid
          (client.node.transaction txid (client.callsFor txid + count)),
        { client with
          errorCount := client.errorCount + count
          transactionCalls :=
            client.transactionCalls.insert txid (client.callsFor txid + count + 1) }) := by
  cases count with
  | zero => rfl
  | succ count =>
    have hcalls : (client.failedTimes txid (count + 1)).callsFor txid
        = client.callsFor txid + (count + 1) :=
      (callsFor_insert ..).trans (if_pos rfl)
    unfold call
    rw [hcalls]
    simp only [failedTimes, FinMap.insert_insert]

variable {count : Nat}

/-- A request that was not found in the cache goes from **call to call** while errors pass. -/
theorem alone_eq_calling (hmissed : client.cached? txid = none)
    (hlookup : (client.lookup txid).2 = client')
    (hends : RetryRun.EndsAt client'.policy (fun attempt =>
      Attempt.ofReply client'.policy.timeoutSeconds txid
        (client'.node.transaction txid (client'.callsFor txid + attempt))) count)
    {failures : Nat} (hle : failures ≤ count) :
    client.alone txid (4 + 2 * failures)
      = (.calling failures, client'.failedTimes txid failures) := by
  induction failures with
  | zero =>
    have hfirst : client.alone txid 1 = (.missed, client') := by
      rw [alone_succ, alone, advance_idle, hmissed, hlookup]
    rw [alone_succ, alone_succ, alone_succ, hfirst]
    rfl
  | succ failures ih =>
    have hpassing := hends.passing failures hle
    have hnext : failures + 1 < client'.policy.attempts := Nat.lt_of_le_of_lt hle hends.lt
    rw [Nat.mul_succ, ← Nat.add_assoc, alone_succ, alone_succ, ih (Nat.le_of_succ_le hle), advance,
      call_failedTimes]
    dsimp only at hpassing ⊢
    cases hattempt : Attempt.ofReply client'.policy.timeoutSeconds txid
        (client'.node.transaction txid (client'.callsFor txid + failures)) with
    | passing error =>
      simp only [advance, RequestStage.afterAttempt, if_pos hnext]
      rfl
    | success tx =>
      rw [hattempt] at hpassing
      exact absurd hpassing not_false
    | final error =>
      rw [hattempt] at hpassing
      exact absurd hpassing not_false

/-- Behind the call that ends the run, a request has the **result** of the run. -/
theorem alone_eq_settled (hmissed : client.cached? txid = none)
    (hlookup : (client.lookup txid).2 = client')
    (hends : RetryRun.EndsAt client'.policy (fun attempt =>
      Attempt.ofReply client'.policy.timeoutSeconds txid
        (client'.node.transaction txid (client'.callsFor txid + attempt))) count) :
    client.alone txid (4 + 2 * count + 3) =
      (.settled (client'.ask txid).1, (client'.ask txid).2) := by
  have hrun : client'.run txid = _ := (RetryRun.ofReplies_eq hends).trans (RetryRun.behind_eq ..)
  have hcalling := alone_eq_calling hmissed hlookup hends (Nat.le_refl count)
  rw [alone_succ, alone_succ, alone_succ, hcalling]
  unfold ask
  dsimp only [advance]
  rw [call_failedTimes, hrun]
  have hstops := hends.ends
  dsimp only at hstops ⊢
  cases hattempt : Attempt.ofReply client'.policy.timeoutSeconds txid
      (client'.node.transaction txid (client'.callsFor txid + count)) with
  | success tx =>
    simp [RequestStage.afterAttempt, note, RetryRun.last, Nat.add_assoc, Nat.add_comm 1]
  | final error =>
    simp [RequestStage.afterAttempt, note, RetryRun.last, Nat.add_assoc, Nat.add_comm 1]
  | passing error =>
    -- Only the last attempt may end the run with an error that may pass.
    rw [hattempt] at hstops
    have hlast : ¬count + 1 < client'.policy.attempts := by
      have hcount := hstops.resolve_right fun h => h trivial
      omega
    simp [RequestStage.afterAttempt, hlast, note, RetryRun.last, Nat.add_assoc, Nat.add_comm 1]

/-- **A request on its own gets the transaction**, and within a number of moves that the policy
bounds. -/
theorem exists_alone_eq (client : Client) (txid : Txid) :
    ∃ moves ≤ 2 * client.policy.attempts + 5, client.alone txid moves =
      (.settled (client.getTransaction txid).1, (client.getTransaction txid).2) := by
  have hfound := client.lookup_fst txid
  cases hcached : client.cached? txid with
  | some tx =>
    refine ⟨1, by omega, ?_⟩
    rw [alone_succ, alone, advance_idle, hcached]
    rw [hcached] at hfound
    unfold getTransaction
    cases hlookup : client.lookup txid with
    | mk found next =>
      rw [hlookup] at hfound
      dsimp only at hfound
      rw [hfound]
  | none =>
    rw [hcached] at hfound
    cases hlookup : client.lookup txid with
    | mk found next =>
      rw [hlookup] at hfound
      dsimp only at hfound
      have hnext : (client.lookup txid).2 = next := congrArg Prod.snd hlookup
      have hpolicy : next.policy = client.policy :=
        hnext ▸ (client.agreesOn_lookup txid txid).policy
      obtain ⟨count, hends⟩ := RetryRun.exists_endsAt next.policy fun attempt =>
        Attempt.ofReply next.policy.timeoutSeconds txid
          (next.node.transaction txid (next.callsFor txid + attempt))
      refine ⟨4 + 2 * count + 3, ?_, ?_⟩
      · have hlt := hends.lt
        rw [hpolicy] at hlt
        omega
      · rw [alone_eq_settled hcached hnext hends, getTransaction, hlookup, hfound]

end Client

end OmniLayer
