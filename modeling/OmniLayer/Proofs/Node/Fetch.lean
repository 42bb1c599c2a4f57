import OmniLayer.Proofs.Coins
import OmniLayer.Proofs.Node.Archive
import OmniLayer.Proofs.Node.Sequence
import Mathlib.Algebra.Order.BigOperators.Group.List
import Mathlib.Data.List.Induction
import Mathlib.Data.List.Nodup

/-! # Schedules

Requests side by side take their moves in an order that nobody chooses. Whatever the schedule, a
request is where it would be after as many moves of its own (`Fetch.eq_alone`), so the order of the
moves leaves no trace. No schedule is longer than all requests together have moves
(`Fetch.length_le`), and as long as a result is missing some request may move
(`Fetch.exists_mayMove`): a question in the channel can be taken, and whoever holds a permit can go
on. When no request may move, the outcome, the questions that were sent and what the client keeps
are therefore the same for all schedules (`Fetch.Settles`).

This rests on the node being truthful. A transaction that it gives under another identifier would be
kept in the cache under that one, where another request finds it or not, depending on the order. -/

namespace OmniLayer

namespace Fetch

variable {fetch : Fetch} {client : Client} {tx : Transaction} {schedule : List Txid}
  {txid other : Txid}

/-! ## Moves -/

/-- Only the request that moves changes its stage. -/
@[simp] theorem move_stage (fetch : Fetch) (txid other : Txid) :
    (fetch.move txid).stage other = if other = txid
      then (fetch.client.advance txid (fetch.stage txid)).1 else fetch.stage other := rfl

/-- The client behind a move. -/
@[simp] theorem move_client (fetch : Fetch) (txid : Txid) :
    (fetch.move txid).client = (fetch.client.advance txid (fetch.stage txid)).2 := rfl

/-- Only what is asked for moves. -/
theorem mem_of_mayMove (h : fetch.mayMove txid = true) : txid ∈ fetch.wanted :=
  List.contains_iff_mem.1 (Bool.and_eq_true_iff.1 h).1

/-- A question that is sent is written down. -/
theorem move_sent_of_missed (h : fetch.stage txid = .missed) :
    (fetch.move txid).sent = fetch.sent ++ [txid] := by
  simp [move, h]

/-- No other move sends a question. -/
theorem move_sent_of_ne_missed (h : fetch.stage txid ≠ .missed) :
    (fetch.move txid).sent = fetch.sent := by
  unfold move
  dsimp only
  split
  · exact absurd ‹_› h
  · rfl

/-- The last move of a schedule. -/
theorem run?_concat (fetch : Fetch) (schedule : List Txid) (txid : Txid) :
    fetch.run? (schedule ++ [txid]) = (fetch.run? schedule).bind fun fetch =>
      if fetch.mayMove txid then some (fetch.move txid) else none := by
  induction schedule generalizing fetch with
  | nil => rfl
  | cons first rest ih =>
    rw [List.cons_append, run?, run?]
    split
    · exact ih _
    · rfl

/-- What holds at the start, and behind every move that is taken, holds behind every
**schedule**. -/
theorem run?_induction (begin : Fetch) (motive : List Txid → Fetch → Prop)
    (hstart : motive [] begin)
    (hmove : ∀ schedule fetch txid, begin.run? schedule = some fetch →
      motive schedule fetch → fetch.mayMove txid = true →
      motive (schedule ++ [txid]) (fetch.move txid))
    (h : begin.run? schedule = some fetch) : motive schedule fetch := by
  induction schedule using List.reverseRecOn generalizing fetch with
  | nil =>
    cases h
    exact hstart
  | append_singleton schedule txid ih =>
    rw [run?_concat, Option.bind_eq_some_iff] at h
    obtain ⟨before, hbefore, hlast⟩ := h
    rw [Option.ite_none_right_eq_some] at hlast
    obtain ⟨hmay, hlast⟩ := hlast
    cases hlast
    exact hmove schedule before txid hbefore (ih hbefore) hmay

/-- The transactions that are asked for stay. -/
theorem wanted_eq (h : (start client tx).run? schedule = some fetch) :
    fetch.wanted = Client.previousTxids tx :=
  run?_induction _ (fun _ fetch => fetch.wanted = Client.previousTxids tx) rfl
    (fun _ _ _ _ ih _ => ih) h

/-- Nothing moves but what is asked for. -/
theorem eq_idle_of_notMem (h : (start client tx).run? schedule = some fetch)
    (hmem : txid ∉ Client.previousTxids tx) :
    txid ∉ schedule ∧ fetch.stage txid = .idle := by
  refine run?_induction (start client tx)
    (fun schedule fetch => txid ∉ schedule ∧ fetch.stage txid = .idle)
    ⟨List.not_mem_nil, rfl⟩ (fun schedule fetch moved hrun ih hmay => ?_) h
  have hne : txid ≠ moved := by
    rintro rfl
    exact hmem (wanted_eq hrun ▸ mem_of_mayMove hmay)
  rw [move_stage, if_neg hne]
  exact ⟨by simp [ih.1, hne], ih.2⟩

/-! ## What is kept -/

/-- Whatever the node answers, what is **kept** is what it gave. -/
theorem extends_run? (h : (start client tx).run? schedule = some fetch) :
    client.Extends fetch.client ∧ ∀ txid, (fetch.stage txid).IsGiven client.node txid := by
  refine run?_induction (start client tx)
    (fun _ fetch =>
      client.Extends fetch.client ∧ ∀ txid, (fetch.stage txid).IsGiven client.node txid)
    ⟨.of_cached rfl rfl fun _ => rfl, fun _ => trivial⟩ (fun _ fetch moved _ ih _ => ?_) h
  obtain ⟨hextends, hgiven⟩ := ih
  have hnode : fetch.client.node = client.node := hextends.node
  refine ⟨hextends.trans (Client.extends_advance (hnode ▸ hgiven moved)), fun txid => ?_⟩
  rw [move_stage]
  by_cases heq : txid = moved
  · rw [if_pos heq, heq, ← hnode]
    exact Client.isGiven_advance ..
  · rw [if_neg heq]
    exact hgiven txid

/-! ## Each request by itself -/

/-- **A request is where it would be alone**, after as many moves as the schedule gives it. -/
theorem eq_alone (htruthful : client.node.Truthful)
    (h : (start client tx).run? schedule = some fetch) (txid : Txid) :
    fetch.stage txid = (client.alone txid (schedule.count txid)).1 ∧
      (client.alone txid (schedule.count txid)).2.AgreesOn fetch.client txid := by
  refine run?_induction (start client tx)
    (fun schedule fetch => ∀ txid,
      fetch.stage txid = (client.alone txid (schedule.count txid)).1 ∧
        (client.alone txid (schedule.count txid)).2.AgreesOn fetch.client txid)
    (fun txid => ⟨rfl, .refl client txid⟩) (fun schedule fetch moved hrun ih _ txid => ?_) h txid
  obtain ⟨hextends, hgiven⟩ := extends_run? hrun
  obtain ⟨hstage, hagree⟩ := ih txid
  rw [move_stage, move_client]
  by_cases heq : txid = moved
  · subst heq
    have hadvance := Client.advance_congr hagree (fetch.stage txid)
    rw [if_pos rfl, List.count_append, List.count_singleton_self, Client.alone_succ, ← hstage]
    exact hadvance
  · have hcount : [moved].count txid = 0 := by simp [Ne.symm heq]
    rw [if_neg heq, List.count_append, hcount, Nat.add_zero]
    refine ⟨hstage, hagree.trans ?_⟩
    refine Client.agreesOn_advance ?_ ?_ (Ne.symm heq)
    · rw [hextends.node]
      exact htruthful
    · rw [hextends.node]
      exact hgiven moved

/-- A request that may move is not through, so it has **moves left**. -/
theorem count_lt_of_mayMove (htruthful : client.node.Truthful)
    (h : (start client tx).run? schedule = some fetch) (hmay : fetch.mayMove txid = true) :
    schedule.count txid < 2 * client.policy.attempts + 5 := by
  obtain ⟨moves, hmoves, halone⟩ := client.exists_alone_eq txid
  refine Nat.lt_of_lt_of_le (Nat.lt_of_not_le fun hle => ?_) hmoves
  obtain ⟨more, hmore⟩ := Nat.exists_eq_add_of_le hle
  have hstage := (eq_alone htruthful h txid).1
  rw [hmore, Client.alone_add_of_settled (congrArg Prod.fst halone), halone] at hstage
  simp [mayMove, hstage] at hmay

/-! ## Sums over all requests -/

/-- When one of several summands grows, the **sum** grows by as much. -/
theorem sum_map_add {wanted : List Txid} (hnodup : wanted.Nodup) (hmem : txid ∈ wanted)
    {before after : Txid → Nat} {growth : Nat} (hgrows : after txid = before txid + growth)
    (hsame : ∀ other, other ≠ txid → after other = before other) :
    (wanted.map after).sum = (wanted.map before).sum + growth := by
  rw [← List.sum_map_erase after hmem, ← List.sum_map_erase before hmem, hgrows]
  have hrest : (wanted.erase txid).map after = (wanted.erase txid).map before :=
    List.map_congr_left fun other hother => hsame other (hnodup.mem_erase_iff.1 hother).1
  rw [hrest]
  omega

/-- A schedule is as long as all requests have moves. -/
theorem length_eq_sum (h : (start client tx).run? schedule = some fetch) :
    schedule.length = ((Client.previousTxids tx).map schedule.count).sum := by
  refine run?_induction (start client tx)
    (fun schedule _ => schedule.length = ((Client.previousTxids tx).map schedule.count).sum)
    (by simp) (fun schedule fetch moved hrun ih hmay => ?_) h
  have hmem : moved ∈ Client.previousTxids tx := wanted_eq hrun ▸ mem_of_mayMove hmay
  rw [List.length_append, ih, List.length_singleton]
  refine (sum_map_add (Client.nodup_previousTxids tx) hmem ?_ fun other hne => ?_).symm
  · simp
  · simp [Ne.symm hne]

/-- **No schedule goes on for ever.** -/
theorem length_le (htruthful : client.node.Truthful)
    (h : (start client tx).run? schedule = some fetch) :
    schedule.length ≤ (Client.previousTxids tx).length * (2 * client.policy.attempts + 5) := by
  have hcount : ∀ txid, schedule.count txid ≤ 2 * client.policy.attempts + 5 := by
    refine run?_induction (start client tx)
      (fun schedule _ => ∀ txid, schedule.count txid ≤ 2 * client.policy.attempts + 5)
      (fun _ => Nat.zero_le _) (fun schedule fetch moved hrun ih hmay txid => ?_) h
    rw [List.count_append]
    by_cases heq : moved = txid
    · subst heq
      have hlt := count_lt_of_mayMove htruthful hrun hmay
      rw [List.count_singleton_self]
      exact hlt
    · simpa [heq] using ih txid
  rw [length_eq_sum h]
  have hsum := List.sum_le_card_nsmul ((Client.previousTxids tx).map schedule.count)
    (2 * client.policy.attempts + 5) fun count hmem => by
      obtain ⟨txid, -, rfl⟩ := List.mem_map.1 hmem
      exact hcount txid
  simpa using hsum

/-- The **failures** of all requests add up. -/
theorem errorCount_eq_sum (htruthful : client.node.Truthful)
    (h : (start client tx).run? schedule = some fetch) :
    fetch.client.errorCount = client.errorCount + ((Client.previousTxids tx).map fun txid =>
      (client.alone txid (schedule.count txid)).2.errorCount - client.errorCount).sum := by
  refine run?_induction (start client tx)
    (fun schedule fetch => fetch.client.errorCount = client.errorCount +
      ((Client.previousTxids tx).map fun txid =>
        (client.alone txid (schedule.count txid)).2.errorCount - client.errorCount).sum)
    (by simp [start, Client.alone]) (fun schedule fetch moved hrun ih hmay => ?_) h
  have hmem : moved ∈ Client.previousTxids tx := wanted_eq hrun ▸ mem_of_mayMove hmay
  have hstage := (eq_alone htruthful hrun moved).1
  have hle := client.errorCount_le_alone moved (schedule.count moved)
  rw [move_client, Client.errorCount_advance, ih, Nat.add_assoc]
  refine congrArg _ (sum_map_add (Client.nodup_previousTxids tx) hmem ?_ fun other hne => ?_).symm
  · rw [List.count_append, List.count_singleton_self, Client.alone_succ,
      Client.errorCount_advance, ← hstage]
    omega
  · simp [Ne.symm hne]

/-! ## The channel -/

/-- The channel holds the questions that **wait** in it, each once. -/
theorem mem_channel_iff (h : (start client tx).run? schedule = some fetch) :
    fetch.channel.Nodup ∧ ∀ txid, txid ∈ fetch.channel ↔ fetch.stage txid = .queued := by
  refine run?_induction (start client tx)
    (fun _ fetch => fetch.channel.Nodup ∧
      ∀ txid, txid ∈ fetch.channel ↔ fetch.stage txid = .queued)
    ⟨List.nodup_nil, by simp [start]⟩ (fun schedule fetch moved _ ih hmay => ?_) h
  obtain ⟨hnodup, hmem⟩ := ih
  simp only [move_stage]
  cases hstage : fetch.stage moved with
  | missed =>
    -- The question that is sent was not in the channel.
    have hnew : moved ∉ fetch.channel := by
      rw [hmem, hstage]
      exact RequestStage.noConfusion
    have hchannel : (fetch.move moved).channel = fetch.channel ++ [moved] := by
      simp [move, hstage]
    rw [hchannel]
    refine ⟨List.concat_eq_append ▸ hnodup.concat hnew, fun txid => ?_⟩
    by_cases heq : txid = moved
    · simp [heq, Client.advance]
    · simp [heq, hmem]
  | queued =>
    -- The question that is taken is the oldest one, and there is no second copy of it.
    have hhead : fetch.channel.head? = some moved := by
      simpa [mayMove, hstage, mem_of_mayMove hmay] using hmay
    obtain ⟨rest, hchannel⟩ := List.head?_eq_some_iff.1 hhead
    have htail : (fetch.move moved).channel = rest := by
      simp [move, hstage, hchannel]
    rw [hchannel, List.nodup_cons] at hnodup
    rw [htail]
    refine ⟨hnodup.2, fun txid => ?_⟩
    by_cases heq : txid = moved
    · simp [heq, hnodup.1, Client.advance]
    · rw [if_neg heq, ← hmem, hchannel]
      simp [heq]
  | _ =>
    have hchannel : (fetch.move moved).channel = fetch.channel := by
      simp [move, hstage]
    rw [hchannel]
    refine ⟨hnodup, fun txid => ?_⟩
    by_cases heq : txid = moved
    · have hqueued := (fetch.client.advance_fst moved (fetch.stage moved)).2.2
      rw [hstage] at hqueued
      simp [heq, hmem, hstage, hqueued]
    · simp [heq, hmem]

/-! ## The questions that were sent -/

/-- A question is **sent** once, by the second move, unless the transaction is in the cache. -/
theorem count_sent (htruthful : client.node.Truthful)
    (h : (start client tx).run? schedule = some fetch) (txid : Txid) :
    fetch.sent.count txid
      = if client.cached? txid = none ∧ 2 ≤ schedule.count txid then 1 else 0 := by
  refine run?_induction (start client tx)
    (fun schedule fetch => ∀ txid, fetch.sent.count txid
      = if client.cached? txid = none ∧ 2 ≤ schedule.count txid then 1 else 0)
    (by simp [start]) (fun schedule fetch moved hrun ih _ txid => ?_) h txid
  have hstage := (eq_alone htruthful hrun moved).1
  rw [List.count_append]
  by_cases hmissed : fetch.stage moved = .missed
  · -- The request is behind its first move, and this is the second one.
    obtain ⟨hcount, hcached⟩ := Client.alone_eq_missed_iff.1 (hstage ▸ hmissed)
    rw [move_sent_of_missed hmissed, List.count_append, ih]
    by_cases heq : moved = txid
    · subst heq
      simp [hcount, hcached]
    · simp [heq]
  · rw [move_sent_of_ne_missed hmissed, ih]
    by_cases heq : moved = txid
    · subst heq
      rw [hstage, Client.alone_eq_missed_iff] at hmissed
      rw [List.count_singleton_self]
      refine if_congr (and_congr_right fun hcached => ?_) rfl rfl
      have hcount : schedule.count moved ≠ 1 := fun h => hmissed ⟨h, hcached⟩
      omega
    · simp [heq]

/-! ## The end of a schedule -/

/-- As long as there are questions in the channel, the **oldest** one may be taken. -/
theorem exists_mayMove_of_channel (h : (start client tx).run? schedule = some fetch)
    (hchannel : fetch.channel ≠ []) : ∃ txid, fetch.mayMove txid = true := by
  obtain ⟨txid, rest, hcons⟩ := List.exists_cons_of_ne_nil hchannel
  have hqueued : fetch.stage txid = .queued :=
    ((mem_channel_iff h).2 txid).1 (hcons ▸ List.mem_cons_self)
  have hmem : txid ∈ fetch.wanted := by
    by_contra hmem
    rw [wanted_eq h] at hmem
    rw [(eq_idle_of_notMem h hmem).2] at hqueued
    cases hqueued
  exact ⟨txid, by simp [mayMove, hqueued, hmem, hcons]⟩

/-- **No schedule gets stuck**: as long as a result is missing, some request may move. -/
theorem exists_mayMove (h : (start client tx).run? schedule = some fetch)
    (hmem : txid ∈ fetch.wanted) (hmissing : (fetch.stage txid).result? = none) :
    ∃ txid, fetch.mayMove txid = true := by
  cases hstage : fetch.stage txid with
  | settled result =>
    rw [hstage] at hmissing
    cases hmissing
  | missed =>
    by_cases hroom : fetch.channel.length < channelCapacity
    · exact ⟨txid, by simp [mayMove, hstage, hmem, hroom]⟩
    · refine exists_mayMove_of_channel h fun hnil => hroom ?_
      rw [hnil]
      exact Nat.zero_lt_succ 99
  | queued =>
    have hqueued : txid ∈ fetch.channel := ((mem_channel_iff h).2 txid).2 hstage
    exact exists_mayMove_of_channel h (List.ne_nil_of_mem hqueued)
  | accepted =>
    by_cases hpermit : fetch.busy < fetch.client.permits
    · exact ⟨txid, by simp [mayMove, hstage, hmem, hpermit]⟩
    · -- All permits are taken, and whoever holds one may move.
      have hbusy : 0 < fetch.busy := by
        have hpermits : 1 ≤ fetch.client.permits := Nat.le_max_left ..
        omega
      obtain ⟨holder, hholder, hholds⟩ := List.countP_pos_iff.1 hbusy
      refine ⟨holder, ?_⟩
      cases hstage' : fetch.stage holder <;>
        simp_all [mayMove, RequestStage.holdsPermit]
  | _ => exact ⟨txid, by simp [mayMove, hstage, hmem]⟩

/-- When no request may move, each has come to what it comes to **alone**. -/
theorem eq_settled (htruthful : client.node.Truthful)
    (h : (start client tx).run? schedule = some fetch)
    (hdone : ¬∃ txid, fetch.mayMove txid = true) (hmem : txid ∈ Client.previousTxids tx) :
    fetch.stage txid = .settled (client.getTransaction txid).1 ∧
      client.alone txid (schedule.count txid) =
        (.settled (client.getTransaction txid).1, (client.getTransaction txid).2) := by
  have hstage := (eq_alone htruthful h txid).1
  suffices halone : client.alone txid (schedule.count txid) =
      (.settled (client.getTransaction txid).1, (client.getTransaction txid).2) from
    ⟨hstage.trans (congrArg Prod.fst halone), halone⟩
  cases hresult : fetch.stage txid with
  | settled result =>
    -- From here on nothing changes, and the transaction is got in the end.
    obtain ⟨moves, -, halone⟩ := client.exists_alone_eq txid
    have hhere := Client.alone_add_of_settled (hstage.symm.trans hresult) moves
    have hend := Client.alone_add_of_settled (congrArg Prod.fst halone) (schedule.count txid)
    rw [← hhere, Nat.add_comm, hend, halone]
  | _ =>
    have hwanted : txid ∈ fetch.wanted := by
      rw [wanted_eq h]
      exact hmem
    refine absurd (exists_mayMove h hwanted ?_) hdone
    rw [hresult]
    rfl

/-- By then, a question that has to be sent has been sent. -/
theorem two_le_count (htruthful : client.node.Truthful)
    (h : (start client tx).run? schedule = some fetch)
    (hdone : ¬∃ txid, fetch.mayMove txid = true) (hmem : txid ∈ Client.previousTxids tx)
    (hcached : client.cached? txid = none) : 2 ≤ schedule.count txid := by
  have halone := congrArg Prod.fst (eq_settled htruthful h hdone hmem).2
  by_contra hless
  rcases Nat.lt_or_ge (schedule.count txid) 1 with hzero | hone
  · rw [Nat.lt_one_iff.1 hzero] at halone
    cases halone
  · have hmissed := Client.alone_eq_missed_iff.2 ⟨(by omega : schedule.count txid = 1), hcached⟩
    rw [hmissed] at halone
    cases halone

/-- When no request may move, the transactions have been **got**. -/
theorem fetched (htruthful : client.node.Truthful)
    (h : (start client tx).run? schedule = some fetch)
    (hdone : ¬∃ txid, fetch.mayMove txid = true) :
    client.Fetched (Client.previousTxids tx) fetch.client := by
  refine ⟨fun txid hmem => ?_, fun txid hmem => ?_, ?_⟩
  · have hagree := (eq_alone htruthful h txid).2
    rwa [(eq_settled htruthful h hdone hmem).2] at hagree
  · have hagree := (eq_alone htruthful h txid).2
    have hcount : schedule.count txid = 0 :=
      List.count_eq_zero_of_not_mem (eq_idle_of_notMem h hmem).1
    rwa [hcount] at hagree
  · rw [errorCount_eq_sum htruthful h]
    refine congrArg _ (congrArg List.sum (List.map_congr_left fun txid hmem => ?_))
    rw [(eq_settled htruthful h hdone hmem).2, Client.errorCount_getTransaction]
    exact Nat.add_sub_cancel_left ..

/-- Results that are all there make a list. -/
theorem mapM_eq_some_map {result? : Txid → Option (Except RpcError Transaction)}
    {result : Txid → Except RpcError Transaction} {wanted : List Txid}
    (h : ∀ txid ∈ wanted, result? txid = some (result txid)) :
    wanted.mapM result? = some (wanted.map result) := by
  induction wanted with
  | nil => rfl
  | cons txid rest ih =>
    rw [List.mapM_cons, h txid List.mem_cons_self,
      ih fun other hother => h other (List.mem_cons_of_mem _ hother)]
    rfl

/-- When no request may move, the **coins** are made of what was got. -/
theorem result?_eq (htruthful : client.node.Truthful)
    (h : (start client tx).run? schedule = some fetch)
    (hdone : ¬∃ txid, fetch.mayMove txid = true) :
    fetch.result? = some (((Client.previousTxids tx).map fun txid =>
      (client.getTransaction txid).1).foldlM Client.addFetched FinMap.empty) := by
  have hresults : fetch.wanted.mapM (fun txid => (fetch.stage txid).result?) =
      some ((Client.previousTxids tx).map fun txid => (client.getTransaction txid).1) := by
    rw [wanted_eq h]
    refine mapM_eq_some_map fun txid hmem => ?_
    rw [(eq_settled htruthful h hdone hmem).1]
    rfl
  rw [result?, hresults]
  rfl

/-- By the time that there are **coins**, no request may move. -/
theorem not_mayMove_of_result? {result : Except RpcError CoinView}
    (h : fetch.result? = some result) : ¬∃ txid, fetch.mayMove txid = true := by
  rintro ⟨txid, hmay⟩
  obtain ⟨results, hresults, -⟩ := Option.map_eq_some_iff.1 h
  have hopen : (fetch.stage txid).result? = none := by
    cases hstage : fetch.stage txid with
    | settled result' => simp [mayMove, hstage] at hmay
    | _ => rfl
  have hmem := mem_of_mayMove hmay
  -- The one result that is missing would be missing in the list.
  generalize fetch.wanted = wanted at hmem hresults
  induction wanted generalizing results with
  | nil => exact List.not_mem_nil hmem
  | cons first rest ih =>
    rw [List.mapM_cons, Option.bind_eq_bind, Option.bind_eq_some_iff] at hresults
    obtain ⟨head, hhead, hrest⟩ := hresults
    obtain ⟨tail, htail, -⟩ := Option.bind_eq_some_iff.1 hrest
    rcases List.mem_cons.1 hmem with rfl | hmem
    · rw [hopen] at hhead
      cases hhead
    · exact ih tail hmem htail

end Fetch

/-! ## What a client keeps -/

/-- Whether everything in the cache is under its own identifier there, and was **given** by the
node. -/
def Client.IsSound (client : Client) : Prop :=
  ∀ txid tx, client.cached? txid = some tx → tx.txid = txid ∧ ∃ asked, client.node.Gives asked tx

/-- What is in the cache for a transaction, a truthful node gave for it. -/
theorem Client.IsSound.gives {client : Client} (h : client.IsSound)
    (htruthful : client.node.Truthful) {txid : Txid} {tx : Transaction}
    (hcached : client.cached? txid = some tx) : client.node.Gives txid tx := by
  obtain ⟨htxid, asked, hgives⟩ := h txid tx hcached
  rwa [← htruthful asked tx hgives, htxid] at hgives

/-- A client that comes of a sound one is sound. -/
theorem Client.Extends.isSound {client client' : Client} (h : client.Extends client')
    (hsound : client.IsSound) : client'.IsSound := by
  intro txid tx hcached
  rw [h.node]
  rcases h.cached txid tx hcached with hbefore | hgiven
  · exact hsound txid tx hbefore
  · exact hgiven

/-- **Every client is sound**, whatever the node answers. -/
theorem Client.Reachable.isSound {client : Client} (h : client.Reachable) : client.IsSound := by
  induction h with
  | connect h =>
    obtain rfl := Client.eq_fresh_of_connect h
    intro txid tx hcached
    cases hcached
  | testConnection _ ih => exact ih
  | getTransaction _ txid ih => exact (Client.extends_getTransaction _ txid).isSound ih
  | fetchCoinView _ tx ih => exact (Client.extends_fetchCoinView _ tx).isSound ih
  | fetch _ hrun ih => exact (Fetch.extends_run? hrun).1.isSound ih

/-- What is got from a truthful node, it **gave**. -/
theorem Client.gives_of_getTransaction {client : Client} {txid : Txid} {prev : Transaction}
    (hsound : client.IsSound) (htruthful : client.node.Truthful)
    (h : (client.getTransaction txid).1 = .ok prev) : client.node.Gives txid prev := by
  cases hcached : client.cached? txid with
  | some tx =>
    rw [getTransaction_of_cached hcached] at h
    cases h
    exact hsound.gives htruthful hcached
  | none =>
    rw [getTransaction_of_missed hcached] at h
    have hgives := gives_of_run h
    rwa [(client.agreesOn_lookup txid txid).node] at hgives

/-- The coins that a transaction spends are not to be had because of the **least** transaction whose
fetch fails with more than that it does not exist. -/
theorem Client.foldlM_previousTxids_eq_error_iff {given : Txid → Except RpcError Transaction}
    {view : CoinView} {tx : Transaction} {e : RpcError} :
    ((previousTxids tx).map given).foldlM addFetched view = .error e ↔
      ∃ txid, tx.SpendsFrom txid ∧ given txid = .error e ∧ ¬e.IsMissing ∧
        ∀ other, tx.SpendsFrom other → other.before txid = true →
          ∀ e', given other = .error e' → e'.IsMissing := by
  have hsorted := pairwise_previousTxids tx
  simp only [← mem_previousTxids]
  rw [foldlM_addFetched_eq_error_iff]
  generalize previousTxids tx = txids at hsorted
  constructor
  · rintro ⟨before, after, hsplit, he, hbefore⟩
    obtain ⟨front, back, rfl, rfl, hback⟩ := List.map_eq_append_iff.1 hsplit
    obtain ⟨txid, rest, rfl, hgiven, rfl⟩ := List.map_eq_cons_iff.1 hback
    refine ⟨txid, by simp, hgiven, he, fun other hother hless e' he' => hbefore e' ?_⟩
    -- What comes before in the order comes before in the list.
    rcases List.mem_append.1 hother with hfront | hother
    · exact List.mem_map.2 ⟨other, hfront, he'⟩
    · have htail := (List.pairwise_cons.1 (List.pairwise_append.1 hsorted).2.1).1
      rcases List.mem_cons.1 hother with rfl | hrest
      · exact absurd hless (Txid.not_before_self other)
      · exact absurd (Txid.before_trans hless (htail other hrest)) (Txid.not_before_self other)
  · rintro ⟨txid, hmem, hgiven, he, hleast⟩
    obtain ⟨front, rest, rfl⟩ := List.append_of_mem hmem
    refine ⟨front.map given, rest.map given, by simp [hgiven], he, fun e' he' => ?_⟩
    obtain ⟨other, hother, hgiven'⟩ := List.mem_map.1 he'
    have hless : other.before txid = true :=
      (List.pairwise_append.1 hsorted).2.2 other hother txid List.mem_cons_self
    exact hleast other (List.mem_append_left _ hother) hless e' hgiven'

namespace Fetch

/-! ## Every schedule -/

/-- What requests side by side come to: the outcome, the questions, and what the client keeps, in
terms of the client that they began with. -/
structure Settles (client : Client) (tx : Transaction) (fetch : Fetch) : Prop where
  /-- For each transaction that is spent from and not in the cache, one question is sent, and for
  others none. -/
  sent : ∀ txid, fetch.sent.count txid
    = if tx.SpendsFrom txid ∧ client.cached? txid = none then 1 else 0
  /-- Each question is one run of calls. -/
  calls : ∀ txid, fetch.client.callsFor txid = client.callsFor txid
    + if tx.SpendsFrom txid ∧ client.cached? txid = none then (client.run txid).calls else 0
  /-- The outcome is that of one request after the other. -/
  result : fetch.result? = some (client.fetchCoinView tx).1
  /-- The error is that of the least transaction whose fetch fails with more than that it does not
  exist. -/
  error : ∀ e, fetch.result? = some (.error e) ↔
    ∃ txid, tx.SpendsFrom txid ∧ (client.getTransaction txid).1 = .error e ∧ ¬e.IsMissing ∧
      ∀ other, tx.SpendsFrom other → other.before txid = true →
        ∀ e', (client.getTransaction other).1 = .error e' → e'.IsMissing
  /-- The coins are the outputs of the transactions that were found. -/
  coins : ∀ view, fetch.result? = some (.ok view) → ∀ o, view.resolve o
    = if tx.SpendsFrom o.txid
      then (client.getTransaction o.txid).1.toOption.bind fun prev => prev.numbered? o.vout
      else none
  /-- The cache holds what it holds after one request after the other. -/
  cached : ∀ txid, fetch.client.cached? txid = (client.fetchCoinView tx).2.cached? txid
  /-- As many failures are counted as after one request after the other. -/
  errorCount : fetch.client.errorCount = (client.fetchCoinView tx).2.errorCount

/-- Requests of which none may move **have settled**. -/
theorem settles {fetch : Fetch} {client : Client} {tx : Transaction} {schedule : List Txid}
    (hsound : client.IsSound) (htruthful : client.node.Truthful)
    (h : (start client tx).run? schedule = some fetch)
    (hdone : ¬∃ txid, fetch.mayMove txid = true) : fetch.Settles client tx := by
  have hfetched := fetched htruthful h hdone
  have hresult := result?_eq htruthful h hdone
  obtain ⟨hsequence, hfetched'⟩ := Client.fetchCoinView_spec htruthful tx
  refine ⟨fun txid => ?_, fun txid => ?_, ?_, fun e => ?_, fun view hview o => ?_,
    fun txid => (hfetched'.agreesOn hfetched txid).cached, ?_⟩
  · rw [count_sent htruthful h]
    refine if_congr ⟨fun hsent => ?_, fun hsent => ?_⟩ rfl rfl
    · refine ⟨(Client.mem_previousTxids tx).1 (Classical.not_not.1 fun hmem => ?_), hsent.1⟩
      have hcount := List.count_eq_zero_of_not_mem (eq_idle_of_notMem h hmem).1
      omega
    · have hmem := (Client.mem_previousTxids tx).2 hsent.1
      exact ⟨hsent.2, two_le_count htruthful h hdone hmem hsent.2⟩
  · simp only [← Client.mem_previousTxids]
    by_cases hmem : txid ∈ Client.previousTxids tx
    · rw [(hfetched.asked txid hmem).calls, Client.callsFor_getTransaction]
      simp [hmem]
    · rw [(hfetched.left txid hmem).calls]
      simp [hmem]
  · rw [hresult, hsequence]
  · rw [hresult, Option.some_inj]
    exact Client.foldlM_previousTxids_eq_error_iff
  · rw [hresult, Option.some_inj] at hview
    rw [Client.resolve_of_foldlM_addFetched
      (fun txid prev hprev =>
        htruthful txid prev (Client.gives_of_getTransaction hsound htruthful hprev)) hview o]
    simp [Client.mem_previousTxids, CoinView.resolve]
  · rw [hfetched.errorCount, hfetched'.errorCount]

/-- **Every schedule comes to the same.** With a truthful node, requests side by side move only so
often, and when no request may move any more they have settled, in terms that name no schedule: with
the outcome of one request after the other. -/
theorem every_schedule_settles {client : Client} (hclient : client.Reachable)
    (htruthful : client.node.Truthful) (tx : Transaction) {schedule : List Txid} {fetch : Fetch}
    (h : (start client tx).run? schedule = some fetch) :
    schedule.length ≤ (Client.previousTxids tx).length * (2 * client.policy.attempts + 5) ∧
      ((∃ txid, fetch.mayMove txid = true) ∨ fetch.Settles client tx) := by
  refine ⟨length_le htruthful h, ?_⟩
  by_cases hdone : ∃ txid, fetch.mayMove txid = true
  · exact .inl hdone
  · exact .inr (settles hclient.isSound htruthful h hdone)

open Transaction in
/-- The request for the second of two transactions may be through before the first one begins. -/
theorem every_schedule_settles_backwards :
    ∃ fetch, (start Archive.minted.client spendingMinted).run?
        (List.replicate 7 mintingTxid ++ List.replicate 7 ⟨FixedBytes.zero 32⟩) = some fetch ∧
      fetch.Settles Archive.minted.client spendingMinted := by
  have hrun : ((start Archive.minted.client spendingMinted).run?
      (List.replicate 7 mintingTxid ++ List.replicate 7 ⟨FixedBytes.zero 32⟩)).map
        (fun fetch => fetch.wanted.any fetch.mayMove) = some false := by decide +kernel
  obtain ⟨fetch, hfetch, hdone⟩ := Option.map_eq_some_iff.1 hrun
  refine ⟨fetch, hfetch, ?_⟩
  have hevery := every_schedule_settles Archive.minted.reachable_client
    Archive.minted.truthful spendingMinted hfetch
  refine hevery.2.resolve_left fun ⟨txid, hmay⟩ => ?_
  rw [List.any_eq_false] at hdone
  exact hdone txid (mem_of_mayMove hmay) hmay

end Fetch

end OmniLayer
