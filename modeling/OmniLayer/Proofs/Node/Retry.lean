import OmniLayer.Node.Retry
import Mathlib.Data.Nat.Find

/-! # What a run of attempts comes to

A run goes on while its attempts meet errors that may pass, and ends with the first attempt that
does not, or with the last one that the policy allows (`RetryRun.EndsAt`). There is always one such
attempt (`RetryRun.exists_endsAt`), and the result, the calls, the failures and the waits of the run
can be read off it (`RetryRun.ofReplies_eq`). So a transaction that comes out of a run, and the
answer that it does not exist, are what the node said in one of its replies
(`RetryRun.exists_of_result_eq_ok`, `RetryRun.exists_of_result_eq_notFound`). -/

namespace OmniLayer

/-! ## Attempts -/

namespace Attempt

variable {timeoutSeconds : UInt64} {txid : Txid} {reply : Reply String}

/-- Whether an attempt meets an error that **may pass**. -/
def IsPassing : Attempt → Prop
  | .passing _ => True
  | _ => False

/-- An attempt has a transaction when an answer in time can be read as one. -/
theorem ofReply_eq_success_iff {tx : Transaction} :
    ofReply timeoutSeconds txid reply = .success tx ↔
      ∃ raw, reply.inTime? = some (.ok raw) ∧ Transaction.decodeRaw raw = .ok tx := by
  unfold ofReply
  cases reply.inTime? with
  | none => simp
  | some answer =>
    cases answer with
    | error cause =>
      dsimp only
      split <;> simp
    | ok raw =>
      dsimp only
      cases hraw : Transaction.decodeRaw raw with
      | error error => simp [hraw]
      | ok tx' => simp [hraw]

/-- An attempt says that a transaction does not exist when a **refusal** in time has the wording for
it; it is the transaction that was asked for. -/
theorem ofReply_eq_notFound_iff {missing : Txid} :
    ofReply timeoutSeconds txid reply = .final (.transactionNotFound missing) ↔
      missing = txid ∧ ∃ cause, reply.inTime? = some (.error cause) ∧
        RpcError.isNotFound (RpcError.callFailed "getrawtransaction" cause).message = true := by
  unfold ofReply
  cases reply.inTime? with
  | none => simp
  | some answer =>
    cases answer with
    | error cause =>
      dsimp only
      by_cases hmissing :
        RpcError.isNotFound (RpcError.callFailed "getrawtransaction" cause).message = true
      · simp [hmissing, @eq_comm _ missing]
      · simp [hmissing]
    | ok raw =>
      dsimp only
      cases hraw : Transaction.decodeRaw raw with
      | ok tx => simp
      | error error =>
        -- A text that cannot be read is an error of its own kind.
        obtain ⟨cause, rfl⟩ : ∃ cause, error = .deserialisationFailed cause := by
          unfold Transaction.decodeRaw at hraw
          cases hof : Transaction.ofRaw raw with
          | error cause =>
            rw [hof] at hraw
            cases hraw
            exact ⟨cause, rfl⟩
          | ok tx =>
            rw [hof] at hraw
            cases hraw
        simp

/-- What remains of an error that may pass is never that a transaction does not exist. -/
theorem exhausted_ne_notFound (error : RpcError) (missing : Txid) :
    exhausted txid error ≠ .transactionNotFound missing := by
  cases error <;> simp [exhausted]

end Attempt

/-! ## Runs -/

namespace RetryRun

variable {policy : RetryPolicy} {txid : Txid} {attempt : Nat → Attempt}
  {reply : Nat → Reply String} {count : Nat}

/-- Whether a run of attempts **ends** with the one that `count` others come before. -/
structure EndsAt (policy : RetryPolicy) (attempt : Nat → Attempt) (count : Nat) : Prop where
  /-- There are that many attempts. -/
  lt : count < policy.attempts
  /-- All attempts before it meet errors that may pass. -/
  passing : ∀ earlier < count, (attempt earlier).IsPassing
  /-- It is the last one there is, or meets no such error. -/
  ends : count + 1 = policy.attempts ∨ ¬(attempt count).IsPassing

/-- Every run **ends** with one of its attempts. -/
theorem exists_endsAt (policy : RetryPolicy) (attempt : Nat → Attempt) :
    ∃ count, EndsAt policy attempt count := by
  classical
  have hpos : 0 < policy.attempts := Nat.lt_of_lt_of_le Nat.zero_lt_one (Nat.le_max_left ..)
  have hlast : ∃ count, count + 1 = policy.attempts ∨ ¬(attempt count).IsPassing :=
    ⟨policy.attempts - 1, .inl (Nat.sub_add_cancel hpos)⟩
  refine ⟨Nat.find hlast, ?_, fun earlier hearlier => ?_, Nat.find_spec hlast⟩
  · have hle : Nat.find hlast ≤ policy.attempts - 1 :=
      Nat.find_min' hlast (.inl (Nat.sub_add_cancel hpos))
    omega
  · exact Classical.not_not.1 fun h => Nat.find_min hlast hearlier (.inr h)

/-- A run behind failed attempts, `failures` of which came before them. -/
def behind (policy : RetryPolicy) (failures count : Nat) (run : RetryRun) : RetryRun :=
  ((List.range' failures count).map fun failed => policy.backoffAfter (failed + 1)).foldr
    afterFailure run

/-- Failed attempts add to the **calls**, to the **failures** and to the **waits**, and leave the
result as it is. -/
theorem behind_eq (failures : Nat) (run : RetryRun) :
    behind policy failures count run =
      { result := run.result
        calls := run.calls + count
        failures := run.failures + count
        waits := (List.range' failures count).map (fun failed => policy.backoffAfter (failed + 1))
          ++ run.waits } := by
  unfold behind
  induction count generalizing failures with
  | zero => rfl
  | succ count ih =>
    rw [List.range'_succ, List.map_cons, List.foldr_cons, ih]
    simp [afterFailure, Nat.add_assoc]

/-- A run that goes on from `failures` failed attempts, with the end `count` attempts further on. -/
theorem continued_eq {left failures : Nat} (hle : count ≤ left)
    (hpassing : ∀ earlier < count,
      (Attempt.ofReply policy.timeoutSeconds txid (reply (failures + earlier))).IsPassing)
    (hends : count = left ∨
      ¬(Attempt.ofReply policy.timeoutSeconds txid (reply (failures + count))).IsPassing) :
    continued policy txid reply left failures =
      behind policy failures count
        (last txid (Attempt.ofReply policy.timeoutSeconds txid (reply (failures + count)))) := by
  induction count generalizing left failures with
  | zero =>
    cases left with
    | zero => rfl
    | succ left =>
      have hstops : ¬(Attempt.ofReply policy.timeoutSeconds txid (reply failures)).IsPassing :=
        hends.resolve_left (Nat.succ_ne_zero left).symm
      rw [continued]
      change _ = last txid (Attempt.ofReply policy.timeoutSeconds txid (reply failures))
      cases hattempt : Attempt.ofReply policy.timeoutSeconds txid (reply failures) with
      | passing error =>
        rw [hattempt] at hstops
        exact absurd trivial hstops
      | success tx => rfl
      | final error => rfl
  | succ count ih =>
    cases left with
    | zero => exact absurd hle (Nat.not_succ_le_zero count)
    | succ left =>
      have hnext : ∀ k, failures + 1 + k = failures + (k + 1) := by omega
      have hrest := @ih left (failures + 1) (Nat.le_of_succ_le_succ hle)
        (fun earlier hearlier => by
          rw [hnext]
          exact hpassing (earlier + 1) (Nat.succ_lt_succ hearlier))
        (by
          rw [hnext]
          exact hends.imp_left Nat.succ_inj.1)
      have hfirst : (Attempt.ofReply policy.timeoutSeconds txid (reply failures)).IsPassing :=
        hpassing 0 (Nat.succ_pos count)
      rw [continued]
      cases hattempt : Attempt.ofReply policy.timeoutSeconds txid (reply failures) with
      | passing error =>
        dsimp only
        rw [hrest, hnext]
        rfl
      | success tx =>
        rw [hattempt] at hfirst
        exact absurd hfirst not_false
      | final error =>
        rw [hattempt] at hfirst
        exact absurd hfirst not_false

/-- **A run is the failed attempts and the one that it ends with.** -/
theorem ofReplies_eq
    (h : EndsAt policy (fun k => Attempt.ofReply policy.timeoutSeconds txid (reply k)) count) :
    ofReplies policy txid reply =
      behind policy 0 count
        (last txid (Attempt.ofReply policy.timeoutSeconds txid (reply count))) := by
  have hlt : count < policy.attempts := h.lt
  have hrun : continued policy txid reply (policy.attempts - 1) 0 =
      behind policy 0 count
        (last txid (Attempt.ofReply policy.timeoutSeconds txid (reply (0 + count)))) := by
    refine continued_eq (Nat.le_sub_one_of_lt hlt) (fun earlier hearlier => ?_) ?_
    · rw [Nat.zero_add]
      exact h.passing earlier hearlier
    · rw [Nat.zero_add]
      exact h.ends.imp_left Nat.eq_sub_of_add_eq
  rwa [Nat.zero_add] at hrun

/-- A run whose **first** attempt meets no error that may pass is that attempt. -/
theorem ofReplies_eq_last
    (h : ¬(Attempt.ofReply policy.timeoutSeconds txid (reply 0)).IsPassing) :
    ofReplies policy txid reply
      = last txid (Attempt.ofReply policy.timeoutSeconds txid (reply 0)) := by
  have hpos : 0 < policy.attempts := Nat.lt_of_lt_of_le Nat.zero_lt_one (Nat.le_max_left ..)
  exact ofReplies_eq ⟨hpos, fun _ hearlier => absurd hearlier (Nat.not_lt_zero _), .inr h⟩

/-- The **result** of a run is that of the attempt it ends with. -/
theorem exists_result_eq (policy : RetryPolicy) (txid : Txid) (reply : Nat → Reply String) :
    ∃ count, (ofReplies policy txid reply).result =
      (last txid (Attempt.ofReply policy.timeoutSeconds txid (reply count))).result := by
  obtain ⟨count, hends⟩ :=
    exists_endsAt policy fun k => Attempt.ofReply policy.timeoutSeconds txid (reply k)
  refine ⟨count, ?_⟩
  rw [ofReplies_eq hends, behind_eq]

/-- A **transaction** that comes out of a run can be read off a reply in time. -/
theorem exists_of_result_eq_ok {tx : Transaction}
    (h : (ofReplies policy txid reply).result = .ok tx) :
    ∃ count raw, (reply count).inTime? = some (.ok raw) ∧ Transaction.decodeRaw raw = .ok tx := by
  obtain ⟨count, hcount⟩ := exists_result_eq policy txid reply
  rw [hcount] at h
  cases hattempt : Attempt.ofReply policy.timeoutSeconds txid (reply count) with
  | success tx' =>
    rw [hattempt] at h
    cases h
    exact ⟨count, Attempt.ofReply_eq_success_iff.1 hattempt⟩
  | final error =>
    rw [hattempt] at h
    cases h
  | passing error =>
    rw [hattempt] at h
    cases h

/-- That a transaction **does not exist** comes out of a run when a refusal in time says so. -/
theorem exists_of_result_eq_notFound {missing : Txid}
    (h : (ofReplies policy txid reply).result = .error (.transactionNotFound missing)) :
    missing = txid ∧ ∃ count cause, (reply count).inTime? = some (.error cause) ∧
      RpcError.isNotFound (RpcError.callFailed "getrawtransaction" cause).message = true := by
  obtain ⟨count, hcount⟩ := exists_result_eq policy txid reply
  rw [hcount] at h
  cases hattempt : Attempt.ofReply policy.timeoutSeconds txid (reply count) with
  | success tx =>
    rw [hattempt] at h
    cases h
  | final error =>
    rw [hattempt] at h
    cases h
    obtain ⟨hmissing, cause, hrefusal⟩ := Attempt.ofReply_eq_notFound_iff.1 hattempt
    exact ⟨hmissing, count, cause, hrefusal⟩
  | passing error =>
    rw [hattempt] at h
    exact absurd (Except.error.inj h) (Attempt.exhausted_ne_notFound error missing)

end RetryRun

end OmniLayer
