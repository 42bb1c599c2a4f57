import OmniLayer.Node.Error
import OmniLayer.Settings

/-! # Retries

A question for a transaction is asked again after a failure that may pass, with a growing wait
before each further attempt. Only the first wait may be longer than the cap. A transaction that does
not exist and one that cannot be read are not asked for again. -/

namespace OmniLayer

/-- How often and how **patiently** a question is asked. -/
structure RetryPolicy where
  /-- The number of attempts asked for; there is always at least one. -/
  maxAttempts : Nat
  /-- How long a call may take. -/
  timeoutSeconds : UInt64
  /-- The wait after the first failure, in milliseconds. -/
  initialBackoff : Nat
  /-- What each further wait is multiplied by. -/
  multiplier : Binary64
  /-- The cap on further waits, in seconds. -/
  maxBackoffSeconds : Nat
  deriving DecidableEq, Repr

namespace RetryPolicy

/-- The policy that the node settings ask for. -/
def ofSettings (rpc : RpcSettings) : RetryPolicy where
  maxAttempts := rpc.maxRetries.toNat
  timeoutSeconds := rpc.timeoutSeconds
  initialBackoff := rpc.initialBackoffMs.toNat
  multiplier := rpc.backoffMultiplier
  maxBackoffSeconds := rpc.maxBackoffSeconds.toNat

/-- The number of **attempts**. -/
def attempts (policy : RetryPolicy) : Nat := max 1 policy.maxAttempts

/-- The wait after a wait of `current` milliseconds: the product with the multiplier, up to the
cap. -/
def nextBackoff (current : Nat) (multiplier : Binary64) (maxSeconds : Nat) : Nat :=
  min ((Binary64.ofNat current).mul multiplier).truncate (1000 * maxSeconds)

/-- The wait that follows a wait of `current` milliseconds under the policy. -/
def step (policy : RetryPolicy) (current : Nat) : Nat :=
  nextBackoff current policy.multiplier policy.maxBackoffSeconds

/-- The wait that is `steps` waits after a wait of `current` milliseconds. A wait that
follows itself is the last one that needs computing. -/
def backoffFrom (policy : RetryPolicy) : (steps current : Nat) → Nat
  | 0, current => current
  | steps + 1, current =>
    if policy.step current = current then current
    else backoffFrom policy steps (policy.step current)

/-- A wait that follows itself stays. -/
theorem backoffFrom_eq_self {policy : RetryPolicy} {current : Nat}
    (h : policy.step current = current) (steps : Nat) :
    policy.backoffFrom steps current = current := by
  cases steps with
  | zero => rfl
  | succ steps => simp [backoffFrom, h]

/-- Each wait is the step of the one before it. -/
theorem backoffFrom_succ (policy : RetryPolicy) (steps current : Nat) :
    policy.backoffFrom (steps + 1) current =
      policy.backoffFrom steps (policy.step current) := by
  by_cases h : policy.step current = current
  · rw [h, backoffFrom_eq_self h, backoffFrom_eq_self h]
  · simp [backoffFrom, h]

/-- The **wait** after a number of failures, in milliseconds. -/
def backoffAfter (policy : RetryPolicy) (failures : Nat) : Nat :=
  policy.backoffFrom (failures - 1) policy.initialBackoff

end RetryPolicy

/-- What one **attempt** comes to. -/
inductive Attempt
  /-- The transaction. -/
  | success (tx : Transaction)
  /-- An error that ends the attempts. -/
  | final (error : RpcError)
  /-- An error that may pass. -/
  | passing (error : RpcError)

namespace Attempt

/-- The question for a transaction, in words. -/
def operation (txid : Txid) : String := "getrawtransaction(" ++ txid.text ++ ")"

/-- The attempt that a **reply** makes. -/
def ofReply (timeoutSeconds : UInt64) (txid : Txid) (reply : Reply String) : Attempt :=
  match reply.inTime? with
  | none => .passing (.timeout timeoutSeconds (operation txid))
  | some (.error cause) =>
    let error := RpcError.callFailed "getrawtransaction" cause
    if RpcError.isNotFound error.message then .final (.transactionNotFound txid)
    else .passing error
  | some (.ok raw) =>
    match Transaction.decodeRaw raw with
    | .ok tx => .success tx
    | .error error => .final error

/-- The error that remains when the last attempt meets one that may pass: a timeout remains a
timeout. -/
def exhausted (txid : Txid) : RpcError → RpcError
  | .timeout seconds operation => .timeout seconds operation
  | _ => .maxRetriesExceeded (operation txid)

end Attempt

/-- A **run** of attempts. -/
structure RetryRun where
  /-- The transaction, or why there is none. -/
  result : Except RpcError Transaction
  /-- The number of calls. -/
  calls : Nat
  /-- The number of calls that failed. -/
  failures : Nat
  /-- The waits between the calls, in milliseconds. -/
  waits : List Nat

namespace RetryRun

/-- The run that ends with an attempt behind `failures` failed ones. -/
def last (txid : Txid) : Attempt → RetryRun
  | .success tx => ⟨.ok tx, 1, 0, []⟩
  | .final error => ⟨.error error, 1, 1, []⟩
  | .passing error => ⟨.error (Attempt.exhausted txid error), 1, 1, []⟩

/-- A run behind one more failed call and a wait. -/
def afterFailure (wait : Nat) (run : RetryRun) : RetryRun :=
  { run with
    calls := run.calls + 1
    failures := run.failures + 1
    waits := wait :: run.waits }

/-- The run in which `left` attempts may follow the next one and `failures` failed before it. -/
def continued (policy : RetryPolicy) (txid : Txid) (reply : Nat → Reply String) :
    (left failures : Nat) → RetryRun
  | 0, failures => last txid (Attempt.ofReply policy.timeoutSeconds txid (reply failures))
  | left + 1, failures =>
    match Attempt.ofReply policy.timeoutSeconds txid (reply failures) with
    | .passing _ =>
      afterFailure (policy.backoffAfter (failures + 1))
        (continued policy txid reply left (failures + 1))
    | attempt => last txid attempt

/-- The **run of attempts** for a transaction, given the reply to each. -/
def ofReplies (policy : RetryPolicy) (txid : Txid) (reply : Nat → Reply String) : RetryRun :=
  continued policy txid reply (policy.attempts - 1) 0

end RetryRun

end OmniLayer
