import OmniLayer.Proofs.Node.Sequence
import OmniLayer.Proofs.Node.Wording

/-! # The calls behind a question

A question for a transaction is a loop over the calls that the policy allows. A call that brings the
transaction, or the answer that there is none, or something that cannot be read, ends it; any other
failure is followed by a wait and the next call, if there is one. What comes of the question follows
from the outcomes of the calls alone, and it is what comes of the loop when it is carried out call
by call with the last error carried along (`Client.ask_exact`, `RetryState.loop_of_stopsAt`). -/

namespace OmniLayer

/-! ## What a call comes to -/

/-- The **outcome** of a call for a transaction. -/
inductive CallOutcome
  /-- The transaction. -/
  | transaction (tx : Transaction)
  /-- An error that is worded as if there were no such transaction. -/
  | notFound (error : RpcError)
  /-- An answer that cannot be read as a transaction. -/
  | undecodable (cause : RawError)
  /-- Any other failure of the call. -/
  | failure (cause : CallFailure)
  /-- No answer in time. -/
  | timeout
  deriving DecidableEq, Repr

namespace CallOutcome

/-- The outcome of a call that comes to an **error**: how it is worded is asked first. -/
def ofError (error : RpcError) (outcome : CallOutcome) : CallOutcome :=
  if RpcError.isNotFound error.message then .notFound error else outcome

/-- The outcome of a call with a **reply**. -/
def ofReply (reply : Reply String) : CallOutcome :=
  match reply.inTime? with
  | none => .timeout
  | some (.error cause) => ofError (.callFailed "getrawtransaction" cause) (.failure cause)
  | some (.ok raw) =>
    match Transaction.ofRaw raw with
    | .ok tx => .transaction tx
    | .error cause => ofError (.deserialisationFailed cause) (.undecodable cause)

/-- What a question comes to when it is **settled** by an outcome. -/
def result? (txid : Txid) : CallOutcome → Option (Except RpcError Transaction)
  | .transaction tx => some (.ok tx)
  | .notFound _ => some (.error (.transactionNotFound txid))
  | .undecodable cause => some (.error (.deserialisationFailed cause))
  | .failure _ => none
  | .timeout => none

/-- Whether an outcome **settles** the question. -/
def settles : CallOutcome → Bool
  | .transaction _ | .notFound _ | .undecodable _ => true
  | .failure _ | .timeout => false

/-- Whether a call **failed**. -/
def failed : CallOutcome → Bool
  | .transaction _ => false
  | _ => true

/-- The error of a call that settles nothing. -/
def error? (timeoutSeconds : UInt64) (txid : Txid) : CallOutcome → Option RpcError
  | .failure cause => some (.callFailed "getrawtransaction" cause)
  | .timeout => some (.timeout timeoutSeconds (Attempt.operation txid))
  | _ => none

/-- What a question comes to when its **last** call has an outcome. -/
def lastResult (timeoutSeconds : UInt64) (txid : Txid) : CallOutcome → Except RpcError Transaction
  | .transaction tx => .ok tx
  | .notFound _ => .error (.transactionNotFound txid)
  | .undecodable cause => .error (.deserialisationFailed cause)
  | .failure _ => .error (.maxRetriesExceeded (Attempt.operation txid))
  | .timeout => .error (.timeout timeoutSeconds (Attempt.operation txid))

/-- The **attempt** that a call makes. -/
def attempt (timeoutSeconds : UInt64) (txid : Txid) : CallOutcome → Attempt
  | .transaction tx => .success tx
  | .notFound _ => .final (.transactionNotFound txid)
  | .undecodable cause => .final (.deserialisationFailed cause)
  | .failure cause => .passing (.callFailed "getrawtransaction" cause)
  | .timeout => .passing (.timeout timeoutSeconds (Attempt.operation txid))

variable {timeoutSeconds : UInt64} {txid : Txid}

/-- A reply makes the attempt of its outcome. -/
theorem attempt_ofReply (reply : Reply String) :
    (ofReply reply).attempt timeoutSeconds txid = Attempt.ofReply timeoutSeconds txid reply := by
  unfold Attempt.ofReply ofReply
  cases reply.inTime? with
  | none => rfl
  | some answer =>
    cases answer with
    | error cause =>
      dsimp only
      unfold ofError
      by_cases hmissing :
        RpcError.isNotFound (RpcError.callFailed "getrawtransaction" cause).message = true
      · simp only [hmissing, if_true, attempt]
      · rw [if_neg hmissing, if_neg hmissing]
        rfl
    | ok raw =>
      dsimp only
      unfold Transaction.decodeRaw
      cases Transaction.ofRaw raw with
      | ok tx => simp only [attempt, Except.mapError]
      | error cause =>
        -- What cannot be read is not worded as if it were missing.
        have hundecodable : ofError (.deserialisationFailed cause) (.undecodable cause)
            = .undecodable cause := by
          rw [ofError, RpcError.isNotFound_deserialisationFailed]
          rfl
        simp only [hundecodable, attempt, Except.mapError]

/-- The run that ends with a call. -/
theorem last_attempt (outcome : CallOutcome) :
    RetryRun.last txid (outcome.attempt timeoutSeconds txid) =
      ⟨outcome.lastResult timeoutSeconds txid, 1, outcome.failed.toNat, []⟩ := by
  cases outcome with
  | _ => rfl

/-- An attempt goes on exactly when its call settles nothing. -/
theorem isPassing_attempt_iff (outcome : CallOutcome) :
    (outcome.attempt timeoutSeconds txid).IsPassing ↔ outcome.settles = false := by
  cases outcome with
  | failure cause => exact iff_of_true trivial rfl
  | timeout => exact iff_of_true trivial rfl
  | _ => exact iff_of_false id Bool.noConfusion

/-- A call that settles nothing failed. -/
theorem failed_of_not_settles {outcome : CallOutcome} (h : outcome.settles = false) :
    outcome.failed = true := by
  cases outcome with
  | failure cause => rfl
  | timeout => rfl
  | _ => cases h

/-- The last call leaves the result that it settles, if it settles one. -/
theorem lastResult_of_settles {outcome : CallOutcome} (h : outcome.settles = true) :
    some (outcome.lastResult timeoutSeconds txid) = outcome.result? txid := by
  cases outcome with
  | failure cause => cases h
  | timeout => cases h
  | _ => rfl

end CallOutcome

/-! ## Where the calls stop -/

/-- Whether the calls **stop** with the one at a place, counted from one: none before it settles the
question, and it does or is the last that is allowed. -/
structure StopsAt (attempts : Nat) (outcome : Nat → CallOutcome) (calls : Nat) : Prop where
  /-- There is a call. -/
  pos : 0 < calls
  /-- It is allowed. -/
  le : calls ≤ attempts
  /-- None before it settles the question. -/
  passing : ∀ earlier, 0 < earlier → earlier < calls → (outcome earlier).settles = false
  /-- It settles the question, or is the last one. -/
  stops : calls = attempts ∨ (outcome calls).settles = true

/-- Whether the **first outcome that settles** the question is the one at a place, counted from
one. -/
structure SettlesFirst (outcome : Nat → CallOutcome) (place : Nat) : Prop where
  /-- Places are counted from one. -/
  pos : 0 < place
  /-- The outcome there settles the question. -/
  settles : (outcome place).settles = true
  /-- None before it does. -/
  passing : ∀ earlier, 0 < earlier → earlier < place → (outcome earlier).settles = false

section Stops

variable {attempts calls place : Nat} {outcome : Nat → CallOutcome}

/-- The calls stop at the first outcome that settles the question, if that is allowed. -/
theorem StopsAt.eq_min (h : StopsAt attempts outcome calls) (hplace : SettlesFirst outcome place) :
    calls = min place attempts := by
  have hle := h.le
  have hplaced : calls ≤ place := by
    by_contra hlt
    have hpassing := h.passing place hplace.pos (by omega)
    rw [hplace.settles] at hpassing
    cases hpassing
  obtain hlast | hsettles := h.stops
  · omega
  · have hge : place ≤ calls := by
      by_contra hlt
      have hpassing := hplace.passing calls h.pos (by omega)
      rw [hsettles] at hpassing
      cases hpassing
    omega

/-- The calls go on to the last one if no outcome up to there settles the question. -/
theorem StopsAt.eq_attempts (h : StopsAt attempts outcome calls)
    (hnone : ∀ place ≤ attempts, ¬ SettlesFirst outcome place) : calls = attempts := by
  obtain hlast | hsettles := h.stops
  · exact hlast
  · exact absurd ⟨h.pos, hsettles, h.passing⟩ (hnone calls h.le)

end Stops

/-! ## Runs -/

namespace RetryRun

variable {policy : RetryPolicy} {txid : Txid} {reply : Nat → Reply String} {calls : Nat}

/-- The outcomes of the calls with given **replies**, counted from one. -/
def outcome (reply : Nat → Reply String) (place : Nat) : CallOutcome :=
  CallOutcome.ofReply (reply (place - 1))

/-- Calls stop where a run of attempts ends. -/
theorem stopsAt_iff_endsAt {count : Nat} :
    StopsAt policy.attempts (outcome reply) (count + 1) ↔
      EndsAt policy (fun k => Attempt.ofReply policy.timeoutSeconds txid (reply k)) count := by
  have hpassing (k : Nat) : (Attempt.ofReply policy.timeoutSeconds txid (reply k)).IsPassing ↔
      (outcome reply (k + 1)).settles = false := by
    rw [← CallOutcome.attempt_ofReply, CallOutcome.isPassing_attempt_iff]
    rfl
  constructor
  · intro h
    refine ⟨h.le, fun earlier hearlier => ?_, h.stops.imp_right fun hsettles => ?_⟩
    · exact (hpassing earlier).2 (h.passing (earlier + 1) (by omega) (by omega))
    · rw [hpassing, hsettles]
      exact Bool.noConfusion
  · intro h
    refine ⟨by omega, h.lt, fun earlier hpos hearlier => ?_, h.ends.imp_right fun hends => ?_⟩
    · obtain ⟨earlier, rfl⟩ := Nat.exists_eq_add_of_lt hpos
      rw [Nat.zero_add]
      exact (hpassing earlier).1 (h.passing earlier (by omega))
    · rwa [hpassing, Bool.not_eq_false] at hends

/-- Every run **stops** with one of its calls. -/
theorem exists_stopsAt (policy : RetryPolicy) (txid : Txid) (reply : Nat → Reply String) :
    ∃ calls, StopsAt policy.attempts (outcome reply) calls := by
  obtain ⟨count, hends⟩ :=
    exists_endsAt policy fun k => Attempt.ofReply policy.timeoutSeconds txid (reply k)
  exact ⟨count + 1, stopsAt_iff_endsAt.2 hends⟩

/-- All calls but the last one **failed**. -/
theorem countP_failed {outcome : Nat → CallOutcome} {attempts count : Nat}
    (h : StopsAt attempts outcome (count + 1)) :
    (List.range' 1 (count + 1)).countP (fun place => (outcome place).failed)
      = count + (outcome (count + 1)).failed.toNat := by
  -- What settles nothing failed, so only the last call is in doubt.
  have hbefore : (List.range' 1 count).countP (fun place => (outcome place).failed) = count := by
    have hall : ∀ place ∈ List.range' 1 count, (outcome place).failed = true := by
      intro place hplace
      obtain ⟨hpos, hlt⟩ := List.mem_range'_1.1 hplace
      exact CallOutcome.failed_of_not_settles (h.passing place hpos (by omega))
    rw [List.countP_eq_length.2 hall, List.length_range']
  rw [List.range'_1_concat, List.countP_append, hbefore, Nat.add_comm 1 count,
    List.countP_singleton]
  cases (outcome (count + 1)).failed with
  | true => rfl
  | false => rfl

/-- **A run of attempts is read off the outcomes** of its calls, once it is known where they
stop. -/
theorem ofReplies_of_stopsAt (h : StopsAt policy.attempts (outcome reply) calls) :
    ofReplies policy txid reply =
      { result := (outcome reply calls).lastResult policy.timeoutSeconds txid
        calls := calls
        failures := (List.range' 1 calls).countP fun place => (outcome reply place).failed
        waits := (List.range' 1 (calls - 1)).map policy.backoffAfter } := by
  obtain ⟨count, rfl⟩ : ∃ count, calls = count + 1 := ⟨calls - 1, by have := h.pos; omega⟩
  have hwaits : (List.range' 0 count).map (fun failed => policy.backoffAfter (failed + 1))
      = (List.range' 1 count).map policy.backoffAfter := by
    rw [List.range'_succ_left, List.map_map]
    rfl
  rw [ofReplies_eq (stopsAt_iff_endsAt.1 h), behind_eq, ← CallOutcome.attempt_ofReply,
    CallOutcome.last_attempt, countP_failed h, hwaits, List.append_nil, Nat.add_comm 1 count,
    Nat.add_comm _ count]
  rfl

end RetryRun

/-! ## The loop, call by call -/

/-- An **event** of a question: a call, or a wait in milliseconds. -/
inductive RetryEvent
  /-- The node is called. -/
  | call
  /-- Nothing is done for a while. -/
  | wait (milliseconds : Nat)
  deriving DecidableEq, Repr

/-- What the **loop** over the calls carries along. -/
structure RetryState where
  /-- The events so far. -/
  events : List RetryEvent
  /-- The number of calls that failed. -/
  errorCount : Nat
  /-- The transactions that are kept. -/
  cache : Cache
  /-- The error of the call before. -/
  lastError : Option RpcError

namespace RetryState

/-- The events of the call at a place, when calls may follow up to a last one: behind the last one
there is no wait. -/
def eventsAt (policy : RetryPolicy) (last place : Nat) : List RetryEvent :=
  .call :: if place < last then [.wait (policy.backoffAfter place)] else []

/-- A call that settles nothing: its error is counted and kept in mind, and a wait follows unless it
was the last call. -/
def goOn (policy : RetryPolicy) (state : RetryState) (place : Nat) (error : RpcError) :
    RetryState where
  events := state.events ++ eventsAt policy policy.attempts place
  errorCount := state.errorCount + 1
  cache := state.cache
  lastError := some error

/-- One **pass** of the loop, with the call at a place. It ends the loop with a result and what is
carried along, or leaves the loop to go on. -/
def pass (policy : RetryPolicy) (txid : Txid) (outcome : Nat → CallOutcome) (state : RetryState)
    (place : Nat) : Except (Except RpcError Transaction × RetryState) RetryState :=
  let called := { state with events := state.events ++ [RetryEvent.call] }
  match outcome place with
  | .transaction tx => .error (.ok tx, { called with cache := called.cache.put tx })
  | .notFound _ =>
    .error (.error (.transactionNotFound txid),
      { called with errorCount := called.errorCount + 1 })
  | .undecodable cause =>
    .error (.error (.deserialisationFailed cause),
      { called with errorCount := called.errorCount + 1 })
  | .failure cause => .ok (goOn policy state place (.callFailed "getrawtransaction" cause))
  | .timeout =>
    .ok (goOn policy state place (.timeout policy.timeoutSeconds (Attempt.operation txid)))

/-- The **loop**: passes over the allowed calls in turn, and what remains of the last error when
none of them ends it. -/
def loop (policy : RetryPolicy) (txid : Txid) (outcome : Nat → CallOutcome) (start : RetryState) :
    Except RpcError Transaction × RetryState :=
  match (List.range' 1 policy.attempts).foldlM (pass policy txid outcome) start with
  | .error done => done
  | .ok state =>
    match state.lastError with
    | some (.timeout seconds operation) => (.error (.timeout seconds operation), state)
    | _ => (.error (.maxRetriesExceeded (Attempt.operation txid)), state)

variable (policy : RetryPolicy) (txid : Txid) (start : RetryState) {outcome : Nat → CallOutcome}
  {calls count place : Nat}

/-- The **events** of calls with a wait between them, as the policy has it, and none behind the
last. -/
def trace (policy : RetryPolicy) (calls : Nat) : List RetryEvent :=
  (List.range' 1 calls).flatMap (eventsAt policy calls)

/-- What a result leaves in a **cache**. -/
def kept (cache : Cache) : Except RpcError Transaction → Cache
  | .ok tx => cache.put tx
  | .error _ => cache

/-- A call that settles the question **ends** the loop. -/
theorem pass_of_settles (h : (outcome place).settles = true) :
    pass policy txid outcome start place =
      .error ((outcome place).lastResult policy.timeoutSeconds txid,
        { events := start.events ++ [.call]
          errorCount := start.errorCount + (outcome place).failed.toNat
          cache := kept start.cache ((outcome place).lastResult policy.timeoutSeconds txid)
          lastError := start.lastError }) := by
  unfold pass
  cases houtcome : outcome place with
  | failure cause =>
    rw [houtcome] at h
    cases h
  | timeout =>
    rw [houtcome] at h
    cases h
  | _ => rfl

/-- Any other call leaves the loop to **go on**. -/
theorem pass_of_not_settles (h : (outcome place).settles = false) :
    ∃ error, (outcome place).error? policy.timeoutSeconds txid = some error ∧
      pass policy txid outcome start place = .ok (goOn policy start place error) := by
  unfold pass
  cases houtcome : outcome place with
  | failure cause => exact ⟨_, rfl, rfl⟩
  | timeout => exact ⟨_, rfl, rfl⟩
  | _ =>
    rw [houtcome] at h
    cases h

/-- Calls that settle nothing are **passed in turn**: each leaves its events, its failure and its
error behind. -/
theorem foldlM_pass
    (hpassing : ∀ place, 0 < place → place ≤ count → (outcome place).settles = false) :
    ∃ error, (0 < count → (outcome count).error? policy.timeoutSeconds txid = error) ∧
      (List.range' 1 count).foldlM (pass policy txid outcome) start = .ok
        { events := start.events ++
            (List.range' 1 count).flatMap (eventsAt policy policy.attempts)
          errorCount := start.errorCount + count
          cache := start.cache
          lastError := error } := by
  induction count with
  | zero =>
    refine ⟨start.lastError, fun h => absurd h (Nat.lt_irrefl 0), ?_⟩
    rw [List.range'_zero, List.foldlM_nil, List.flatMap_nil, List.append_nil]
    rfl
  | succ count ih =>
    obtain ⟨before, -, hfold⟩ := ih fun place hpos hle => hpassing place hpos (by omega)
    have hlast : (outcome (count + 1)).settles = false := hpassing _ (by omega) le_rfl
    rw [List.range'_1_concat, List.foldlM_append, hfold, Nat.add_comm 1 count]
    obtain ⟨error, herror, hpass⟩ := pass_of_not_settles policy txid
      { events := start.events ++ (List.range' 1 count).flatMap (eventsAt policy policy.attempts)
        errorCount := start.errorCount + count
        cache := start.cache
        lastError := before } hlast
    refine ⟨some error, fun _ => herror, ?_⟩
    show List.foldlM (pass policy txid outcome) _ [count + 1] = _
    rw [List.foldlM_cons, hpass]
    simp [goOn, Nat.add_assoc]

/-- Every call but the last is followed by a wait, and the last one by none. -/
theorem trace_succ (h : count < policy.attempts) :
    trace policy (count + 1) =
      (List.range' 1 count).flatMap (eventsAt policy policy.attempts) ++ [.call] := by
  have hbefore : (List.range' 1 count).flatMap (eventsAt policy (count + 1))
      = (List.range' 1 count).flatMap (eventsAt policy policy.attempts) := by
    refine List.flatMap_congr fun place hplace => ?_
    obtain ⟨-, hlt⟩ := List.mem_range'_1.1 hplace
    rw [eventsAt, eventsAt, if_pos (by omega), if_pos (by omega)]
  have hlast : eventsAt policy (count + 1) (count + 1) = [.call] := by
    rw [eventsAt, if_neg (Nat.lt_irrefl _)]
  rw [trace, List.range'_1_concat, List.flatMap_append, hbefore, Nat.add_comm 1 count,
    List.flatMap_singleton, hlast]

/-- Calls up to one that settles the question **end** the loop there; no further one is made. -/
theorem foldlM_pass_of_settles (hle : count + 1 ≤ policy.attempts)
    (hpassing : ∀ place, 0 < place → place ≤ count → (outcome place).settles = false)
    (hsettles : (outcome (count + 1)).settles = true) :
    ∃ error, (List.range' 1 policy.attempts).foldlM (pass policy txid outcome) start =
      .error ((outcome (count + 1)).lastResult policy.timeoutSeconds txid,
        { events := start.events ++ trace policy (count + 1)
          errorCount := start.errorCount + (count + (outcome (count + 1)).failed.toNat)
          cache := kept start.cache
            ((outcome (count + 1)).lastResult policy.timeoutSeconds txid)
          lastError := error }) := by
  obtain ⟨error, -, hfold⟩ := foldlM_pass policy txid start hpassing
  -- The allowed calls are those before this one, this one and those that are never made.
  have hsplit : List.range' 1 policy.attempts = List.range' 1 count ++
      (1 + count) :: List.range' (1 + count + 1) (policy.attempts - (count + 1)) := by
    rw [← List.range'_succ, List.range'_append_1]
    congr 1
    omega
  refine ⟨error, ?_⟩
  rw [hsplit, List.foldlM_append, hfold, Nat.add_comm 1 count]
  show List.foldlM (pass policy txid outcome) _ ((count + 1) :: _) = _
  rw [List.foldlM_cons, pass_of_settles policy txid _ hsettles, trace_succ policy hle]
  show Except.error _ = _
  simp only [List.append_assoc, Nat.add_assoc]

/-- **The loop is read off the outcomes** of its calls, once it is known where they stop. -/
theorem loop_of_stopsAt (h : StopsAt policy.attempts outcome calls) :
    (loop policy txid outcome start).1 = (outcome calls).lastResult policy.timeoutSeconds txid ∧
      (loop policy txid outcome start).2.events = start.events ++ trace policy calls ∧
      (loop policy txid outcome start).2.errorCount = start.errorCount +
        (List.range' 1 calls).countP (fun place => (outcome place).failed) ∧
      (loop policy txid outcome start).2.cache =
        kept start.cache ((outcome calls).lastResult policy.timeoutSeconds txid) := by
  obtain ⟨count, rfl⟩ : ∃ count, calls = count + 1 := ⟨calls - 1, by have := h.pos; omega⟩
  rw [RetryRun.countP_failed h]
  unfold loop
  cases hsettles : (outcome (count + 1)).settles with
  | true =>
    obtain ⟨error, hfold⟩ := foldlM_pass_of_settles policy txid start h.le
      (fun place hpos hle => h.passing place hpos (by omega)) hsettles
    rw [hfold]
    exact ⟨rfl, rfl, rfl, rfl⟩
  | false =>
    -- The error that is carried out of the loop is that of the last call.
    have hlast : count + 1 = policy.attempts := h.stops.resolve_right (by simp [hsettles])
    obtain ⟨error, herror, hfold⟩ := foldlM_pass policy txid start
      fun place hpos hle => (Nat.lt_or_eq_of_le hle).elim (h.passing place hpos)
        fun heq => heq ▸ hsettles
    rw [← hlast, hfold, ← herror (Nat.succ_pos count), trace, hlast]
    rw [hlast] at hsettles
    cases houtcome : outcome policy.attempts with
    | failure cause => exact ⟨rfl, rfl, congrArg (start.errorCount + ·) hlast.symm, rfl⟩
    | timeout => exact ⟨rfl, rfl, congrArg (start.errorCount + ·) hlast.symm, rfl⟩
    | _ =>
      rw [houtcome] at hsettles
      cases hsettles

end RetryState

/-! ## A question of the client -/

namespace Client

/-- The **outcomes** of the calls with which a client may ask for a transaction now, counted from
one. -/
def outcome (client : Client) (txid : Txid) : Nat → CallOutcome :=
  RetryRun.outcome fun attempt => client.node.transaction txid (client.callsFor txid + attempt)

/-- What comes of a question for a transaction, in terms of the outcomes of its calls. With
`attempts` calls allowed and the first outcome that settles the question at a place, if there is
one: -/
structure AsksExactly (client : Client) (txid : Txid) : Prop where
  /-- There is always a call. -/
  attempts_eq : client.policy.attempts = max 1 client.policy.maxAttempts
  /-- The node is called up to that place, as far as it is allowed. -/
  calls_of_settles : ∀ place, SettlesFirst (client.outcome txid) place →
    (client.run txid).calls = min place client.policy.attempts
  /-- It is called as often as allowed if nothing settles the question. -/
  calls_of_none : (∀ place, ¬ SettlesFirst (client.outcome txid) place) →
    (client.run txid).calls = client.policy.attempts
  /-- So often it was called behind the question. -/
  callsFor_eq : (client.ask txid).2.callsFor txid
    = client.callsFor txid + (client.run txid).calls
  /-- The outcome that settles the question within what is allowed is the **result**: the
  transaction, that there is none, or that it cannot be read. -/
  result_of_settles : ∀ place ≤ client.policy.attempts, SettlesFirst (client.outcome txid) place →
    (client.outcome txid place).result? txid = some (client.ask txid).1
  /-- Without one, a last call that takes too long is the result, -/
  result_of_timeout : (∀ place ≤ client.policy.attempts,
      ¬ SettlesFirst (client.outcome txid) place) →
    client.outcome txid client.policy.attempts = .timeout →
      (client.ask txid).1 =
        .error (.timeout client.policy.timeoutSeconds (Attempt.operation txid))
  /-- and any other last call leaves that all calls failed. -/
  result_of_failure : (∀ place ≤ client.policy.attempts,
      ¬ SettlesFirst (client.outcome txid) place) →
    client.outcome txid client.policy.attempts ≠ .timeout →
      (client.ask txid).1 = .error (.maxRetriesExceeded (Attempt.operation txid))
  /-- The **errors** grow by the calls that failed. -/
  errorCount_eq : (client.ask txid).2.errorCount = client.errorCount +
    (List.range' 1 (client.run txid).calls).countP fun place =>
      (client.outcome txid place).failed
  /-- A transaction enters the **cache**, under its own identifier. -/
  cache_of_ok : ∀ tx, (client.ask txid).1 = .ok tx →
    (client.ask txid).2.cache = client.cache.put tx ∧
      (client.ask txid).2.cached? tx.txid = some tx
  /-- Nothing else does. -/
  cache_of_error : ∀ e, (client.ask txid).1 = .error e → (client.ask txid).2.cache = client.cache
  /-- The **waits** are those of the policy, one between two calls. -/
  waits_eq : (client.run txid).waits
    = (List.range' 1 ((client.run txid).calls - 1)).map client.policy.backoffAfter
  /-- All this is what comes of the **loop**, call by call; each call but the last is followed by
  its wait. -/
  loop_eq : ∀ start : RetryState, start.errorCount = client.errorCount →
    start.cache = client.cache →
      let done := RetryState.loop client.policy txid (client.outcome txid) start
      done.1 = (client.ask txid).1 ∧
        done.2.events = start.events ++
          RetryState.trace client.policy (client.run txid).calls ∧
        done.2.errorCount = (client.ask txid).2.errorCount ∧
        done.2.cache = (client.ask txid).2.cache

/-- A run of the client, once it is known where its calls stop. -/
theorem run_of_stopsAt {client : Client} {txid : Txid} {calls : Nat}
    (h : StopsAt client.policy.attempts (client.outcome txid) calls) :
    client.run txid =
      { result := (client.outcome txid calls).lastResult client.policy.timeoutSeconds txid
        calls := calls
        failures := (List.range' 1 calls).countP fun place => (client.outcome txid place).failed
        waits := (List.range' 1 (calls - 1)).map client.policy.backoffAfter } :=
  RetryRun.ofReplies_of_stopsAt h

/-- **A question comes to exactly what the outcomes of its calls say.** -/
theorem ask_exact (client : Client) (txid : Txid) : client.AsksExactly txid := by
  obtain ⟨calls, hstops⟩ : ∃ calls, StopsAt client.policy.attempts (client.outcome txid) calls :=
    RetryRun.exists_stopsAt client.policy txid _
  have hrun := run_of_stopsAt hstops
  have hresult : (client.ask txid).1
      = (client.outcome txid calls).lastResult client.policy.timeoutSeconds txid :=
    congrArg RetryRun.result hrun
  have hcache : (client.ask txid).2.cache = RetryState.kept client.cache (client.ask txid).1 := rfl
  have herrors : (client.ask txid).2.errorCount = client.errorCount +
      (List.range' 1 calls).countP fun place => (client.outcome txid place).failed :=
    congrArg (client.errorCount + RetryRun.failures ·) hrun
  have hcalls : (client.run txid).calls = calls := congrArg RetryRun.calls hrun
  constructor
  case attempts_eq => rfl
  case calls_of_settles =>
    intro place hplace
    rw [hcalls]
    exact hstops.eq_min hplace
  case calls_of_none =>
    intro hnone
    rw [hcalls]
    exact hstops.eq_attempts fun place _ => hnone place
  case callsFor_eq =>
    rw [callsFor_ask, if_pos rfl]
  case result_of_settles =>
    intro place hle hplace
    have hplaced : calls = place := (hstops.eq_min hplace).trans (Nat.min_eq_left hle)
    rw [hresult, hplaced, CallOutcome.lastResult_of_settles hplace.settles]
  case result_of_timeout =>
    intro hnone htimeout
    rw [hresult, hstops.eq_attempts hnone, htimeout]
    rfl
  case result_of_failure =>
    intro hnone hfailure
    have hlast : calls = client.policy.attempts := hstops.eq_attempts hnone
    have hsettles : (client.outcome txid calls).settles = false := by
      rw [← Bool.not_eq_true]
      exact fun h => hnone calls hstops.le ⟨hstops.pos, h, hstops.passing⟩
    rw [← hlast] at hfailure
    rw [hresult]
    cases houtcome : client.outcome txid calls with
    | failure cause => rfl
    | timeout => exact absurd houtcome hfailure
    | _ =>
      rw [houtcome] at hsettles
      cases hsettles
  case errorCount_eq =>
    rw [herrors, hcalls]
  case cache_of_ok =>
    intro tx htx
    have hrun : (client.run txid).result = .ok tx := htx
    refine ⟨by rw [hcache, htx]; rfl, ?_⟩
    rw [cached?_ask, hrun]
    exact if_pos rfl
  case cache_of_error =>
    intro e he
    rw [hcache, he]
    rfl
  case waits_eq =>
    rw [hcalls]
    exact congrArg RetryRun.waits hrun
  case loop_eq =>
    intro start hstart hkept
    obtain ⟨hloop, hevents, hcount, hend⟩ :=
      RetryState.loop_of_stopsAt client.policy txid start hstops
    refine ⟨hloop.trans hresult.symm, ?_, ?_, ?_⟩
    · rw [hevents, hcalls]
    · rw [hcount, hstart, herrors]
    · rw [hend, hkept, hcache, hresult]

end Client

end OmniLayer
