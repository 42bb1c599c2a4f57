import OmniLayer.Proofs.Node.Calls
import Mathlib.Logic.Function.Iterate

/-! # Which waits keep to the cap

The cap of a policy is applied where a wait follows from the one before it, and nowhere else. So
every wait but the first is within the cap, whatever the first wait and the multiplier are and
however their product is rounded (`RetryPolicy.backoffWith_le_cap`). The first wait is the one that
the settings ask for, and all waits are within the cap exactly when that one is
(`RetryPolicy.forall_backoffWith_le_cap_iff`). The waits between the calls of a run keep to the cap
in the same way (`RetryPolicy.caps_further_waits`). -/

namespace OmniLayer

namespace RetryPolicy

/-! ## Waits with any product -/

/-- The **cap** on the waits of a policy, in milliseconds. -/
def cap (policy : RetryPolicy) : Nat := 1000 * policy.maxBackoffSeconds

section AnyProduct

variable (policy : RetryPolicy) (product : (current : Nat) → (multiplier : Binary64) → UInt64)
  {failures : Nat}

/-- The wait that **follows** a wait of `current` milliseconds, up to the cap, where the product of
a wait with a multiplier may be rounded to whole milliseconds in any way. -/
def stepWith (current : Nat) : Nat := min (product current policy.multiplier).toNat policy.cap

/-- The **wait after a number of failures**: the first one as the settings ask for it, and for each
further failure the one that follows. -/
def backoffWith (failures : Nat) : Nat :=
  (policy.stepWith product)^[failures - 1] policy.initialBackoff

/-- A wait that follows another is within the cap. -/
theorem stepWith_le_cap (current : Nat) : policy.stepWith product current ≤ policy.cap :=
  Nat.min_le_right ..

/-- The **first wait** is the one that the settings ask for. -/
@[simp] theorem backoffWith_one : policy.backoffWith product 1 = policy.initialBackoff := rfl

/-- Each further failure makes the wait **follow** once more. -/
theorem backoffWith_succ (h : 1 ≤ failures) :
    policy.backoffWith product (failures + 1) =
      policy.stepWith product (policy.backoffWith product failures) := by
  obtain ⟨steps, rfl⟩ := Nat.exists_eq_add_of_le' h
  exact Function.iterate_succ_apply' ..

/-- Every wait **behind the first** is within the cap. -/
theorem backoffWith_le_cap (h : 2 ≤ failures) :
    policy.backoffWith product failures ≤ policy.cap := by
  obtain ⟨earlier, rfl⟩ := Nat.exists_eq_add_of_le' (Nat.le_of_succ_le h)
  rw [backoffWith_succ policy product (Nat.le_of_succ_le_succ h)]
  exact stepWith_le_cap ..

/-- **All waits** are within the cap exactly when the first one is. -/
theorem forall_backoffWith_le_cap_iff :
    (∀ failures, 1 ≤ failures → policy.backoffWith product failures ≤ policy.cap) ↔
      policy.initialBackoff ≤ policy.cap := by
  constructor
  · intro h
    exact h 1 le_rfl
  · intro h failures hfailures
    rcases Nat.eq_or_lt_of_le hfailures with rfl | hfurther
    · exact h
    · exact backoffWith_le_cap policy product hfurther

end AnyProduct

/-! ## Waits between calls -/

/-- The **waits between calls**: one behind each call but the last. -/
def waitsBetween (backoff : Nat → Nat) (calls : Nat) : List Nat :=
  (List.range' 1 (calls - 1)).map backoff

/-- What the waits of a policy are with a product, and how far they keep to the **cap**. -/
structure CapsFurther (policy : RetryPolicy)
    (product : (current : Nat) → (multiplier : Binary64) → UInt64) (backoff : Nat → Nat) :
    Prop where
  /-- The first wait is the one that the settings ask for. -/
  first : backoff 1 = policy.initialBackoff
  /-- Each further one is the product of the wait before it with the multiplier, up to the cap. -/
  next : ∀ failures, 1 ≤ failures → backoff (failures + 1) =
    min (product (backoff failures) policy.multiplier).toNat policy.cap
  /-- Every further wait is within the cap. -/
  further : ∀ failures, 2 ≤ failures → backoff failures ≤ policy.cap
  /-- All of them are exactly when the first one is. -/
  all_iff : (∀ failures, 1 ≤ failures → backoff failures ≤ policy.cap) ↔
    policy.initialBackoff ≤ policy.cap
  /-- Between calls, every wait behind the first is within the cap. -/
  between_further : ∀ calls, ∀ wait ∈ (waitsBetween backoff calls).tail, wait ≤ policy.cap
  /-- All of these are exactly when there is no wait or the first one is. -/
  between_iff : ∀ calls, (∀ wait ∈ waitsBetween backoff calls, wait ≤ policy.cap) ↔
    calls ≤ 1 ∨ policy.initialBackoff ≤ policy.cap

/-- With **any product**, the waits behind the first keep to the cap. -/
theorem capsFurther_backoffWith (policy : RetryPolicy)
    (product : (current : Nat) → (multiplier : Binary64) → UInt64) :
    policy.CapsFurther product (policy.backoffWith product) where
  first := backoffWith_one policy product
  next _ := backoffWith_succ policy product
  further _ := backoffWith_le_cap policy product
  all_iff := forall_backoffWith_le_cap_iff policy product
  between_further calls wait hwait := by
    -- Behind the first of them, the waits are those after two failures or more.
    rw [waitsBetween, ← List.map_tail, List.tail_range', List.mem_map] at hwait
    obtain ⟨failures, hfailures, rfl⟩ := hwait
    exact backoffWith_le_cap policy product (List.mem_range'_1.1 hfailures).1
  between_iff calls := by
    constructor
    · intro h
      rcases Nat.lt_or_ge 1 calls with hcalls | hcalls
      · have hfirst : policy.backoffWith product 1 ∈
            waitsBetween (policy.backoffWith product) calls :=
          List.mem_map_of_mem (List.mem_range'_1.2 ⟨le_rfl, by omega⟩)
        exact .inr (h _ hfirst)
      · exact .inl hcalls
    · rintro h wait hwait
      obtain ⟨failures, hfailures, rfl⟩ := List.mem_map.1 hwait
      obtain ⟨hpos, hlt⟩ := List.mem_range'_1.1 hfailures
      have hcapped : policy.initialBackoff ≤ policy.cap := h.resolve_left (by omega)
      exact (forall_backoffWith_le_cap_iff policy product).2 hcapped failures hpos

/-! ## The running waits -/

/-- The product of a wait with a multiplier, **cut off** to whole milliseconds. -/
def truncatedProduct (current : Nat) (multiplier : Binary64) : UInt64 :=
  UInt64.ofNat ((Binary64.ofNat current).mul multiplier).truncate

/-- The running step is the one with products that are cut off. -/
@[simp] theorem stepWith_truncatedProduct (policy : RetryPolicy) :
    policy.stepWith truncatedProduct = policy.step := by
  funext current
  -- Cutting off gives a word already, so taking it as one loses nothing.
  have hword : ((Binary64.ofNat current).mul policy.multiplier).truncate < UInt64.size :=
    Nat.lt_of_le_of_lt (Binary64.truncate_le _) (by decide)
  rw [stepWith, truncatedProduct, UInt64.toNat_ofNat_of_lt' hword]
  rfl

/-- Waits that stop at one that follows itself are waits that follow one another. -/
theorem backoffFrom_eq_iterate (policy : RetryPolicy) (steps current : Nat) :
    policy.backoffFrom steps current = policy.step^[steps] current := by
  -- The first of the steps is made at the front, so the wait to start from varies.
  induction steps generalizing current with
  | zero => rfl
  | succ steps ih => rw [backoffFrom_succ, ih, Function.iterate_succ_apply]

/-- The **running waits** are those with products that are cut off. -/
@[simp] theorem backoffWith_truncatedProduct (policy : RetryPolicy) :
    policy.backoffWith truncatedProduct = policy.backoffAfter := by
  funext failures
  rw [backoffWith, stepWith_truncatedProduct, backoffAfter, backoffFrom_eq_iterate]

/-- The waits of a **run** are those between its calls. -/
theorem waits_ofReplies (policy : RetryPolicy) (txid : Txid) (reply : Nat → Reply String) :
    (RetryRun.ofReplies policy txid reply).waits =
      waitsBetween policy.backoffAfter (RetryRun.ofReplies policy txid reply).calls := by
  obtain ⟨calls, hstops⟩ := RetryRun.exists_stopsAt policy txid reply
  rw [RetryRun.ofReplies_of_stopsAt hstops]
  rfl

/-- **Every wait but the first is within the cap**, with any rounding of the products and in
particular with the running one; and in a run, whatever the replies are, all waits are within the
cap exactly when there is none or the first one is. -/
theorem caps_further_waits (policy : RetryPolicy) :
    (∀ product, policy.CapsFurther product (policy.backoffWith product)) ∧
    policy.CapsFurther truncatedProduct policy.backoffAfter ∧
    ∀ (txid : Txid) (reply : Nat → Reply String),
      let run := RetryRun.ofReplies policy txid reply
      run.waits = waitsBetween policy.backoffAfter run.calls ∧
        (∀ wait ∈ run.waits.tail, wait ≤ policy.cap) ∧
        ((∀ wait ∈ run.waits, wait ≤ policy.cap) ↔
          run.calls ≤ 1 ∨ policy.initialBackoff ≤ policy.cap) := by
  have hrunning : policy.CapsFurther truncatedProduct policy.backoffAfter := by
    rw [← backoffWith_truncatedProduct]
    exact capsFurther_backoffWith policy truncatedProduct
  refine ⟨capsFurther_backoffWith policy, hrunning, fun txid reply => ?_⟩
  have hwaits := waits_ofReplies policy txid reply
  refine ⟨hwaits, ?_, ?_⟩
  · rw [hwaits]
    exact hrunning.between_further _
  · rw [hwaits]
    exact hrunning.between_iff _

/-- Settings with a **first wait above the cap**. -/
def slowStart : RpcSettings where
  maxRetries := 3
  initialBackoffMs := 5000
  maxBackoffSeconds := 1

/-- Behind such a first wait, even waits without a finite multiplier keep to the cap. -/
theorem caps_further_waits_slowStart :
    2 ≤ 3 ∧
      (ofSettings { slowStart with backoffMultiplier := .infinity }).backoffAfter 3 ≤ 1000 := by
  obtain ⟨-, hrunning, -⟩ :=
    caps_further_waits (ofSettings { slowStart with backoffMultiplier := .infinity })
  exact ⟨by decide, hrunning.further 3 (by decide)⟩

/-- The first wait itself is **above the cap**, and a run without answers does wait so long. -/
theorem first_wait_above_cap :
    ¬(ofSettings slowStart).backoffAfter 1 ≤ 1000 * slowStart.maxBackoffSeconds.toNat ∧
      (RetryRun.ofReplies (ofSettings slowStart) ⟨FixedBytes.zero 32⟩
        fun _ => ⟨.ok "", true⟩).waits = [5000, 1000] := by
  decide +kernel

end RetryPolicy

end OmniLayer
