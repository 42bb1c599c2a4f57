import Mathlib.Algebra.Order.Group.Nat
import Mathlib.Data.List.Perm.Basic
import OmniLayer.Fee
import OmniLayer.Proofs.Sender

/-! # Exact fees

Values are added one by one, and each sum stops at the largest signed word. However many values
there are, that makes one bound on their sum (`total_eq`). In signed words there would be three
places to stop at: at each value, at each addition and at the difference (`stepwise`). The first two
make the same one bound (`toInt_sumWords`), and the last is never reached
(`toInt_subSaturating_sumWords`). So a fee is the difference of two sums, each of them cut off at
the largest word (`ofTransaction_eq_ok_iff`). -/

namespace OmniLayer.Fee

variable {coins : CoinLookup} {tx : Transaction}

/-! ## Sums without a bound -/

/-- The sum of values, **without a bound**. -/
def valueSum (values : List UInt64) : Nat := (values.map UInt64.toNat).sum

/-- The order of values plays no part in their sum. -/
theorem valueSum_perm {values values' : List UInt64} (h : values'.Perm values) :
    valueSum values' = valueSum values :=
  (h.map UInt64.toNat).sum_nat

/-- Adding on to a sum that was cut off is **cutting off the sum**. -/
theorem foldl_addValue (start : Nat) (values : List UInt64) :
    values.foldl addValue (min start maxSum) = min (start + valueSum values) maxSum := by
  induction values generalizing start with
  | nil => rfl
  | cons value values ih =>
    have hadd : addValue (min start maxSum) value = min (start + value.toNat) maxSum := by
      unfold addValue
      omega
    rw [List.foldl_cons, hadd, ih, valueSum, valueSum, List.map_cons, List.sum_cons,
      Nat.add_assoc]

/-- A total is the sum, **cut off once** at the largest word. -/
theorem total_eq (values : List UInt64) : total values = min (valueSum values) maxSum := by
  have h := foldl_addValue 0 values
  rwa [Nat.zero_min, Nat.zero_add] at h

/-! ## Signed words -/

/-- The signed word that is **closest** to a number. -/
def closestWord (n : Int) : Int64 :=
  Int64.ofInt (max Int64.minValue.toInt (min n Int64.maxValue.toInt))

/-- Adds words, stopping at the last word in either direction. -/
def addSaturating (a b : Int64) : Int64 := closestWord (a.toInt + b.toInt)

/-- Subtracts words, stopping at the last word in either direction. -/
def subSaturating (a b : Int64) : Int64 := closestWord (a.toInt - b.toInt)

/-- A value as a signed word; one that is too large becomes the largest. -/
def valueWord (value : UInt64) : Int64 :=
  if value.toNat ≤ maxSum then Int64.ofInt value.toNat else Int64.maxValue

/-- The sum of values in signed words. -/
def sumWords (values : List UInt64) : Int64 :=
  values.foldl (fun sum value => addSaturating sum (valueWord value)) 0

/-- The fee of a transaction in signed words, **coin by coin**. -/
def stepwise (coins : CoinLookup) (tx : Transaction) : Except ParseError Int64 := do
  let inputs ← tx.previous.foldlM (fun sum outpoint => do
    let coin ← Sender.coin coins outpoint
    return addSaturating sum (valueWord coin.value)) 0
  return subSaturating inputs (sumWords (tx.outputs.map Output.value))

/-- A number that a word can hold is its own closest word. -/
theorem toInt_closestWord {n : Int} (hlow : -2 ^ 63 ≤ n) (hhigh : n < 2 ^ 63) :
    (closestWord n).toInt = n := by
  rw [closestWord, Int64.toInt_minValue, Int64.toInt_maxValue, min_eq_left (by omega),
    max_eq_right hlow, Int64.toInt_ofInt_of_le hlow hhigh]

/-- A value as a signed word is the value, cut off. -/
@[simp] theorem toInt_valueWord (value : UInt64) :
    (valueWord value).toInt = min value.toNat maxSum := by
  unfold valueWord
  split
  · next h =>
    have hword : (value.toNat : Int) < 2 ^ 63 := by
      unfold maxSum at h
      omega
    rw [Int64.toInt_ofInt_of_le (by omega) hword, min_eq_left (by exact_mod_cast h)]
  · next h =>
    rw [Int64.toInt_maxValue, min_eq_right (by exact_mod_cast Nat.le_of_not_le h)]
    rfl

/-- Sums in signed words go on where totals do. -/
theorem toInt_foldl_addSaturating (sum : Int64) {start : Nat} (h : sum.toInt = min start maxSum)
    (values : List UInt64) :
    (values.foldl (fun sum value => addSaturating sum (valueWord value)) sum).toInt
      = (min (start + valueSum values) maxSum : Nat) := by
  induction values generalizing sum start with
  | nil => simpa [valueSum] using h
  | cons value values ih =>
    -- Neither summand is negative, so only the upper end of the words can be reached.
    have hadd : (addSaturating sum (valueWord value)).toInt
        = (min (start + value.toNat) maxSum : Nat) := by
      rw [addSaturating, h, toInt_valueWord, closestWord, Int64.toInt_minValue,
        Int64.toInt_maxValue, Int64.toInt_ofInt_of_le (by omega) (by omega)]
      unfold maxSum
      omega
    rw [List.foldl_cons, ih _ (by exact_mod_cast hadd), valueSum, valueSum, List.map_cons,
      List.sum_cons, Nat.add_assoc]

/-- A sum in signed words is the **sum, cut off once**. -/
theorem toInt_sumWords (values : List UInt64) :
    (sumWords values).toInt = (min (valueSum values) maxSum : Nat) := by
  have hzero : (0 : Int64).toInt = min (0 : Nat) maxSum := rfl
  have h := toInt_foldl_addSaturating 0 hzero values
  rwa [Nat.zero_add] at h

/-- The difference of two sums is **always a word**. -/
theorem toInt_subSaturating_sumWords (values values' : List UInt64) :
    (subSaturating (sumWords values) (sumWords values')).toInt
      = (sumWords values).toInt - (sumWords values').toInt := by
  rw [subSaturating, toInt_sumWords, toInt_sumWords]
  refine toInt_closestWord ?_ ?_
  · unfold maxSum
    omega
  · unfold maxSum
    omega

/-! ## Fees -/

/-- The difference of two totals is the word that says so. -/
theorem toInt_ofInt_total (values values' : List UInt64) :
    (Int64.ofInt ((total values : Int) - (total values' : Int))).toInt
      = (min (valueSum values) maxSum : Nat) - (min (valueSum values') maxSum : Nat) := by
  rw [total_eq, total_eq]
  refine Int64.toInt_ofInt_of_le ?_ ?_
  · unfold maxSum
    omega
  · unfold maxSum
    omega

/-- In signed words, coin by coin, the fee is **the same**. -/
@[simp] theorem stepwise_eq (coins : CoinLookup) (tx : Transaction) :
    stepwise coins tx = ofTransaction coins tx := by
  have hinputs := foldlM_eq_map_mapM (Sender.coin coins)
    (fun sum coin => addSaturating sum (valueWord coin.value)) 0 tx.previous
  unfold stepwise ofTransaction
  change (tx.previous.foldlM (fun sum outpoint => Sender.coin coins outpoint >>= fun coin =>
    .ok (addSaturating sum (valueWord coin.value))) 0 >>= _) = _
  rw [hinputs]
  cases tx.previous.mapM (Sender.coin coins) with
  | error e => rfl
  | ok spent =>
    have hsum : spent.foldl (fun sum coin => addSaturating sum (valueWord coin.value)) 0
        = sumWords (spent.map Output.value) := by
      rw [sumWords, List.foldl_map]
    refine congrArg Except.ok (Int64.toInt_inj.1 ?_)
    rw [hsum, toInt_subSaturating_sumWords, toInt_sumWords, toInt_sumWords, toInt_ofInt_total]

/-- There is no fee for the **first outpoint** whose coin is not known. -/
theorem ofTransaction_eq_error_iff {e : ParseError} :
    ofTransaction coins tx = .error e ↔
      ∃ front outpoint back, tx.previous = front ++ outpoint :: back ∧
        (∀ o ∈ front, ∃ coin, coins o = some coin) ∧ coins outpoint = none ∧
        e = .unresolvableSender (.missingCoin outpoint) := by
  have hcoin (o : OutPoint) : Sender.coin coins o = .error e ↔
      coins o = none ∧ e = .unresolvableSender (.missingCoin o) := by
    unfold Sender.coin
    cases coins o with
    | none => simp [eq_comm]
    | some coin => simp
  have hfee : ofTransaction coins tx = .error e ↔
      tx.previous.mapM (Sender.coin coins) = .error e := by
    unfold ofTransaction
    rw [bind_eq_error_iff]
    exact or_iff_left fun ⟨spent, _, h⟩ => by cases h
  rw [hfee, mapM_eq_error_iff]
  simp only [hcoin, Sender.coin_eq_ok_iff]

/-- A fee is the difference of **two sums, each cut off once**, of the coins and of the outputs. -/
theorem ofTransaction_eq_ok_iff {fee : Int64} :
    ofTransaction coins tx = .ok fee ↔
      ∃ spent, List.Forall₂ (fun o coin => coins o = some coin) tx.previous spent ∧
        fee.toInt = (min (valueSum (spent.map Output.value)) maxSum : Nat)
          - (min (valueSum (tx.outputs.map Output.value)) maxSum : Nat) := by
  have hspent (spent : List Output) : tx.previous.mapM (Sender.coin coins) = .ok spent ↔
      List.Forall₂ (fun o coin => coins o = some coin) tx.previous spent := by
    rw [mapM_eq_ok_iff]
    simp only [Sender.coin_eq_ok_iff]
  unfold ofTransaction
  rw [bind_eq_ok_iff]
  refine exists_congr fun spent => and_congr (hspent spent) ?_
  dsimp only
  rw [← toInt_ofInt_total, Int64.toInt_inj]
  exact ⟨fun h => (Except.ok.inj h).symm, fun h => congrArg Except.ok h.symm⟩

/-- A fee stays as it is when **inputs and outputs change places**. -/
theorem ofTransaction_perm {tx' : Transaction} {fee : Int64}
    (hinputs : tx'.inputs.Perm tx.inputs) (houtputs : tx'.outputs.Perm tx.outputs)
    (h : ofTransaction coins tx = .ok fee) : ofTransaction coins tx' = .ok fee := by
  obtain ⟨spent, hspent, hfee⟩ := ofTransaction_eq_ok_iff.1 h
  obtain ⟨spent', hspent', hperm⟩ :=
    List.perm_comp_forall₂ (hinputs.map Input.previous) hspent
  refine ofTransaction_eq_ok_iff.2 ⟨spent', hspent', ?_⟩
  rw [hfee, valueSum_perm (hperm.map Output.value), valueSum_perm (houtputs.map Output.value)]

/-- **A fee is exact but for one bound on either side.** It is the sum of the coins that are spent
less the sum of the outputs, each sum cut off at the largest signed word; it is missing only for
want of a coin, and then the first one that is not known is named. Signed words that stop at every
value, at every addition and at the difference give the same, and never stop at the difference. The
order of inputs and of outputs plays no part. -/
theorem ofTransaction_exact (coins : CoinLookup) (tx : Transaction) :
    (∀ e, ofTransaction coins tx = .error e ↔
      ∃ front outpoint back, tx.previous = front ++ outpoint :: back ∧
        (∀ o ∈ front, ∃ coin, coins o = some coin) ∧ coins outpoint = none ∧
        e = .unresolvableSender (.missingCoin outpoint)) ∧
    (∀ fee, ofTransaction coins tx = .ok fee ↔
      ∃ spent, List.Forall₂ (fun o coin => coins o = some coin) tx.previous spent ∧
        fee.toInt = (min (valueSum (spent.map Output.value)) (2 ^ 63 - 1) : Nat)
          - (min (valueSum (tx.outputs.map Output.value)) (2 ^ 63 - 1) : Nat)) ∧
    stepwise coins tx = ofTransaction coins tx ∧
    (∀ values values', (subSaturating (sumWords values) (sumWords values')).toInt
      = (sumWords values).toInt - (sumWords values').toInt) ∧
    ∀ tx' : Transaction, tx'.inputs.Perm tx.inputs → tx'.outputs.Perm tx.outputs →
      ∀ fee, ofTransaction coins tx' = .ok fee ↔ ofTransaction coins tx = .ok fee :=
  ⟨fun _ => ofTransaction_eq_error_iff, fun _ => ofTransaction_eq_ok_iff, stepwise_eq coins tx,
    toInt_subSaturating_sumWords, fun _ hinputs houtputs _ =>
      ⟨ofTransaction_perm hinputs.symm houtputs.symm, ofTransaction_perm hinputs houtputs⟩⟩

end OmniLayer.Fee
