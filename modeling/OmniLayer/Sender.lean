import OmniLayer.Coins
import OmniLayer.Destination
import OmniLayer.Error

/-! # The sender

Two rules tell the sender of a transaction from the coins it spends. Null-data payloads are sent by
the address of the first input, the others by the address that contributed the largest total. The
totals are kept in the order of the addresses and scanned once, so that a later address wins with a
larger total only. -/

namespace OmniLayer

/-- The **rule** by which a sender is told. -/
inductive SenderRule
  /-- The address of the first input. -/
  | firstInput
  /-- The address with the largest total over all inputs. -/
  | contributionSum
  deriving DecidableEq, Repr

namespace SenderRule

/-- The rule for a carrier. -/
def ofCarrier : Carrier → SenderRule
  | .address => .contributionSum
  | .multisig => .contributionSum
  | .nullData => .firstInput

/-- The name of a rule in reports. -/
def name : SenderRule → String
  | .firstInput => "first-input"
  | .contributionSum => "contribution-sum"

/-- The key of a rule in structured reports. -/
def key : SenderRule → String
  | .firstInput => "first_input"
  | .contributionSum => "contribution_sum"

end SenderRule

namespace Sender

/-- The coin at an outpoint. -/
def coin (coins : CoinLookup) (outpoint : OutPoint) : Except ParseError Output :=
  match coins outpoint with
  | some coin => .ok coin
  | none => .error (.unresolvableSender (.missingCoin outpoint))

/-- The address that a coin **speaks for**: it must be a recognised output with a single address. -/
def coinAddress (params : Params) (active : Activation) (outpoint : OutPoint) (coin : Output) :
    Except ParseError String :=
  let scriptClass := Script.classify coin.script
  match Destination.ofClass? scriptClass with
  | some destination =>
    if scriptClass.isAllowed active then .ok (destination.toAddress params.addressVersions)
    else .error (.unresolvableSender (.ineligibleCoin outpoint scriptClass.name))
  | none => .error (.unresolvableSender (.ineligibleCoin outpoint scriptClass.name))

/-- The address and the value that an outpoint contributes. -/
def contribution (params : Params) (active : Activation) (coins : CoinLookup)
    (outpoint : OutPoint) : Except ParseError (String × UInt64) := do
  let coin ← coin coins outpoint
  let address ← coinAddress params active outpoint coin
  return (address, coin.value)

/-- The address of the **first** outpoint. -/
def firstInput (params : Params) (active : Activation) (coins : CoinLookup) :
    List OutPoint → Except ParseError String
  | [] => .error (.unresolvableSender .noInputs)
  | outpoint :: _ => (contribution params active coins outpoint).map (·.1)

/-- A total with a value added to it; totals stop at the largest word. -/
def raise (total : Nat) (value : UInt64) : Nat := min (total + value.toNat) wordMax

/-- Adds a contribution to entries in ascending order: to the entry of its address, or to a new one
in the place that is the address's own. -/
def creditIn (c : String × UInt64) : List (String × Nat) → List (String × Nat)
  | [] => [(c.1, raise 0 c.2)]
  | entry :: rest =>
    if c.1 = entry.1 then (entry.1, raise entry.2 c.2) :: rest
    else if c.1 < entry.1 then (c.1, raise 0 c.2) :: entry :: rest
    else entry :: creditIn c rest

/-- Every entry has an address that was there or the one that is credited. -/
theorem fst_of_mem_creditIn {c : String × UInt64} {entries : List (String × Nat)}
    {e : String × Nat} (h : e ∈ creditIn c entries) : e.1 = c.1 ∨ ∃ e' ∈ entries, e.1 = e'.1 := by
  induction entries with
  | nil =>
    rw [List.mem_singleton.1 h]
    exact Or.inl rfl
  | cons entry rest ih =>
    rw [creditIn] at h
    split at h
    · rcases List.mem_cons.1 h with rfl | h
      · exact Or.inr ⟨entry, List.mem_cons_self, rfl⟩
      · exact Or.inr ⟨e, List.mem_cons_of_mem _ h, rfl⟩
    · split at h
      · rcases List.mem_cons.1 h with rfl | h
        · exact Or.inl rfl
        · exact Or.inr ⟨e, h, rfl⟩
      · rcases List.mem_cons.1 h with rfl | h
        · exact Or.inr ⟨e, List.mem_cons_self, rfl⟩
        · rcases ih h with heq | ⟨e', he', heq⟩
          · exact Or.inl heq
          · exact Or.inr ⟨e', List.mem_cons_of_mem _ he', heq⟩

/-- Credited entries stay in **ascending order**. -/
theorem pairwise_creditIn (c : String × UInt64) {entries : List (String × Nat)}
    (h : entries.Pairwise fun a b => a.1 < b.1) :
    (creditIn c entries).Pairwise fun a b => a.1 < b.1 := by
  induction entries with
  | nil => exact List.pairwise_singleton _ _
  | cons entry rest ih =>
    obtain ⟨hfirst, hrest⟩ := List.pairwise_cons.1 h
    rw [creditIn]
    split
    · exact List.pairwise_cons.2 ⟨hfirst, hrest⟩
    · rename_i hne
      split
      · rename_i hlt
        refine List.pairwise_cons.2 ⟨fun e he => ?_, h⟩
        rcases List.mem_cons.1 he with rfl | he
        · exact hlt
        · exact String.lt_trans hlt (hfirst e he)
      · rename_i hge
        refine List.pairwise_cons.2 ⟨fun e he => ?_, ih hrest⟩
        rcases fst_of_mem_creditIn he with heq | ⟨e', he', heq⟩
        · -- The address is neither that of the entry nor one before it, so it stands behind it.
          rw [heq]
          refine Decidable.byContradiction fun hnot => hne ?_
          exact String.le_antisymm (String.not_lt.1 hnot) (String.not_lt.1 hge)
        · rw [heq]
          exact hfirst e' he'

/-- **Totals**: addresses with what they contributed, in ascending order of the texts. -/
structure Totals where
  /-- The addresses with their totals. -/
  entries : List (String × Nat)
  /-- A later address is larger. -/
  ascending : entries.Pairwise fun a b => a.1 < b.1

namespace Totals

/-- No totals. -/
def empty : Totals := ⟨[], List.Pairwise.nil⟩

/-- **Credits** a contribution to its address. -/
def credit (totals : Totals) (c : String × UInt64) : Totals :=
  ⟨creditIn c totals.entries, pairwise_creditIn c totals.ascending⟩

/-- One step of the scan: an address takes the place of the one so far with a **strictly larger**
total only, and of none at all with a positive one. -/
def leading (best : Option (String × Nat)) (entry : String × Nat) : Option (String × Nat) :=
  if (best.map (·.2)).getD 0 < entry.2 then some entry else best

/-- The entry that a **scan** in ascending order ends with. -/
def leader? (totals : Totals) : Option (String × Nat) := totals.entries.foldl leading none

end Totals

/-- The address with the **largest total** over the outpoints, all of which must contribute. -/
def contributionSum (params : Params) (active : Activation) (coins : CoinLookup)
    (outpoints : List OutPoint) : Except ParseError String := do
  if outpoints = [] then throw (.unresolvableSender .noInputs)
  else
    let contributions ← outpoints.mapM (contribution params active coins)
    match (contributions.foldl Totals.credit .empty).leader? with
    | some (address, _) => return address
    | none => throw (.unresolvableSender .noValue)

/-- The sender by a rule. -/
def byRule (params : Params) (active : Activation) (coins : CoinLookup)
    (outpoints : List OutPoint) : SenderRule → Except ParseError String
  | .firstInput => firstInput params active coins outpoints
  | .contributionSum => contributionSum params active coins outpoints

end Sender

end OmniLayer
