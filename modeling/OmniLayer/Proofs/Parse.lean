import OmniLayer.Proofs.Carrier.Primitives
import OmniLayer.Proofs.Sender

/-! # What makes a parse succeed

A parse gives a message when each of its stages gives its part (`parse_eq_message`). The fee is the
stage that cannot fail on its own: it needs the coins of all inputs
(`exists_ofTransaction_eq_ok_iff`), and the contribution rule has resolved them already
(`exists_coin_of_contributionSum`). -/

namespace OmniLayer

variable {params : Params} {active : Activation} {coins : CoinLookup} {tx : Transaction}

/-- There is a fee exactly when the coins of all inputs are known. -/
theorem Fee.exists_ofTransaction_eq_ok_iff :
    (∃ fee, Fee.ofTransaction coins tx = .ok fee) ↔
      ∀ o ∈ tx.previous, ∃ coin, coins o = some coin := by
  have hcoins : (∃ spent, tx.previous.mapM (Sender.coin coins) = .ok spent) ↔
      ∀ o ∈ tx.previous, ∃ coin, coins o = some coin := by
    rw [exists_mapM_eq_ok_iff]
    exact forall₂_congr fun o _ => exists_congr fun coin => Sender.coin_eq_ok_iff
  rw [← hcoins]
  constructor
  · rintro ⟨fee, hfee⟩
    obtain ⟨spent, hspent, -⟩ := bind_eq_ok_iff.1 hfee
    exact ⟨spent, hspent⟩
  · rintro ⟨spent, hspent⟩
    exact ⟨_, bind_eq_ok_iff.2 ⟨spent, hspent, rfl⟩⟩

/-- There is a fee when the coins of all inputs are known. -/
theorem Fee.exists_ofTransaction_eq_ok (h : ∀ o ∈ tx.previous, ∃ coin, coins o = some coin) :
    ∃ fee, Fee.ofTransaction coins tx = .ok fee :=
  exists_ofTransaction_eq_ok_iff.2 h

/-- When the contribution rule names a sender, the coins of all inputs are known. -/
theorem Sender.exists_coin_of_contributionSum {outpoints : List OutPoint} {address : String}
    (h : contributionSum params active coins outpoints = .ok address) :
    ∀ o ∈ outpoints, ∃ coin, coins o = some coin := by
  intro o ho
  obtain ⟨coin, hcoin, -⟩ := (contributionSum_eq_ok_iff.1 h).1 o ho
  exact ⟨coin, hcoin⟩

/-- The first outpoint names the sender by its coin, if the coin's class is recognised. -/
theorem Sender.firstInput_eq_ok {o : OutPoint} {rest : List OutPoint} {coin : Output}
    {address : String} (hcoin : coins o = some coin)
    (hallowed : coin.scriptClass.isAllowed active = true)
    (haddress : params.addressOf? coin.script = some address) :
    firstInput params active coins (o :: rest) = .ok address := by
  have hcontribution : contribution params active coins o = .ok (address, coin.value) :=
    contribution_eq_ok_iff.2 ⟨coin, hcoin, hallowed, haddress, rfl⟩
  rw [firstInput, hcontribution]
  rfl

namespace Transaction

/-- A transaction is parsed to a **message** when the carrier is decided, the sender is told, the
content is read and the fee is known. -/
theorem parse_eq_message {height time : UInt32} {carrier : Carrier} {sender : String}
    {payload : Bytes} {receiver : Option String} {fee : Int64}
    (hdecision : Decision.ofOutputs params (params.activation.activeAt height) tx.outputs
      = .carrier carrier)
    (hsender : Sender.byRule params (params.activation.activeAt height) coins tx.previous
      (.ofCarrier carrier) = .ok sender)
    (hcontent : content params (params.activation.activeAt height) sender tx.outputs carrier
      = .ok (payload, receiver))
    (hfee : Fee.ofTransaction coins tx = .ok fee) :
    parse params coins height time tx
      = .ok (.message ⟨tx.txid.text, sender, receiver, fee, payload, carrier, height, time⟩) := by
  rw [← parseWith_eq_parse]
  rw [← contentWith_eq_content] at hcontent
  exact parseWith_eq_message hdecision hsender hcontent hfee

/-- A transaction with one input and the given outputs. -/
def spending (outputs : List Output) : Transaction where
  version := 2
  inputs := [⟨⟨⟨FixedBytes.zero 32⟩, 0⟩, [], 0, []⟩]
  outputs := outputs
  lockTime := 0

/-- A coin of the address of a key hash, for that input to spend. -/
def spentCoin : Output := ⟨20000, Script.payToPubkeyHash ⟨List.replicate 20 7, rfl⟩⟩

/-- The lookup that finds this coin everywhere. -/
def spentCoins : CoinLookup := fun _ => some spentCoin

/-- A transaction whose one output is null data with the marker. -/
def markerAlone : Transaction :=
  spending [⟨0, Script.opReturn :: Script.push Params.bitcoin.marker.bytes⟩]

end Transaction

end OmniLayer
