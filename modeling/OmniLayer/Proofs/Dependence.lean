import OmniLayer.Proofs.Outcome

/-! # What a parse depends on

Of a transaction a parse reads the outputs and the outpoints that are spent, and of the coins those
at these outpoints. Each stage is compared with the same stage of a second run
(`Sender.follows_byRule`, `Fee.follows_ofTransaction`, `Transaction.follows_parse`): runs that see
the same coins differ in the identifier and the time of the message only, and a run that sees more
coins changes nothing but the failures for want of a sender (`Transaction.parse_dependence`). -/

namespace OmniLayer

variable {params : Params} {active : Activation} {coins coins' : CoinLookup}
  {kind : ParseError → Prop}

/-- The outcome with the message changed. -/
def Outcome.map (change : Message → Message) : Outcome → Outcome
  | .message m => .message (change m)
  | .notProtocol => .notProtocol

/-- A message left as it is leaves the outcome as it is. -/
@[simp] theorem Outcome.map_id (outcome : Outcome) : outcome.map id = outcome := by
  cases outcome <;> rfl

/-! ## Stages that look up coins -/

/-- A coin follows when the lookups agree on it. -/
theorem Sender.follows_coin {o : OutPoint} (h : coins' o = coins o) :
    Follows kind id (coin coins o) (coin coins' o) := by
  unfold coin
  rw [h]
  exact .of_eq rfl

/-- A coin that is found is followed by the same one; for one that is missing the sender is
**unresolved**, and a larger lookup may find it. -/
theorem Sender.follows_coin_of_larger {o : OutPoint}
    (h : ∀ coin, coins o = some coin → coins' o = some coin) :
    Follows ParseError.IsUnresolvableSender id (coin coins o) (coin coins' o) := by
  cases hcoin : coins o with
  | none =>
    unfold coin
    rw [hcoin]
    exact .error ⟨_, rfl⟩ _
  | some coin => exact follows_coin ((h coin hcoin).trans hcoin.symm)

/-- A contribution follows when its coin does. -/
theorem Sender.follows_contribution {o : OutPoint}
    (hcoin : Follows kind id (coin coins o) (coin coins' o)) :
    Follows kind id (contribution params active coins o) (contribution params active coins' o) :=
  hcoin.bind fun _ => .of_eq rfl

/-- A rule names the sender from the coins of the **outpoints** alone. -/
theorem Sender.follows_byRule {outpoints : List OutPoint} (rule : SenderRule)
    (hcoins : ∀ o ∈ outpoints, Follows kind id (coin coins o) (coin coins' o)) :
    Follows kind id (byRule params active coins outpoints rule)
      (byRule params active coins' outpoints rule) := by
  cases rule with
  | firstInput =>
    cases outpoints with
    | nil => exact .of_eq rfl
    | cons o rest =>
      have hcontribution :
          Follows kind id (contribution params active coins o)
            (contribution params active coins' o) :=
        follows_contribution (hcoins o List.mem_cons_self)
      exact hcontribution.map fun _ => rfl
  | contributionSum =>
    change Follows kind id (contributionSum params active coins outpoints)
      (contributionSum params active coins' outpoints)
    unfold contributionSum
    by_cases hnil : outpoints = []
    · rw [if_pos hnil, if_pos hnil]
      exact .of_eq rfl
    · rw [if_neg hnil, if_neg hnil]
      exact (Follows.mapM fun o ho => follows_contribution (hcoins o ho)).bind fun _ => .of_eq rfl

/-- The fee depends on the coins of the outpoints and on the **values** of the outputs. -/
theorem Fee.follows_ofTransaction {tx tx' : Transaction} (hprevious : tx'.previous = tx.previous)
    (hvalues : tx'.outputs.map Output.value = tx.outputs.map Output.value)
    (hcoins : ∀ o ∈ tx.previous, Follows kind id (Sender.coin coins o) (Sender.coin coins' o)) :
    Follows kind id (ofTransaction coins tx) (ofTransaction coins' tx') := by
  unfold ofTransaction
  rw [hprevious, hvalues]
  exact (Follows.mapM hcoins).bind fun _ => .of_eq rfl

namespace Transaction

variable {height time time' : UInt32} {tx tx' : Transaction} {change : Message → Message}

/-! ## The whole parse -/

/-- A message depends on the coins of the outpoints, on the **content** and on the values of the
outputs; the identifier and the time are only recorded. -/
theorem follows_message {carrier : Carrier} (hprevious : tx'.previous = tx.previous)
    (hvalues : tx'.outputs.map Output.value = tx.outputs.map Output.value)
    (hcontent : ∀ sender,
      content params (params.activation.activeAt height) sender tx'.outputs carrier
        = content params (params.activation.activeAt height) sender tx.outputs carrier)
    (hcoins : ∀ o ∈ tx.previous, Follows kind id (Sender.coin coins o) (Sender.coin coins' o))
    (hchange : ∀ sender receiver fee payload,
      (⟨tx'.txid.text, sender, receiver, fee, payload, carrier, height, time'⟩ : Message)
        = change ⟨tx.txid.text, sender, receiver, fee, payload, carrier, height, time⟩) :
    Follows kind change (message params coins height time tx carrier)
      (message params coins' height time' tx' carrier) := by
  unfold message
  dsimp only
  rw [hprevious]
  refine (Sender.follows_byRule _ hcoins).bind fun sender => ?_
  refine (Follows.of_eq (hcontent sender)).bind fun ⟨payload, receiver⟩ => ?_
  exact (Fee.follows_ofTransaction hprevious hvalues hcoins).bind fun fee =>
    .ok (hchange sender receiver fee payload)

/-- A parse follows when the **decision** is the same and every message follows. -/
theorem follows_parse
    (hdecision : Decision.ofOutputs params (params.activation.activeAt height) tx'.outputs
      = Decision.ofOutputs params (params.activation.activeAt height) tx.outputs)
    (hmessage : ∀ carrier, Follows kind change (message params coins height time tx carrier)
      (message params coins' height time' tx' carrier)) :
    Follows kind (Outcome.map change) (parse params coins height time tx)
      (parse params coins' height time' tx') := by
  unfold parse
  rw [hdecision]
  cases Decision.ofOutputs params (params.activation.activeAt height) tx.outputs with
  | carrier carrier => exact (hmessage carrier).map fun _ => rfl
  | notProtocol => exact .ok rfl
  | notActivated => exact fun _ => rfl
  | splitMarker => exact fun _ => rfl

/-! ## Two lookups -/

/-- Lookups that agree on the **outpoints** of a transaction give one parse. -/
theorem parse_congr (h : ∀ o ∈ tx.previous, coins' o = coins o) :
    parse params coins' height time tx = parse params coins height time tx := by
  have hmessage (carrier : Carrier) :
      Follows (fun _ => False) id (message params coins height time tx carrier)
        (message params coins' height time tx carrier) :=
    follows_message rfl rfl (fun _ => rfl) (fun o ho => Sender.follows_coin (h o ho))
      fun _ _ _ _ => rfl
  have hparse : parse params coins' height time tx
      = (parse params coins height time tx).map (Outcome.map id) :=
    follows_parse rfl hmessage fun _ hfalse => hfalse.elim
  rw [hparse]
  cases parse params coins height time tx with
  | error e => rfl
  | ok outcome => exact congrArg Except.ok outcome.map_id

/-- **A parse depends on little.** Two transactions with the same outputs and the same outpoints,
parsed with lookups that agree on these outpoints, give the same result but for the identifier and
the time of the message. And a lookup that finds more coins leaves every result as it is, unless
that was the failure to tell the sender. -/
theorem parse_dependence (params : Params) (height : UInt32) :
    (∀ (coins coins' : CoinLookup) (time time' : UInt32) (tx tx' : Transaction),
      tx'.outputs = tx.outputs → tx'.previous = tx.previous →
      (∀ o ∈ tx.previous, coins' o = coins o) →
      parse params coins' height time' tx'
        = (parse params coins height time tx).map (Outcome.map fun m =>
          { m with txid := tx'.txid.text, blockTime := time' })) ∧
    ∀ (coins coins' : CoinLookup) (time : UInt32) (tx : Transaction),
      (∀ o coin, coins o = some coin → coins' o = some coin) →
      (∀ problem, parse params coins height time tx ≠ .error (.unresolvableSender problem)) →
      parse params coins' height time tx = parse params coins height time tx := by
  constructor
  · intro coins coins' time time' tx tx' houtputs hprevious hagree
    -- No failure is excepted: each coin is the same one, or missing for both.
    have hmessage (carrier : Carrier) :
        Follows (fun _ => False) (fun m => { m with txid := tx'.txid.text, blockTime := time' })
          (message params coins height time tx carrier)
          (message params coins' height time' tx' carrier) :=
      follows_message hprevious (by rw [houtputs]) (fun _ => by rw [houtputs])
        (fun o ho => Sender.follows_coin (hagree o ho)) fun _ _ _ _ => rfl
    exact follows_parse (by rw [houtputs]) hmessage fun _ hfalse => hfalse.elim
  · intro coins coins' time tx hlarger hresolved
    have hmessage (carrier : Carrier) :
        Follows ParseError.IsUnresolvableSender id (message params coins height time tx carrier)
          (message params coins' height time tx carrier) :=
      follows_message rfl rfl (fun _ => rfl)
        (fun o _ => Sender.follows_coin_of_larger (hlarger o)) fun _ _ _ _ => rfl
    have hparse : parse params coins' height time tx
        = (parse params coins height time tx).map (Outcome.map id) :=
      follows_parse rfl hmessage fun e ⟨problem, he⟩ => he ▸ hresolved problem
    rw [hparse]
    cases parse params coins height time tx with
    | error e => rfl
    | ok outcome => exact congrArg Except.ok outcome.map_id

/-- The same transaction signed anew. -/
def markerResigned : Transaction where
  version := 1
  inputs := [⟨⟨⟨FixedBytes.zero 32⟩, 0⟩, [0x51], 0xffffffff, [[1]]⟩]
  outputs := markerAlone.outputs
  lockTime := 7

/-- The snapshot of the one coin that the two transactions spend. -/
def spentView : CoinView := FinMap.empty.insert ⟨⟨FixedBytes.zero 32⟩, 0⟩ spentCoin

/-- A snapshot with one more coin. -/
def spentViewGrown : CoinView := spentView.insert ⟨⟨FixedBytes.zero 32⟩, 1⟩ ⟨0, []⟩

/-- A message is found with the one coin, so it is found with both, and for the transaction signed
anew. -/
theorem parse_dependence_markerAlone :
    parse Params.bitcoin spentViewGrown.resolve 400000 0 markerAlone
        = parse Params.bitcoin spentView.resolve 400000 0 markerAlone ∧
      parse Params.bitcoin spentViewGrown.resolve 400000 9 markerResigned
        = (parse Params.bitcoin spentView.resolve 400000 0 markerAlone).map (Outcome.map fun m =>
          { m with txid := markerResigned.txid.text, blockTime := 9 }) := by
  have hmessage :
      (parse Params.bitcoin spentView.resolve 400000 0 markerAlone).toOption.isSome = true := by
    decide +kernel
  have hgrown (o : OutPoint) (coin : Output) (h : spentView.resolve o = some coin) :
      spentViewGrown.resolve o = some coin := by
    -- The coin that was added stands at an outpoint where there was none.
    have hnew : spentView.resolve ⟨⟨FixedBytes.zero 32⟩, 1⟩ = none := by decide +kernel
    have hne : (⟨⟨FixedBytes.zero 32⟩, 1⟩ : OutPoint) ≠ o := by
      rintro rfl
      rw [hnew] at h
      cases h
    rw [CoinView.resolve, spentViewGrown, FinMap.get?_insert, if_neg hne]
    exact h
  constructor
  · refine (parse_dependence Params.bitcoin 400000).2 spentView.resolve spentViewGrown.resolve 0
      markerAlone hgrown fun problem h => ?_
    rw [h] at hmessage
    cases hmessage
  · exact (parse_dependence Params.bitcoin 400000).1 spentView.resolve spentViewGrown.resolve 0 9
      markerAlone markerResigned rfl rfl (by decide +kernel)

end Transaction

end OmniLayer
