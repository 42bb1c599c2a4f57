import OmniLayer.Parse
import OmniLayer.Proofs.Bounds.Carrier

/-! # Parsing within bounds

A parse classifies the scripts of outputs and of coins, reads their addresses, and hands the outputs
to a decoder; sums of values stop at the largest word. So it does not fault either (`parse_eq`).
The codec as a whole is put together in `codec_within_bounds`: for any parameters whose bound on
payloads, and whose end of the payload in a hash, are numbers of a word, whatever is laid out, read
or parsed gives a value or reports an error. -/

namespace OmniLayer.Checked

variable {ε : Type} {params : Params} {active : Activation} {coins : CoinLookup}

/-! ## The decision -/

/-- Whether the address of a script reads as the **Exodus address**. -/
def isExodus (params : Params) (script : Script) : Checked ε Bool := do
  let address ← addressOf? params script
  return address == some params.exodusAddress

/-- The pushes of a null-data output. -/
def nullDataPushes? (output : Output) : Checked ε (Option (List Bytes)) := do
  match ← classify output.script with
  | .nullData pushes => return some pushes
  | _ => return none

/-- Whether an output is a recognised bare multisig. -/
def isMultisig (active : Activation) (output : Output) : Checked ε Bool := do
  match ← classify output.script with
  | .multisig _ _ => return active.multisig
  | _ => return false

/-- Whether an output pays the Exodus address by key hash. -/
def paysExodus (params : Params) (output : Output) : Checked ε Bool := do
  match ← classify output.script with
  | .pubkeyHash _ => isExodus params output.script
  | _ => return false

/-- **Decides** on outputs. -/
def decision (params : Params) (active : Activation) (outputs : List Output) :
    Checked ε Decision := do
  let nullData ← gather nullDataPushes? outputs
  let exodus ← someOf (paysExodus params) outputs
  let multisig ← someOf (isMultisig active) outputs
  let tagged := nullData.any (hasMarker params.marker.bytes)
  let split := (nullData.head?.map (isSplitMarker params.marker.bytes)).getD false
  return if active.nullData ∧ tagged then .carrier .nullData
    else if active.nullData ∧ split then .splitMarker
    else if exodus ∧ multisig then .carrier .multisig
    else if exodus then .carrier .address
    else if tagged then .notActivated
    else .notProtocol

/-- A script is classified within bounds, so **its address is compared**. -/
@[simp] theorem isExodus_eq_ok (script : Script) :
    (isExodus params script : Checked ε Bool) = .ok (params.isExodus script) := by
  rw [isExodus, addressOf?_eq_ok]
  rfl

/-- **Every list of outputs is decided on within bounds.** -/
@[simp] theorem decision_eq_ok (outputs : List Output) :
    (decision params active outputs : Checked ε Decision)
      = .ok (Decision.ofOutputs params active outputs) := by
  have hpushes : ∀ o ∈ outputs, (nullDataPushes? o : Checked ε (Option (List Bytes)))
      = .ok (match o.scriptClass with | .nullData pushes => some pushes | _ => none) := by
    intro o _
    rw [nullDataPushes?, classify_eq_ok, ok_bind, Output.scriptClass]
    cases Script.classify o.script <;> rfl
  have hexodus : ∀ o ∈ outputs, (paysExodus params o : Checked ε Bool)
      = .ok (o.paysExodus params) := by
    intro o _
    rw [paysExodus, classify_eq_ok, ok_bind, Output.paysExodus, Output.scriptClass]
    cases Script.classify o.script with
    | pubkeyHash hash => exact isExodus_eq_ok o.script
    | _ => rfl
  have hmultisig : ∀ o ∈ outputs, (isMultisig active o : Checked ε Bool)
      = .ok (o.isMultisig active) := by
    intro o _
    rw [isMultisig, classify_eq_ok, ok_bind, Output.isMultisig, Output.scriptClass]
    cases Script.classify o.script <;> rfl
  rw [decision, gather_eq_ok hpushes, ok_bind, someOf_eq_ok hexodus, ok_bind,
    someOf_eq_ok hmultisig, ok_bind]
  rfl

/-! ## The sender -/

/-- The address and the value that an outpoint contributes. -/
def contribution (params : Params) (active : Activation) (coins : CoinLookup)
    (outpoint : OutPoint) : Checked ParseError (String × UInt64) := do
  let coin ← reported (Sender.coin coins outpoint)
  let scriptClass ← classify coin.script
  match Destination.ofClass? scriptClass with
  | some destination =>
    if scriptClass.isAllowed active then
      return (destination.toAddress params.addressVersions, coin.value)
    else throw (.error (.unresolvableSender (.ineligibleCoin outpoint scriptClass.name)))
  | none => throw (.error (.unresolvableSender (.ineligibleCoin outpoint scriptClass.name)))

/-- The address of the **first** outpoint. -/
def firstInput (params : Params) (active : Activation) (coins : CoinLookup) :
    List OutPoint → Checked ParseError String
  | [] => throw (.error (.unresolvableSender .noInputs))
  | outpoint :: _ => (contribution params active coins outpoint).map (·.1)

/-- The address with the **largest total** over the outpoints. -/
def contributionSum (params : Params) (active : Activation) (coins : CoinLookup)
    (outpoints : List OutPoint) : Checked ParseError String := do
  if outpoints = [] then throw (.error (.unresolvableSender .noInputs))
  else
    let contributions ← outpoints.mapM (contribution params active coins)
    match (contributions.foldl Sender.Totals.credit .empty).leader? with
    | some (address, _) => return address
    | none => throw (.error (.unresolvableSender .noValue))

/-- The sender by a rule. -/
def sender (params : Params) (active : Activation) (coins : CoinLookup)
    (outpoints : List OutPoint) : SenderRule → Checked ParseError String
  | .firstInput => firstInput params active coins outpoints
  | .contributionSum => contributionSum params active coins outpoints

/-- The coin of an outpoint is classified **within its script**. -/
@[simp] theorem contribution_eq (outpoint : OutPoint) : contribution params active coins outpoint
    = reported (Sender.contribution params active coins outpoint) := by
  refine bind_eq_reported rfl fun coin => ?_
  rw [classify_eq_ok, ok_bind, Sender.coinAddress]
  cases Destination.ofClass? (Script.classify coin.script) with
  | none => rfl
  | some destination =>
    dsimp only
    split <;> rfl

/-- **The coins that are spent are looked at within bounds.** -/
@[simp] theorem sender_eq (outpoints : List OutPoint) (rule : SenderRule) :
    sender params active coins outpoints rule
      = reported (Sender.byRule params active coins outpoints rule) := by
  have hcontribution : contribution params active coins
      = fun o => reported (Sender.contribution params active coins o) := funext contribution_eq
  cases rule with
  | firstInput =>
    cases outpoints with
    | nil => rfl
    | cons outpoint rest =>
      rw [sender, firstInput, contribution_eq, Sender.byRule, Sender.firstInput]
      exact map_reported _ _
  | contributionSum =>
    rw [sender, contributionSum, Sender.byRule, Sender.contributionSum]
    refine ite_eq_reported (fun _ => rfl) fun _ => ?_
    rw [hcontribution]
    refine bind_eq_reported (mapM_reported _ _) fun contributions => ?_
    cases (contributions.foldl Sender.Totals.credit .empty).leader? <;> rfl

/-! ## The receiver -/

/-- The address that an output may name as the receiver. -/
def candidate? (params : Params) (active : Activation) (output : Output) :
    Checked ε (Option String) := do
  let scriptClass ← classify output.script
  if scriptClass.isSingleAddress ∧ scriptClass.isAllowed active then
    if ← isExodus params output.script then return none
    else addressOf? params output.script
  else return none

/-- The receiver among outputs. -/
def receiver? (params : Params) (active : Activation) (sender : String) (outputs : List Output) :
    Checked ε (Option String) := do
  let candidates ← gather (candidate? params active) outputs
  return Receiver.ofCandidates? sender candidates

/-- An output is classified within its script, so **it names its address**. -/
@[simp] theorem candidate?_eq_ok (output : Output) :
    (candidate? params active output : Checked ε (Option String))
      = .ok (Receiver.candidate? params active output) := by
  rw [candidate?, classify_eq_ok, ok_bind, Receiver.candidate?, Output.scriptClass]
  by_cases hclass : (Script.classify output.script).isSingleAddress = true ∧
      (Script.classify output.script).isAllowed active = true
  · rw [if_pos hclass, isExodus_eq_ok, ok_bind, addressOf?_eq_ok]
    obtain ⟨hsingle, hallowed⟩ := hclass
    cases params.isExodus output.script <;> simp [hsingle, hallowed]
    rfl
  · rw [if_neg hclass, if_neg fun h => hclass ⟨h.1, h.2.1⟩]
    rfl

/-- **The receiver is told within bounds.** -/
theorem receiver?_eq_ok (sender : String) (outputs : List Output) :
    (receiver? params active sender outputs : Checked ε (Option String))
      = .ok (Receiver.identify? params active sender outputs) := by
  rw [receiver?, gather_eq_ok fun o _ => candidate?_eq_ok o]
  rfl

/-! ## Parsing -/

/-- The payload and the receiver of a transaction with a known carrier and sender. -/
def content (params : Params) (active : Activation) (sender : String) (outputs : List Output) :
    Carrier → Checked ParseError (Bytes × Option String)
  | .address => do
    let reading ← AddressCarrier.decode params active outputs
    match outputs[reading.referenceVout]? with
    | none => return (reading.payload, none)
    | some output => return (reading.payload, ← addressOf? params output.script)
  | carrier => do
    let payload ← decode params active (some sender) outputs carrier
    return (payload, ← receiver? params active sender outputs)

/-- The message that a transaction carries in a given way. -/
def message (params : Params) (coins : CoinLookup) (height time : UInt32) (tx : Transaction)
    (carrier : Carrier) : Checked ParseError Message := do
  let active := params.activation.activeAt height
  let sender ← sender params active coins tx.previous (.ofCarrier carrier)
  let (payload, receiver) ← content params active sender tx.outputs carrier
  let fee ← reported (Fee.ofTransaction coins tx)
  return ⟨tx.txid.text, sender, receiver, fee, payload, carrier, height, time⟩

/-- **Parses** a transaction. -/
def parse (params : Params) (coins : CoinLookup) (height time : UInt32) (tx : Transaction) :
    Checked ParseError Outcome := do
  match ← decision params (params.activation.activeAt height) tx.outputs with
  | .carrier carrier => (message params coins height time tx carrier).map Outcome.message
  | .notProtocol => return .notProtocol
  | .notActivated => throw (.error (.activationNotReached .nullData height))
  | .splitMarker => throw (.error (.malformedPayload .splitMarker))

/-- The receiver of an address is that of an output that is **there**, if any. -/
theorem content_eq (hproduct : params.maxPackets * params.packetSize < wordCount)
    (hsize : 1 + params.addressPacketSize < wordCount) (sender : String) (outputs : List Output)
    (carrier : Carrier) : content params active sender outputs carrier
      = reported (Transaction.content params active sender outputs carrier) := by
  have hothers (carrier : Carrier) :
      (do let payload ← decode params active (some sender) outputs carrier
          return (payload, ← receiver? params active sender outputs))
        = reported (do
            let payload ← carrier.decode params active (some sender) outputs
            return (payload, Receiver.identify? params active sender outputs)) := by
    refine bind_eq_reported (decode_eq hproduct hsize _ _ carrier) fun payload => ?_
    rw [receiver?_eq_ok]
    rfl
  cases carrier with
  | address =>
    refine bind_eq_reported (AddressCarrier.decode_eq hsize outputs) fun reading => ?_
    cases outputs[reading.referenceVout]? with
    | none => rfl
    | some output =>
      dsimp only
      rw [addressOf?_eq_ok]
      rfl
  | multisig => exact hothers .multisig
  | nullData => exact hothers .nullData

/-- **Every transaction is parsed within bounds**, when the bound on payloads and the end of the
payload in a hash are numbers of a word. -/
theorem parse_eq (hproduct : params.maxPackets * params.packetSize < wordCount)
    (hsize : 1 + params.addressPacketSize < wordCount) (coins : CoinLookup)
    (height time : UInt32) (tx : Transaction) : parse params coins height time tx
      = reported (Transaction.parse params coins height time tx) := by
  have hmessage (carrier : Carrier) : message params coins height time tx carrier
      = reported (Transaction.message params coins height time tx carrier) := by
    refine bind_eq_reported (sender_eq _ _) fun sender => ?_
    refine bind_eq_reported (content_eq hproduct hsize sender _ carrier) fun content => ?_
    exact bind_eq_reported rfl fun fee => rfl
  rw [parse, decision_eq_ok, ok_bind, Transaction.parse]
  cases Decision.ofOutputs params (params.activation.activeAt height) tx.outputs with
  | carrier carrier =>
    dsimp only
    rw [hmessage]
    exact map_reported _ _
  | _ => rfl

/-- **The codec stays within bounds.** Let the bound on payloads, and the end of the payload in a
hash, be numbers of a word; the parameters need not have been accepted otherwise. Then no access
made for the class of a script, for laying out a request, for reading packets or a payload off
outputs, or for parsing a transaction is refused: each run gives the value, or reports the error,
that the codec has for it. -/
theorem codec_within_bounds {params : Params}
    (hproduct : params.maxPackets * params.packetSize < wordCount)
    (hsize : 1 + params.addressPacketSize < wordCount) :
    (∀ script, (classify script : Checked ParseError ScriptClass) = .ok (Script.classify script)) ∧
      (∀ request : Request, encode params request = reported (request.encode params)) ∧
      (∀ active seed outputs, MultisigCarrier.packets params active seed outputs
        = reported (OmniLayer.MultisigCarrier.packets params active seed outputs)) ∧
      (∀ active sender outputs (carrier : Carrier), decode params active sender outputs carrier
        = reported (carrier.decode params active sender outputs)) ∧
      ∀ coins height time tx, parse params coins height time tx
        = reported (Transaction.parse params coins height time tx) :=
  ⟨classify_eq_ok, encode_eq hproduct, fun _ => MultisigCarrier.packets_eq,
    fun _ => decode_eq hproduct hsize, parse_eq hproduct hsize⟩

/-- Parameters that are not accepted: packets of no bytes, pushes that the marker fills, and more
bytes in a data address than a hash has. -/
def unusable : Params :=
  { Params.bitcoin with
    packetSize := 0
    maxPackets := wordMax
    maxPushSize := 4
    addressPacketSize := wordMax - 1 }

/-- With these parameters packets and pushes are refused with an error, and a payload in a hash ends
where the hash does. -/
theorem codec_within_bounds_unusable :
    encode unusable (.nullData none []) = .error (.error (.payloadTooLarge 5 4)) ∧
      encode unusable (.multisig "" [] [1]) = .error (.error (.payloadTooLarge 0 31)) ∧
      decode unusable (unusable.activation.activeAt 400000) none
          OmniLayer.AddressCarrier.wrappedOutputs .address
        = .ok (Bytes.padTo 19 OmniLayer.AddressCarrier.oneUnit) := by
  obtain ⟨-, hencode, -, hdecode, -⟩ :=
    @codec_within_bounds unusable (by decide) (by decide)
  have hnullData : (Request.nullData none []).encode unusable
      = .error (.payloadTooLarge 5 4) := rfl
  have hmultisig : (Request.multisig "" [] [1]).encode unusable
      = .error (.payloadTooLarge 0 31) := by
    decide +kernel
  have haddress : Carrier.decode unusable (unusable.activation.activeAt 400000) none
      OmniLayer.AddressCarrier.wrappedOutputs .address
      = .ok (Bytes.padTo 19 OmniLayer.AddressCarrier.oneUnit) := by
    decide +kernel
  exact ⟨by rw [hencode, hnullData]; rfl, by rw [hencode, hmultisig]; rfl,
    by rw [hdecode, haddress]; rfl⟩

/-- A bound on payloads that is no number of a word is refused as such. -/
example : encode { Params.bitcoin with maxPackets := wordMax } (.nullData none [])
    = .error (.fault .overflow) := rfl

end OmniLayer.Checked
