import OmniLayer.Parse
import OmniLayer.Proofs.Carrier.Priority

/-! # Stages at a height

Every stage of a parse asks by itself what is recognised: it takes the height and the rules among
the parameters, and opens the gates for each output anew. The stages stand here in that form, from
the test on a single output (`ScriptClass.isAllowedAt`) to the parse (`Transaction.parseAt`). Each
is the stage that takes the open gates, since its tests are the same; so a height acts on a parse
through the gates, and beside them through the fields in which it is recorded
(`Transaction.parseAt_eq_parse`). -/

namespace OmniLayer

variable {params : Params} {height : UInt32}

/-! ## Gates and outputs -/

/-- Whether outputs of a class are **recognised at a height**. -/
def ScriptClass.isAllowedAt (rules : ActivationRules) (height : UInt32) : ScriptClass → Bool
  | .pubkeyHash _ => true
  | .scriptHash _ => rules.scriptHashHeight ≤ height
  | .multisig _ _ => rules.multisigHeight ≤ height
  | .nullData _ => rules.nullDataHeight ≤ height
  | .pubkey _ => false
  | .nonStandard => false

/-- A class is recognised at a height when its gate is open. -/
@[simp] theorem ScriptClass.isAllowedAt_eq (rules : ActivationRules) (height : UInt32)
    (scriptClass : ScriptClass) :
    scriptClass.isAllowedAt rules height = scriptClass.isAllowed (rules.activeAt height) := by
  cases scriptClass <;> rfl

/-! ## The decision -/

namespace Decision

/-- **Sees** one more output at a height. -/
def seeAt (params : Params) (height : UInt32) (seen : Seen) (output : Output) : Seen :=
  let allowed := output.scriptClass.isAllowedAt params.activation height
  match output.scriptClass with
  | .nullData pushes => { seen with nullData := seen.nullData ++ [pushes] }
  | .multisig _ _ => if allowed then { seen with multisig := true } else seen
  | .pubkeyHash _ => if params.isExodus output.script then { seen with exodus := true } else seen
  | _ => seen

/-- An output is seen with the gates that are open. -/
@[simp] theorem seeAt_eq (seen : Seen) (output : Output) :
    seeAt params height seen output
      = see params (params.activation.activeAt height) seen output := by
  unfold seeAt see
  cases output.scriptClass <;> simp [ScriptClass.isAllowed]

/-- **Decides** on outputs at a height, after one pass over them. -/
def ofOutputsAt (params : Params) (height : UInt32) (outputs : List Output) : Decision :=
  let seen := outputs.foldl (seeAt params height) ⟨[], false, false⟩
  let tagged := seen.nullData.any (hasMarker params.marker.bytes)
  let others : Decision :=
    if seen.exodus && seen.multisig then .carrier .multisig
    else if seen.exodus then .carrier .address
    else if tagged then .notActivated
    else .notProtocol
  if params.activation.nullDataHeight ≤ height then
    if tagged then .carrier .nullData
    else
      match seen.nullData with
      | first :: _ => if isSplitMarker params.marker.bytes first then .splitMarker else others
      | [] => others
  else others

/-- The decision is made with the gates that are open. -/
@[simp] theorem ofOutputsAt_eq (outputs : List Output) :
    ofOutputsAt params height outputs
      = ofOutputs params (params.activation.activeAt height) outputs := by
  have hsee : seeAt params height = see params (params.activation.activeAt height) :=
    funext fun seen => funext fun output => seeAt_eq seen output
  have hgate : (params.activation.activeAt height).nullData = true ↔
      params.activation.nullDataHeight ≤ height := decide_eq_true_iff
  -- The decision is compared as one pass, which is how it is taken at a height.
  rw [← inOnePass_eq, ofOutputsAt, inOnePass, hsee]
  by_cases hopen : params.activation.nullDataHeight ≤ height
  · rewrite [if_pos hopen, if_pos (hgate.2 hopen)]
    rfl
  · rw [if_neg hopen, if_neg (mt hgate.1 hopen)]

end Decision

/-! ## The sender -/

namespace Sender

/-- The address that a coin speaks for at a height. -/
def coinAddressAt (params : Params) (height : UInt32) (outpoint : OutPoint) (coin : Output) :
    Except ParseError String :=
  let scriptClass := Script.classify coin.script
  match Destination.ofClass? scriptClass with
  | some destination =>
    if scriptClass.isAllowedAt params.activation height then
      .ok (destination.toAddress params.addressVersions)
    else .error (.unresolvableSender (.ineligibleCoin outpoint scriptClass.name))
  | none => .error (.unresolvableSender (.ineligibleCoin outpoint scriptClass.name))

/-- A coin speaks for an address when its gate is open. -/
@[simp] theorem coinAddressAt_eq (outpoint : OutPoint) (coin : Output) :
    coinAddressAt params height outpoint coin
      = coinAddress params (params.activation.activeAt height) outpoint coin := by
  unfold coinAddressAt coinAddress
  dsimp only
  -- What is left after rewriting are two matches with the same branches.
  rewrite [ScriptClass.isAllowedAt_eq]
  rfl

/-- What an outpoint contributes at a height. -/
def contributionAt (params : Params) (height : UInt32) (coins : CoinLookup) (outpoint : OutPoint) :
    Except ParseError (String × UInt64) := do
  let coin ← coin coins outpoint
  let address ← coinAddressAt params height outpoint coin
  return (address, coin.value)

/-- The **sender** by a rule at a height. -/
def byRuleAt (params : Params) (height : UInt32) (coins : CoinLookup)
    (outpoints : List OutPoint) : SenderRule → Except ParseError String
  | .firstInput =>
    match outpoints with
    | [] => .error (.unresolvableSender .noInputs)
    | outpoint :: _ => (contributionAt params height coins outpoint).map (·.1)
  | .contributionSum => do
    if outpoints = [] then throw (.unresolvableSender .noInputs)
    else
      let contributions ← outpoints.mapM (contributionAt params height coins)
      match (contributions.foldl Totals.credit .empty).leader? with
      | some (address, _) => return address
      | none => throw (.unresolvableSender .noValue)

/-- The sender is told with the gates that are open. -/
@[simp] theorem byRuleAt_eq (coins : CoinLookup) (outpoints : List OutPoint) (rule : SenderRule) :
    byRuleAt params height coins outpoints rule
      = byRule params (params.activation.activeAt height) coins outpoints rule := by
  -- Both rules ask for contributions only, one for the first and one for all of them.
  have hcontribution : contributionAt params height coins
      = contribution params (params.activation.activeAt height) coins := by
    funext outpoint
    simp only [contributionAt, contribution, coinAddressAt_eq]
  cases rule with
  | firstInput =>
    cases outpoints with
    | nil => rfl
    | cons outpoint rest => rw [byRuleAt, byRule, firstInput, hcontribution]
  | contributionSum =>
    rewrite [byRuleAt, byRule, contributionSum, hcontribution]
    rfl

end Sender

/-! ## The payload -/

namespace AddressCarrier

/-- The candidate that an output makes at a height, if any. -/
def candidateAt? (params : Params) (height : UInt32) (output : Output) (vout : Nat) :
    Option Candidate :=
  if output.scriptClass.isAllowedAt params.activation height then
    match Destination.ofClass? output.scriptClass with
    | none => none
    | some destination =>
      if params.exodusDestination? = some destination then none
      else some ⟨vout, destination.hash, output.value⟩
  else none

/-- **Reads** the payload from outputs at a height. -/
def decodeAt (params : Params) (height : UInt32) (outputs : List Output) :
    Except ParseError Reading := do
  let candidates := outputs.zipIdx.filterMap fun (output, vout) =>
    candidateAt? params height output vout
  let data ← dataOutput candidates
  let reference ← reference data (candidates.filter fun c => c.vout ≠ data.vout)
  readingOf params data reference

/-- A simple send is read with the gates that are open. -/
@[simp] theorem decodeAt_eq (outputs : List Output) :
    decodeAt params height outputs
      = decode params (params.activation.activeAt height) outputs := by
  have hcandidate : candidateAt? params height
      = candidate? params (params.activation.activeAt height) := by
    funext output vout
    unfold candidateAt? candidate?
    rewrite [ScriptClass.isAllowedAt_eq]
    rfl
  rw [decodeAt, decode, candidates, hcandidate]

end AddressCarrier

namespace MultisigCarrier

/-- The packet keys of one output at a height. -/
def keysOfAt (params : Params) (height : UInt32) (output : Output) (vout : Nat) : List PacketKey :=
  if output.scriptClass.isAllowedAt params.activation height then
    match output.scriptClass with
    | .multisig _ keys => (keys.zipIdx.drop 1).map fun (key, position) => ⟨vout, position, key⟩
    | _ => []
  else []

/-- Keys are taken from bare multisig whose gate is open. -/
@[simp] theorem keysOfAt_eq (output : Output) (vout : Nat) :
    keysOfAt params height output vout
      = keysOf (params.activation.activeAt height) output vout := by
  unfold keysOfAt keysOf
  cases output.scriptClass <;> simp [ScriptClass.isAllowed]

/-- Reads the **packets** of the outputs at a height. -/
def packetsAt (params : Params) (height : UInt32) (seed : String) (outputs : List Output) :
    Except ParseError (List Packet) := do
  let found := outputs.zipIdx.flatMap fun (output, vout) => keysOfAt params height output vout
  let keys := found.take params.maxPackets
  let chunks ← keys.mapM (chunk params.packetSize)
  let digests := Keystream.digests seed chunks.length
  return (keys.zip chunks).zipIdx.map fun ((key, bytes), index) => packet digests key bytes index

/-- Packets are read with the gates that are open. -/
@[simp] theorem packetsAt_eq (seed : String) (outputs : List Output) :
    packetsAt params height seed outputs
      = packets params (params.activation.activeAt height) seed outputs := by
  simp only [packetsAt, packets, packetKeys, keysOfAt_eq]

/-- **Reads** the payload from outputs at a height. -/
def decodeAt (params : Params) (height : UInt32) (seed : String) (outputs : List Output) :
    Except ParseError Bytes := do
  let packets ← packetsAt params height seed outputs
  match params.maxPayloadSize? with
  | none => throw .overflow
  | some max => return (packets.flatMap Packet.data).take max

/-- Multisig is read with the gates that are open. -/
@[simp] theorem decodeAt_eq (seed : String) (outputs : List Output) :
    decodeAt params height seed outputs
      = decode params (params.activation.activeAt height) seed outputs := by
  rewrite [decodeAt, decode, packetsAt_eq]
  rfl

end MultisigCarrier

namespace NullDataCarrier

/-- What an output adds to the payload at a height, if it is recognised and tagged. -/
def bodyAt? (params : Params) (height : UInt32) (output : Output) : Option Bytes :=
  if output.scriptClass.isAllowedAt params.activation height then
    match output.scriptClass with
    | .nullData (first :: rest) =>
      if hasMarker params.marker.bytes (first :: rest) then
        some (first.drop params.marker.bytes.length ++ rest.flatten)
      else none
    | _ => none
  else none

/-- Null data adds to the payload when its gate is open. -/
@[simp] theorem bodyAt?_eq (output : Output) :
    bodyAt? params height output = body? params (params.activation.activeAt height) output := by
  unfold bodyAt? body?
  cases output.scriptClass with
  | nullData pushes =>
    cases pushes with
    | nil => simp
    | cons first rest =>
      simp only [ScriptClass.isAllowedAt_eq, ScriptClass.isAllowed, ite_and]
  | _ => simp

/-- **Reads** the payload from outputs at a height. -/
def decodeAt (params : Params) (height : UInt32) (outputs : List Output) :
    Except ParseError Bytes :=
  match outputs.filterMap (bodyAt? params height) with
  | [] => .error (.malformedPayload .noMarker)
  | bodies =>
    match params.maxPayloadSize? with
    | none => .error .overflow
    | some max => .ok (bodies.flatten.take max)

/-- Null data is read with the gates that are open. -/
@[simp] theorem decodeAt_eq (outputs : List Output) :
    decodeAt params height outputs
      = decode params (params.activation.activeAt height) outputs := by
  have hbody : bodyAt? params height = body? params (params.activation.activeAt height) :=
    funext bodyAt?_eq
  rewrite [decodeAt, decode, hbody]
  rfl

end NullDataCarrier

/-! ## The receiver -/

namespace Receiver

/-- The address of an output that may name the receiver at a height. -/
def candidateAt? (params : Params) (height : UInt32) (output : Output) : Option String :=
  if output.scriptClass.isSingleAddress ∧
      output.scriptClass.isAllowedAt params.activation height ∧
      ¬params.isExodus output.script then
    params.addressOf? output.script
  else none

/-- The **receiver** named by outputs at a height. -/
def identifyAt? (params : Params) (height : UInt32) (sender : String) (outputs : List Output) :
    Option String :=
  ofCandidates? sender (outputs.filterMap (candidateAt? params height))

/-- The receiver is told with the gates that are open. -/
@[simp] theorem identifyAt?_eq (sender : String) (outputs : List Output) :
    identifyAt? params height sender outputs
      = identify? params (params.activation.activeAt height) sender outputs := by
  have hcandidate : candidateAt? params height
      = candidate? params (params.activation.activeAt height) := by
    funext output
    simp only [candidateAt?, candidate?, ScriptClass.isAllowedAt_eq]
  rw [identifyAt?, identify?, candidates, hcandidate]

end Receiver

/-! ## The parse -/

namespace Transaction

/-- The payload and the receiver of a transaction at a height. -/
def contentAt (params : Params) (height : UInt32) (sender : String) (outputs : List Output) :
    Carrier → Except ParseError (Bytes × Option String)
  | .address => do
    let reading ← AddressCarrier.decodeAt params height outputs
    let receiver := outputs[reading.referenceVout]?.bind fun output =>
      params.addressOf? output.script
    return (reading.payload, receiver)
  | .multisig => do
    let payload ← MultisigCarrier.decodeAt params height sender outputs
    return (payload, Receiver.identifyAt? params height sender outputs)
  | .nullData => do
    let payload ← NullDataCarrier.decodeAt params height outputs
    return (payload, Receiver.identifyAt? params height sender outputs)

/-- The content is read with the gates that are open. -/
@[simp] theorem contentAt_eq (sender : String) (outputs : List Output) (carrier : Carrier) :
    contentAt params height sender outputs carrier
      = content params (params.activation.activeAt height) sender outputs carrier := by
  cases carrier with
  | address => rw [contentAt, content, AddressCarrier.decodeAt_eq]
  | multisig =>
    rw [contentAt, MultisigCarrier.decodeAt_eq, Receiver.identifyAt?_eq]
    rfl
  | nullData =>
    rw [contentAt, NullDataCarrier.decodeAt_eq, Receiver.identifyAt?_eq]
    rfl

/-- **Parses** a transaction with stages that take the height. -/
def parseAt (params : Params) (coins : CoinLookup) (height time : UInt32) (tx : Transaction) :
    ParseResult :=
  match Decision.ofOutputsAt params height tx.outputs with
  | .carrier carrier => do
    let sender ← Sender.byRuleAt params height coins tx.previous (.ofCarrier carrier)
    let (payload, receiver) ← contentAt params height sender tx.outputs carrier
    let fee ← Fee.ofTransaction coins tx
    return .message ⟨tx.txid.text, sender, receiver, fee, payload, carrier, height, time⟩
  | .notProtocol => .ok .notProtocol
  | .notActivated => .error (.activationNotReached .nullData height)
  | .splitMarker => .error (.malformedPayload .splitMarker)

/-- A parse with stages that take the height **is the parse** with the gates that are open. -/
theorem parseAt_eq_parse (params : Params) (coins : CoinLookup) (height time : UInt32)
    (tx : Transaction) :
    parseAt params coins height time tx = parse params coins height time tx := by
  unfold parseAt parse message
  rw [Decision.ofOutputsAt_eq]
  cases Decision.ofOutputs params (params.activation.activeAt height) tx.outputs with
  | carrier carrier =>
    simp only [Sender.byRuleAt_eq, contentAt_eq]
    -- The message is wrapped at the end of the run, or after it.
    cases Sender.byRule params (params.activation.activeAt height) coins tx.previous
        (.ofCarrier carrier) with
    | error e => rfl
    | ok sender =>
      dsimp only [bind, Except.bind]
      cases content params (params.activation.activeAt height) sender tx.outputs carrier with
      | error e => rfl
      | ok c => cases Fee.ofTransaction coins tx <;> rfl
  | notProtocol => rfl
  | notActivated => rfl
  | splitMarker => rfl

end Transaction

end OmniLayer
