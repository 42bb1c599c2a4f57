import OmniLayer.Proofs.Dependence

/-! # What a parse sees of the outputs

Of an output whose class is not recognised a parse sees the value and nothing else: its script could
as well be empty (`Output.mask`). What is read off single outputs is the same after masking
(`Output.read_mask`), and so is all that is read off the outputs together. The decision alone tells
more: null data that comes too early is reported as such (`Decision.ofOutputs_mask`). So
transactions whose outputs look alike are parsed alike (`Transaction.parse_alike`). -/

namespace OmniLayer

variable {params : Params} {active : Activation}

/-- The empty script fits no template. -/
@[simp] theorem Script.classify_nil : classify [] = .nonStandard := by
  have hitems : Instruction.ofScript? [] = some [] := by rw [Instruction.ofScript?]
  change keyClass [] = _
  rw [keyClass, hitems]
  rfl

namespace Output

/-- What is **seen** of an output: the script only if its class is recognised. -/
def mask (active : Activation) (output : Output) : Output :=
  if output.scriptClass.isAllowed active then output else ⟨output.value, []⟩

/-- A recognised output is seen as it is. -/
theorem mask_of_isAllowed {o : Output} (h : o.scriptClass.isAllowed active = true) :
    o.mask active = o :=
  if_pos h

/-- What is the same for **all outputs that are not recognised** is the same after masking. -/
theorem read_mask {α : Type} {read : Output → α} (unseen : α)
    (hread : ∀ o : Output, o.scriptClass.isAllowed active = false → read o = unseen) :
    read ∘ mask active = read := by
  funext o
  rw [Function.comp_apply, mask]
  by_cases hallowed : o.scriptClass.isAllowed active = true
  · rw [if_pos hallowed]
  · -- The empty script is of no class, so the masked output is not recognised either.
    have hmasked : (⟨o.value, []⟩ : Output).scriptClass.isAllowed active = false := by
      rw [scriptClass, Script.classify_nil]
      rfl
    rw [if_neg hallowed, hread _ hmasked, hread o (Bool.eq_false_of_not_eq_true hallowed)]

/-- Two outputs look **alike** when their values agree, and their scripts wherever one of them is of
a recognised class. -/
structure Alike (active : Activation) (o o' : Output) : Prop where
  /-- The values agree. -/
  value_eq : o.value = o'.value
  /-- The scripts agree if one of the two is recognised. -/
  script_eq : o.scriptClass.isAllowed active = true ∨ o'.scriptClass.isAllowed active = true →
    o.script = o'.script

/-- Of outputs that look alike the same is **seen**. -/
theorem Alike.mask_eq {o o' : Output} (h : Alike active o o') : o.mask active = o'.mask active := by
  obtain ⟨value, script⟩ := o
  obtain ⟨value', script'⟩ := o'
  obtain rfl : value = value' := h.value_eq
  by_cases hseen : (Script.classify script).isAllowed active = true ∨
      (Script.classify script').isAllowed active = true
  · obtain rfl : script = script' := h.script_eq hseen
    rfl
  · rw [not_or] at hseen
    exact (if_neg hseen.1).trans (if_neg hseen.2).symm

/-- Of outputs that look alike one by one the same is seen. -/
theorem map_mask_eq {outputs outputs' : List Output}
    (h : List.Forall₂ (Alike active) outputs outputs') :
    outputs.map (mask active) = outputs'.map (mask active) := by
  induction h with
  | nil => rfl
  | cons h _ ih => rw [List.map_cons, List.map_cons, h.mask_eq, ih]

/-- Outputs that look alike one by one have the same values. -/
theorem map_value_eq {outputs outputs' : List Output}
    (h : List.Forall₂ (Alike active) outputs outputs') :
    outputs.map value = outputs'.map value := by
  induction h with
  | nil => rfl
  | cons h _ ih => rw [List.map_cons, List.map_cons, h.value_eq, ih]

/-! ## What is read off one output -/

/-- A payment to Exodus by key hash is always seen. -/
@[simp] theorem paysExodus_mask : paysExodus params ∘ mask active = paysExodus params := by
  refine read_mask false fun o hunseen => ?_
  unfold paysExodus
  split
  · next hclass =>
    rw [hclass] at hunseen
    cases hunseen
  · rfl

/-- A bare multisig is seen when it is recognised. -/
@[simp] theorem isMultisig_mask : isMultisig active ∘ mask active = isMultisig active := by
  refine read_mask false fun o hunseen => ?_
  unfold isMultisig
  split
  · next hclass =>
    rw [hclass] at hunseen
    exact hunseen
  · rfl

end Output

/-- A candidate for a simple send is recognised. -/
@[simp] theorem AddressCarrier.candidate?_mask (vout : Nat) :
    (candidate? params active · vout) ∘ Output.mask active = (candidate? params active · vout) := by
  refine Output.read_mask none fun o hunseen => ?_
  unfold candidate?
  rw [hunseen]
  rfl

/-- A bare multisig gives packet keys when it is recognised. -/
@[simp] theorem MultisigCarrier.keysOf_mask (vout : Nat) :
    (keysOf active · vout) ∘ Output.mask active = (keysOf active · vout) := by
  refine Output.read_mask [] fun o hunseen => ?_
  unfold keysOf
  split
  · next hclass =>
    rw [hclass] at hunseen
    exact if_neg (Bool.eq_false_iff.1 hunseen)
  · rfl

/-- Null data adds to the payload when it is recognised. -/
@[simp] theorem NullDataCarrier.body?_mask :
    body? params active ∘ Output.mask active = body? params active := by
  refine Output.read_mask none fun o hunseen => ?_
  unfold body?
  split
  · next hclass =>
    rw [hclass] at hunseen
    rw [if_neg fun h => Bool.eq_false_iff.1 hunseen h.1]
  · rfl

/-- A candidate for the receiver is recognised. -/
@[simp] theorem Receiver.candidate?_mask :
    candidate? params active ∘ Output.mask active = candidate? params active := by
  refine Output.read_mask none fun o hunseen => ?_
  unfold candidate?
  rw [if_neg fun h => Bool.eq_false_iff.1 hunseen h.2.1]

/-! ## The content -/

section Content

variable (outputs : List Output)

/-- The candidates for a simple send are the same after masking. -/
@[simp] theorem AddressCarrier.candidates_mask :
    candidates params active (outputs.map (Output.mask active))
      = candidates params active outputs := by
  rw [candidates, candidates, List.zipIdx_map, List.filterMap_map]
  congr 1
  funext ⟨o, vout⟩
  exact congrFun (candidate?_mask vout) o

/-- The packet keys are the same after masking. -/
@[simp] theorem MultisigCarrier.packetKeys_mask :
    packetKeys active (outputs.map (Output.mask active)) = packetKeys active outputs := by
  rw [packetKeys, packetKeys, List.zipIdx_map, List.flatMap_map]
  congr 1
  funext ⟨o, vout⟩
  exact congrFun (keysOf_mask vout) o

/-- The receiver is the same after masking. -/
@[simp] theorem Receiver.identify?_mask (sender : String) :
    identify? params active sender (outputs.map (Output.mask active))
      = identify? params active sender outputs := by
  rw [identify?, identify?, candidates, candidates, List.filterMap_map, candidate?_mask]

/-- The address reading is the same after masking. -/
@[simp] theorem AddressCarrier.decode_mask :
    decode params active (outputs.map (Output.mask active)) = decode params active outputs := by
  rw [decode, decode, candidates_mask]

/-- The output that names the receiver of an address reading is **recognised**. -/
theorem AddressCarrier.getElem?_mask_of_decode {outputs : List Output} {reading : Reading}
    (h : decode params active outputs = .ok reading) :
    (outputs.map (Output.mask active))[reading.referenceVout]?
      = outputs[reading.referenceVout]? := by
  obtain ⟨data, reference, -, hreference, -, -, rfl⟩ := exists_of_decode_eq_ok h
  obtain ⟨⟨o, vout⟩, hmem, hcandidate⟩ := List.mem_filterMap.1 hreference
  obtain ⟨d, ⟨hallowed, -⟩, rfl⟩ := candidate?_eq_some.1 hcandidate
  have hget : outputs[vout]? = some o := List.mem_zipIdx_iff_getElem?.1 hmem
  rw [List.getElem?_map, hget, Option.map_some, Output.mask_of_isAllowed hallowed]

/-- The **content** of a transaction is the same after masking, whatever the carrier. -/
theorem Transaction.content_mask (sender : String) (carrier : Carrier) :
    content params active sender (outputs.map (Output.mask active)) carrier
      = content params active sender outputs carrier := by
  cases carrier with
  | address =>
    unfold content
    dsimp only
    rw [AddressCarrier.decode_mask]
    cases hreading : AddressCarrier.decode params active outputs with
    | error e => rfl
    | ok reading =>
      -- The receiver is taken from an output itself, by its place, and not from the candidates.
      dsimp only [bind, Except.bind]
      rw [AddressCarrier.getElem?_mask_of_decode hreading]
  | multisig =>
    unfold content Carrier.decode MultisigCarrier.decode MultisigCarrier.packets
    dsimp only
    rw [MultisigCarrier.packetKeys_mask, Receiver.identify?_mask]
  | nullData =>
    unfold content Carrier.decode NullDataCarrier.decode
    dsimp only
    rw [List.filterMap_map, NullDataCarrier.body?_mask, Receiver.identify?_mask]

end Content

/-! ## The decision -/

namespace Decision

variable (params) (outputs : List Output)

/-- Whether an output pays Exodus is the same after masking. -/
@[simp] theorem any_paysExodus_mask :
    (outputs.map (Output.mask active)).any (Output.paysExodus params)
      = outputs.any (Output.paysExodus params) := by
  rw [List.any_map, Output.paysExodus_mask]

/-- Whether an output is a recognised bare multisig is the same after masking. -/
@[simp] theorem any_isMultisig_mask :
    (outputs.map (Output.mask active)).any (Output.isMultisig active)
      = outputs.any (Output.isMultisig active) := by
  rw [List.any_map, Output.isMultisig_mask]

/-- When null data is recognised, its pushes are the same after masking. -/
theorem nullDataPushes_mask (hactive : active.nullData = true) :
    nullDataPushes (outputs.map (Output.mask active)) = nullDataPushes outputs := by
  rw [nullDataPushes, nullDataPushes, List.filterMap_map]
  congr 1
  refine Output.read_mask none fun o hunseen => ?_
  split
  · next hclass =>
    rw [hclass] at hunseen
    exact absurd hactive (Bool.eq_false_iff.1 hunseen)
  · rfl

/-- When null data is not recognised, none is left after masking. -/
theorem nullDataPushes_mask_eq_nil (hactive : active.nullData = false) :
    nullDataPushes (outputs.map (Output.mask active)) = [] := by
  have hnone (o : Output) : ¬(o.mask active).IsNullData := by
    rintro ⟨pushes, hclass⟩
    by_cases hallowed : o.scriptClass.isAllowed active = true
    · rw [Output.mask_of_isAllowed hallowed] at hclass
      rw [hclass] at hallowed
      exact absurd hallowed (Bool.eq_false_iff.1 hactive)
    · have hempty : (o.mask active).script = [] := congrArg Output.script (if_neg hallowed)
      rw [Output.scriptClass, hempty, Script.classify_nil] at hclass
      cases hclass
  exact nullDataPushes_eq_nil (List.forall_mem_map.2 fun o _ => hnone o)

/-- Masking leaves every **decision** as it is but one: null data that comes too early is not
seen. -/
theorem ofOutputs_mask :
    ofOutputs params active (outputs.map (Output.mask active))
      = if ofOutputs params active outputs = .notActivated then .notProtocol
        else ofOutputs params active outputs := by
  unfold ofOutputs
  dsimp only
  rw [any_paysExodus_mask, any_isMultisig_mask]
  cases hactive : active.nullData with
  | true =>
    -- A tagged output is decided for null data, so it never comes too early.
    rw [nullDataPushes_mask outputs hactive]
    refine (if_neg fun h => ?_).symm
    split_ifs at h with hnull _ _ _ htagged
    exact hnull ⟨rfl, htagged⟩
  | false =>
    -- Nothing of null data is left, so what was reported as too early is not reported at all.
    rw [nullDataPushes_mask_eq_nil outputs hactive]
    simp only [Bool.false_eq_true, false_and, if_false, List.any_nil]
    split_ifs <;> first | rfl | contradiction

/-- On outputs that look alike the **same** is decided, unless null data comes too early in one of
them and there is nothing in the other. -/
theorem ofOutputs_of_alike {outputs outputs' : List Output}
    (h : List.Forall₂ (Output.Alike active) outputs outputs') :
    ofOutputs params active outputs' = ofOutputs params active outputs ∨
      (ofOutputs params active outputs = .notProtocol ∧
        ofOutputs params active outputs' = .notActivated) ∨
      (ofOutputs params active outputs = .notActivated ∧
        ofOutputs params active outputs' = .notProtocol) := by
  -- The decisions are the same once null data that comes too early counts as none.
  have hmask := congrArg (ofOutputs params active) (Output.map_mask_eq h)
  rw [ofOutputs_mask, ofOutputs_mask] at hmask
  split_ifs at hmask with hearly hearly' hearly'
  · exact Or.inl (hearly'.trans hearly.symm)
  · exact Or.inr (Or.inr ⟨hearly, hmask.symm⟩)
  · exact Or.inr (Or.inl ⟨hmask, hearly'⟩)
  · exact Or.inl hmask.symm

end Decision

namespace Transaction

/-! ## The whole parse -/

/-- Outputs that look alike have the same **content**, whatever the carrier. -/
theorem content_of_alike {outputs outputs' : List Output}
    (h : List.Forall₂ (Output.Alike active) outputs outputs') (sender : String)
    (carrier : Carrier) :
    content params active sender outputs' carrier
      = content params active sender outputs carrier := by
  rw [← content_mask outputs', ← content_mask outputs, Output.map_mask_eq h]

/-- **Outputs that are not recognised yet are invisible**: transactions with the same outpoints,
whose outputs look alike one by one, give the same result but for the identifier, unless one has
null data too early where the other has no message. -/
theorem parse_alike (params : Params) (coins : CoinLookup) (height time : UInt32)
    (tx tx' : Transaction) (hprevious : tx'.previous = tx.previous)
    (houtputs : List.Forall₂ (Output.Alike (params.activation.activeAt height))
      tx.outputs tx'.outputs) :
    parse params coins height time tx'
        = (parse params coins height time tx).map
          (Outcome.map fun m => { m with txid := tx'.txid.text }) ∨
      (parse params coins height time tx = .ok .notProtocol ∧
        parse params coins height time tx' = .error (.activationNotReached .nullData height)) ∨
      (parse params coins height time tx = .error (.activationNotReached .nullData height) ∧
        parse params coins height time tx' = .ok .notProtocol) := by
  rcases Decision.ofOutputs_of_alike params houtputs with
    hdecision | ⟨hdecision, hdecision'⟩ | ⟨hdecision, hdecision'⟩
  · -- The same is decided, and every stage behind the decision sees the same.
    left
    have hmessage (carrier : Carrier) :
        Follows (fun _ => False) (fun m => { m with txid := tx'.txid.text })
          (message params coins height time tx carrier)
          (message params coins height time tx' carrier) :=
      follows_message hprevious (Output.map_value_eq houtputs).symm
        (fun sender => content_of_alike houtputs sender carrier) (fun _ _ => .of_eq rfl)
        fun _ _ _ _ => rfl
    exact follows_parse hdecision hmessage fun _ hfalse => hfalse.elim
  · right; left
    rw [parse, parse, hdecision, hdecision']
    exact ⟨rfl, rfl⟩
  · right; right
    rw [parse, parse, hdecision, hdecision']
    exact ⟨rfl, rfl⟩

/-- A script hash that reads as a second simple send, if it is recognised. -/
def earlyHash : Script :=
  Script.payToScriptHash (AddressCarrier.dataHash 0 AddressCarrier.oneUnit)

/-- Null data with the marker. -/
def earlyMarker : Script := Script.opReturn :: Script.push Params.bitcoin.marker.bytes

/-- A transaction with a simple send of one unit behind another output. -/
def sendBehind (script : Script) : Transaction :=
  spending (⟨1000, script⟩ ::
    [.pubkeyHash Params.mainExodus,
      .pubkeyHash (AddressCarrier.dataHash 0xff AddressCarrier.oneUnit),
      .pubkeyHash (FixedBytes.zero 20)].map (AddressCarrier.dustOutput Params.bitcoin))

/-- Before the heights of script hashes and of null data, the simple send is read behind either of
them, with one message. -/
theorem parse_alike_sendBehind :
    ∃ m, parse Params.bitcoin spentCoins 300000 0 (sendBehind earlyHash) = .ok (.message m) ∧
      parse Params.bitcoin spentCoins 300000 0 (sendBehind earlyMarker)
        = .ok (.message { m with txid := (sendBehind earlyMarker).txid.text }) := by
  have houtputs : List.Forall₂ (Output.Alike (Params.bitcoin.activation.activeAt 300000))
      (sendBehind earlyHash).outputs (sendBehind earlyMarker).outputs := by
    have hunseen : ¬((Script.classify earlyHash).isAllowed
          (Params.bitcoin.activation.activeAt 300000) = true ∨
        (Script.classify earlyMarker).isAllowed
          (Params.bitcoin.activation.activeAt 300000) = true) := by
      decide +kernel
    exact .cons ⟨rfl, fun h => absurd h hunseen⟩
      (List.forall₂_same.2 fun o _ => ⟨rfl, fun _ => rfl⟩)
  have hmessage : ((parse Params.bitcoin spentCoins 300000 0 (sendBehind earlyHash)).toOption.bind
      Outcome.message?).isSome = true := by
    decide +kernel
  have halike := parse_alike Params.bitcoin spentCoins 300000 0 (sendBehind earlyHash)
    (sendBehind earlyMarker) rfl houtputs
  cases hparse : parse Params.bitcoin spentCoins 300000 0 (sendBehind earlyHash) with
  | error e =>
    rw [hparse] at hmessage
    cases hmessage
  | ok outcome =>
    rw [hparse] at hmessage halike
    cases outcome with
    | notProtocol => cases hmessage
    | message m =>
      rcases halike with h | ⟨h, -⟩ | ⟨h, -⟩
      · exact ⟨m, rfl, h⟩
      · cases h
      · cases h

end Transaction

end OmniLayer
