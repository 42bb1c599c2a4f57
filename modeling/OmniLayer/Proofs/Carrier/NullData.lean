import OmniLayer.Proofs.Carrier.Decision
import OmniLayer.Proofs.Destination
import OmniLayer.Proofs.Parse
import OmniLayer.Proofs.Receiver

/-! # A payload laid out as null data is read back

Each laid-out output holds the marker and one piece, and the decoder takes exactly the pieces out of
the outputs around (`decode_append`). The receiver's output is the last candidate but for change, so
it names the receiver (`Receiver.ofCandidates?_eq_some`). Together they make the parse of a
transaction that holds laid-out outputs (`parse_nullData_encode`). -/

namespace OmniLayer

namespace NullDataCarrier

variable {params : Params} {active : Activation}

/-! ## Laid-out outputs -/

/-- The pieces of a payload join to the payload, and there is at least one. -/
theorem flatten_pieces (size : Nat) (payload : Bytes) :
    (pieces size payload).flatten = payload ∧ pieces size payload ≠ [] := by
  unfold pieces
  cases payload with
  | nil => exact ⟨rfl, List.cons_ne_nil _ _⟩
  | cons b rest =>
    refine ⟨flatten_chunks size (b :: rest), ?_⟩
    rw [List.isEmpty_cons, if_neg Bool.false_ne_true, chunks]
    exact List.cons_ne_nil _ _

/-- The output for a piece is **null data** with one push, the marker and the piece. -/
theorem scriptClass_taggedOutput {piece : Bytes} {output : Output}
    (h : taggedOutput params piece = .ok output) :
    output.scriptClass = .nullData [params.marker.bytes ++ piece] := by
  unfold taggedOutput at h
  dsimp only at h
  by_cases hlength : (params.marker.bytes ++ piece).length ≤ Script.maxPush
  · rw [if_pos hlength] at h
    cases h
    exact Script.classify_opReturn_push hlength
  · rw [if_neg hlength] at h
    cases h

/-- A push that starts with the marker has it. -/
@[simp] theorem hasMarker_append (marker piece : Bytes) (rest : List Bytes) :
    hasMarker marker ((marker ++ piece) :: rest) = true :=
  List.isPrefixOf_iff_prefix.2 (List.prefix_append marker piece)

/-- The output for a piece is tagged. -/
theorem isTagged_taggedOutput {piece : Bytes} {output : Output}
    (h : taggedOutput params piece = .ok output) : output.IsTagged params :=
  ⟨_, scriptClass_taggedOutput h, hasMarker_append _ _ _⟩

/-- The output for a piece adds the **piece** to the payload, when null data is recognised. -/
theorem body?_taggedOutput {piece : Bytes} {output : Output} (hactive : active.nullData = true)
    (h : taggedOutput params piece = .ok output) : body? params active output = some piece := by
  rw [body?, scriptClass_taggedOutput h]
  dsimp only
  rw [if_pos ⟨hactive, hasMarker_append _ _ _⟩, List.drop_left, List.flatten_nil, List.append_nil]

/-- An output that is not tagged adds nothing to the payload. -/
theorem body?_eq_none {output : Output} (h : ¬output.IsTagged params) :
    body? params active output = none := by
  unfold body?
  split
  · next first rest hclass =>
    refine if_neg fun hand => h ⟨_, hclass, hand.2⟩
  · rfl

/-- A payload is laid out when there is a bound and it is within it, the marker leaves room in a
push, and there are outputs for the **pieces** and for the receiver. -/
theorem encode_eq_ok_iff {receiver : Option String} {payload : Bytes} {outs : List Output} :
    encode params receiver payload = .ok outs ↔
      params.maxPackets * params.packetSize < wordCount ∧
        payload.length ≤ params.maxPackets * params.packetSize ∧
        params.marker.bytes.length < params.maxPushSize ∧
        ∃ tagged receiverOutputs,
          (pieces (params.maxPushSize - params.marker.bytes.length) payload).mapM
            (taggedOutput params) = .ok tagged ∧
            receiverOutput params receiver = .ok receiverOutputs ∧
              outs = tagged ++ receiverOutputs := by
  rcases Nat.lt_or_ge (params.maxPackets * params.packetSize) wordCount with hword | hword
  · unfold encode
    dsimp only
    rw [Params.maxPayloadSize?_of_lt hword, and_iff_right hword]
    dsimp only
    by_cases hlength : payload.length > params.maxPackets * params.packetSize
    · rw [if_pos hlength]
      refine iff_of_false (fun h => by cases h) fun h => Nat.not_lt.2 h.1 hlength
    rw [if_neg hlength, bind_eq_ok_iff]
    by_cases hpush : params.maxPushSize ≤ params.marker.bytes.length
    · simp only [if_pos hpush]
      refine iff_of_false ?_ fun h => Nat.not_lt.2 hpush h.2.1
      rintro ⟨receiverOutputs, -, h⟩
      cases h
    · simp only [if_neg hpush, bind_eq_ok_iff]
      constructor
      · rintro ⟨receiverOutputs, hreceiver, tagged, htagged, h⟩
        cases h
        exact ⟨Nat.le_of_not_lt hlength, Nat.lt_of_not_le hpush, tagged, receiverOutputs, htagged,
          hreceiver, rfl⟩
      · rintro ⟨-, -, tagged, receiverOutputs, htagged, hreceiver, rfl⟩
        exact ⟨receiverOutputs, hreceiver, tagged, htagged, rfl⟩
  · unfold encode
    rw [Params.maxPayloadSize?_of_le hword]
    exact iff_of_false (fun h => by cases h) fun h => Nat.not_lt.2 hword h.1

/-- When the bound on payloads passes the words, laying out **breaks off**. -/
theorem encode_eq_overflow (hword : wordCount ≤ params.maxPackets * params.packetSize)
    (receiver : Option String) (payload : Bytes) :
    encode params receiver payload = .error .overflow := by
  unfold encode
  rw [Params.maxPayloadSize?_of_le hword]

/-- A payload that is laid out is within the bound, and its outputs are one for each piece, followed
by the receiver's. -/
theorem exists_of_encode_eq_ok {receiver : Option String} {payload : Bytes} {outs : List Output}
    (h : encode params receiver payload = .ok outs) :
    params.maxPackets * params.packetSize < wordCount ∧
      payload.length ≤ params.maxPackets * params.packetSize ∧ ∃ size tagged receiverOutputs,
        (pieces size payload).mapM (taggedOutput params) = .ok tagged ∧
          receiverOutput params receiver = .ok receiverOutputs ∧
            outs = tagged ++ receiverOutputs := by
  obtain ⟨hword, hlength, -, tagged, receiverOutputs, hlaid⟩ := encode_eq_ok_iff.1 h
  exact ⟨hword, hlength, _, tagged, receiverOutputs, hlaid⟩

/-- The receiver's output pays the destination of the receiver. -/
theorem exists_of_receiverOutput_eq_ok {address : String} {outs : List Output}
    (h : receiverOutput params (some address) = .ok outs) :
    ∃ destination, params.decodeAddress? address = some destination ∧
      outs = [⟨params.dustValue, destination.script⟩] := by
  unfold receiverOutput Params.scriptForAddress? at h
  dsimp only at h
  cases hd : params.decodeAddress? address with
  | none =>
    rw [hd] at h
    cases h
  | some destination =>
    rw [hd] at h
    cases h
    exact ⟨destination, rfl, rfl⟩

/-- The outputs for a receiver are no null data. -/
theorem not_isTagged_of_receiverOutput {receiver : Option String} {outs : List Output}
    (h : receiverOutput params receiver = .ok outs) : ∀ o ∈ outs, ¬o.IsTagged params := by
  intro o ho htagged
  cases receiver with
  | none =>
    cases h
    exact absurd ho List.not_mem_nil
  | some address =>
    obtain ⟨destination, -, rfl⟩ := exists_of_receiverOutput_eq_ok h
    obtain rfl := List.mem_singleton.1 ho
    obtain ⟨pushes, hclass, -⟩ := htagged
    cases destination <;> simp [Output.scriptClass, Destination.script] at hclass

/-! ## Reading laid-out outputs among others -/

/-- Outputs for pieces add the pieces. -/
theorem filterMap_body?_tagged (hactive : active.nullData = true) {ps : List Bytes}
    {tagged : List Output} (h : ps.mapM (taggedOutput params) = .ok tagged) :
    tagged.filterMap (body? params active) = ps := by
  have hpairs := mapM_eq_ok_iff.1 h
  clear h
  induction hpairs with
  | nil => rfl
  | cons hpiece _ ih => rw [List.filterMap_cons_some (body?_taggedOutput hactive hpiece), ih]

/-- Laid-out outputs hold a tagged one. -/
theorem exists_isTagged_of_encode_eq_ok {receiver : Option String} {payload : Bytes}
    {outs : List Output} (h : encode params receiver payload = .ok outs) :
    ∃ o ∈ outs, o.IsTagged params := by
  obtain ⟨-, -, size, tagged, receiverOutputs, htagged, -, rfl⟩ := exists_of_encode_eq_ok h
  have hpairs := mapM_eq_ok_iff.1 htagged
  obtain ⟨piece, ps, hps⟩ := List.exists_cons_of_ne_nil (flatten_pieces size payload).2
  rw [hps] at hpairs
  cases hpairs with
  | cons hpiece _ => exact ⟨_, List.mem_cons_self, isTagged_taggedOutput hpiece⟩

/-- Outputs that are not tagged add nothing. -/
theorem filterMap_body?_eq_nil {outputs : List Output} (h : ∀ o ∈ outputs, ¬o.IsTagged params) :
    outputs.filterMap (body? params active) = [] :=
  List.filterMap_eq_nil_iff.2 fun o ho => body?_eq_none (h o ho)

/-- **Laid-out outputs are read** among others that are not tagged. -/
theorem decode_append {before after outs : List Output} {receiver : Option String}
    {payload : Bytes} (hactive : active.nullData = true)
    (hencode : encode params receiver payload = .ok outs)
    (haround : ∀ o ∈ before ++ after, ¬o.IsTagged params) :
    decode params active (before ++ outs ++ after) = .ok payload := by
  obtain ⟨hword, hlength, size, tagged, receiverOutputs, htagged, hreceiver, rfl⟩ :=
    exists_of_encode_eq_ok hencode
  obtain ⟨hflatten, hne⟩ := flatten_pieces size payload
  -- Of all outputs, only those for the pieces add to the payload.
  have hbodies : (before ++ (tagged ++ receiverOutputs) ++ after).filterMap (body? params active)
      = pieces size payload := by
    rw [List.filterMap_append, List.filterMap_append, List.filterMap_append,
      filterMap_body?_tagged hactive htagged,
      filterMap_body?_eq_nil fun o ho => haround o (List.mem_append_left _ ho),
      filterMap_body?_eq_nil fun o ho => haround o (List.mem_append_right _ ho),
      filterMap_body?_eq_nil (not_isTagged_of_receiverOutput hreceiver), List.nil_append,
      List.append_nil, List.append_nil]
  unfold decode
  rw [hbodies, Params.maxPayloadSize?_of_lt hword]
  split
  · next hnil => exact absurd hnil hne
  · dsimp only
    rw [hflatten, List.take_of_length_le hlength]

end NullDataCarrier

/-! ## The receiver beside change -/

namespace Receiver

variable {params : Params} {active : Activation}

/-- The candidates of joined outputs are those of the parts. -/
@[simp] theorem candidates_append (xs ys : List Output) :
    candidates params active (xs ++ ys)
      = candidates params active xs ++ candidates params active ys :=
  List.filterMap_append

/-- An output that pays a recognised destination, and not Exodus, is a candidate. -/
theorem candidates_singleton {destination : Destination} (value : UInt64)
    (hallowed : (Script.classify destination.script).isAllowed active = true)
    (hexodus : params.isExodus destination.script = false) :
    candidates params active [⟨value, destination.script⟩]
      = [destination.toAddress params.addressVersions] := by
  have hsingle : (Script.classify destination.script).isSingleAddress = true :=
    Sender.isSingleAddress_iff.2 ⟨destination, Script.destination?_script destination⟩
  have hcandidate : candidate? params active ⟨value, destination.script⟩
      = some (destination.toAddress params.addressVersions) := by
    unfold candidate? Output.scriptClass
    rw [if_pos ⟨hsingle, hallowed, by rw [hexodus]; exact Bool.false_ne_true⟩,
      Params.addressOf?_script]
  rw [candidates, List.filterMap_cons_some hcandidate, List.filterMap_nil]

/-- Tagged outputs are no candidates. -/
theorem candidates_tagged {outputs : List Output} (h : ∀ o ∈ outputs, o.IsTagged params) :
    candidates params active outputs = [] := by
  refine List.filterMap_eq_nil_iff.2 fun o ho => ?_
  obtain ⟨pushes, hclass, -⟩ := h o ho
  unfold candidate?
  rw [hclass]
  exact if_neg fun hand => Bool.false_ne_true hand.1

end Receiver

/-! ## Parsing -/

namespace NullDataCarrier

/-- Among outputs around that name nobody, or the sender once, the receiver of laid-out outputs is
identified. -/
theorem identify?_append {params : Params} {active : Activation} {before after outs : List Output}
    {sender address : String} {payload : Bytes} {destination : Destination}
    (hencode : encode params (some address) payload = .ok outs)
    (hdestination : params.decodeAddress? address = some destination)
    (hallowed : (Script.classify destination.script).isAllowed active = true)
    (hexodus : params.isExodus destination.script = false)
    (haround : Receiver.candidates params active (before ++ after) = [] ∨
      Receiver.candidates params active (before ++ after) = [sender]) :
    Receiver.identify? params active sender (before ++ outs ++ after)
      = some (destination.toAddress params.addressVersions) := by
  obtain ⟨-, -, size, tagged, receiverOutputs, htagged, hreceiver, rfl⟩ :=
    exists_of_encode_eq_ok hencode
  obtain ⟨d, hd, rfl⟩ := exists_of_receiverOutput_eq_ok hreceiver
  obtain rfl : destination = d := Option.some.inj (hdestination.symm.trans hd)
  have hall : ∀ o ∈ tagged, o.IsTagged params := by
    intro o ho
    obtain ⟨piece, -, hpiece⟩ := exists_mem_of_mapM_eq_ok htagged ho
    exact isTagged_taggedOutput hpiece
  rw [Receiver.candidates_append] at haround
  rw [Receiver.identify?, Receiver.candidates_append, Receiver.candidates_append,
    Receiver.candidates_append, Receiver.candidates_tagged hall,
    Receiver.candidates_singleton _ hallowed hexodus, List.nil_append, List.append_assoc]
  exact Receiver.ofCandidates?_eq_some haround

/-- **A payload laid out as null data is parsed back**, byte for byte, whatever untagged outputs
stand around it. The sender is the address of the first coin. A recognised receiver other than
Exodus is identified beside outputs that name nobody, or the sender once. -/
theorem parse_nullData_encode {params : Params} {coins : CoinLookup} {height time : UInt32}
    {tx : Transaction} {receiver : Option String} {payload : Bytes}
    {outs before after : List Output} {first : OutPoint} {rest : List OutPoint} {coin : Output}
    (hencode : encode params receiver payload = .ok outs)
    (hheight : params.activation.nullDataHeight ≤ height)
    (htx : tx.outputs = before ++ outs ++ after)
    (haround : ∀ o ∈ before ++ after, ¬o.IsTagged params)
    (hcoins : ∀ o ∈ tx.previous, ∃ coin, coins o = some coin)
    (hfirst : tx.previous = first :: rest) (hcoin : coins first = some coin)
    (hsingle : coin.scriptClass.isSingleAddress = true)
    (hallowed : coin.scriptClass.isAllowed (params.activation.activeAt height) = true) :
    ∃ sender fee, params.addressOf? coin.script = some sender ∧
      Fee.ofTransaction coins tx = .ok fee ∧
      Transaction.parse params coins height time tx
        = .ok (.message ⟨tx.txid.text, sender,
            Receiver.identify? params (params.activation.activeAt height) sender tx.outputs, fee,
            payload, .nullData, height, time⟩) ∧
      ∀ address destination, receiver = some address →
        params.decodeAddress? address = some destination →
        (Script.classify destination.script).isAllowed (params.activation.activeAt height) = true →
        params.isExodus destination.script = false →
        (Receiver.candidates params (params.activation.activeAt height) (before ++ after) = [] ∨
          Receiver.candidates params (params.activation.activeAt height) (before ++ after)
            = [sender]) →
        Receiver.identify? params (params.activation.activeAt height) sender tx.outputs
          = some (destination.toAddress params.addressVersions) := by
  have hactive : (params.activation.activeAt height).nullData = true := decide_eq_true hheight
  obtain ⟨d, hd⟩ := Sender.isSingleAddress_iff.1 hsingle
  set sender := d.toAddress params.addressVersions with hsenderDef
  have haddress : params.addressOf? coin.script = some sender :=
    Option.map_eq_some_iff.2 ⟨d, hd, rfl⟩
  -- The other coins play no part for the sender; they are needed for the fee.
  have hsender : Sender.byRule params (params.activation.activeAt height) coins tx.previous
      (.ofCarrier .nullData) = .ok sender := by
    rw [hfirst]
    change Sender.firstInput params _ coins (first :: rest) = .ok sender
    exact Sender.firstInput_eq_ok hcoin hallowed haddress
  have htagged : ∃ o ∈ tx.outputs, o.IsTagged params := by
    obtain ⟨o, ho, htagged⟩ := exists_isTagged_of_encode_eq_ok hencode
    rw [htx]
    exact ⟨o, mem_around ho, htagged⟩
  have hcontent : Transaction.content params (params.activation.activeAt height) sender tx.outputs
      .nullData = .ok (payload,
        Receiver.identify? params (params.activation.activeAt height) sender tx.outputs) := by
    rw [Transaction.content, Carrier.decode, htx, decode_append hactive hencode haround]
    · rfl
    · exact fun h => Carrier.noConfusion h
  obtain ⟨fee, hfee⟩ := Fee.exists_ofTransaction_eq_ok hcoins
  refine ⟨sender, fee, haddress, hfee, Transaction.parse_eq_message
    (Decision.ofOutputs_eq_nullData hactive htagged) hsender hcontent hfee, ?_⟩
  rintro address destination rfl hdestination hallowed hexodus hnames
  rw [htx]
  exact identify?_append hencode hdestination hallowed hexodus hnames

/-- Parameters with which eight bytes of payload fit behind the marker. -/
def shortPushes : Params := { Params.bitcoin with maxPushSize := 12 }

/-- A payload for two pushes, of which the second is shorter. -/
def twoPieces : Bytes := [0, 0, 0, 0, 0, 0, 0, 1, 0, 0, 0, 0, 0, 1]

/-- The outputs that carry the payload and name a receiver. -/
def twoPiecesOutputs : List Output :=
  [⟨0, Script.opReturn :: Script.push [0x6f, 0x6d, 0x6e, 0x69, 0, 0, 0, 0, 0, 0, 0, 1]⟩,
    ⟨0, Script.opReturn :: Script.push [0x6f, 0x6d, 0x6e, 0x69, 0, 0, 0, 0, 0, 1]⟩,
    ⟨5460, Script.payToScriptHash (FixedBytes.zero 20)⟩]

/-- A transaction in which change for the sender stands behind the receiver's output. -/
def twoPiecesTransaction : Transaction :=
  .spending ([] ++ twoPiecesOutputs ++ [Transaction.spentCoin])

/-- A payload in two pushes is read, and the receiver is told from the change. -/
theorem parse_nullData_encode_twoPieces :
    encode shortPushes (some "31h1vYVSYuKP6AhS86fbRdMw9XHieotbST") twoPieces
        = .ok twoPiecesOutputs ∧
      ∃ fee, Transaction.parse shortPushes Transaction.spentCoins 400000 0
          twoPiecesTransaction
        = .ok (.message ⟨twoPiecesTransaction.txid.text, "1eA9ctCNq41iLLnQErtTUVdxpRyZ9hZmW",
            some "31h1vYVSYuKP6AhS86fbRdMw9XHieotbST", fee, twoPieces, .nullData, 400000, 0⟩) := by
  have hencode : encode shortPushes (some "31h1vYVSYuKP6AhS86fbRdMw9XHieotbST") twoPieces
      = .ok twoPiecesOutputs := by
    decide +kernel
  have hdestination : shortPushes.decodeAddress? "31h1vYVSYuKP6AhS86fbRdMw9XHieotbST"
      = some (.scriptHash (FixedBytes.zero 20)) := by
    decide +kernel
  have haround : ∀ o ∈ [] ++ [Transaction.spentCoin], ¬o.IsTagged shortPushes := by
    intro o ho
    obtain rfl := List.mem_singleton.1 ho
    rintro ⟨pushes, hclass, -⟩
    rw [Transaction.spentCoin, Output.scriptClass, Script.classify_payToPubkeyHash] at hclass
    cases hclass
  have hsender : shortPushes.addressOf? Transaction.spentCoin.script
      = some "1eA9ctCNq41iLLnQErtTUVdxpRyZ9hZmW" := by
    decide +kernel
  have hreceiver : (Destination.scriptHash (FixedBytes.zero 20)).toAddress
      shortPushes.addressVersions = "31h1vYVSYuKP6AhS86fbRdMw9XHieotbST" := by
    decide +kernel
  have hheight : shortPushes.activation.nullDataHeight ≤ 400000 := by decide
  have hcoins : ∀ o ∈ twoPiecesTransaction.previous, ∃ coin, Transaction.spentCoins o = some coin :=
    fun o _ => ⟨_, rfl⟩
  obtain ⟨sender, fee, haddress, -, hparse, hidentify⟩ :=
    parse_nullData_encode hencode hheight rfl haround hcoins rfl rfl (by decide) (by decide)
  obtain rfl : _ = sender := Option.some.inj (hsender.symm.trans haddress)
  have hnames := hidentify _ _ rfl hdestination (by decide) (by decide +kernel)
    (Or.inr (by decide +kernel))
  rw [hnames, hreceiver] at hparse
  exact ⟨hencode, fee, hparse⟩

end NullDataCarrier

end OmniLayer
