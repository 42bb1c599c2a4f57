import OmniLayer.Proofs.Outcome

/-! # Where the fields of a message come from

Whatever a parse puts into a message stands in the transaction or in the coins that it spends. The
sender is the address of a coin, under either rule (`Sender.exists_speaksFor`); the receiver is the
address of an output (`Receiver.exists_speaksFor`, `AddressCarrier.exists_namesAt_of_content`); and
the payload of an address is a simple send in the hash of another output
(`AddressCarrier.isDataHash_iff_ofPayload?`). Packets are all of one size, so the length of a
payload made of them is known from their number (`MultisigCarrier.length_flatMap_data`). The parts
are put together in `Transaction.parse_isGrounded`. -/

namespace OmniLayer

variable {params : Params} {active : Activation} {coins : CoinLookup}

/-- Whether an output **speaks for** an address: its class is recognised and has a single address,
and that is the one. -/
structure Output.SpeaksFor (params : Params) (active : Activation) (output : Output)
    (address : String) : Prop where
  /-- The class has a single address. -/
  isSingleAddress : output.scriptClass.isSingleAddress = true
  /-- The class is recognised. -/
  isAllowed : output.scriptClass.isAllowed active = true
  /-- The address is that of the script. -/
  addressOf?_eq : params.addressOf? output.script = some address

/-- A recognised output with an address speaks for it, since an address is single. -/
theorem Output.speaksFor_of_addressOf? {output : Output} {address : String}
    (hallowed : output.scriptClass.isAllowed active = true)
    (haddress : params.addressOf? output.script = some address) :
    output.SpeaksFor params active address := by
  obtain ⟨d, hd, -⟩ := Option.map_eq_some_iff.1 haddress
  exact ⟨Sender.isSingleAddress_iff.2 ⟨d, hd⟩, hallowed, haddress⟩

/-! ## The sender -/

namespace Sender

/-- The coin of an outpoint that contributes **speaks for** the address that is credited. -/
theorem exists_speaksFor_of_contribution {outpoint : OutPoint} {c : String × UInt64}
    (h : contribution params active coins outpoint = .ok c) :
    ∃ coin, coins outpoint = some coin ∧ coin.SpeaksFor params active c.1 := by
  obtain ⟨coin, hcoin, hallowed, haddress, -⟩ := contribution_eq_ok_iff.1 h
  exact ⟨coin, hcoin, Output.speaksFor_of_addressOf? hallowed haddress⟩

/-- A first input that names the sender spends a coin that speaks for the sender. -/
theorem exists_speaksFor_of_firstInput {outpoints : List OutPoint} {address : String}
    (h : firstInput params active coins outpoints = .ok address) :
    ∃ first rest coin, outpoints = first :: rest ∧ coins first = some coin ∧
      coin.SpeaksFor params active address := by
  cases outpoints with
  | nil => cases h
  | cons first rest =>
    cases hcontribution : contribution params active coins first with
    | error e =>
      rw [firstInput, hcontribution] at h
      cases h
    | ok c =>
      rw [firstInput, hcontribution] at h
      cases h
      obtain ⟨coin, hcoin, hspeaks⟩ := exists_speaksFor_of_contribution hcontribution
      exact ⟨first, rest, coin, rfl, hcoin, hspeaks⟩

/-- Contributions that name the sender hold a coin that speaks for the sender. -/
theorem exists_speaksFor_of_contributionSum {outpoints : List OutPoint} {address : String}
    (h : contributionSum params active coins outpoints = .ok address) :
    ∃ o ∈ outpoints, ∃ coin, coins o = some coin ∧ coin.SpeaksFor params active address := by
  obtain ⟨heligible, hlargest⟩ := contributionSum_eq_ok_iff.1 h
  -- A total that is positive has a coin under it, and every coin is of a recognised class.
  obtain ⟨o, ho, coin, hcoin, haddress, -⟩ := total_pos_iff.1 hlargest.1
  obtain ⟨coin', hcoin', -, hallowed⟩ := heligible o ho
  obtain rfl : coin = coin' := Option.some.inj (hcoin.symm.trans hcoin')
  exact ⟨o, ho, coin, hcoin, Output.speaksFor_of_addressOf? hallowed haddress⟩

/-- Under either rule the sender is the address of a **coin that is spent**. -/
theorem exists_speaksFor {outpoints : List OutPoint} {address : String} {rule : SenderRule}
    (h : byRule params active coins outpoints rule = .ok address) :
    ∃ o ∈ outpoints, ∃ coin, coins o = some coin ∧ coin.SpeaksFor params active address := by
  cases rule with
  | firstInput =>
    obtain ⟨first, rest, coin, rfl, hcoin, hspeaks⟩ := exists_speaksFor_of_firstInput h
    exact ⟨first, List.mem_cons_self, coin, hcoin, hspeaks⟩
  | contributionSum => exact exists_speaksFor_of_contributionSum h

end Sender

/-! ## The receiver of packets and null data -/

namespace Receiver

/-- The receiver is one of the candidates. -/
theorem mem_of_ofCandidates? {sender receiver : String} {candidates : List String}
    (h : ofCandidates? sender candidates = some receiver) : receiver ∈ candidates := by
  by_cases hone : candidates.length = 1
  · obtain ⟨candidate, rfl⟩ := List.length_eq_one_iff.1 hone
    cases h
    exact List.mem_singleton_self _
  · rw [ofCandidates?_eq_getLast? hone] at h
    exact List.mem_of_mem_erase (List.mem_of_getLast? h)

/-- An identified receiver is the address of a recognised **output other than Exodus**. -/
theorem exists_speaksFor {sender receiver : String} {outputs : List Output}
    (h : identify? params active sender outputs = some receiver) :
    ∃ o ∈ outputs, o.SpeaksFor params active receiver ∧ params.isExodus o.script = false := by
  obtain ⟨o, ho, hcandidate⟩ := List.mem_filterMap.1 (mem_of_ofCandidates? h)
  unfold candidate? at hcandidate
  split at hcandidate
  · next hall =>
    obtain ⟨hsingle, hallowed, hexodus⟩ := hall
    exact ⟨o, ho, ⟨hsingle, hallowed, hcandidate⟩, Bool.eq_false_of_not_eq_true hexodus⟩
  · cases hcandidate

end Receiver

/-! ## Simple sends in hashes -/

namespace AddressCarrier

/-- Whether the output **at a place** names a destination. -/
def NamesAt (params : Params) (active : Activation) (outputs : List Output) (vout : Nat)
    (destination : Destination) : Prop :=
  ∃ o, outputs[vout]? = some o ∧ Names params active o destination

/-- A candidate has the hash of the destination that is named at its place. -/
theorem exists_namesAt_of_mem_candidates {outputs : List Output} {c : Candidate}
    (h : c ∈ candidates params active outputs) :
    ∃ d, NamesAt params active outputs c.vout d ∧ c.hash = d.hash := by
  obtain ⟨⟨o, vout⟩, hmem, hcandidate⟩ := List.mem_filterMap.1 h
  obtain ⟨d, hnames, rfl⟩ := candidate?_eq_some.1 hcandidate
  exact ⟨d, ⟨o, List.mem_zipIdx_iff_getElem?.1 hmem, hnames⟩, rfl⟩

/-- An output that names a destination **speaks for** its address, and does not pay Exodus. -/
theorem NamesAt.exists_speaksFor {outputs : List Output} {vout : Nat} {d : Destination}
    (h : NamesAt params active outputs vout d) :
    ∃ o ∈ outputs, o.SpeaksFor params active (d.toAddress params.addressVersions) ∧
      Script.destination? o.script ≠ params.exodusDestination? := by
  obtain ⟨o, ho, hallowed, hpays, hexodus⟩ := h
  have haddress : params.addressOf? o.script = some (d.toAddress params.addressVersions) :=
    Option.map_eq_some_iff.2 ⟨d, hpays, rfl⟩
  exact ⟨o, List.mem_of_getElem? ho, Output.speaksFor_of_addressOf? hallowed haddress,
    fun heq => hexodus (heq.symm.trans hpays)⟩

/-- The content of an address is a data hash of **one output**, with the address of **another** as
the receiver. -/
theorem exists_namesAt_of_content {sender : String} {outputs : List Output} {payload : Bytes}
    {receiver : Option String} (hsize : params.addressPacketSize = 19)
    (h : Transaction.content params active sender outputs .address = .ok (payload, receiver)) :
    ∃ data reference d d', data ≠ reference ∧ NamesAt params active outputs data d ∧
      NamesAt params active outputs reference d' ∧ isDataHash d.hash = true ∧
      payload = d.hash.bytes.drop 1 ∧ receiver = some (d'.toAddress params.addressVersions) := by
  obtain ⟨reading, hreading, h⟩ := bind_eq_ok_iff.1 h
  obtain ⟨data, reference, hdata, hreference, hne, -, rfl⟩ := exists_of_decode_eq_ok hreading
  cases h
  have hsearch : data ∈ (candidates params active outputs).filter (fun c => isDataHash c.hash) :=
    hdata ▸ List.mem_singleton_self data
  obtain ⟨hmem, hhash⟩ := List.mem_filter.1 hsearch
  obtain ⟨d, hd, hdhash⟩ := exists_namesAt_of_mem_candidates hmem
  obtain ⟨d', hd', -⟩ := exists_namesAt_of_mem_candidates hreference
  rw [hdhash] at hhash ⊢
  refine ⟨data.vout, reference.vout, d, d', hne.symm, hd, hd', hhash, ?_, ?_⟩
  · -- A hash has nineteen bytes behind its first one, so none is cut off.
    refine List.take_of_length_le ?_
    rw [List.length_drop, d.hash.length_eq, hsize]
  · obtain ⟨o, ho, -, hpays, -⟩ := hd'
    show outputs[reference.vout]?.bind (fun output => params.addressOf? output.script) = _
    rw [ho, Option.bind_some]
    exact Option.map_eq_some_iff.2 ⟨d', hpays, rfl⟩

end AddressCarrier

/-! ## The length of packets -/

namespace MultisigCarrier

variable {seed : String} {outputs : List Output} {ps : List Packet}

/-- The bytes of a key that hold its packet are as many as a packet has. -/
theorem length_of_chunk_eq_ok {size : Nat} {key : PacketKey} {bytes : Bytes}
    (h : chunk size key = .ok bytes) : bytes.length = size := by
  unfold chunk at h
  split at h
  · next hlong =>
    cases h
    rw [List.length_take, List.length_drop]
    omega
  · cases h

/-- A packet that is read has as many bytes as the network says. -/
theorem length_clear_of_mem_packets (h : packets params active seed outputs = .ok ps)
    {p : Packet} (hp : p ∈ ps) : p.clear.length = params.packetSize := by
  obtain ⟨chunks, hchunks, h⟩ := bind_eq_ok_iff.1 h
  cases h
  obtain ⟨⟨⟨key, bytes⟩, index⟩, hmem, rfl⟩ := List.mem_map.1 hp
  have hpair : (key, bytes) ∈ List.zip _ chunks := List.fst_mem_of_mem_zipIdx hmem
  obtain ⟨key', -, hchunk⟩ := exists_mem_of_mapM_eq_ok hchunks (List.of_mem_zip hpair).2
  show (Keystream.maskWith? _ bytes).length = params.packetSize
  rw [Keystream.length_maskWith?, length_of_chunk_eq_ok hchunk]

/-- No more packets are read than the network allows. -/
theorem length_packets_le (h : packets params active seed outputs = .ok ps) :
    ps.length ≤ params.maxPackets := by
  obtain ⟨chunks, hchunks, h⟩ := bind_eq_ok_iff.1 h
  cases h
  rw [List.length_map, List.length_zipIdx, List.length_zip, List.length_take]
  exact (min_le_left _ _).trans (min_le_left _ _)

/-- All packets carry **the same number of bytes**, one less than they have. -/
theorem length_flatMap_data (h : packets params active seed outputs = .ok ps) :
    (ps.flatMap Packet.data).length = ps.length * (params.packetSize - 1) := by
  have hdata : ∀ p ∈ ps, p.data.length = params.packetSize - 1 := by
    intro p hp
    show (p.clear.drop 1).length = params.packetSize - 1
    rw [List.length_drop, length_clear_of_mem_packets h hp]
  rw [List.length_flatMap, List.map_congr_left hdata, List.map_const', List.sum_replicate_nat]

/-- The bound on payloads counts the sequence bytes too, so **no packet is cut**. -/
theorem take_flatMap_data (h : packets params active seed outputs = .ok ps) :
    (ps.flatMap Packet.data).take (params.maxPackets * params.packetSize)
      = ps.flatMap Packet.data := by
  apply List.take_of_length_le
  rw [length_flatMap_data h]
  exact Nat.mul_le_mul (length_packets_le h) (Nat.sub_le _ _)

end MultisigCarrier

/-- A payload of packets or null data stays within the **bound** on payloads. -/
theorem Carrier.length_le_of_decode {carrier : Carrier} {sender : String} {outputs : List Output}
    {payload : Bytes} (hne : carrier ≠ .address)
    (h : carrier.decode params active (some sender) outputs = .ok payload) :
    payload.length ≤ params.maxPackets * params.packetSize := by
  cases carrier with
  | address => exact absurd rfl hne
  | multisig =>
    obtain ⟨-, ps, -, rfl⟩ := MultisigCarrier.exists_packets_of_decode h
    exact List.length_take_le _ _
  | nullData =>
    obtain ⟨-, -, -, rfl⟩ := NullDataCarrier.decode_eq_ok_iff.1 h
    exact List.length_take_le _ _

/-! ## Messages -/

/-- Whether every field of a message is **grounded** in the transaction and its coins. -/
structure Message.IsGrounded (params : Params) (active : Activation) (coins : CoinLookup)
    (tx : Transaction) (m : Message) : Prop where
  /-- The sender is the address of a coin that an input spends. -/
  sender : ∃ o ∈ tx.previous, ∃ coin, coins o = some coin ∧ coin.SpeaksFor params active m.sender
  /-- The sender of null data is the address of the coin that the first input spends. -/
  first : m.carrier = .nullData → ∃ first rest coin, tx.previous = first :: rest ∧
    coins first = some coin ∧ coin.SpeaksFor params active m.sender
  /-- The receiver is the address of an output that does not pay Exodus, by the test of the
  carrier. -/
  receiver : ∀ r, m.receiver = some r → ∃ o ∈ tx.outputs, o.SpeaksFor params active r ∧
    (m.carrier = .address → Script.destination? o.script ≠ params.exodusDestination?) ∧
    (m.carrier ≠ .address → params.isExodus o.script = false)
  /-- The payload of an address is a simple send in the hash of one output, and there is a receiver,
  whose address is that of another. -/
  address : m.carrier = .address → m.payload.length = 19 ∧ SimpleSend.ofPayload? m.payload ≠ none ∧
    ∃ data reference d d', data ≠ reference ∧
      AddressCarrier.NamesAt params active tx.outputs data d ∧
      AddressCarrier.NamesAt params active tx.outputs reference d' ∧
      m.payload = d.hash.bytes.drop 1 ∧
      m.receiver = some (d'.toAddress params.addressVersions)
  /-- The payload of packets is as long as their number says, when the bound on payloads fits in a
  word. -/
  packets : m.carrier = .multisig → ∃ ps,
    MultisigCarrier.packets params active m.sender tx.outputs = .ok ps ∧
      (params.maxPackets * params.packetSize < wordCount →
        m.payload.length = ps.length * (params.packetSize - 1))
  /-- The payload of packets or null data is within the bound. -/
  bounded : m.carrier ≠ .address →
    m.payload.length ≤ params.maxPackets * params.packetSize

namespace Transaction

variable {height time : UInt32} {tx : Transaction}

/-- The receiver of a staged message is the address of an output, **whatever the carrier**. -/
theorem IsStaged.exists_speaksFor {m : Message} {r : String}
    (hsize : params.addressPacketSize = 19) (h : IsStaged params active coins tx m)
    (hr : m.receiver = some r) :
    ∃ o ∈ tx.outputs, o.SpeaksFor params active r ∧
      (m.carrier = .address → Script.destination? o.script ≠ params.exodusDestination?) ∧
      (m.carrier ≠ .address → params.isExodus o.script = false) := by
  have hcontent := h.content
  by_cases haddress : m.carrier = .address
  · rw [haddress] at hcontent
    obtain ⟨-, reference, -, d, -, -, hd, -, -, hreceiver⟩ :=
      AddressCarrier.exists_namesAt_of_content hsize hcontent
    obtain ⟨o, ho, hspeaks, hexodus⟩ := hd.exists_speaksFor
    obtain rfl : r = d.toAddress params.addressVersions :=
      Option.some.inj (hr.symm.trans hreceiver)
    exact ⟨o, ho, hspeaks, fun _ => hexodus, fun hne => absurd haddress hne⟩
  · obtain ⟨-, hidentify⟩ := decode_of_content haddress hcontent
    obtain ⟨o, ho, hspeaks, hexodus⟩ := Receiver.exists_speaksFor (hidentify.trans hr)
    exact ⟨o, ho, hspeaks, fun heq => absurd heq haddress, fun _ => hexodus⟩

/-- **Every message is grounded in its transaction**: the sender is the address of a coin that is
spent, the receiver that of an output, and the payload stands in the outputs and is no longer than
these allow. -/
theorem parse_isGrounded {settings : NetworkSettings} (hparams : settings.params = .ok params)
    {m : Message} (h : parse params coins height time tx = .ok (.message m)) :
    m.IsGrounded params (params.activation.activeAt height) coins tx := by
  have hsize := (NetworkSettings.isUsable_of_params hparams).addressPacketSize_eq
  obtain ⟨-, hstaged⟩ := isStaged_of_parse h
  have hsender := hstaged.sender
  have hcontent := hstaged.content
  constructor
  case sender => exact Sender.exists_speaksFor hsender
  case first =>
    intro hcarrier
    rw [hcarrier] at hsender
    exact Sender.exists_speaksFor_of_firstInput hsender
  case receiver =>
    intro r hr
    exact hstaged.exists_speaksFor hsize hr
  case address =>
    intro hcarrier
    rw [hcarrier] at hcontent
    obtain ⟨data, reference, d, d', hne, hd, hd', hhash, hpayload, hreceiver⟩ :=
      AddressCarrier.exists_namesAt_of_content hsize hcontent
    have hlength : m.payload.length = 19 := by
      rw [hpayload, List.length_drop, d.hash.length_eq]
    have hsend : SimpleSend.ofPayload? m.payload ≠ none := by
      rw [hpayload]
      exact AddressCarrier.isDataHash_iff_ofPayload?.1 hhash
    exact ⟨hlength, hsend, data, reference, d, d', hne, hd, hd', hpayload, hreceiver⟩
  case packets =>
    intro hcarrier
    obtain ⟨hdecode, -⟩ := decode_of_content (by rw [hcarrier]; decide) hcontent
    rw [hcarrier] at hdecode
    obtain ⟨-, ps, hps, hpayload⟩ := MultisigCarrier.exists_packets_of_decode hdecode
    refine ⟨ps, hps, fun _ => ?_⟩
    rw [hpayload, MultisigCarrier.take_flatMap_data hps, MultisigCarrier.length_flatMap_data hps]
  case bounded =>
    intro hne
    exact Carrier.length_le_of_decode hne (decode_of_content hne hcontent).1

/-- The message to the receiver whose sequence byte wrapped is grounded, beside change with the same
first byte. -/
theorem parse_isGrounded_wrapped :
    ∃ m, parse Params.bitcoin spentCoins 400000 0 AddressCarrier.wrappedTransaction
        = .ok (.message m) ∧ m.carrier = .address ∧
      m.IsGrounded Params.bitcoin (Params.bitcoin.activation.activeAt 400000) spentCoins
        AddressCarrier.wrappedTransaction := by
  have hcarrier : ((parse Params.bitcoin spentCoins 400000 0
      AddressCarrier.wrappedTransaction).toOption.bind Outcome.message?).map Message.carrier
        = some .address := by
    decide +kernel
  obtain ⟨m, hm, hcarrier⟩ := Option.map_eq_some_iff.1 hcarrier
  have hparse := eq_message_of_message? hm
  exact ⟨m, hparse, hcarrier, parse_isGrounded NetworkSettings.params_default hparse⟩

end Transaction

end OmniLayer
