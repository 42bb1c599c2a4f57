import OmniLayer.Carrier.Request
import OmniLayer.Proofs.Carrier.Layout
import OmniLayer.Proofs.Carrier.Receivers

/-! # What was read is laid out as it was

Reading outputs that were laid out gives the payload, but with zeros behind it where it stood in
addresses or packets. The zeros change nothing that the encoders look at: a simple send is still one
(`SimpleSend.ofPayload?_append`), a data hash is the same (`AddressCarrier.dataHash_padTo`), and
packets are the same, so the keys found for them are (`MultisigCarrier.payloadKeys_padded`), within
the same bounds (`MultisigCarrier.LaidOut.padded`). So the payload that is read is laid out as the
outputs that it was read from (`Request.encode_withPayload_decode`). -/

namespace OmniLayer

variable {params : Params} {active : Activation}

/-! ## Addresses -/

namespace AddressCarrier

/-- Zeros behind a payload make the **same data hash**. -/
theorem dataHash_padTo (byte : UInt8) {payload : Bytes} (h : payload.length ≤ 19) :
    dataHash byte (Bytes.padTo 19 payload) = dataHash byte payload := by
  refine FixedBytes.ext ?_
  rw [bytes_dataHash byte h, bytes_dataHash byte (Bytes.length_padTo h).le, Bytes.padTo_padTo]

/-- The payload that is read off a laid-out simple send is **laid out the same**. -/
theorem encode_decoded {receiver : String} {payload decoded : Bytes} {outs : List Output}
    (hsize : params.addressPacketSize = 19) (hactive : active.scriptHash = true)
    (hencode : encode params receiver payload = .ok outs)
    (hdecode : (decode params active outs).map (·.payload) = .ok decoded) :
    encode params receiver decoded = .ok outs := by
  obtain ⟨destination, exodus, hdestination, hexodus, hlength, hsend, rfl⟩ :=
    exists_of_encode_eq_ok hencode
  cases hreading : decode params active (laidOut params exodus destination payload) with
  | error e =>
    change (decode params active (laidOut params exodus destination payload)).map _ = _ at hdecode
    rw [hreading] at hdecode
    cases hdecode
  | ok reading =>
    have hapart := toldApart_of_decode_eq_ok hexodus hactive hlength hsend hreading
    change (decode params active (laidOut params exodus destination payload)).map _ = _ at hdecode
    rw [decode_laidOut hsize hexodus hactive hlength hsend hapart] at hdecode
    obtain rfl : Bytes.padTo 19 payload = decoded := Except.ok.inj hdecode
    have hsend' : SimpleSend.ofPayload? (Bytes.padTo 19 payload) ≠ none := by
      rw [Bytes.padTo, SimpleSend.ofPayload?_append hsend]
      exact hsend
    rw [encode_eq_laidOut hsize hexodus hdestination (Bytes.length_padTo hlength).le hsend',
      laidOut, dataDestination, dataHash_padTo _ hlength]

end AddressCarrier

/-! ## Packets -/

namespace MultisigCarrier

/-- Zeros behind a piece make the **same packet**. -/
theorem maskedPacket_padTo (pieceSize : Nat) (digests : List (FixedBytes 32)) (piece : Bytes)
    (index : Nat) :
    maskedPacket (pieceSize + 1) digests (Bytes.padTo pieceSize piece) index
      = maskedPacket (pieceSize + 1) digests piece index := by
  rw [maskedPacket, maskedPacket, Bytes.padTo_cons, Bytes.padTo_cons, Bytes.padTo_padTo]

/-- The same keys are found for a payload **that is filled up**. -/
theorem payloadKeys_padded {hash : Bytes → FixedBytes 32} {isKey : Bytes → Bool} {pieceSize : Nat}
    (hpos : 0 < pieceSize) (seed : String) (payload : Bytes) :
    payloadKeys hash isKey (pieceSize + 1) seed (Bytes.padToMultiple pieceSize payload)
      = payloadKeys hash isKey (pieceSize + 1) seed payload := by
  unfold payloadKeys
  dsimp only
  rw [Nat.add_sub_cancel, Bytes.chunks_padToMultiple hpos, List.length_map, List.zipIdx_map,
    List.mapM_map]
  refine mapM_congr fun entry _ => ?_
  exact congrArg (findKey isKey · _) (maskedPacket_padTo pieceSize _ entry.1 entry.2)

namespace LaidOut

variable {seed : String} {redeemingKey payload : Bytes} {exodus : Destination} {pieceSize : Nat}
  {keys : List Bytes} {outs : List Output} {hash : Bytes → FixedBytes 32} {isKey : Bytes → Bool}

/-- Zeros up to a whole number of pieces leave the layout **as it is**. -/
theorem padded
    (h : LaidOut hash isKey params seed redeemingKey payload exodus pieceSize keys outs) :
    LaidOut hash isKey params seed redeemingKey (Bytes.padToMultiple pieceSize payload) exodus
      pieceSize keys outs where
  packetSize_eq := h.packetSize_eq
  pieceSize_pos := h.pieceSize_pos
  packetSize_le := h.packetSize_le
  isWord := h.isWord
  length_le := Bytes.length_padToMultiple_le h.pieceSize_pos h.length_le
  isKey_redeemingKey := h.isKey_redeemingKey
  payloadKeys_eq := by
    rw [h.packetSize_eq, payloadKeys_padded h.pieceSize_pos, ← h.packetSize_eq]
    exact h.payloadKeys_eq
  outs_eq := h.outs_eq

/-- A layout of a payload is what the **encoder** gives. -/
theorem encodeWith_eq_ok
    (h : LaidOut hash isKey params seed redeemingKey payload exodus pieceSize keys outs)
    (hexodus : params.exodusDestination? = some exodus) (hpayload : payload ≠ []) :
    encodeWith hash isKey params seed redeemingKey payload = .ok outs := by
  have hpos := h.pieceSize_pos
  have hle := h.packetSize_le
  have hsize := h.packetSize_eq
  have hadmissible : Admissible isKey params redeemingKey payload exodus := {
    exodus_eq := hexodus
    two_le := by omega
    packetSize_le := by omega
    isWord := by
      rw [hsize, Nat.add_sub_cancel]
      exact h.isWord
    length_le := by
      rw [hsize, Nat.add_sub_cancel]
      exact h.length_le
    isKey_redeemingKey := h.isKey_redeemingKey }
  exact (hadmissible.encodeWith_eq_ok_iff hpayload).2 ⟨keys, h.payloadKeys_eq, h.outs_eq.symm⟩

end LaidOut

/-- Packets that were laid out are read, and the payload that is read is **laid out the same**. -/
theorem encode_decoded {seed : String} {redeemingKey payload : Bytes} {outs : List Output}
    {exodus : Destination} (hexodus : params.exodusDestination? = some exodus)
    (hword : params.maxPackets * params.packetSize < wordCount) (hactive : active.multisig = true)
    (hencode : encode params seed redeemingKey payload = .ok outs) :
    ∃ decoded, decode params active seed outs = .ok decoded ∧
      encode params seed redeemingKey decoded = .ok outs := by
  have hdecode : decode params active seed ([] ++ outs ++ [])
      = .ok (Bytes.padToMultiple (params.packetSize - 1) payload) :=
    decode_append hexodus hword hactive hencode fun _ h => absurd h List.not_mem_nil
  rw [List.nil_append, List.append_nil] at hdecode
  refine ⟨_, hdecode, ?_⟩
  by_cases hpayload : payload = []
  · -- Nothing is read off the Exodus output, and nothing is laid out again.
    rw [hpayload] at hencode ⊢
    rwa [Bytes.padToMultiple_of_dvd (Nat.dvd_zero _)]
  · rw [← encodeWith_eq_encode] at hencode
    obtain ⟨pieceSize, keys, hlaid⟩ := exists_laidOut hexodus hpayload hencode
    have hpadded : Bytes.padToMultiple pieceSize payload ≠ [] :=
      List.append_ne_nil_of_left_ne_nil hpayload _
    rw [hlaid.packetSize_eq, Nat.add_sub_cancel, ← encodeWith_eq_encode]
    exact hlaid.padded.encodeWith_eq_ok hexodus hpadded

end MultisigCarrier

/-! ## Null data -/

/-- Null data that was laid out is read byte for byte, so the payload is **laid out the same**. -/
theorem NullDataCarrier.decode_encode {receiver : Option String} {payload : Bytes}
    {outs : List Output} (hactive : active.nullData = true)
    (hencode : encode params receiver payload = .ok outs) :
    decode params active outs = .ok payload := by
  have hdecode : decode params active ([] ++ outs ++ []) = .ok payload :=
    decode_append hactive hencode fun _ h => absurd h List.not_mem_nil
  rwa [List.nil_append, List.append_nil] at hdecode

/-! ## Requests -/

namespace Request

/-- The sender of a request, if it names one. -/
def sender? : Request → Option String
  | .address _ _ => none
  | .multisig sender _ _ => some sender
  | .nullData _ _ => none

/-- The same request for **another payload**. -/
def withPayload (payload : Bytes) : Request → Request
  | .address receiver _ => .address receiver payload
  | .multisig sender redeemingKey _ => .multisig sender redeemingKey payload
  | .nullData receiver _ => .nullData receiver payload

/-- **A payload that is read off laid-out outputs is laid out as these outputs again**, at every
height at which all output types are recognised. What is laid out as packets or as null data is
always read; a simple send may be refused, when its outputs cannot be told apart. -/
theorem encode_withPayload_decode {settings : NetworkSettings} {params : Params} {request : Request}
    {outs : List Output} {height : UInt32} (hparams : settings.params = .ok params)
    (hword : params.maxPackets * params.packetSize < wordCount)
    (hnullData : params.activation.nullDataHeight ≤ height)
    (hscriptHash : params.activation.scriptHashHeight ≤ height)
    (hmultisig : params.activation.multisigHeight ≤ height)
    (hencode : request.encode params = .ok outs) :
    (request.carrier ≠ .address → ∃ payload, request.carrier.decode params
        (params.activation.activeAt height) request.sender? outs = .ok payload) ∧
      ∀ payload, request.carrier.decode params (params.activation.activeAt height) request.sender?
          outs = .ok payload → (request.withPayload payload).encode params = .ok outs := by
  have husable := NetworkSettings.isUsable_of_params hparams
  have hactiveNull : (params.activation.activeAt height).nullData = true := decide_eq_true hnullData
  have hactiveHash : (params.activation.activeAt height).scriptHash = true :=
    decide_eq_true hscriptHash
  have hactiveMultisig : (params.activation.activeAt height).multisig = true :=
    decide_eq_true hmultisig
  cases request with
  | address receiver payload =>
    refine ⟨fun h => absurd rfl h, fun decoded hdecode => ?_⟩
    exact AddressCarrier.encode_decoded husable.addressPacketSize_eq hactiveHash hencode hdecode
  | multisig sender redeemingKey payload =>
    obtain ⟨exodus, hexodus⟩ := husable.exists_exodus
    obtain ⟨decoded, hdecode, hagain⟩ :=
      MultisigCarrier.encode_decoded hexodus hword hactiveMultisig hencode
    refine ⟨fun _ => ⟨decoded, hdecode⟩, fun decoded' hdecode' => ?_⟩
    obtain rfl : decoded = decoded' := Except.ok.inj (hdecode.symm.trans hdecode')
    exact hagain
  | nullData receiver payload =>
    have hdecode := NullDataCarrier.decode_encode hactiveNull hencode
    refine ⟨fun _ => ⟨payload, hdecode⟩, fun decoded hdecode' => ?_⟩
    obtain rfl : payload = decoded := Except.ok.inj (hdecode.symm.trans hdecode')
    exact hencode

/-- The payload that is read off three packets has five zeros behind it, and the one that is read
off a simple send has three. They are laid out as the same three packets and as the same addresses.
-/
theorem encode_withPayload_decode_threePackets_wrapped :
    (MultisigCarrier.decode MultisigCarrier.shortPackets
        (MultisigCarrier.shortPackets.activation.activeAt 400000)
        "1eA9ctCNq41iLLnQErtTUVdxpRyZ9hZmW" MultisigCarrier.threePacketsOutputs
      = .ok (MultisigCarrier.threePackets ++ [0, 0, 0, 0, 0]) ∧
    MultisigCarrier.encode MultisigCarrier.shortPackets "1eA9ctCNq41iLLnQErtTUVdxpRyZ9hZmW"
        MultisigCarrier.someKey (MultisigCarrier.threePackets ++ [0, 0, 0, 0, 0])
      = .ok MultisigCarrier.threePacketsOutputs) ∧
    (AddressCarrier.decode Params.bitcoin (Params.bitcoin.activation.activeAt 400000)
        AddressCarrier.wrappedOutputs = .ok ⟨AddressCarrier.oneUnit ++ [0, 0, 0], 1, 2⟩ ∧
    AddressCarrier.encode Params.bitcoin "31h1vYVSYuKP6AhS86fbRdMw9XHieotbST"
        (AddressCarrier.oneUnit ++ [0, 0, 0]) = .ok AddressCarrier.wrappedOutputs) := by
  constructor
  · have hparams : ({ packetSize := some 8 } : NetworkSettings).params
        = .ok MultisigCarrier.shortPackets :=
      NetworkSettings.params_of_packets (some 8) none (by decide) (by decide)
    have hencode : (Request.multisig "1eA9ctCNq41iLLnQErtTUVdxpRyZ9hZmW" MultisigCarrier.someKey
        MultisigCarrier.threePackets).encode MultisigCarrier.shortPackets
        = .ok MultisigCarrier.threePacketsOutputs := MultisigCarrier.encode_threePackets
    have hdecode : MultisigCarrier.decode MultisigCarrier.shortPackets
        (MultisigCarrier.shortPackets.activation.activeAt 400000)
        "1eA9ctCNq41iLLnQErtTUVdxpRyZ9hZmW" MultisigCarrier.threePacketsOutputs
        = .ok (MultisigCarrier.threePackets ++ [0, 0, 0, 0, 0]) := by
      decide +kernel
    have hheights : MultisigCarrier.shortPackets.activation.nullDataHeight ≤ 400000 ∧
        MultisigCarrier.shortPackets.activation.scriptHashHeight ≤ 400000 ∧
        MultisigCarrier.shortPackets.activation.multisigHeight ≤ 400000 := by
      decide
    have hagain := encode_withPayload_decode hparams (by decide) hheights.1 hheights.2.1
      hheights.2.2 hencode
    exact ⟨hdecode, hagain.2 _ hdecode⟩
  · have hencode : (Request.address "31h1vYVSYuKP6AhS86fbRdMw9XHieotbST"
        AddressCarrier.oneUnit).encode Params.bitcoin = .ok AddressCarrier.wrappedOutputs := by
      decide +kernel
    have hdecode : AddressCarrier.decode Params.bitcoin (Params.bitcoin.activation.activeAt 400000)
        AddressCarrier.wrappedOutputs = .ok ⟨AddressCarrier.oneUnit ++ [0, 0, 0], 1, 2⟩ := by
      decide +kernel
    have hread : Carrier.address.decode Params.bitcoin (Params.bitcoin.activation.activeAt 400000)
        none AddressCarrier.wrappedOutputs = .ok (AddressCarrier.oneUnit ++ [0, 0, 0]) :=
      congrArg (Except.map AddressCarrier.Reading.payload) hdecode
    have hheights : Params.bitcoin.activation.nullDataHeight ≤ 400000 ∧
        Params.bitcoin.activation.scriptHashHeight ≤ 400000 ∧
        Params.bitcoin.activation.multisigHeight ≤ 400000 := by
      decide
    have hagain := encode_withPayload_decode NetworkSettings.params_default (by decide) hheights.1
      hheights.2.1 hheights.2.2 hencode
    exact ⟨hdecode, hagain.2 _ hread⟩

end Request

end OmniLayer
