import OmniLayer.Carrier.Request
import OmniLayer.Proofs.Carrier.Layout
import OmniLayer.Proofs.Carrier.NullData
import OmniLayer.Proofs.Carrier.Receivers

/-! # Which requests are laid out

The encoders check their parameters along with the request, each in its own order. Usable parameters
pass these checks, so a request is laid out when it is good in itself (`Request.IsAcceptable`), and
is refused for the first thing that is wrong with it (`Request.IsRefused`). One of the two is always
the case, carrier by carrier (`AddressCarrier.acceptable_or_refused` and so on), and what the
encoders do follows from it (`Request.encode_accepts_or_refuses`). -/

namespace OmniLayer

/-! ## Good requests, and what is wrong with others -/

/-- Whether the packet of a payload with an index **has a key**: some closing byte makes it a public
key. -/
def MultisigCarrier.HasKeyAt (params : Params) (sender : String) (payload : Bytes) (index : Nat) :
    Prop :=
  ∃ closing, Secp256k1.isPublicKey
    (keyWith (packetAt Sha256.digest params.packetSize sender payload index) closing) = true

namespace Request

variable {params : Params} {request : Request}

/-- The payload of a request. -/
def payload : Request → Bytes
  | .address _ payload => payload
  | .multisig _ _ payload => payload
  | .nullData _ payload => payload

/-- Whether a request is **good in itself**: its payload fits, it names addresses of the network,
and all keys that it takes are public keys. Without a payload there are no packets and no keys. -/
def IsAcceptable (params : Params) : Request → Prop
  | .address receiver payload =>
    payload.length ≤ 19 ∧ SimpleSend.ofPayload? payload ≠ none ∧
      params.decodeAddress? receiver ≠ none
  | .multisig sender redeemingKey payload =>
    payload = [] ∨ payload.length ≤ params.maxPackets * (params.packetSize - 1) ∧
      Secp256k1.isPublicKey redeemingKey = true ∧
      ∀ index < MultisigCarrier.packetCount params.packetSize payload,
        MultisigCarrier.HasKeyAt params sender payload index
  | .nullData receiver payload =>
    payload.length ≤ params.maxPackets * params.packetSize ∧
      ∀ address, receiver = some address → params.decodeAddress? address ≠ none

/-- What is **wrong with a request**, with the error that says so. Where several things are wrong
the first of them counts, in this order. -/
inductive IsRefused (params : Params) : Request → EncodeError → Prop
  /-- A data address holds nineteen bytes. -/
  | addressTooLarge {receiver : String} {payload : Bytes} (h : 19 < payload.length) :
    IsRefused params (.address receiver payload) (.payloadTooLarge payload.length 19)
  /-- A data address holds a simple send. -/
  | unsupported {receiver : String} {payload : Bytes} (hlength : payload.length ≤ 19)
    (h : SimpleSend.ofPayload? payload = none) :
    IsRefused params (.address receiver payload) (.unsupportedAddressPayload payload)
  /-- The receiver of a simple send has an address of the network. -/
  | addressReceiver {receiver : String} {payload : Bytes} (hlength : payload.length ≤ 19)
    (hsend : SimpleSend.ofPayload? payload ≠ none) (h : params.decodeAddress? receiver = none) :
    IsRefused params (.address receiver payload) (.invalidAddress receiver)
  /-- The packets that are allowed hold the payload. -/
  | multisigTooLarge {sender : String} {redeemingKey payload : Bytes}
    (h : params.maxPackets * (params.packetSize - 1) < payload.length) :
    IsRefused params (.multisig sender redeemingKey payload)
      (.payloadTooLarge payload.length (params.maxPackets * (params.packetSize - 1)))
  /-- The redeeming key is a public key. -/
  | redeemingKey {sender : String} {redeemingKey payload : Bytes} (hpayload : payload ≠ [])
    (hlength : payload.length ≤ params.maxPackets * (params.packetSize - 1))
    (h : Secp256k1.isPublicKey redeemingKey = false) :
    IsRefused params (.multisig sender redeemingKey payload) (.invalidPubkey redeemingKey)
  /-- Every packet has a key; the first that has none is named. -/
  | packet {sender : String} {redeemingKey payload : Bytes} (index : Nat)
    (hlength : payload.length ≤ params.maxPackets * (params.packetSize - 1))
    (hkey : Secp256k1.isPublicKey redeemingKey = true)
    (hindex : index < MultisigCarrier.packetCount params.packetSize payload)
    (hearlier : ∀ earlier < index, MultisigCarrier.HasKeyAt params sender payload earlier)
    (h : ¬MultisigCarrier.HasKeyAt params sender payload index) :
    IsRefused params (.multisig sender redeemingKey payload)
      (.noValidPoint (UInt8.ofNat (index + 1)))
  /-- Null data is within the bound on payloads. -/
  | nullDataTooLarge {receiver : Option String} {payload : Bytes}
    (h : params.maxPackets * params.packetSize < payload.length) :
    IsRefused params (.nullData receiver payload)
      (.payloadTooLarge payload.length (params.maxPackets * params.packetSize))
  /-- A receiver that is named beside null data has an address of the network. -/
  | nullDataReceiver {address : String} {payload : Bytes}
    (hlength : payload.length ≤ params.maxPackets * params.packetSize)
    (h : params.decodeAddress? address = none) :
    IsRefused params (.nullData (some address) payload) (.invalidAddress address)

/-- A payload is called too large only when it is **larger than** what is allowed. -/
theorem IsRefused.lt_of_payloadTooLarge {size max : Nat}
    (h : request.IsRefused params (.payloadTooLarge size max)) : max < size := by
  cases h with
  | addressTooLarge h => exact h
  | multisigTooLarge h => exact h
  | nullDataTooLarge h => exact h

/-- An address that is called invalid is **not one of the network**. -/
theorem IsRefused.decodeAddress?_eq_none {address : String}
    (h : request.IsRefused params (.invalidAddress address)) :
    params.decodeAddress? address = none := by
  cases h with
  | addressReceiver _ _ h => exact h
  | nullDataReceiver _ h => exact h

end Request

open Request (IsAcceptable IsRefused)

variable {params : Params} {payload : Bytes} {e : EncodeError}

/-! ## Simple sends -/

namespace AddressCarrier

variable {receiver : String}

/-- A simple send is good, or something is **wrong with it**. -/
theorem acceptable_or_refused (params : Params) (receiver : String) (payload : Bytes) :
    IsAcceptable params (.address receiver payload) ∨
      ∃ e, IsRefused params (.address receiver payload) e := by
  by_cases hlength : payload.length ≤ 19
  · by_cases hsend : SimpleSend.ofPayload? payload = none
    · exact Or.inr ⟨_, .unsupported hlength hsend⟩
    · by_cases hreceiver : params.decodeAddress? receiver = none
      · exact Or.inr ⟨_, .addressReceiver hlength hsend hreceiver⟩
      · exact Or.inl ⟨hlength, hsend, hreceiver⟩
  · exact Or.inr ⟨_, .addressTooLarge (Nat.lt_of_not_le hlength)⟩

/-- A good simple send is **laid out**. -/
theorem exists_encode_eq_ok (h : params.IsUsable)
    (hrequest : IsAcceptable params (.address receiver payload)) :
    ∃ outs, encode params receiver payload = .ok outs := by
  obtain ⟨hlength, hsend, hreceiver⟩ := hrequest
  obtain ⟨destination, hdestination⟩ := Option.ne_none_iff_exists'.1 hreceiver
  obtain ⟨exodus, hexodus⟩ := h.exists_exodus
  exact ⟨_, encode_eq_laidOut h.addressPacketSize_eq hexodus hdestination hlength hsend⟩

/-- A simple send is refused for **what is wrong with it**. -/
theorem encode_eq_error (h : params.IsUsable)
    (hrequest : IsRefused params (.address receiver payload) e) :
    encode params receiver payload = .error e := by
  unfold encode
  rw [h.addressPacketSize_eq, Nat.min_self]
  dsimp only
  cases hrequest with
  | addressTooLarge hlength => rw [if_pos hlength]
  | unsupported hlength hsend => rw [if_neg (Nat.not_lt.2 hlength), if_pos hsend]
  | addressReceiver hlength hsend hreceiver =>
    rw [if_neg (Nat.not_lt.2 hlength), if_neg hsend, hreceiver]

end AddressCarrier

/-! ## Packets -/

namespace MultisigCarrier

variable {sender : String} {redeemingKey : Bytes}

/-- The keys of a packet are those that closing bytes make. -/
theorem hasKeyAt_iff {index : Nat} : HasKeyAt params sender payload index ↔
    ∃ key, IsKeyOf Secp256k1.isPublicKey
      (packetAt Sha256.digest params.packetSize sender payload index) key :=
  exists_isKeyOf_iff.symm

/-- A packet has no key when no closing byte makes one. -/
theorem not_hasKeyAt_iff {index : Nat} : ¬HasKeyAt params sender payload index ↔
    ∀ closing, Secp256k1.isPublicKey
        (keyWith (packetAt Sha256.digest params.packetSize sender payload index) closing)
      = false := by
  simp only [HasKeyAt, not_exists, Bool.not_eq_true]

/-- With usable parameters, and a word that counts what packets hold, only the payload and the keys
are **left to check**. -/
theorem encode_eq_ite (h : params.IsUsable)
    (hword : params.maxPackets * (params.packetSize - 1) < wordCount) {exodus : Destination}
    (hexodus : params.exodusDestination? = some exodus) (hpayload : payload ≠ []) :
    encode params sender redeemingKey payload
      = if payload.length > params.maxPackets * (params.packetSize - 1) then
          .error (.payloadTooLarge payload.length (params.maxPackets * (params.packetSize - 1)))
        else if ¬Secp256k1.isPublicKey redeemingKey then .error (.invalidPubkey redeemingKey)
        else (payloadKeys Sha256.digest Secp256k1.isPublicKey params.packetSize sender payload).map
          fun keys => (chunks packetsPerOutput keys).map (groupOutput params redeemingKey)
            ++ [⟨params.dustValue, exodus.script⟩] := by
  rw [← encodeWith_eq_encode]
  exact encodeWith_eq_ite hexodus h.two_le_packetSize h.packetSize_le hword hpayload

/-- Keys are found for a payload when **every packet has one**. -/
theorem exists_payloadKeys_eq_ok (h : params.IsUsable)
    (hpackets : ∀ index < packetCount params.packetSize payload,
      HasKeyAt params sender payload index) :
    ∃ keys, payloadKeys Sha256.digest Secp256k1.isPublicKey params.packetSize sender payload
      = .ok keys := by
  rw [payloadKeys_eq h.two_le_packetSize h.packetSize_le]
  refine exists_mapM_eq_ok_iff.2 fun index hindex => ?_
  obtain ⟨key, hkey⟩ := hasKeyAt_iff.1 (hpackets index (List.mem_range.1 hindex))
  exact ⟨key, findKey_eq_ok_iff.2 hkey⟩

/-- A payload for packets is good, or something is **wrong with it**. -/
theorem acceptable_or_refused (h : params.IsUsable) (sender : String)
    (redeemingKey payload : Bytes) :
    IsAcceptable params (.multisig sender redeemingKey payload) ∨
      ∃ e, IsRefused params (.multisig sender redeemingKey payload) e := by
  by_cases hpayload : payload = []
  · exact Or.inl (Or.inl hpayload)
  by_cases hlength : payload.length ≤ params.maxPackets * (params.packetSize - 1)
  · cases hkey : Secp256k1.isPublicKey redeemingKey with
    | false => exact Or.inr ⟨_, .redeemingKey hpayload hlength hkey⟩
    | true =>
      -- The search for keys goes on up to the first packet that has none.
      cases hkeys : payloadKeys Sha256.digest Secp256k1.isPublicKey params.packetSize sender
          payload with
      | error e =>
        obtain ⟨index, hindex, hearlier, hnone, -⟩ :=
          (payloadKeys_eq_error_iff h.two_le_packetSize h.packetSize_le).1 hkeys
        exact Or.inr ⟨_, .packet index hlength hkey hindex
          (fun earlier hlt => hasKeyAt_iff.2 (hearlier earlier hlt)) (not_hasKeyAt_iff.2 hnone)⟩
      | ok keys =>
        obtain ⟨hcount, hkeyOf⟩ :=
          (payloadKeys_eq_ok_iff h.two_le_packetSize h.packetSize_le).1 hkeys
        refine Or.inl (Or.inr ⟨hlength, hkey, fun index hindex => hasKeyAt_iff.2 ?_⟩)
        exact ⟨_, hkeyOf index _ (List.getElem?_eq_getElem (hcount ▸ hindex))⟩
  · exact Or.inr ⟨_, .multisigTooLarge (Nat.lt_of_not_le hlength)⟩

/-- A good payload for packets is **laid out**. -/
theorem exists_encode_eq_ok (h : params.IsUsable)
    (hpieces : params.maxPackets * (params.packetSize - 1) < wordCount)
    (hrequest : IsAcceptable params (.multisig sender redeemingKey payload)) :
    ∃ outs, encode params sender redeemingKey payload = .ok outs := by
  obtain ⟨exodus, hexodus⟩ := h.exists_exodus
  by_cases hpayload : payload = []
  · rw [hpayload]
    exact ⟨_, encode_nil hexodus sender redeemingKey⟩
  · obtain ⟨hlength, hkey, hpackets⟩ := hrequest.resolve_left hpayload
    obtain ⟨keys, hkeys⟩ := exists_payloadKeys_eq_ok h hpackets
    rw [encode_eq_ite h hpieces hexodus hpayload, if_neg (Nat.not_lt.2 hlength),
      if_neg (not_not.2 hkey), hkeys]
    exact ⟨_, rfl⟩

/-- A payload for packets is refused for **what is wrong with it**. -/
theorem encode_eq_error (h : params.IsUsable)
    (hpieces : params.maxPackets * (params.packetSize - 1) < wordCount)
    (hrequest : IsRefused params (.multisig sender redeemingKey payload) e) :
    encode params sender redeemingKey payload = .error e := by
  obtain ⟨exodus, hexodus⟩ := h.exists_exodus
  cases hrequest with
  | multisigTooLarge hlength =>
    have hpayload : payload ≠ [] := by
      rintro rfl
      exact Nat.not_lt_zero _ hlength
    rw [encode_eq_ite h hpieces hexodus hpayload, if_pos hlength]
  | redeemingKey hpayload hlength hkey =>
    rw [encode_eq_ite h hpieces hexodus hpayload, if_neg (Nat.not_lt.2 hlength),
      if_pos (Bool.eq_false_iff.1 hkey)]
  | packet index hlength hkey hindex hearlier hnone =>
    have hpayload : payload ≠ [] := by
      rintro rfl
      simp [packetCount] at hindex
    have hkeys : payloadKeys Sha256.digest Secp256k1.isPublicKey params.packetSize sender payload
        = .error (.noValidPoint (UInt8.ofNat (index + 1))) :=
      (payloadKeys_eq_error_iff h.two_le_packetSize h.packetSize_le).2 ⟨index, hindex,
        fun earlier hlt => hasKeyAt_iff.1 (hearlier earlier hlt), not_hasKeyAt_iff.1 hnone, rfl⟩
    rw [encode_eq_ite h hpieces hexodus hpayload, if_neg (Nat.not_lt.2 hlength),
      if_neg (not_not.2 hkey), hkeys]
    rfl

/-- A payload for packets is laid out when it is **good**, and refused for what is wrong with it
otherwise. -/
theorem encode_iff (h : params.IsUsable)
    (hpieces : params.maxPackets * (params.packetSize - 1) < wordCount) :
    ((∃ outs, encode params sender redeemingKey payload = .ok outs) ↔
        IsAcceptable params (.multisig sender redeemingKey payload)) ∧
      ∀ e, encode params sender redeemingKey payload = .error e ↔
        IsRefused params (.multisig sender redeemingKey payload) e :=
  exists_eq_ok_iff_and_eq_error_iff (exists_encode_eq_ok h hpieces)
    (fun _ => encode_eq_error h hpieces) (acceptable_or_refused h sender redeemingKey payload)

end MultisigCarrier

/-! ## Null data -/

namespace NullDataCarrier

variable {receiver : Option String}

/-- Null data is good, or something is **wrong with it**. -/
theorem acceptable_or_refused (params : Params) (receiver : Option String) (payload : Bytes) :
    IsAcceptable params (.nullData receiver payload) ∨
      ∃ e, IsRefused params (.nullData receiver payload) e := by
  by_cases hlength : payload.length ≤ params.maxPackets * params.packetSize
  · cases receiver with
    | none => exact Or.inl ⟨hlength, fun address h => by cases h⟩
    | some address =>
      by_cases haddress : params.decodeAddress? address = none
      · exact Or.inr ⟨_, .nullDataReceiver hlength haddress⟩
      · refine Or.inl ⟨hlength, fun address' h => ?_⟩
        cases h
        exact haddress
  · exact Or.inr ⟨_, .nullDataTooLarge (Nat.lt_of_not_le hlength)⟩

/-- A piece is not longer than its payload. -/
theorem length_le_of_mem_pieces {size : Nat} {piece : Bytes} (h : piece ∈ pieces size payload) :
    piece.length ≤ payload.length := by
  have hpart := (List.sublist_flatten_of_mem h).length_le
  rwa [(flatten_pieces size payload).1] at hpart

/-- There is an output for a piece of a payload that is **short enough for a push**, whatever the
size of pieces. -/
theorem exists_taggedOutput_eq_ok (params : Params) {size : Nat} {piece : Bytes}
    (hlength : payload.length < 2 ^ 32 - 4) (h : piece ∈ pieces size payload) :
    ∃ o, taggedOutput params piece = .ok o := by
  have hpush : (params.marker.bytes ++ piece).length ≤ Script.maxPush := by
    have hpiece := length_le_of_mem_pieces h
    have hmarker := params.marker.length_eq
    rw [List.length_append, Script.maxPush]
    omega
  exact ⟨_, if_pos hpush⟩

/-- Nobody is paid, or a receiver who has an address of the network. -/
theorem exists_receiverOutput_eq_ok
    (h : ∀ address, receiver = some address → params.decodeAddress? address ≠ none) :
    ∃ outs, receiverOutput params receiver = .ok outs := by
  cases receiver with
  | none => exact ⟨[], rfl⟩
  | some address =>
    obtain ⟨destination, hdestination⟩ := Option.ne_none_iff_exists'.1 (h address rfl)
    rw [receiverOutput, Params.scriptForAddress?, hdestination]
    exact ⟨_, rfl⟩

/-- Good null data is **laid out**. -/
theorem exists_encode_eq_ok (h : params.IsUsable)
    (hword : params.maxPackets * params.packetSize < wordCount)
    (hlength : payload.length < 2 ^ 32 - 4)
    (hrequest : IsAcceptable params (.nullData receiver payload)) :
    ∃ outs, encode params receiver payload = .ok outs := by
  obtain ⟨hbound, hreceiver⟩ := hrequest
  have hmarker : params.marker.bytes.length < params.maxPushSize := by
    rw [params.marker.length_eq]
    exact h.lt_maxPushSize
  obtain ⟨tagged, htagged⟩ := exists_mapM_eq_ok_iff.2 fun piece hpiece =>
    exists_taggedOutput_eq_ok params hlength hpiece
  obtain ⟨receiverOutputs, hreceiverOutputs⟩ := exists_receiverOutput_eq_ok hreceiver
  exact ⟨_, encode_eq_ok_iff.2 ⟨hword, hbound, hmarker, tagged, receiverOutputs, htagged,
    hreceiverOutputs, rfl⟩⟩

/-- Null data is refused for **what is wrong with it**. -/
theorem encode_eq_error (hword : params.maxPackets * params.packetSize < wordCount)
    (hrequest : IsRefused params (.nullData receiver payload) e) :
    encode params receiver payload = .error e := by
  unfold encode
  rw [Params.maxPayloadSize?_of_lt hword]
  dsimp only
  cases hrequest with
  | nullDataTooLarge hlength => rw [if_pos hlength]
  | nullDataReceiver hlength hreceiver =>
    rw [if_neg (Nat.not_lt.2 hlength), receiverOutput, Params.scriptForAddress?, hreceiver]
    rfl

end NullDataCarrier

/-! ## Requests -/

namespace Request

/-- **With accepted settings a request fails only for a reason of its own.** A request is laid out
when it is good in itself, and otherwise it is refused for the first thing that is wrong with it.
Its errors never name the Exodus address, the size of packets or the size of pushes. -/
theorem encode_accepts_or_refuses {settings : NetworkSettings}
    (hparams : settings.params = .ok params)
    (hword : params.maxPackets * params.packetSize < wordCount) {request : Request}
    (hlength : request.payload.length < 2 ^ 32 - 4) :
    ((∃ outs, request.encode params = .ok outs) ↔ request.IsAcceptable params) ∧
    (∀ e, request.encode params = .error e ↔ request.IsRefused params e) ∧
    request.encode params ≠ .error (.invalidAddress params.exodusAddress) ∧
    request.encode params
      ≠ .error (.payloadTooLarge params.packetSize (MultisigCarrier.compressedKeySize - 2)) ∧
    ∀ size ≤ params.maxPushSize,
      request.encode params ≠ .error (.payloadTooLarge size params.maxPushSize) := by
  have husable := NetworkSettings.isUsable_of_params hparams
  obtain ⟨haccepts, hrefuses⟩ :
      ((∃ outs, request.encode params = .ok outs) ↔ request.IsAcceptable params) ∧
        ∀ e, request.encode params = .error e ↔ request.IsRefused params e := by
    cases request with
    | address receiver payload =>
      exact exists_eq_ok_iff_and_eq_error_iff (AddressCarrier.exists_encode_eq_ok husable)
        (fun _ => AddressCarrier.encode_eq_error husable)
        (AddressCarrier.acceptable_or_refused params receiver payload)
    | multisig sender redeemingKey payload =>
      exact MultisigCarrier.encode_iff husable (MultisigCarrier.pieces_lt_wordCount hword)
    | nullData receiver payload =>
      exact exists_eq_ok_iff_and_eq_error_iff
        (NullDataCarrier.exists_encode_eq_ok husable hword hlength)
        (fun _ => NullDataCarrier.encode_eq_error hword)
        (NullDataCarrier.acceptable_or_refused params receiver payload)
  refine ⟨haccepts, hrefuses, fun h => ?_, fun h => ?_, fun size hsize h => ?_⟩
  · -- The Exodus address is one of the network.
    obtain ⟨exodus, hexodus⟩ := husable.exists_exodus
    have hnone := ((hrefuses _).1 h).decodeAddress?_eq_none
    rw [Params.exodusDestination?, hnone] at hexodus
    cases hexodus
  · -- Packets are not larger than keys.
    exact Nat.not_lt.2 husable.packetSize_le ((hrefuses _).1 h).lt_of_payloadTooLarge
  · exact Nat.not_lt.2 hsize ((hrefuses _).1 h).lt_of_payloadTooLarge

/-- A payload for three packets is good, and with a redeeming key that is no public key it is not.
-/
theorem encode_accepts_or_refuses_threePackets :
    (Request.multisig "1eA9ctCNq41iLLnQErtTUVdxpRyZ9hZmW" MultisigCarrier.someKey
        MultisigCarrier.threePackets).IsAcceptable MultisigCarrier.shortPackets ∧
      (Request.multisig "1eA9ctCNq41iLLnQErtTUVdxpRyZ9hZmW" [0x02]
        MultisigCarrier.threePackets).IsRefused MultisigCarrier.shortPackets
          (.invalidPubkey [0x02]) := by
  have hparams : ({ packetSize := some 8 } : NetworkSettings).params
      = .ok MultisigCarrier.shortPackets :=
    NetworkSettings.params_of_packets (some 8) none (by decide) (by decide)
  have hencode : (Request.multisig "1eA9ctCNq41iLLnQErtTUVdxpRyZ9hZmW" MultisigCarrier.someKey
      MultisigCarrier.threePackets).encode MultisigCarrier.shortPackets
      = .ok MultisigCarrier.threePacketsOutputs := MultisigCarrier.encode_threePackets
  have hrefused : (Request.multisig "1eA9ctCNq41iLLnQErtTUVdxpRyZ9hZmW" [0x02]
      MultisigCarrier.threePackets).encode MultisigCarrier.shortPackets
      = .error (.invalidPubkey [0x02]) := by
    decide +kernel
  exact ⟨(encode_accepts_or_refuses hparams (by decide) (by decide)).1.1 ⟨_, hencode⟩,
    ((encode_accepts_or_refuses hparams (by decide) (by decide)).2.1 _).1 hrefused⟩

end Request

end OmniLayer
