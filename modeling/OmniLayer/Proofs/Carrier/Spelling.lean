import OmniLayer.Carrier.Request
import OmniLayer.Proofs.Carrier.Address
import OmniLayer.Proofs.Carrier.Layout
import OmniLayer.Proofs.Network

/-! # Several spellings of one destination

Where a network reads script hashes under a legacy version too, a script hash has more than one
spelling; no other destination has (`Destination.eq_or_exists_legacy`). A receiver may be spelled in
any way, since a carrier pays the destination. A sender may not: the keystream is seeded with the
text as it stands, and a parse seeds it with the canonical spelling. So two spellings of a sender
give the same outputs exactly when the keystreams agree on every byte that a packet has
(`Request.encode_respelled`), as they do for two texts only if their digests happen to agree. -/

namespace OmniLayer

/-! ## Spellings -/

namespace Destination

variable {versions : AddressVersions} {address spelling : String} {d : Destination}

/-- Two spellings of a destination are one text, unless it is a script hash and there is a **legacy
version** of script hashes. -/
theorem eq_or_exists_legacy (h : ofAddress? versions address = some d)
    (h' : ofAddress? versions spelling = some d) :
    address = spelling ∨ ∃ hash, d = .scriptHash hash ∧
      ∃ version ∈ versions.legacyScriptHash, version ≠ versions.scriptHash := by
  obtain ⟨version, hash, hpayload, hread⟩ := ofAddress?_eq_some_iff.1 h
  obtain ⟨version', hash', hpayload', hread'⟩ := ofAddress?_eq_some_iff.1 h'
  have hsame (hversion : version = version') (hhash : hash = hash') : address = spelling := by
    subst hversion hhash
    rw [← Base58.encodeCheck_of_decodeCheck? hpayload,
      Base58.encodeCheck_of_decodeCheck? hpayload']
  rcases ofVersion?_eq_some_iff.1 hread with ⟨hkey, rfl⟩ | ⟨-, hscript, rfl⟩
  · rcases ofVersion?_eq_some_iff.1 hread' with ⟨hkey', hhash⟩ | ⟨-, -, hhash⟩
    · cases hhash
      exact .inl (hsame (hkey.trans hkey'.symm) rfl)
    · cases hhash
  · rcases ofVersion?_eq_some_iff.1 hread' with ⟨-, hhash⟩ | ⟨-, hscript', hhash⟩
    · cases hhash
    · cases hhash
      by_cases hversion : version = version'
      · exact .inl (hsame hversion rfl)
      · -- Of two versions, one is not the primary one.
        refine .inr ⟨hash, rfl, ?_⟩
        simp only [AddressVersions.isScriptHash, Bool.or_eq_true, beq_iff_eq,
          List.contains_iff_mem] at hscript hscript'
        by_cases hprimary : version = versions.scriptHash
        · have hother : version' ≠ versions.scriptHash := fun h => hversion (hprimary.trans h.symm)
          exact ⟨version', hscript'.resolve_left hother, hother⟩
        · exact ⟨version, hscript.resolve_left hprimary, hprimary⟩

end Destination

/-! ## Seeds -/

/-- Two masks that cover some bytes make the **same** of them when they agree on as many bytes. -/
theorem Bytes.zipWith_xor_eq_iff {data mask mask' : Bytes} (h : data.length ≤ mask.length)
    (h' : data.length ≤ mask'.length) :
    List.zipWith (· ^^^ ·) data mask = List.zipWith (· ^^^ ·) data mask' ↔
      mask.take data.length = mask'.take data.length := by
  induction data generalizing mask mask' with
  | nil => simp
  | cons b data ih =>
    cases mask with
    | nil => exact absurd h (Nat.not_succ_le_zero _)
    | cons k mask =>
      cases mask' with
      | nil => exact absurd h' (Nat.not_succ_le_zero _)
      | cons k' mask' =>
        have hrest := ih (Nat.le_of_succ_le_succ h) (Nat.le_of_succ_le_succ h')
        simp [UInt8.xor_right_inj, hrest]

namespace MultisigCarrier

variable {hash : Bytes → FixedBytes 32} {isKey : Bytes → Bool} {params : Params}
  {seed seed' : String} {redeemingKey payload : Bytes} {outs : List Output}

/-- Whether two seeds **mask** the packets with indices below a count **alike**: their keystreams
agree on the bytes of each of these packets. -/
def MaskAlike (packetSize count : Nat) (seed seed' : String) : Prop :=
  ∀ index < count, (Keystream.digestAt seed index).bytes.take packetSize
    = (Keystream.digestAt seed' index).bytes.take packetSize

/-- A packet is the same under two seeds when the keystreams **agree on its bytes**. -/
theorem packetAt_eq_packetAt_iff {packetSize : Nat} (hsize : 2 ≤ packetSize)
    (hkey : packetSize ≤ 31) (seed seed' : String) (payload : Bytes) (index : Nat) :
    packetAt Sha256.digest packetSize seed payload index
        = packetAt Sha256.digest packetSize seed' payload index ↔
      (Keystream.digestAt seed index).bytes.take packetSize
        = (Keystream.digestAt seed' index).bytes.take packetSize := by
  have hlength := length_clearPacketAt hsize payload index
  have hcovered (seed : String) : (clearPacketAt packetSize payload index).length
      ≤ (Keystream.digestAt seed index).bytes.length := by
    rw [hlength, (Keystream.digestAt seed index).length_eq]
    omega
  rw [packetAt, packetAt, Keystream.digestWith_digest, Keystream.digestWith_digest,
    Bytes.zipWith_xor_eq_iff (hcovered seed) (hcovered seed'), hlength]

/-- A key holds **one packet** of its length. -/
theorem IsKeyOf.packet_eq {packet packet' key : Bytes} (h : IsKeyOf isKey packet key)
    (h' : IsKeyOf isKey packet' key) (hlength : packet.length = packet'.length) :
    packet = packet' := by
  obtain ⟨closing, rfl, -⟩ := h
  obtain ⟨closing', hkey, -⟩ := h'
  simp only [keyWith, List.cons.injEq, List.append_assoc, true_and] at hkey
  exact (List.append_inj hkey hlength).1

/-- The seed is used for **the keys of the packets** only, and only when nothing else is wrong. -/
theorem encodeWith_congr
    (h : ∀ exodus, Admissible isKey params redeemingKey payload exodus →
      payloadKeys hash isKey params.packetSize seed payload
        = payloadKeys hash isKey params.packetSize seed' payload) :
    encodeWith hash isKey params seed redeemingKey payload
      = encodeWith hash isKey params seed' redeemingKey payload := by
  unfold encodeWith
  split
  · rfl
  · next exodus hexodus =>
    dsimp only
    by_cases hempty : payload.isEmpty = true
    · rw [if_pos hempty, if_pos hempty]
    rw [if_neg hempty, if_neg hempty]
    by_cases hsize : params.packetSize < 2 ∨ params.packetSize > compressedKeySize - 2
    · rw [if_pos hsize, if_pos hsize]
    rw [if_neg hsize, if_neg hsize]
    rcases Nat.lt_or_ge (params.maxPackets * (params.packetSize - 1)) wordCount with hword | hword
    · rw [wordProduct?_of_lt hword]
      dsimp only
      split_ifs with hlength hkey
      · rfl
      · simp only [compressedKeySize] at hsize
        rw [h exodus ⟨hexodus, by omega, by omega, hword, Nat.le_of_not_lt hlength, hkey⟩]
      · rfl
    · rw [wordProduct?_of_le hword]

/-- Seeds that mask alike give the **same outputs**, or the same refusal. -/
theorem MaskAlike.encode_eq
    (h : MaskAlike params.packetSize (packetCount params.packetSize payload) seed seed')
    (redeemingKey : Bytes) :
    encode params seed redeemingKey payload = encode params seed' redeemingKey payload := by
  rw [← encodeWith_eq_encode, ← encodeWith_eq_encode]
  apply encodeWith_congr
  intro exodus hadmissible
  rw [payloadKeys_eq hadmissible.two_le hadmissible.packetSize_le,
    payloadKeys_eq hadmissible.two_le hadmissible.packetSize_le]
  apply mapM_congr
  intro index hindex
  rw [(packetAt_eq_packetAt_iff hadmissible.two_le hadmissible.packetSize_le ..).2
    (h index (List.mem_range.1 hindex))]

/-- A refusal that is **not for want of a key** for a packet does not depend on the seed. -/
theorem encode_eq_error_of_ne_noValidPoint {e : EncodeError}
    (h : encode params seed redeemingKey payload = .error e)
    (hne : ∀ sequence, e ≠ .noValidPoint sequence) (seed' : String) :
    encode params seed' redeemingKey payload = .error e := by
  rw [← encodeWith_eq_encode] at h ⊢
  by_cases hpayload : payload = []
  · subst hpayload
    rw [← h]
    unfold encodeWith
    rfl
  · rw [← h]
    apply encodeWith_congr
    intro exodus hadmissible
    -- An admissible payload is refused for want of a key only.
    obtain ⟨index, -, -, -, he⟩ := (hadmissible.encodeWith_eq_error_iff hpayload).1 h
    exact absurd he (hne _)

/-- Outputs hold the keys of the packets, so two seeds that give the same outputs have **the same
keys**. -/
theorem payloadKeys_of_encode_eq {exodus : Destination}
    (hexodus : params.exodusDestination? = some exodus) (hpayload : payload ≠ [])
    (h : encode params seed redeemingKey payload = .ok outs)
    (h' : encode params seed' redeemingKey payload = .ok outs) :
    ∃ keys,
      payloadKeys Sha256.digest Secp256k1.isPublicKey params.packetSize seed payload = .ok keys ∧
      payloadKeys Sha256.digest Secp256k1.isPublicKey params.packetSize seed' payload
        = .ok keys := by
  rw [← encodeWith_eq_encode] at h h'
  obtain ⟨_, keys, hlaid⟩ := exists_laidOut hexodus hpayload h
  obtain ⟨_, keys', hlaid'⟩ := exists_laidOut hexodus hpayload h'
  have hsame : keys = keys' := by
    have hactive : (⟨true, true, true⟩ : Activation).multisig = true := rfl
    rw [← hlaid.flatMap_keysIn (fun _ => Secp256k1.hasKeyShape_of_isPublicKey) hactive,
      hlaid'.flatMap_keysIn (fun _ => Secp256k1.hasKeyShape_of_isPublicKey) hactive]
  exact ⟨keys, hlaid.payloadKeys_eq, hsame ▸ hlaid'.payloadKeys_eq⟩

/-- Of a payload that is laid out, two seeds give the **same outputs** exactly when they mask its
packets alike. -/
theorem encode_eq_ok_iff_maskAlike (hpayload : payload ≠ [])
    (h : encode params seed redeemingKey payload = .ok outs) (seed' : String) :
    encode params seed' redeemingKey payload = .ok outs ↔
      MaskAlike params.packetSize (packetCount params.packetSize payload) seed seed' := by
  constructor
  · -- Equal outputs hold equal keys, and a key holds one packet.
    intro h' index hindex
    obtain ⟨exodus, hadmissible⟩ := exists_admissible hpayload ((encodeWith_eq_encode ..).trans h)
    obtain ⟨keys, hkeys, hkeys'⟩ := payloadKeys_of_encode_eq hadmissible.exodus_eq hpayload h h'
    have hsize := hadmissible.two_le
    have hfits := hadmissible.packetSize_le
    obtain ⟨hlength, hkeyOf⟩ := (payloadKeys_eq_ok_iff hsize hfits).1 hkeys
    obtain ⟨-, hkeyOf'⟩ := (payloadKeys_eq_ok_iff hsize hfits).1 hkeys'
    have hget := List.getElem?_eq_getElem (hlength ▸ hindex)
    apply (packetAt_eq_packetAt_iff hsize hfits seed seed' payload index).1
    apply (hkeyOf index _ hget).packet_eq (hkeyOf' index _ hget)
    rw [length_packetAt hsize hfits, length_packetAt hsize hfits]
  · intro halike
    rw [← halike.encode_eq redeemingKey, h]

end MultisigCarrier

/-! ## Receivers and senders -/

namespace AddressCarrier

/-- A receiver is known by the **destination**. -/
theorem encode_eq_of_decodeAddress? {params : Params} {address spelling : String}
    {destination : Destination} (h : params.decodeAddress? address = some destination)
    (h' : params.decodeAddress? spelling = some destination) (payload : Bytes) :
    encode params address payload = encode params spelling payload := by
  unfold encode
  rw [h, h']

end AddressCarrier

namespace NullDataCarrier

/-- A receiver is known by the **destination**. -/
theorem encode_eq_of_decodeAddress? {params : Params} {address spelling : String}
    {destination : Destination} (h : params.decodeAddress? address = some destination)
    (h' : params.decodeAddress? spelling = some destination) (payload : Bytes) :
    encode params (some address) payload = encode params (some spelling) payload := by
  have hreceiver : receiverOutput params (some address)
      = receiverOutput params (some spelling) := by
    rw [receiverOutput, receiverOutput, Params.scriptForAddress?, Params.scriptForAddress?, h, h']
    rfl
  unfold encode
  rw [hreceiver]

end NullDataCarrier

namespace Request

open MultisigCarrier

/-- **A destination that is spelled in another way.** There are two spellings for script hashes with
a legacy version only. Nothing that is laid out depends on the spelling of a receiver. With the
spelling of a sender the outputs stay the same exactly when its keystream agrees with that of the
other spelling on the bytes of all packets; a refusal stays the same, unless it is for want of a key
for a packet. -/
theorem encode_respelled {params : Params} {address spelling : String} {destination : Destination}
    (h : params.decodeAddress? address = some destination)
    (h' : params.decodeAddress? spelling = some destination) :
    (address = spelling ∨ ∃ hash, destination = .scriptHash hash ∧
      ∃ version ∈ params.addressVersions.legacyScriptHash,
        version ≠ params.addressVersions.scriptHash) ∧
    (∀ payload, encode params (.address address payload)
      = encode params (.address spelling payload)) ∧
    (∀ payload, encode params (.nullData (some address) payload)
      = encode params (.nullData (some spelling) payload)) ∧
    ∀ redeemingKey payload,
      (MaskAlike params.packetSize (packetCount params.packetSize payload) address spelling →
        encode params (.multisig address redeemingKey payload)
          = encode params (.multisig spelling redeemingKey payload)) ∧
      (payload ≠ [] → ∀ outs, encode params (.multisig address redeemingKey payload) = .ok outs →
        (encode params (.multisig spelling redeemingKey payload) = .ok outs ↔
          MaskAlike params.packetSize (packetCount params.packetSize payload) address spelling)) ∧
      ∀ e, encode params (.multisig address redeemingKey payload) = .error e →
        (∀ sequence, e ≠ .noValidPoint sequence) →
          encode params (.multisig spelling redeemingKey payload) = .error e := by
  refine ⟨Destination.eq_or_exists_legacy h h', AddressCarrier.encode_eq_of_decodeAddress? h h',
    NullDataCarrier.encode_eq_of_decodeAddress? h h', fun redeemingKey payload => ⟨?_, ?_, ?_⟩⟩
  · exact fun halike => halike.encode_eq redeemingKey
  · exact fun hpayload outs hencode => encode_eq_ok_iff_maskAlike hpayload hencode spelling
  · exact fun e hencode hne => encode_eq_error_of_ne_noValidPoint hencode hne spelling

/-- The parameters of a network that writes script hashes with one version, and reads them with
another too. -/
def twoVersions : Params := { Params.bitcoin with addressVersions := ⟨0, 196, [5]⟩ }

/-- The script hash of zeros in its **canonical** spelling. -/
def canonicalZeros : String := "2MsFDzHRUAMpjHxKyoEHU3aMCMsVtMqs1PV"

/-- The same in the **legacy** spelling. -/
def legacyZeros : String := "31h1vYVSYuKP6AhS86fbRdMw9XHieotbST"

/-- Both spellings are read as the same destination. -/
theorem decodeAddress?_zeros :
    twoVersions.decodeAddress? canonicalZeros = some (.scriptHash (FixedBytes.zero 20)) ∧
      twoVersions.decodeAddress? legacyZeros = some (.scriptHash (FixedBytes.zero 20)) := by
  decide +kernel

/-- The outputs of a simple send whose masked packet and closing byte are given. -/
def sendOutputs (packet : Bytes) (closing : Nat) : List Output :=
  [⟨5460, oneOf [someKey, packetKey packet closing]⟩,
    ⟨5460, Script.payToPubkeyHash Params.mainExodus⟩]

/-- The outputs under the canonical spelling of the sender. -/
def canonicalOutputs : List Output :=
  sendOutputs [190, 246, 86, 11, 171, 183, 64, 181, 214, 6, 87, 170, 59, 36, 0, 65, 29, 161, 154,
    41, 69, 40, 107, 148, 12, 91, 121, 206, 95, 141, 113] 0

/-- The outputs under its legacy spelling. -/
def legacyOutputs : List Output :=
  sendOutputs [207, 177, 96, 235, 45, 5, 186, 180, 128, 204, 243, 64, 20, 52, 27, 197, 65, 2, 179,
    220, 38, 157, 37, 9, 104, 228, 221, 32, 152, 30, 252] 2

/-- These outputs are not the same. -/
theorem legacyOutputs_ne : legacyOutputs ≠ canonicalOutputs := by decide

/-- The outputs of the canonical spelling. -/
theorem encode_canonicalZeros :
    encode twoVersions (.multisig canonicalZeros someKey AddressCarrier.oneUnit)
      = .ok canonicalOutputs := by
  decide +kernel

/-- The outputs of the legacy spelling. -/
theorem encode_legacyZeros :
    encode twoVersions (.multisig legacyZeros someKey AddressCarrier.oneUnit)
      = .ok legacyOutputs := by
  decide +kernel

/-- The keystreams of the two spellings part within the first packet, while receivers may be spelled
in either way. -/
theorem encode_respelled_zeros :
    (twoVersions.decodeAddress? canonicalZeros = some (.scriptHash (FixedBytes.zero 20)) ∧
      twoVersions.decodeAddress? legacyZeros = some (.scriptHash (FixedBytes.zero 20))) ∧
    (∀ payload, encode twoVersions (.address canonicalZeros payload)
      = encode twoVersions (.address legacyZeros payload)) ∧
    (∀ payload, encode twoVersions (.nullData (some canonicalZeros) payload)
      = encode twoVersions (.nullData (some legacyZeros) payload)) ∧
    ¬MaskAlike 31 1 canonicalZeros legacyZeros := by
  obtain ⟨-, haddress, hnullData, hmultisig⟩ :=
    encode_respelled decodeAddress?_zeros.1 decodeAddress?_zeros.2
  refine ⟨decodeAddress?_zeros, haddress, hnullData, fun halike => ?_⟩
  obtain ⟨-, hsame, -⟩ := hmultisig someKey AddressCarrier.oneUnit
  have hlegacy := (hsame (by decide) _ encode_canonicalZeros).2 halike
  rw [encode_legacyZeros, Except.ok.injEq] at hlegacy
  exact legacyOutputs_ne hlegacy

/-- Such a network is accepted, and **lays out one simple send in two ways** for the two spellings
of its sender. -/
theorem encode_legacySender :
    ({ scriptHashVersion := some 196, legacyScriptHashVersions := some [5] } :
      NetworkSettings).params = .ok twoVersions ∧
    twoVersions.decodeAddress? canonicalZeros = some (.scriptHash (FixedBytes.zero 20)) ∧
    twoVersions.decodeAddress? legacyZeros = some (.scriptHash (FixedBytes.zero 20)) ∧
    encode twoVersions (.multisig canonicalZeros someKey AddressCarrier.oneUnit)
      = .ok canonicalOutputs ∧
    encode twoVersions (.multisig legacyZeros someKey AddressCarrier.oneUnit)
      = .ok legacyOutputs ∧
    encode twoVersions (.multisig canonicalZeros someKey AddressCarrier.oneUnit)
      ≠ encode twoVersions (.multisig legacyZeros someKey AddressCarrier.oneUnit) := by
  refine ⟨by decide +kernel, decodeAddress?_zeros.1, decodeAddress?_zeros.2,
    encode_canonicalZeros, encode_legacyZeros, ?_⟩
  rw [encode_canonicalZeros, encode_legacyZeros]
  exact fun h => legacyOutputs_ne (Except.ok.inj h).symm

end Request

end OmniLayer
