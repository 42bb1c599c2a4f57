import OmniLayer.Proofs.Carrier.Multisig
import OmniLayer.Proofs.Keystream

/-! # The shape of a payload laid out in multisig keys

Nothing about the outputs depends on the hash or on which points lie on the curve, as long as the
check on keys accepts serialised keys only: so both are parameters (`encodeWith`), and the encoder
is the case of SHA-256 and of public keys (`encodeWith_eq_encode`). The packet with an index is
known from the payload and the seed (`packetAt`). Its key is the one with the least closing byte
that the check accepts (`findKey_eq_ok_iff`), and without such a byte nothing is laid out
(`payloadKeys_eq_error_iff`). The keys stand in groups of two behind the redeeming key, the last of
them alone if their number is odd (`Layout`). -/

namespace OmniLayer.MultisigCarrier

variable {hash : Bytes → FixedBytes 32} {isKey : Bytes → Bool} {params : Params} {seed : String}
  {redeemingKey payload : Bytes}

/-! ## A packet and its key -/

/-- A key with a packet behind the header byte, zeros and a closing byte. -/
def keyWith (packet : Bytes) (closing : UInt8) : Bytes :=
  0x02 :: (packet ++ List.replicate (31 - packet.length) 0 ++ [closing])

/-- Whether a key is the one of a packet: the check accepts it, and it accepts none with a **smaller
closing byte**. -/
def IsKeyOf (isKey : Bytes → Bool) (packet key : Bytes) : Prop :=
  ∃ closing, key = keyWith packet closing ∧ isKey key = true ∧
    ∀ smaller < closing, isKey (keyWith packet smaller) = false

/-- The keys that are tried are those with a closing byte. -/
theorem packetKey_eq_keyWith (packet : Bytes) (closing : Nat) :
    packetKey packet closing = keyWith packet (UInt8.ofNat closing) :=
  packetKey_eq packet closing

/-- A key is as long as a compressed one, if the packet leaves the closing byte alone. -/
theorem length_keyWith {packet : Bytes} (h : packet.length ≤ 31) (closing : UInt8) :
    (keyWith packet closing).length = compressedKeySize := by
  simp only [keyWith, List.length_cons, List.length_append, List.length_replicate,
    List.length_nil, compressedKeySize]
  omega

/-- The key that is found for a packet is the **key of the packet**. -/
@[simp] theorem findKey_eq_ok_iff {packet key : Bytes} {sequence : UInt8} :
    findKey isKey packet sequence = .ok key ↔ IsKeyOf isKey packet key := by
  -- Closing bytes are tried as numbers first.
  have hfind : findKey isKey packet sequence = .ok key ↔
      ∃ closing, closing < 256 ∧ packetKey packet closing = key ∧
        isKey (packetKey packet closing) = true ∧
          ∀ smaller < closing, isKey (packetKey packet smaller) = false := by
    unfold findKey
    rw [List.find?_map]
    constructor
    · intro h
      cases hfound : (List.range 256).find? (isKey ∘ packetKey packet) with
      | none =>
        rw [hfound] at h
        cases h
      | some closing =>
        rw [hfound] at h
        cases h
        obtain ⟨haccepted, hmem, hleast⟩ := List.find?_range_eq_some.1 hfound
        exact ⟨closing, List.mem_range.1 hmem, rfl, haccepted,
          fun smaller hlt => by simpa using hleast smaller hlt⟩
    · rintro ⟨closing, hlt, rfl, haccepted, hleast⟩
      have hfound : (List.range 256).find? (isKey ∘ packetKey packet) = some closing :=
        List.find?_range_eq_some.2
          ⟨haccepted, List.mem_range.2 hlt, fun smaller hlt => by simp [hleast smaller hlt]⟩
      rw [hfound]
      rfl
  rw [hfind]
  constructor
  · rintro ⟨closing, hlt, rfl, haccepted, hleast⟩
    refine ⟨UInt8.ofNat closing, packetKey_eq_keyWith packet closing, haccepted, ?_⟩
    intro smaller hsmaller
    rw [UInt8.lt_iff_toNat_lt, UInt8.toNat_ofNat_of_lt' hlt] at hsmaller
    have hrejected := hleast smaller.toNat hsmaller
    rwa [packetKey_eq_keyWith, UInt8.ofNat_toNat] at hrejected
  · rintro ⟨closing, rfl, haccepted, hleast⟩
    have hkey : packetKey packet closing.toNat = keyWith packet closing := by
      rw [packetKey_eq_keyWith, UInt8.ofNat_toNat]
    refine ⟨closing.toNat, closing.toNat_lt, hkey, hkey ▸ haccepted, ?_⟩
    intro smaller hsmaller
    rw [packetKey_eq_keyWith]
    apply hleast
    rwa [UInt8.lt_iff_toNat_lt, UInt8.toNat_ofNat_of_lt' (hsmaller.trans closing.toNat_lt)]

/-- Finding a key fails when the check accepts it with **no closing byte**. -/
theorem findKey_eq_error_iff {packet : Bytes} {sequence : UInt8} {e : EncodeError} :
    findKey isKey packet sequence = .error e ↔
      (∀ closing, isKey (keyWith packet closing) = false) ∧ e = .noValidPoint sequence := by
  have hnone : ((List.range 256).map (packetKey packet)).find? isKey = none ↔
      ∀ closing, isKey (keyWith packet closing) = false := by
    simp only [List.find?_eq_none, List.mem_map, List.mem_range, forall_exists_index, and_imp,
      forall_apply_eq_imp_iff₂, Bool.not_eq_true]
    constructor
    · intro h closing
      have hrejected := h closing.toNat closing.toNat_lt
      rwa [packetKey_eq_keyWith, UInt8.ofNat_toNat] at hrejected
    · intro h closing _
      rw [packetKey_eq_keyWith]
      exact h _
  rw [← hnone]
  unfold findKey
  cases ((List.range 256).map (packetKey packet)).find? isKey with
  | none => simp [eq_comm]
  | some key => simp

/-- A packet has a key when the check accepts it with **some closing byte**. -/
theorem exists_isKeyOf_iff {packet : Bytes} :
    (∃ key, IsKeyOf isKey packet key) ↔ ∃ closing, isKey (keyWith packet closing) = true := by
  constructor
  · rintro ⟨_, closing, rfl, haccepted, -⟩
    exact ⟨closing, haccepted⟩
  · rintro ⟨closing, haccepted⟩
    cases hfound : findKey isKey packet 0 with
    | error e =>
      rw [(findKey_eq_error_iff.1 hfound).1 closing] at haccepted
      cases haccepted
    | ok key => exact ⟨key, findKey_eq_ok_iff.1 hfound⟩

/-! ## The packets of a payload -/

/-- How many packets a payload takes. -/
def packetCount (packetSize : Nat) (payload : Bytes) : Nat := payload.length ⌈/⌉ (packetSize - 1)

/-- The packet of a payload with an **index**, before it is masked: its number, counted from one,
and its piece of the payload, filled up with zeros. -/
def clearPacketAt (packetSize : Nat) (payload : Bytes) (index : Nat) : Bytes :=
  Bytes.padTo packetSize
    (UInt8.ofNat (index + 1) :: (payload.drop (index * (packetSize - 1))).take (packetSize - 1))

/-- The packet of a payload with an index, **masked** with the digest of the seed with that index.
-/
def packetAt (hash : Bytes → FixedBytes 32) (packetSize : Nat) (seed : String) (payload : Bytes)
    (index : Nat) : Bytes :=
  List.zipWith (· ^^^ ·) (clearPacketAt packetSize payload index)
    (Keystream.digestWith hash seed index).bytes

/-- Packets have the size of packets. -/
theorem length_clearPacketAt {packetSize : Nat} (h : 2 ≤ packetSize) (payload : Bytes)
    (index : Nat) : (clearPacketAt packetSize payload index).length = packetSize := by
  apply Bytes.length_padTo
  rw [List.length_cons, List.length_take]
  omega

/-- Masked packets have the size of packets. -/
theorem length_packetAt {packetSize : Nat} (hsize : 2 ≤ packetSize) (hkey : packetSize ≤ 31)
    (seed : String) (payload : Bytes) (index : Nat) :
    (packetAt hash packetSize seed payload index).length = packetSize := by
  rw [packetAt, List.length_zipWith, length_clearPacketAt hsize,
    (Keystream.digestWith hash seed index).length_eq]
  omega

/-- The masked packets of the pieces of a payload are its **packets by index**. -/
theorem maskedPacket_eq_packetAt {packetSize count : Nat} (hsize : 2 ≤ packetSize)
    (hkey : packetSize ≤ 31) (payload : Bytes) {index : Nat} (h : index < count) :
    maskedPacket packetSize (Keystream.digestsWith hash seed count)
        ((payload.drop (index * (packetSize - 1))).take (packetSize - 1)) index
      = packetAt hash packetSize seed payload index := by
  -- A packet is not longer than a digest, so the mask covers all of it.
  have hcovered : (clearPacketAt packetSize payload index).drop 32 = [] := by
    apply List.drop_of_length_le
    rw [length_clearPacketAt hsize]
    omega
  show Keystream.maskWith? _ (clearPacketAt packetSize payload index) = _
  rw [Keystream.maskWith?_digestsWith seed h, hcovered, List.append_nil]
  rfl

/-- The keys of a payload are found **packet by packet**. -/
theorem payloadKeys_eq {packetSize : Nat} (hsize : 2 ≤ packetSize) (hkey : packetSize ≤ 31)
    (payload : Bytes) :
    payloadKeys hash isKey packetSize seed payload
      = (List.range (packetCount packetSize payload)).mapM fun index =>
          findKey isKey (packetAt hash packetSize seed payload index)
            (UInt8.ofNat (index + 1)) := by
  have hpiece : 0 < packetSize - 1 := by omega
  rw [payloadKeys, zipIdx_chunks hpiece, List.mapM_map, length_chunks hpiece]
  apply mapM_congr
  intro index hindex
  show findKey isKey (maskedPacket _ _ _ index) _ = _
  rw [maskedPacket_eq_packetAt hsize hkey payload (List.mem_range.1 hindex)]

/-- The keys that are found are those **of the packets**, one by one. -/
theorem payloadKeys_eq_ok_iff {packetSize : Nat} (hsize : 2 ≤ packetSize)
    (hkey : packetSize ≤ 31) {keys : List Bytes} :
    payloadKeys hash isKey packetSize seed payload = .ok keys ↔
      keys.length = packetCount packetSize payload ∧
        ∀ index key, keys[index]? = some key →
          IsKeyOf isKey (packetAt hash packetSize seed payload index) key := by
  rw [payloadKeys_eq hsize hkey, mapM_eq_ok_iff, List.forall₂_iff_get]
  simp only [findKey_eq_ok_iff, List.length_range, List.get_eq_getElem, List.getElem_range]
  constructor
  · rintro ⟨hlength, hall⟩
    refine ⟨hlength.symm, fun index key hget => ?_⟩
    obtain ⟨hlt, rfl⟩ := List.getElem?_eq_some_iff.1 hget
    exact hall index (hlength ▸ hlt) hlt
  · rintro ⟨hlength, hall⟩
    exact ⟨hlength.symm, fun index _ hlt => hall index _ (List.getElem?_eq_getElem hlt)⟩

/-- No keys are found when there is none for a packet, and the **first** such packet is named. -/
theorem payloadKeys_eq_error_iff {packetSize : Nat} (hsize : 2 ≤ packetSize)
    (hkey : packetSize ≤ 31) {e : EncodeError} :
    payloadKeys hash isKey packetSize seed payload = .error e ↔
      ∃ index < packetCount packetSize payload,
        (∀ earlier < index, ∃ key,
          IsKeyOf isKey (packetAt hash packetSize seed payload earlier) key) ∧
          (∀ closing, isKey (keyWith (packetAt hash packetSize seed payload index) closing)
            = false) ∧
            e = .noValidPoint (UInt8.ofNat (index + 1)) := by
  rw [payloadKeys_eq hsize hkey, mapM_range_eq_error_iff]
  simp only [findKey_eq_ok_iff, findKey_eq_error_iff]

/-! ## The outputs -/

/-- Whether a payload **may be laid out**: Exodus is an address, the sizes fit, and the check
accepts the redeeming key. -/
structure Admissible (isKey : Bytes → Bool) (params : Params) (redeemingKey payload : Bytes)
    (exodus : Destination) : Prop where
  /-- Exodus is an address. -/
  exodus_eq : params.exodusDestination? = some exodus
  /-- A packet holds payload behind its number. -/
  two_le : 2 ≤ params.packetSize
  /-- A packet leaves the closing byte of its key alone. -/
  packetSize_le : params.packetSize ≤ 31
  /-- A word can count what the packets that are allowed hold. -/
  isWord : params.maxPackets * (params.packetSize - 1) < wordCount
  /-- The packets that are allowed hold the payload. -/
  length_le : payload.length ≤ params.maxPackets * (params.packetSize - 1)
  /-- The redeeming key passes the check. -/
  isKey_redeemingKey : isKey redeemingKey = true

/-- When Exodus is an address, packets fit in keys and a word can count what they hold, only the
payload and the keys are **left to check**. -/
theorem encodeWith_eq_ite {exodus : Destination} (hexodus : params.exodusDestination? = some exodus)
    (htwo : 2 ≤ params.packetSize) (hle : params.packetSize ≤ 31)
    (hword : params.maxPackets * (params.packetSize - 1) < wordCount) (hpayload : payload ≠ []) :
    encodeWith hash isKey params seed redeemingKey payload
      = if payload.length > params.maxPackets * (params.packetSize - 1) then
          .error (.payloadTooLarge payload.length (params.maxPackets * (params.packetSize - 1)))
        else if ¬isKey redeemingKey then .error (.invalidPubkey redeemingKey)
        else (payloadKeys hash isKey params.packetSize seed payload).map fun keys =>
            (chunks packetsPerOutput keys).map (groupOutput params redeemingKey)
              ++ [⟨params.dustValue, exodus.script⟩] := by
  have hsize : ¬(params.packetSize < 2 ∨ params.packetSize > compressedKeySize - 2) := by
    simp only [compressedKeySize]
    omega
  unfold encodeWith
  rw [hexodus]
  dsimp only
  rw [if_neg (by rwa [List.isEmpty_iff]), if_neg hsize, wordProduct?_of_lt hword]
  rfl

/-- When a word **cannot count** what the packets hold, laying out breaks off. -/
theorem encodeWith_eq_overflow {exodus : Destination}
    (hexodus : params.exodusDestination? = some exodus) (htwo : 2 ≤ params.packetSize)
    (hle : params.packetSize ≤ 31)
    (hword : wordCount ≤ params.maxPackets * (params.packetSize - 1)) (hpayload : payload ≠ []) :
    encodeWith hash isKey params seed redeemingKey payload = .error .overflow := by
  have hsize : ¬(params.packetSize < 2 ∨ params.packetSize > compressedKeySize - 2) := by
    simp only [compressedKeySize]
    omega
  unfold encodeWith
  rw [hexodus]
  dsimp only
  rw [if_neg (by rwa [List.isEmpty_iff]), if_neg hsize, wordProduct?_of_le hword]

/-- An admissible payload is laid out in the **keys that are found** for it. -/
theorem Admissible.encodeWith_eq {exodus : Destination}
    (h : Admissible isKey params redeemingKey payload exodus) (hpayload : payload ≠ []) :
    encodeWith hash isKey params seed redeemingKey payload
      = (payloadKeys hash isKey params.packetSize seed payload).map fun keys =>
            (chunks packetsPerOutput keys).map (groupOutput params redeemingKey)
              ++ [⟨params.dustValue, exodus.script⟩] := by
  rw [encodeWith_eq_ite h.exodus_eq h.two_le h.packetSize_le h.isWord hpayload,
    if_neg (Nat.not_lt.2 h.length_le), if_neg (not_not.2 h.isKey_redeemingKey)]

/-- A payload that is not admissible is refused, and **not for want of a key** for a packet. -/
theorem exists_encodeWith_eq_error (seed : String) (hpayload : payload ≠ [])
    (h : ¬∃ exodus, Admissible isKey params redeemingKey payload exodus) :
    ∃ e, encodeWith hash isKey params seed redeemingKey payload = .error e ∧
      ∀ sequence, e ≠ .noValidPoint sequence := by
  cases hexodus : params.exodusDestination? with
  | none =>
    refine ⟨.invalidAddress params.exodusAddress, ?_, fun _ h => EncodeError.noConfusion h⟩
    rw [encodeWith, hexodus]
  | some exodus =>
    by_cases hsize : params.packetSize < 2 ∨ params.packetSize > compressedKeySize - 2
    · refine ⟨.payloadTooLarge params.packetSize (compressedKeySize - 2), ?_,
        fun _ h => EncodeError.noConfusion h⟩
      rw [encodeWith, hexodus]
      dsimp only
      rw [if_neg (by rwa [List.isEmpty_iff]), if_pos hsize]
    · simp only [compressedKeySize] at hsize
      have htwo : 2 ≤ params.packetSize := by omega
      have hle : params.packetSize ≤ 31 := by omega
      rcases Nat.lt_or_ge (params.maxPackets * (params.packetSize - 1)) wordCount with hword | hword
      · rw [encodeWith_eq_ite hexodus htwo hle hword hpayload]
        split_ifs with hlength hkey
        · exact ⟨_, rfl, fun _ h => EncodeError.noConfusion h⟩
        · -- Nothing was found wrong, so the payload is admissible after all.
          exact absurd ⟨exodus, hexodus, htwo, hle, hword, Nat.le_of_not_lt hlength, hkey⟩ h
        · exact ⟨_, rfl, fun _ h => EncodeError.noConfusion h⟩
      · exact ⟨_, encodeWith_eq_overflow hexodus htwo hle hword hpayload,
          fun _ h => EncodeError.noConfusion h⟩

/-- An empty payload takes no packet, so it does not want a key. -/
theorem encodeWith_nil_ne_noValidPoint (seed : String) (sequence : UInt8) :
    encodeWith hash isKey params seed redeemingKey [] ≠ .error (.noValidPoint sequence) := by
  unfold encodeWith
  cases params.exodusDestination? <;> simp

/-- How many outputs the packets of a payload take, **two** in each. -/
def groupCount (packetSize : Nat) (payload : Bytes) : Nat :=
  packetCount packetSize payload ⌈/⌉ packetsPerOutput

/-- The keys in the output with a place. -/
def groupAt (keys : List Bytes) (place : Nat) : List Bytes :=
  (keys.drop (place * packetsPerOutput)).take packetsPerOutput

/-- The **layout** of a payload in outputs, with the keys that hold it. -/
structure Layout (hash : Bytes → FixedBytes 32) (isKey : Bytes → Bool) (params : Params)
    (seed : String) (redeemingKey payload : Bytes) (exodus : Destination) (keys : List Bytes)
    (outs : List Output) : Prop where
  /-- There is one key for each packet. -/
  length_keys : keys.length = packetCount params.packetSize payload
  /-- A packet fills its place in the key. -/
  length_packet : ∀ index, (packetAt hash params.packetSize seed payload index).length
    = params.packetSize
  /-- Each key is that of the packet with its index. -/
  isKeyOf : ∀ index key, keys[index]? = some key →
    IsKeyOf isKey (packetAt hash params.packetSize seed payload index) key
  /-- Each key is as long as a compressed one. -/
  length_key : ∀ key ∈ keys, key.length = compressedKeySize
  /-- There is an output for every two keys, and one more. -/
  length_outs : outs.length = groupCount params.packetSize payload + 1
  /-- All outputs have the same value. -/
  value_eq : ∀ o ∈ outs, o.value = params.dustValue
  /-- The last output pays Exodus. -/
  getLast?_eq : outs.getLast? = some ⟨params.dustValue, exodus.script⟩
  /-- The others are bare multisig, with the redeeming key first and the next keys behind it. -/
  scriptClass_eq : ∀ place < groupCount params.packetSize payload, ∃ o, outs[place]? = some o ∧
    o.scriptClass = .multisig 1 (redeemingKey :: groupAt keys place)
  /-- These are two keys, but in the last output one, if the number of keys is odd. -/
  length_group : ∀ place < groupCount params.packetSize payload,
    (place + 1 = groupCount params.packetSize payload ∧ keys.length % 2 = 1 →
      (groupAt keys place).length = 1) ∧
    (¬(place + 1 = groupCount params.packetSize payload ∧ keys.length % 2 = 1) →
      (groupAt keys place).length = 2)

/-- In groups of two, only the last of an odd number is **not full**. -/
theorem length_groupAt (keys : List Bytes) {place : Nat}
    (h : place < keys.length ⌈/⌉ packetsPerOutput) :
    (place + 1 = keys.length ⌈/⌉ packetsPerOutput ∧ keys.length % 2 = 1 →
      (groupAt keys place).length = 1) ∧
    (¬(place + 1 = keys.length ⌈/⌉ packetsPerOutput ∧ keys.length % 2 = 1) →
      (groupAt keys place).length = 2) := by
  rw [groupAt, List.length_take, List.length_drop]
  rw [Nat.ceilDiv_eq_add_pred_div] at h ⊢
  simp only [packetsPerOutput] at h ⊢
  omega

/-- Keys that are found for an admissible payload make its **layout**, if the check accepts
serialised keys only. -/
theorem Admissible.layout {exodus : Destination} {keys : List Bytes}
    (hshape : ∀ key, isKey key = true → Secp256k1.hasKeyShape key = true)
    (h : Admissible isKey params redeemingKey payload exodus)
    (hkeys : payloadKeys hash isKey params.packetSize seed payload = .ok keys) :
    Layout hash isKey params seed redeemingKey payload exodus keys
      ((chunks packetsPerOutput keys).map (groupOutput params redeemingKey)
        ++ [⟨params.dustValue, exodus.script⟩]) := by
  obtain ⟨hlength, hkeyOf⟩ := (payloadKeys_eq_ok_iff h.two_le h.packetSize_le).1 hkeys
  have htwo : 0 < packetsPerOutput := Nat.two_pos
  have hgroups : (chunks packetsPerOutput keys).length = groupCount params.packetSize payload := by
    rw [length_chunks htwo, hlength]
    rfl
  exact {
    length_keys := hlength
    length_packet := length_packetAt h.two_le h.packetSize_le seed payload
    isKeyOf := hkeyOf
    length_key := by
      intro key hkey
      obtain ⟨index, hget⟩ := List.getElem?_of_mem hkey
      obtain ⟨closing, rfl, -⟩ := hkeyOf index key hget
      apply length_keyWith
      rw [length_packetAt h.two_le h.packetSize_le]
      exact h.packetSize_le
    length_outs := by
      rw [List.length_append, List.length_map, hgroups, List.length_singleton]
    value_eq := by
      intro o ho
      rcases List.mem_append.1 ho with ho | ho
      · obtain ⟨group, -, rfl⟩ := List.mem_map.1 ho
        rfl
      · rw [List.mem_singleton.1 ho]
    getLast?_eq := List.getLast?_concat
    scriptClass_eq := by
      intro place hplace
      rw [← hgroups] at hplace
      have hgroup : (chunks packetsPerOutput keys)[place]? = some (groupAt keys place) :=
        getElem?_chunks htwo hplace
      refine ⟨groupOutput params redeemingKey (groupAt keys place), ?_, ?_⟩
      · rw [List.getElem?_append_left (by rwa [List.length_map]), List.getElem?_map, hgroup]
        rfl
      · refine classify_oneOf (List.cons_ne_nil _ _) ?_ ?_
        · rw [List.length_cons, groupAt, List.length_take, packetsPerOutput]
          omega
        · -- The keys of the group are among all keys, so the check accepted them.
          refine List.forall_mem_cons.2 ⟨hshape _ h.isKey_redeemingKey, fun key hkey => ?_⟩
          obtain ⟨index, hget⟩ :=
            List.getElem?_of_mem (List.mem_of_mem_drop (List.mem_of_mem_take hkey))
          obtain ⟨closing, -, haccepted, -⟩ := hkeyOf index key hget
          exact hshape key haccepted
    length_group := by
      intro place hplace
      rw [groupCount, ← hlength] at hplace ⊢
      exact length_groupAt keys hplace }

/-- An admissible payload is laid out when **keys are found** for it. -/
theorem Admissible.encodeWith_eq_ok_iff {exodus : Destination} {outs : List Output}
    (h : Admissible isKey params redeemingKey payload exodus) (hpayload : payload ≠ []) :
    encodeWith hash isKey params seed redeemingKey payload = .ok outs ↔
      ∃ keys, payloadKeys hash isKey params.packetSize seed payload = .ok keys ∧
        (chunks packetsPerOutput keys).map (groupOutput params redeemingKey)
          ++ [⟨params.dustValue, exodus.script⟩] = outs := by
  rw [h.encodeWith_eq hpayload]
  cases payloadKeys hash isKey params.packetSize seed payload with
  | error e => simp [Except.map]
  | ok keys => simp [Except.map]

/-- An admissible payload is refused for the **first packet without a key**. -/
theorem Admissible.encodeWith_eq_error_iff {exodus : Destination} {e : EncodeError}
    (h : Admissible isKey params redeemingKey payload exodus) (hpayload : payload ≠ []) :
    encodeWith hash isKey params seed redeemingKey payload = .error e ↔
      ∃ index < packetCount params.packetSize payload,
        (∀ earlier < index, ∃ key,
          IsKeyOf isKey (packetAt hash params.packetSize seed payload earlier) key) ∧
          (∀ closing, isKey (keyWith (packetAt hash params.packetSize seed payload index) closing)
            = false) ∧
            e = .noValidPoint (UInt8.ofNat (index + 1)) := by
  rw [← payloadKeys_eq_error_iff h.two_le h.packetSize_le, h.encodeWith_eq hpayload]
  cases payloadKeys hash isKey params.packetSize seed payload with
  | error e' => simp [Except.map]
  | ok keys => simp [Except.map]

/-- A payload that is laid out is **admissible**. -/
theorem exists_admissible {outs : List Output} (hpayload : payload ≠ [])
    (hencode : encodeWith hash isKey params seed redeemingKey payload = .ok outs) :
    ∃ exodus, Admissible isKey params redeemingKey payload exodus := by
  by_contra hnone
  obtain ⟨e, he, -⟩ := exists_encodeWith_eq_error seed hpayload hnone
  rw [he] at hencode
  cases hencode

/-- Encoding names a packet when **nothing but its key** is wanting. -/
theorem exists_encodeWith_eq_noValidPoint_iff :
    (∃ sequence, encodeWith hash isKey params seed redeemingKey payload
        = .error (.noValidPoint sequence)) ↔
      (∃ exodus, Admissible isKey params redeemingKey payload exodus) ∧
        ∃ index < packetCount params.packetSize payload, ∀ closing,
          isKey (keyWith (packetAt hash params.packetSize seed payload index) closing) = false := by
  by_cases hpayload : payload = []
  · subst hpayload
    refine iff_of_false (fun ⟨sequence, h⟩ => encodeWith_nil_ne_noValidPoint seed sequence h) ?_
    rintro ⟨-, index, hlt, -⟩
    simp [packetCount] at hlt
  constructor
  · rintro ⟨sequence, herror⟩
    by_cases hadmissible : ∃ exodus, Admissible isKey params redeemingKey payload exodus
    · obtain ⟨exodus, h⟩ := hadmissible
      obtain ⟨index, hlt, -, hnone, -⟩ := (h.encodeWith_eq_error_iff hpayload).1 herror
      exact ⟨⟨exodus, h⟩, index, hlt, hnone⟩
    · obtain ⟨e, he, hne⟩ := exists_encodeWith_eq_error seed hpayload hadmissible
      rw [he] at herror
      exact absurd (Except.error.inj herror) (hne sequence)
  · rintro ⟨⟨exodus, h⟩, index, hlt, hnone⟩
    cases hencode : encodeWith hash isKey params seed redeemingKey payload with
    | error e =>
      obtain ⟨first, -, -, -, rfl⟩ := (h.encodeWith_eq_error_iff hpayload).1 hencode
      exact ⟨_, rfl⟩
    | ok outs =>
      -- Outputs hold a key for every packet, and so for this one.
      obtain ⟨keys, hkeys, -⟩ := (h.encodeWith_eq_ok_iff hpayload).1 hencode
      obtain ⟨hlength, hkeyOf⟩ := (payloadKeys_eq_ok_iff h.two_le h.packetSize_le).1 hkeys
      rw [← hlength] at hlt
      obtain ⟨closing, hkey, haccepted, -⟩ := hkeyOf index _ (List.getElem?_eq_getElem hlt)
      rw [hkey, hnone closing] at haccepted
      cases haccepted

/-- **The shape of laid-out packets.** Whatever hash makes the keystream and whatever check decides
which serialised keys are valid, a payload that is laid out has one key for each packet, in the
order of the packets and with the least closing byte that the check accepts, and its outputs are
bare multisig of the redeeming key and two of these, or of one in the end, followed by the Exodus
output. An admissible payload is refused only for the first packet for which no closing byte is
accepted. The encoder uses SHA-256 and the check of public keys. -/
theorem encode_layout (hash : Bytes → FixedBytes 32)
    (hshape : ∀ key, isKey key = true → Secp256k1.hasKeyShape key = true) (params : Params)
    (seed : String) (redeemingKey payload : Bytes) :
    (payload ≠ [] → ∀ outs, encodeWith hash isKey params seed redeemingKey payload = .ok outs →
      ∃ exodus keys, Admissible isKey params redeemingKey payload exodus ∧
        Layout hash isKey params seed redeemingKey payload exodus keys outs) ∧
    ((∃ sequence, encodeWith hash isKey params seed redeemingKey payload
        = .error (.noValidPoint sequence)) ↔
      (∃ exodus, Admissible isKey params redeemingKey payload exodus) ∧
        ∃ index < packetCount params.packetSize payload, ∀ closing,
          isKey (keyWith (packetAt hash params.packetSize seed payload index) closing) = false) ∧
    (payload ≠ [] → ∀ exodus, Admissible isKey params redeemingKey payload exodus → ∀ e,
      encodeWith hash isKey params seed redeemingKey payload = .error e ↔
        ∃ index < packetCount params.packetSize payload,
          (∀ earlier < index, ∃ key,
            IsKeyOf isKey (packetAt hash params.packetSize seed payload earlier) key) ∧
            (∀ closing, isKey (keyWith (packetAt hash params.packetSize seed payload index) closing)
              = false) ∧
              e = .noValidPoint (UInt8.ofNat (index + 1))) ∧
    encodeWith Sha256.digest Secp256k1.isPublicKey params seed redeemingKey payload
      = encode params seed redeemingKey payload := by
  refine ⟨?_, exists_encodeWith_eq_noValidPoint_iff, ?_, encodeWith_eq_encode ..⟩
  · intro hpayload outs hencode
    obtain ⟨exodus, h⟩ := exists_admissible hpayload hencode
    obtain ⟨keys, hkeys, rfl⟩ := (h.encodeWith_eq_ok_iff hpayload).1 hencode
    exact ⟨exodus, keys, h, h.layout hshape hkeys⟩
  · exact fun hpayload exodus h e => h.encodeWith_eq_error_iff hpayload

/-- Three packets are laid out in two outputs, the second with one key besides the redeeming key. -/
theorem encode_layout_threePackets :
    (∀ key, Secp256k1.isPublicKey key = true → Secp256k1.hasKeyShape key = true) ∧
      ∃ exodus keys, Admissible Secp256k1.isPublicKey shortPackets someKey threePackets exodus ∧
        Layout Sha256.digest Secp256k1.isPublicKey shortPackets
          "1eA9ctCNq41iLLnQErtTUVdxpRyZ9hZmW" someKey threePackets exodus keys
          threePacketsOutputs := by
  have hshape : ∀ key, Secp256k1.isPublicKey key = true → Secp256k1.hasKeyShape key = true :=
    fun key => Secp256k1.hasKeyShape_of_isPublicKey
  obtain ⟨hlayout, -, -, hencode⟩ := encode_layout Sha256.digest hshape shortPackets
    "1eA9ctCNq41iLLnQErtTUVdxpRyZ9hZmW" someKey threePackets
  rw [encode_threePackets] at hencode
  exact ⟨hshape, hlayout (by decide) _ hencode⟩

end OmniLayer.MultisigCarrier
