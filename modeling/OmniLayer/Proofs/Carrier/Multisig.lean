import OmniLayer.Proofs.Carrier.Decision
import OmniLayer.Proofs.Destination
import OmniLayer.Proofs.Packets
import OmniLayer.Proofs.Parse

/-! # A payload laid out in multisig keys is read back

A key holds a masked packet in bytes that its closing byte never touches, so the reader takes the
packet out and the mask off (`body_eq_of_findKey`). Keys are read in the order in which they were
laid out (`bodies_of_keys`), wherever their outputs stand (`map_key_packetKeys`), and the bodies of
all packets join to the payload, filled up with zeros (`decodeWith_append_eq_ite`). The bound on
payloads cuts nothing off (`LaidOut.length_padToMultiple_le`); when it passes the words, reading
breaks off. The sender seeds the mask, so a parse needs the contribution rule to name the same
sender (`parse_multisig_encode`). All this holds with any hash for the keystream, and with any check
on keys that lets serialised keys through only. -/

namespace OmniLayer.MultisigCarrier

variable {hash : Bytes → FixedBytes 32} {isKey : Bytes → Bool} {params : Params}
  {active : Activation}

/-! ## A packet in a key -/

/-- The key for a masked packet, spelled out. -/
theorem packetKey_eq (packet : Bytes) (closing : Nat) :
    packetKey packet closing
      = 0x02 :: (Bytes.padTo 31 packet ++ [UInt8.ofNat closing]) := by
  rw [packetKey, compressedKeySize, Bytes.padTo_cons, List.cons_append]

/-- The key for a masked packet has the length of a compressed key. -/
theorem length_packetKey {packet : Bytes} (h : packet.length ≤ 31) (closing : Nat) :
    (packetKey packet closing).length = compressedKeySize := by
  rw [packetKey_eq, List.length_cons, List.length_append, Bytes.length_padTo h]
  rfl

/-- The packet stands in its key **behind the header byte**, whatever the closing byte. -/
@[simp] theorem take_packetKey (packet : Bytes) (closing : Nat) :
    ((packetKey packet closing).drop 1).take packet.length = packet := by
  rw [packetKey_eq, List.drop_one, List.tail_cons, Bytes.padTo, List.append_assoc]
  exact List.take_left

/-- A key that is found holds the packet and passes the check. -/
theorem exists_of_findKey_eq_ok {packet key : Bytes} {sequence : UInt8}
    (h : findKey isKey packet sequence = .ok key) :
    isKey key = true ∧ ∃ closing, key = packetKey packet closing := by
  unfold findKey at h
  split at h
  · next found hfound =>
    cases h
    obtain ⟨closing, -, hclosing⟩ := List.mem_map.1 (List.mem_of_find?_eq_some hfound)
    exact ⟨List.find?_some hfound, closing, hclosing.symm⟩
  · cases h

/-- The **body** of the packet in a key, given its index: what is left of its bytes without the mask
and the sequence byte. -/
def body (packetSize : Nat) (digests : List (FixedBytes 32)) (key : Bytes) (index : Nat) : Bytes :=
  (Keystream.maskWith? (Keystream.get? digests (index + 1))
    ((key.drop 1).take packetSize)).drop 1

/-- A masked packet has the size of packets. -/
theorem length_maskedPacket {packetSize : Nat} (digests : List (FixedBytes 32)) {piece : Bytes}
    (index : Nat) (h : piece.length + 1 ≤ packetSize) :
    (maskedPacket packetSize digests piece index).length = packetSize := by
  rw [maskedPacket, Keystream.length_maskWith?]
  exact Bytes.length_padTo h

/-- The body of the packet in a key that was found for a piece is the **piece**, filled up with
zeros. -/
theorem body_eq_of_findKey {pieceSize : Nat} {digests : List (FixedBytes 32)}
    {piece key : Bytes} {index : Nat} {sequence : UInt8} (hpiece : piece.length ≤ pieceSize)
    (h : findKey isKey (maskedPacket (pieceSize + 1) digests piece index) sequence = .ok key) :
    body (pieceSize + 1) digests key index = Bytes.padTo pieceSize piece := by
  obtain ⟨-, closing, rfl⟩ := exists_of_findKey_eq_ok h
  set packet := maskedPacket (pieceSize + 1) digests piece index with hpacket
  have hlength : packet.length = pieceSize + 1 :=
    length_maskedPacket digests index (Nat.succ_le_succ hpiece)
  have htake := take_packetKey packet closing
  rw [hlength] at htake
  -- Without the second mask the packet is its sequence byte and the filled piece.
  rw [body, htake, hpacket, maskedPacket, Keystream.maskWith?_maskWith?, Bytes.padTo_cons,
    List.drop_one, List.tail_cons]

/-- The keys of pieces are **read back in order**: each passes the check and has the compressed
length, and the bodies of their packets are the pieces, filled up with zeros. -/
theorem bodies_of_keys {pieceSize : Nat} (hsize : pieceSize + 1 ≤ 31)
    {digests : List (FixedBytes 32)} {pieces keys : List Bytes} {index : Nat}
    (hpieces : ∀ piece ∈ pieces, piece.length ≤ pieceSize)
    (h : (pieces.zipIdx index).mapM (fun (piece, index) =>
      findKey isKey (maskedPacket (pieceSize + 1) digests piece index) (UInt8.ofNat (index + 1)))
        = .ok keys) :
    (∀ key ∈ keys, isKey key = true ∧ key.length = compressedKeySize) ∧
      (keys.zipIdx index).map (fun (key, i) => body (pieceSize + 1) digests key i)
        = pieces.map (Bytes.padTo pieceSize) := by
  -- The index moves on with the pieces, as the sequence number does in the reader.
  induction pieces generalizing index keys with
  | nil =>
    cases h
    exact ⟨fun key hkey => absurd hkey List.not_mem_nil, rfl⟩
  | cons piece pieces ih =>
    obtain ⟨hpiece, hrest⟩ := List.forall_mem_cons.1 hpieces
    rw [List.zipIdx_cons, List.mapM_cons] at h
    obtain ⟨key, hkey, h⟩ := bind_eq_ok_iff.1 h
    obtain ⟨keys, hkeys, h⟩ := bind_eq_ok_iff.1 h
    cases h
    obtain ⟨hall, hbodies⟩ := ih hrest hkeys
    constructor
    · obtain ⟨haccepted, closing, rfl⟩ := exists_of_findKey_eq_ok hkey
      have hlength := length_maskedPacket digests index (Nat.succ_le_succ hpiece)
      exact List.forall_mem_cons.2
        ⟨⟨haccepted, length_packetKey (hlength.le.trans hsize) closing⟩, hall⟩
    · rw [List.zipIdx_cons, List.map_cons, List.map_cons, hbodies]
      dsimp only
      rw [body_eq_of_findKey hpiece hkey]

/-! ## Keys in scripts -/

/-- A serialised key is compressed or not, which its length tells. -/
theorem length_of_hasKeyShape {key : Bytes} (h : Secp256k1.hasKeyShape key = true) :
    key.length = compressedKeySize ∨ key.length = 65 := by
  cases Secp256k1.hasKeyShape_iff.1 h with
  | compressed _ hbody => exact Or.inl (congrArg Nat.succ hbody)
  | uncompressed _ hbody => exact Or.inr (congrArg Nat.succ hbody)

/-- The script that any one of some keys unlocks is read as **bare multisig** of these. -/
theorem classify_oneOf {keys : List Bytes} (hne : keys ≠ []) (hsixteen : keys.length ≤ 16)
    (hkeys : ∀ key ∈ keys, Secp256k1.hasKeyShape key = true) :
    Script.classify (oneOf keys) = .multisig 1 keys := by
  have hlength : ∀ key ∈ keys, key.length ≤ Script.maxPush := by
    intro key hkey
    rcases length_of_hasKeyShape (hkeys key hkey) with h | h
    · rw [h]
      decide
    · rw [h]
      decide
  have hparts : List.Forall₂ Script.IsPush keys (keys.map Script.push) := by
    rw [List.forall₂_map_right_iff, List.forall₂_same]
    exact fun key hkey => Script.isPush_push (hlength key hkey)
  refine Script.classify_of_template ?_
  rw [oneOf, List.flatMap_def, List.cons_append]
  exact .multisig (Nat.le_refl 1) (List.length_pos_iff.2 hne) hsixteen
    (fun key hkey => Secp256k1.hasKeyShape_iff.1 (hkeys key hkey)) hparts

/-- The keys of the packets in an output. -/
def keysIn (active : Activation) (output : Output) : List Bytes :=
  (keysOf active output 0).map PacketKey.key

/-- The keys of the packets in an output do not depend on where it stands. -/
@[simp] theorem map_key_keysOf (output : Output) (vout : Nat) :
    (keysOf active output vout).map PacketKey.key = keysIn active output := by
  unfold keysIn keysOf
  cases output.scriptClass with
  | multisig required keys =>
    dsimp only
    by_cases hactive : active.multisig = true
    · rw [if_pos hactive, if_pos hactive, List.map_map, List.map_map]
      rfl
    · rw [if_neg hactive, if_neg hactive]
  | _ => rfl

/-- The keys of the packets in outputs are those in each of them. -/
@[simp] theorem map_key_packetKeys (outputs : List Output) :
    (packetKeys active outputs).map PacketKey.key = outputs.flatMap (keysIn active) := by
  -- Places are counted from any start, as they are behind the first output.
  have hfrom : ∀ start, ((outputs.zipIdx start).flatMap fun entry =>
      keysOf active entry.1 entry.2).map PacketKey.key = outputs.flatMap (keysIn active) := by
    induction outputs with
    | nil => exact fun _ => rfl
    | cons output outputs ih =>
      intro start
      rw [List.zipIdx_cons, List.flatMap_cons, List.map_append, ih, map_key_keysOf,
        List.flatMap_cons]
  exact hfrom 0

/-- An output that is not bare multisig holds no packets. -/
theorem keysIn_eq_nil {output : Output} (h : ¬output.IsBareMultisig) :
    keysIn active output = [] := by
  unfold keysIn keysOf
  split
  · next required keys hclass => exact absurd ⟨required, keys, hclass⟩ h
  · rfl

/-- The packets in a recognised bare multisig output stand in all keys but the first. -/
theorem keysIn_eq_tail {output : Output} {required : Nat} {keys : List Bytes}
    (hactive : active.multisig = true) (h : output.scriptClass = .multisig required keys) :
    keysIn active output = keys.tail := by
  rw [keysIn, keysOf, h]
  dsimp only
  rw [if_pos hactive, List.map_map, List.map_drop]
  exact (congrArg (List.drop 1) (List.zipIdx_map_fst 0 keys)).trans List.drop_one

/-- An output that pays a destination holds no packets. -/
@[simp] theorem keysIn_script (value : UInt64) (destination : Destination) :
    keysIn active ⟨value, destination.script⟩ = [] := by
  refine keysIn_eq_nil ?_
  rintro ⟨required, keys, hclass⟩
  cases destination <;> simp [Output.scriptClass, Destination.script] at hclass

/-! ## Reading laid-out outputs among others -/

/-- What **laying out** a payload in keys amounts to: the sizes fit, the keys hold the pieces, and
the outputs hold the keys in groups, followed by the Exodus output. -/
structure LaidOut (hash : Bytes → FixedBytes 32) (isKey : Bytes → Bool) (params : Params)
    (seed : String) (redeemingKey payload : Bytes) (exodus : Destination) (pieceSize : Nat)
    (keys : List Bytes) (outs : List Output) : Prop where
  /-- A packet is a sequence byte and a piece. -/
  packetSize_eq : params.packetSize = pieceSize + 1
  /-- A piece is not empty. -/
  pieceSize_pos : 0 < pieceSize
  /-- A packet leaves the closing byte of its key alone. -/
  packetSize_le : pieceSize + 1 ≤ 31
  /-- A word can count what the packets hold. -/
  isWord : params.maxPackets * pieceSize < wordCount
  /-- The packets that are allowed hold the payload. -/
  length_le : payload.length ≤ params.maxPackets * pieceSize
  /-- The redeeming key passes the check. -/
  isKey_redeemingKey : isKey redeemingKey = true
  /-- The keys hold the pieces. -/
  payloadKeys_eq : payloadKeys hash isKey params.packetSize seed payload = .ok keys
  /-- The outputs hold the keys. -/
  outs_eq : outs = (chunks packetsPerOutput keys).map (groupOutput params redeemingKey)
    ++ [⟨params.dustValue, exodus.script⟩]

/-- A payload that is encoded, and not empty, is laid out in some keys. -/
theorem exists_laidOut {seed : String} {redeemingKey payload : Bytes} {exodus : Destination}
    {outs : List Output} (hexodus : params.exodusDestination? = some exodus)
    (hpayload : payload ≠ [])
    (h : encodeWith hash isKey params seed redeemingKey payload = .ok outs) :
    ∃ pieceSize keys,
      LaidOut hash isKey params seed redeemingKey payload exodus pieceSize keys outs := by
  have hempty : ¬payload.isEmpty = true := fun hnil => hpayload (List.isEmpty_iff.1 hnil)
  unfold encodeWith at h
  rw [hexodus] at h
  dsimp only at h
  rw [if_neg hempty] at h
  by_cases hsize : params.packetSize < 2 ∨ params.packetSize > compressedKeySize - 2
  · rw [if_pos hsize] at h
    cases h
  rw [if_neg hsize] at h
  rcases Nat.lt_or_ge (params.maxPackets * (params.packetSize - 1)) wordCount with hword | hword
  · rw [wordProduct?_of_lt hword] at h
    dsimp only at h
    by_cases hlength : payload.length > params.maxPackets * (params.packetSize - 1)
    · rw [if_pos hlength] at h
      cases h
    rw [if_neg hlength] at h
    by_cases hredeeming : isKey redeemingKey = true
    · rw [if_neg (not_not.2 hredeeming)] at h
      obtain ⟨keys, hkeys, h⟩ := bind_eq_ok_iff.1 h
      cases h
      have hkeySize : compressedKeySize - 2 = 31 := rfl
      exact ⟨params.packetSize - 1, keys, by omega, by omega, by omega, hword,
        Nat.le_of_not_lt hlength, hredeeming, hkeys, rfl⟩
    · rw [if_pos hredeeming] at h
      cases h
  · rw [wordProduct?_of_le hword] at h
    cases h

/-- Keys that are long enough give the **bytes behind their header**. -/
theorem mapM_chunk_of_long {packetSize : Nat} {keys : List PacketKey}
    (h : ∀ key ∈ keys, packetSize + 1 ≤ key.key.length) :
    keys.mapM (chunk packetSize) = .ok (keys.map fun key => (key.key.drop 1).take packetSize) :=
  mapM_eq_ok_map fun key hkey => if_pos (h key hkey)

/-- Keys that are long enough, and no more than are allowed, hold **packets** with the bodies of the
keys. -/
theorem exists_packetsWith_eq_ok {seed : String} {outputs : List Output} {keys : List Bytes}
    (hkeys : (packetKeys active outputs).map PacketKey.key = keys)
    (hmax : keys.length ≤ params.maxPackets)
    (hlong : ∀ key ∈ keys, params.packetSize + 1 ≤ key.length) :
    ∃ packets, packetsWith hash params active seed outputs = .ok packets ∧
      packets.flatMap Packet.data = keys.zipIdx.flatMap fun (key, i) =>
        body params.packetSize (Keystream.digestsWith hash seed keys.length) key i := by
  subst hkeys
  set found := packetKeys active outputs with hfound
  rw [List.length_map] at hmax
  rw [packetsWith, ← hfound, List.take_of_length_le hmax,
    mapM_chunk_of_long fun key hkey => hlong _ (List.mem_map_of_mem hkey)]
  refine ⟨_, rfl, ?_⟩
  rw [← List.map_prod_left_eq_zip, List.zipIdx_map, List.zipIdx_map, List.map_map,
    List.flatMap_map, List.flatMap_map, List.length_map, List.length_map]
  rfl

/-- When the packets are read, the payload is what they carry **up to the bound**, and without a
bound reading breaks off. -/
theorem decodeWith_eq_ite {seed : String} {outputs : List Output} {packets : List Packet}
    (h : packetsWith hash params active seed outputs = .ok packets) :
    decodeWith hash params active seed outputs
      = if params.maxPackets * params.packetSize < wordCount then
          .ok ((packets.flatMap Packet.data).take (params.maxPackets * params.packetSize))
        else .error .overflow := by
  rw [decodeWith, h]
  by_cases hword : params.maxPackets * params.packetSize < wordCount
  · rw [if_pos hword, Params.maxPayloadSize?_of_lt hword]
    rfl
  · rw [if_neg hword, Params.maxPayloadSize?_of_le (Nat.not_lt.1 hword)]
    rfl

namespace LaidOut

variable {seed : String} {redeemingKey payload : Bytes} {exodus : Destination} {pieceSize : Nat}
  {keys : List Bytes} {before after outs : List Output}

/-- The keys pass the check and have the compressed length, with the pieces as bodies. -/
theorem bodies
    (h : LaidOut hash isKey params seed redeemingKey payload exodus pieceSize keys outs) :
    (∀ key ∈ keys, isKey key = true ∧ key.length = compressedKeySize) ∧
      keys.zipIdx.map (fun (key, i) => body (pieceSize + 1)
          (Keystream.digestsWith hash seed (chunks pieceSize payload).length) key i)
        = (chunks pieceSize payload).map (Bytes.padTo pieceSize) := by
  have hkeys := h.payloadKeys_eq
  rw [payloadKeys, h.packetSize_eq, Nat.add_sub_cancel] at hkeys
  exact bodies_of_keys h.packetSize_le
    (fun _ hpiece => length_le_of_mem_chunks h.pieceSize_pos hpiece) hkeys

/-- There is one key for each piece. -/
theorem length_keys
    (h : LaidOut hash isKey params seed redeemingKey payload exodus pieceSize keys outs) :
    keys.length = (chunks pieceSize payload).length := by
  have hlength := congrArg List.length h.bodies.2
  rwa [List.length_map, List.length_zipIdx, List.length_map] at hlength

/-- The output for a group of the keys is bare multisig of the redeeming key and the group. -/
theorem scriptClass_groupOutput
    (hshape : ∀ key, isKey key = true → Secp256k1.hasKeyShape key = true)
    (h : LaidOut hash isKey params seed redeemingKey payload exodus pieceSize keys outs)
    {group : List Bytes} (hgroup : group ∈ chunks packetsPerOutput keys) :
    (groupOutput params redeemingKey group).scriptClass = .multisig 1 (redeemingKey :: group) := by
  have hlength : group.length ≤ 2 := length_le_of_mem_chunks Nat.two_pos hgroup
  refine classify_oneOf (List.cons_ne_nil _ _) (by rw [List.length_cons]; omega) ?_
  refine List.forall_mem_cons.2 ⟨hshape _ h.isKey_redeemingKey, ?_⟩
  intro key hkey
  have hmem : key ∈ keys := by
    rw [← flatten_chunks packetsPerOutput keys]
    exact List.mem_flatten_of_mem hgroup hkey
  exact hshape key (h.bodies.1 key hmem).1

/-- The outputs hold the packet keys in order. -/
theorem flatMap_keysIn (hshape : ∀ key, isKey key = true → Secp256k1.hasKeyShape key = true)
    (h : LaidOut hash isKey params seed redeemingKey payload exodus pieceSize keys outs)
    (hactive : active.multisig = true) : outs.flatMap (keysIn active) = keys := by
  have hgroups : ((chunks packetsPerOutput keys).map (groupOutput params redeemingKey)).map
      (keysIn active) = chunks packetsPerOutput keys := by
    rw [List.map_map]
    refine (List.map_congr_left fun group hgroup => ?_).trans (List.map_id _)
    exact keysIn_eq_tail hactive (h.scriptClass_groupOutput hshape hgroup)
  rw [h.outs_eq, List.flatMap_append, List.flatMap_singleton, keysIn_script, List.append_nil,
    List.flatMap_def, hgroups, flatten_chunks]

/-- The bound on payloads counts the sequence bytes too, so it **cuts nothing off**. -/
theorem length_padToMultiple_le
    (h : LaidOut hash isKey params seed redeemingKey payload exodus pieceSize keys outs) :
    (Bytes.padToMultiple pieceSize payload).length ≤ params.maxPackets * params.packetSize := by
  rw [h.packetSize_eq]
  exact (Bytes.length_padToMultiple_le h.pieceSize_pos h.length_le).trans
    (Nat.mul_le_mul_left _ (Nat.le_succ _))

/-- **Laid-out packets are read** among outputs that are not bare multisig, unless the bound on
payloads passes the words. -/
theorem decodeWith_append_eq_ite
    (hshape : ∀ key, isKey key = true → Secp256k1.hasKeyShape key = true)
    (h : LaidOut hash isKey params seed redeemingKey payload exodus pieceSize keys outs)
    (hactive : active.multisig = true) (haround : ∀ o ∈ before ++ after, ¬o.IsBareMultisig) :
    decodeWith hash params active seed (before ++ outs ++ after)
      = if params.maxPackets * params.packetSize < wordCount then
          .ok (Bytes.padToMultiple pieceSize payload)
        else .error .overflow := by
  have hkeys : (packetKeys active (before ++ outs ++ after)).map PacketKey.key = keys := by
    rw [map_key_packetKeys, flatMap_around fun o ho => keysIn_eq_nil (haround o ho),
      h.flatMap_keysIn hshape hactive]
  have hmax : (chunks pieceSize payload).length ≤ params.maxPackets :=
    length_chunks_le h.pieceSize_pos h.length_le
  have hlong : ∀ key ∈ keys, params.packetSize + 1 ≤ key.length := by
    intro key hkey
    rw [(h.bodies.1 key hkey).2, h.packetSize_eq]
    exact Nat.succ_le_succ (h.packetSize_le.trans (by decide))
  have hpayload : (keys.zipIdx.flatMap fun (key, i) => body params.packetSize
      (Keystream.digestsWith hash seed keys.length) key i)
        = Bytes.padToMultiple pieceSize payload := by
    rw [List.flatMap_def, h.packetSize_eq, h.length_keys, h.bodies.2,
      Bytes.flatten_map_padTo_chunks h.pieceSize_pos]
  obtain ⟨packets, hpackets, hdata⟩ :=
    exists_packetsWith_eq_ok hkeys (h.length_keys.trans_le hmax) hlong
  rw [decodeWith_eq_ite hpackets, hdata, hpayload, List.take_of_length_le h.length_padToMultiple_le]

/-- The outputs are bare multisig or pay Exodus, and none is null data. -/
theorem not_isNullData (hshape : ∀ key, isKey key = true → Secp256k1.hasKeyShape key = true)
    (h : LaidOut hash isKey params seed redeemingKey payload exodus pieceSize keys outs) :
    ∀ o ∈ outs, ¬o.IsNullData := by
  rintro o ho ⟨pushes, hclass⟩
  rw [h.outs_eq] at ho
  rcases List.mem_append.1 ho with ho | ho
  · obtain ⟨group, hgroup, rfl⟩ := List.mem_map.1 ho
    rw [h.scriptClass_groupOutput hshape hgroup] at hclass
    cases hclass
  · rw [List.mem_singleton.1 ho] at hclass
    cases exodus <;> simp [Output.scriptClass, Destination.script] at hclass

/-- A payload that is not empty has a piece, so a key, so a group with its **bare multisig**. -/
theorem exists_isMultisig
    (hshape : ∀ key, isKey key = true → Secp256k1.hasKeyShape key = true)
    (h : LaidOut hash isKey params seed redeemingKey payload exodus pieceSize keys outs)
    (hpayload : payload ≠ []) (hactive : active.multisig = true) :
    ∃ o ∈ outs, o.isMultisig active = true := by
  have hkeys : keys ≠ [] := by
    rw [← List.length_pos_iff, h.length_keys, List.length_pos_iff]
    exact chunks_ne_nil pieceSize hpayload
  obtain ⟨group, hgroup⟩ := List.exists_mem_of_ne_nil _ (chunks_ne_nil packetsPerOutput hkeys)
  refine ⟨groupOutput params redeemingKey group, ?_, ?_⟩
  · rw [h.outs_eq]
    exact List.mem_append_left _ (List.mem_map_of_mem hgroup)
  · exact Output.isMultisig_iff.2 ⟨⟨_, _, h.scriptClass_groupOutput hshape hgroup⟩, hactive⟩

/-- Laid-out outputs among others that are neither null data nor bare multisig use the **multisig**
carrier, if the Exodus output is recognised and there is a packet. -/
theorem ofOutputs_append (hshape : ∀ key, isKey key = true → Secp256k1.hasKeyShape key = true)
    (h : LaidOut hash isKey params seed redeemingKey payload exodus pieceSize keys outs)
    (hpayload : payload ≠ []) (hactive : active.multisig = true) {exodusHash : Hash160}
    (hhash : exodus = .pubkeyHash exodusHash)
    (hexodus : params.exodusDestination? = some exodus)
    (haround : ∀ o ∈ before ++ after, ¬o.IsNullData) :
    Decision.ofOutputs params active (before ++ outs ++ after) = .carrier .multisig := by
  subst hhash
  have hnull : ∀ o ∈ before ++ outs ++ after, ¬o.IsNullData :=
    forall_mem_around (h.not_isNullData hshape) haround
  have hpays : ∃ o ∈ before ++ outs ++ after, o.paysExodus params = true := by
    refine ⟨⟨params.dustValue, Destination.script (.pubkeyHash exodusHash)⟩, mem_around ?_,
      Output.paysExodus_iff.2 ⟨exodusHash, hexodus, rfl⟩⟩
    rw [h.outs_eq]
    exact List.mem_append_right _ List.mem_cons_self
  obtain ⟨o, ho, hmultisig⟩ := h.exists_isMultisig hshape hpayload hactive
  rw [Decision.ofOutputs_of_paysExodus hnull hpays, if_pos ⟨o, mem_around ho, hmultisig⟩]

end LaidOut

/-- A bound on payloads that is a word **stays one** without the sequence bytes. -/
theorem pieces_lt_wordCount (hword : params.maxPackets * params.packetSize < wordCount) :
    params.maxPackets * (params.packetSize - 1) < wordCount :=
  (Nat.mul_le_mul_left _ (Nat.sub_le _ _)).trans_lt hword

/-- Without a payload the Exodus output is laid out **alone**. -/
theorem encodeWith_nil {exodus : Destination} (hexodus : params.exodusDestination? = some exodus)
    (seed : String) (redeemingKey : Bytes) :
    encodeWith hash isKey params seed redeemingKey []
      = .ok [⟨params.dustValue, exodus.script⟩] := by
  rw [encodeWith, hexodus]
  rfl

/-- Without a payload public keys are not wanted either. -/
theorem encode_nil {exodus : Destination} (hexodus : params.exodusDestination? = some exodus)
    (seed : String) (redeemingKey : Bytes) :
    encode params seed redeemingKey [] = .ok [⟨params.dustValue, exodus.script⟩] := by
  rw [← encodeWith_eq_encode, encodeWith_nil hexodus]

/-- **Laid-out outputs are read** among others that are not bare multisig: what is read is the
payload, filled up with zeros to a whole number of pieces. When the bound on payloads passes the
words, reading breaks off. -/
theorem decodeWith_append_eq_ite {seed : String} {redeemingKey payload : Bytes}
    {exodus : Destination} {before after outs : List Output}
    (hshape : ∀ key, isKey key = true → Secp256k1.hasKeyShape key = true)
    (hexodus : params.exodusDestination? = some exodus) (hactive : active.multisig = true)
    (hencode : encodeWith hash isKey params seed redeemingKey payload = .ok outs)
    (haround : ∀ o ∈ before ++ after, ¬o.IsBareMultisig) :
    decodeWith hash params active seed (before ++ outs ++ after)
      = if params.maxPackets * params.packetSize < wordCount then
          .ok (Bytes.padToMultiple (params.packetSize - 1) payload)
        else .error .overflow := by
  by_cases hpayload : payload = []
  · -- The Exodus output holds no packets, so nothing is read.
    rw [hpayload, encodeWith_nil hexodus] at hencode
    obtain rfl := Except.ok.inj hencode
    have hkeys : (packetKeys active (before ++ [⟨params.dustValue, exodus.script⟩] ++ after)).map
        PacketKey.key = [] := by
      rw [map_key_packetKeys, flatMap_around fun o ho => keysIn_eq_nil (haround o ho),
        List.flatMap_singleton, keysIn_script]
    obtain ⟨packets, hpackets, hdata⟩ := exists_packetsWith_eq_ok hkeys (Nat.zero_le _)
      fun _ h => absurd h List.not_mem_nil
    rw [decodeWith_eq_ite hpackets, hdata, hpayload, Bytes.padToMultiple_of_dvd (Nat.dvd_zero _),
      List.zipIdx_nil, List.flatMap_nil, List.take_nil]
  · obtain ⟨pieceSize, keys, hlaid⟩ := exists_laidOut hexodus hpayload hencode
    rw [hlaid.decodeWith_append_eq_ite hshape hactive haround, hlaid.packetSize_eq,
      Nat.add_sub_cancel]

/-- What was laid out in public keys is read, unless the bound on payloads passes the words. -/
theorem decode_append_eq_ite {seed : String} {redeemingKey payload : Bytes} {exodus : Destination}
    {before after outs : List Output} (hexodus : params.exodusDestination? = some exodus)
    (hactive : active.multisig = true)
    (hencode : encode params seed redeemingKey payload = .ok outs)
    (haround : ∀ o ∈ before ++ after, ¬o.IsBareMultisig) :
    decode params active seed (before ++ outs ++ after)
      = if params.maxPackets * params.packetSize < wordCount then
          .ok (Bytes.padToMultiple (params.packetSize - 1) payload)
        else .error .overflow := by
  rw [← encodeWith_eq_encode] at hencode
  rw [← decodeWith_eq_decode]
  exact decodeWith_append_eq_ite (fun _ => Secp256k1.hasKeyShape_of_isPublicKey) hexodus hactive
    hencode haround

/-- Laid-out outputs are read **whole**, if the bound on payloads is a word. -/
theorem decode_append {seed : String} {redeemingKey payload : Bytes} {exodus : Destination}
    {before after outs : List Output} (hexodus : params.exodusDestination? = some exodus)
    (hword : params.maxPackets * params.packetSize < wordCount) (hactive : active.multisig = true)
    (hencode : encode params seed redeemingKey payload = .ok outs)
    (haround : ∀ o ∈ before ++ after, ¬o.IsBareMultisig) :
    decode params active seed (before ++ outs ++ after)
      = .ok (Bytes.padToMultiple (params.packetSize - 1) payload) := by
  rw [decode_append_eq_ite hexodus hactive hencode haround, if_pos hword]

/-! ## Parsing -/

/-- What is laid out with any **hash** for the keystream, in keys that pass any check that takes
serialised keys only, is parsed back with that hash. -/
theorem exists_parseWith_of_encodeWith {hash : Bytes → FixedBytes 32} {isKey : Bytes → Bool}
    {params : Params} {coins : CoinLookup} {height time : UInt32}
    {tx : Transaction} {sender : String} {redeemingKey payload : Bytes}
    {outs before after : List Output} {exodus : Hash160}
    (hshape : ∀ key, isKey key = true → Secp256k1.hasKeyShape key = true)
    (hword : params.maxPackets * params.packetSize < wordCount)
    (hexodus : params.exodusDestination? = some (.pubkeyHash exodus)) (hpayload : payload ≠ [])
    (hencode : encodeWith hash isKey params sender redeemingKey payload = .ok outs)
    (hheight : params.activation.multisigHeight ≤ height)
    (htx : tx.outputs = before ++ outs ++ after)
    (haround : ∀ o ∈ before ++ after, ¬o.IsNullData ∧ ¬o.IsBareMultisig)
    (hsender : Sender.contributionSum params (params.activation.activeAt height) coins tx.previous
      = .ok sender) :
    ∃ fee, Fee.ofTransaction coins tx = .ok fee ∧
      Transaction.parseWith hash params coins height time tx
        = .ok (.message ⟨tx.txid.text, sender,
            Receiver.identify? params (params.activation.activeAt height) sender tx.outputs, fee,
            Bytes.padToMultiple (params.packetSize - 1) payload, .multisig, height, time⟩) := by
  obtain ⟨pieceSize, keys, hlaid⟩ := exists_laidOut hexodus hpayload hencode
  have hactive : (params.activation.activeAt height).multisig = true := decide_eq_true hheight
  have hdecision : Decision.ofOutputs params (params.activation.activeAt height) tx.outputs
      = .carrier .multisig := by
    rw [htx]
    exact hlaid.ofOutputs_append hshape hpayload hactive rfl hexodus fun o ho => (haround o ho).1
  have hdecode : decodeWith hash params (params.activation.activeAt height) sender tx.outputs
      = .ok (Bytes.padToMultiple (params.packetSize - 1) payload) := by
    rw [htx, decodeWith_append_eq_ite hshape hexodus hactive hencode fun o ho => (haround o ho).2,
      if_pos hword]
  have hcontent : Transaction.contentWith hash params (params.activation.activeAt height) sender
      tx.outputs .multisig = .ok (Bytes.padToMultiple (params.packetSize - 1) payload,
        Receiver.identify? params (params.activation.activeAt height) sender tx.outputs) := by
    rw [Transaction.contentWith, hdecode]
    rfl
  obtain ⟨fee, hfee⟩ :=
    Fee.exists_ofTransaction_eq_ok (Sender.exists_coin_of_contributionSum hsender)
  exact ⟨fee, hfee, Transaction.parseWith_eq_message hdecision hsender hcontent hfee⟩

/-- **A payload laid out in keys is parsed back**, filled up with zeros to a whole number of pieces,
whatever outputs stand around it that are neither null data nor bare multisig. The contribution rule
must name the sender with which the packets were masked. The receiver is told from all outputs. So
it is with SHA-256 and the check on public keys, which are what runs, and with any other hash for
the keystream and any other check on keys, as long as that accepts serialised keys only. -/
theorem parse_multisig_encode {params : Params} {coins : CoinLookup} {height time : UInt32}
    {tx : Transaction} {sender : String} {redeemingKey payload : Bytes}
    {before after : List Output} {exodus : Hash160}
    (hword : params.maxPackets * params.packetSize < wordCount)
    (hexodus : params.exodusDestination? = some (.pubkeyHash exodus)) (hpayload : payload ≠ [])
    (hheight : params.activation.multisigHeight ≤ height)
    (haround : ∀ o ∈ before ++ after, ¬o.IsNullData ∧ ¬o.IsBareMultisig)
    (hsender : Sender.contributionSum params (params.activation.activeAt height) coins tx.previous
      = .ok sender) :
    (∀ outs, encode params sender redeemingKey payload = .ok outs →
      tx.outputs = before ++ outs ++ after →
      ∃ fee, Fee.ofTransaction coins tx = .ok fee ∧
        Transaction.parse params coins height time tx
          = .ok (.message ⟨tx.txid.text, sender,
              Receiver.identify? params (params.activation.activeAt height) sender tx.outputs, fee,
              Bytes.padToMultiple (params.packetSize - 1) payload, .multisig, height, time⟩)) ∧
    ∀ (hash : Bytes → FixedBytes 32) (isKey : Bytes → Bool),
      (∀ key, isKey key = true → Secp256k1.hasKeyShape key = true) →
      ∀ outs, encodeWith hash isKey params sender redeemingKey payload = .ok outs →
      tx.outputs = before ++ outs ++ after →
      ∃ fee, Fee.ofTransaction coins tx = .ok fee ∧
        Transaction.parseWith hash params coins height time tx
          = .ok (.message ⟨tx.txid.text, sender,
              Receiver.identify? params (params.activation.activeAt height) sender tx.outputs, fee,
              Bytes.padToMultiple (params.packetSize - 1) payload, .multisig, height, time⟩) := by
  constructor
  · intro outs hencode htx
    rw [← encodeWith_eq_encode] at hencode
    rw [← Transaction.parseWith_eq_parse]
    exact exists_parseWith_of_encodeWith (fun _ => Secp256k1.hasKeyShape_of_isPublicKey) hword
      hexodus hpayload hencode hheight htx haround hsender
  · intro hash isKey hshape outs hencode htx
    exact exists_parseWith_of_encodeWith hshape hword hexodus hpayload hencode hheight htx haround
      hsender

/-- Parameters with packets of seven bytes behind the sequence byte. -/
def shortPackets : Params := { Params.bitcoin with packetSize := 8 }

/-- A public key. -/
def someKey : Bytes :=
  [0x02, 0x79, 0xbe, 0x66, 0x7e, 0xf9, 0xdc, 0xbb, 0xac, 0x55, 0xa0, 0x62, 0x95, 0xce, 0x87, 0x0b,
    0x07, 0x02, 0x9b, 0xfc, 0xdb, 0x2d, 0xce, 0x28, 0xd9, 0x59, 0xf2, 0x81, 0x5b, 0x16, 0xf8, 0x17,
    0x98]

/-- A payload for three packets, of which the last is filled up. -/
def threePackets : Bytes := [0, 0, 0, 0, 0, 0, 0, 2, 0, 0, 0, 0, 5, 0xf5, 0xe1, 0]

/-- The two outputs with the packets, and the Exodus output. -/
def threePacketsOutputs : List Output :=
  [groupOutput shortPackets someKey [packetKey [5, 76, 6, 23, 125, 33, 207, 6] 3,
      packetKey [91, 70, 143, 168, 116, 141, 45, 65] 0],
    groupOutput shortPackets someKey [packetKey [135, 72, 23, 151, 155, 119, 50, 76] 0],
    ⟨5460, Script.payToPubkeyHash Params.mainExodus⟩]

/-- An output that pays a receiver. -/
def receiverOutput : Output := ⟨5460, Script.payToScriptHash (FixedBytes.zero 20)⟩

/-- A transaction with the receiver's output in front and change for the sender at the end. -/
def threePacketsTransaction : Transaction :=
  .spending ([receiverOutput] ++ threePacketsOutputs ++ [Transaction.spentCoin])

/-- The payload is laid out in these outputs. -/
theorem encode_threePackets :
    encode shortPackets "1eA9ctCNq41iLLnQErtTUVdxpRyZ9hZmW" someKey threePackets
      = .ok threePacketsOutputs := by
  decide +kernel

/-- Two packets in one output and one in the next are read, with five zeros behind the payload. -/
theorem parse_multisig_encode_threePackets :
    encode shortPackets "1eA9ctCNq41iLLnQErtTUVdxpRyZ9hZmW" someKey threePackets
        = .ok threePacketsOutputs ∧
      ∃ fee, Transaction.parse shortPackets Transaction.spentCoins 330000 0 threePacketsTransaction
        = .ok (.message ⟨threePacketsTransaction.txid.text, "1eA9ctCNq41iLLnQErtTUVdxpRyZ9hZmW",
            some "31h1vYVSYuKP6AhS86fbRdMw9XHieotbST", fee,
            threePackets ++ [0, 0, 0, 0, 0], .multisig, 330000, 0⟩) := by
  have hexodus : shortPackets.exodusDestination? = some (.pubkeyHash Params.mainExodus) :=
    Params.exodusDestination?_bitcoin
  have hencode := encode_threePackets
  have hheight : shortPackets.activation.multisigHeight ≤ 330000 := by decide
  have haround : ∀ o ∈ [receiverOutput] ++ [Transaction.spentCoin],
      ¬o.IsNullData ∧ ¬o.IsBareMultisig := by
    have hreceiver : receiverOutput.scriptClass = .scriptHash (FixedBytes.zero 20) :=
      Script.classify_payToScriptHash _
    have hchange : Transaction.spentCoin.scriptClass = .pubkeyHash ⟨List.replicate 20 7, rfl⟩ :=
      Script.classify_payToPubkeyHash _
    intro o ho
    unfold Output.IsNullData Output.IsBareMultisig
    rcases List.mem_cons.1 ho with rfl | ho
    · simp [hreceiver]
    · obtain rfl := List.mem_singleton.1 ho
      simp [hchange]
  have hsender : Sender.contributionSum shortPackets (shortPackets.activation.activeAt 330000)
      Transaction.spentCoins threePacketsTransaction.previous
        = .ok "1eA9ctCNq41iLLnQErtTUVdxpRyZ9hZmW" := by
    decide +kernel
  have hreceiver : Receiver.identify? shortPackets (shortPackets.activation.activeAt 330000)
      "1eA9ctCNq41iLLnQErtTUVdxpRyZ9hZmW" threePacketsTransaction.outputs
        = some "31h1vYVSYuKP6AhS86fbRdMw9XHieotbST" := by
    decide +kernel
  have hpayload : threePackets ≠ [] := by decide
  obtain ⟨fee, -, hparse⟩ :=
    (parse_multisig_encode (by decide) hexodus hpayload hheight haround hsender).1
      threePacketsOutputs hencode rfl
  rw [hreceiver] at hparse
  exact ⟨hencode, fee, hparse⟩

end OmniLayer.MultisigCarrier
