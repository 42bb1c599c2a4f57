import OmniLayer.Carrier.Request
import OmniLayer.Proofs.Bounds.Script
import OmniLayer.Proofs.Carrier.Reading

/-! # Carriers within bounds

The encoders and the decoders of the three carriers, access by access. What keeps an access in
bounds often stands in another function than the access. The first byte of a hash and the eight
behind it are there because hashes have twenty (`mapM_get_range'`); a piece fits in its packet
because a payload is cut into pieces of one byte less (`packet_eq_ok`), and a packet in its key
because larger packets are refused before (`findPacketKey_eq_ok`); and the marker is cut off pushes
that start with it (`body?_eq_ok`). The sizes come from parameters that need not have been accepted;
only the bound on payloads, and the end of the payload in a hash, must be numbers of a word. -/

namespace OmniLayer.Checked

variable {ε : Type} {params : Params} {active : Activation}

/-- The members at consecutive places are a **part of the list**. -/
theorem mapM_get_range' {α : Type} [Inhabited α] {xs : List α} {start count : Nat}
    (h : start + count ≤ xs.length) :
    ((List.range' start count).mapM (get xs) : Checked ε (List α))
      = .ok ((xs.drop start).take count) := by
  have hget : ∀ place ∈ List.range' start count,
      (get xs place : Checked ε α) = .ok xs[place]! := by
    intro place hplace
    have hbound : place < xs.length := by
      have := List.mem_range'_1.1 hplace
      omega
    exact get_eq_ok (by simp [hbound])
  rw [mapM_eq_ok_map hget]
  refine congrArg Except.ok (List.ext_getElem ?_ fun i hi hi' => ?_)
  · simp only [List.length_map, List.length_range', List.length_take, List.length_drop]
    omega
  · have hbound : start + i < xs.length := by
      rw [List.length_map, List.length_range'] at hi
      omega
    simp [hbound]

/-! ## Addresses -/

namespace AddressCarrier

open OmniLayer.AddressCarrier (Candidate Reading dustOutput)

/-- The candidate that an output makes, if any. -/
def candidate? (active : Activation) (exodus : Option Destination) (output : Output) (vout : Nat) :
    Checked ε (Option Candidate) := do
  let scriptClass ← classify output.script
  if scriptClass.isAllowed active then
    match Destination.ofClass? scriptClass with
    | none => return none
    | some destination =>
      if exodus = some destination then return none
      else return some ⟨vout, destination.hash, output.value⟩
  else return none

/-- Whether a hash **carries a simple send**. -/
def isDataHash (hash : Hash160) : Checked ε Bool := do
  let header ← (List.range' 1 4).mapM (get hash.bytes)
  let id ← (List.range' 5 4).mapM (get hash.bytes)
  return Bytes.toNatBE header == 0 && (Property.ofId? (Bytes.toNatBE id)).isSome

/-- The one data output among candidates. -/
def dataOutput (candidates : List Candidate) : Checked ParseError Candidate := do
  match ← select (fun c => isDataHash c.hash) candidates with
  | [] => throw (.error (.malformedPayload .noDataOutput))
  | [candidate] => return candidate
  | several => throw (.error (.malformedPayload (.severalDataOutputs several.length)))

/-- The receiver's output among the candidates besides the data output. -/
def reference (dataCandidate : Candidate) (others : List Candidate) :
    Checked ParseError Candidate := do
  let first ← get dataCandidate.hash.bytes 0
  match ← select (fun c => do return (← get c.hash.bytes 0) == first + 1) others with
  | [candidate] => return candidate
  | _ =>
    match others.filter fun c => c.value == dataCandidate.value with
    | [candidate] => return candidate
    | several => throw (.error (.malformedPayload (.ambiguousReference several.length)))

/-- **Reads** the payload from outputs. -/
def decode (params : Params) (active : Activation) (outputs : List Output) :
    Checked ParseError Reading := do
  let exodus ← exodusDestination? params
  let candidates ← gather (fun (output, vout) => candidate? active exodus output vout)
    outputs.zipIdx
  let data ← dataOutput candidates
  let reference ← reference data (candidates.filter fun c => c.vout ≠ data.vout)
  let stop ← add wordCount 1 params.addressPacketSize
  let payload ← slice data.hash.bytes 1 (min stop 20)
  return { payload, dataVout := data.vout, referenceVout := reference.vout }

/-- The hash that carries a payload behind a sequence byte. -/
def dataHash (sequence : UInt8) (payload : Bytes) : Checked ε Hash160 := do
  let hash ← fill 20 sequence payload
  fixed 20 hash

/-- **Lays out** a simple send. -/
def encode (params : Params) (receiver : String) (payload : Bytes) :
    Checked EncodeError (List Output) := do
  let max := min params.addressPacketSize 19
  if payload.length > max then throw (.error (.payloadTooLarge payload.length max))
  else if SimpleSend.ofPayload? payload = none then
    throw (.error (.unsupportedAddressPayload payload))
  else
    match ← ofAddress? params.addressVersions receiver with
    | none => throw (.error (.invalidAddress receiver))
    | some receiver =>
      match ← exodusDestination? params with
      | none => throw (.error (.invalidAddress params.exodusAddress))
      | some exodus =>
        let first ← get receiver.hash.bytes 0
        let hash ← dataHash (first - 1) payload
        return [exodus, .pubkeyHash hash, receiver].map (dustOutput params)

/-- An output is classified within its script, so **it makes its candidate**. -/
theorem candidate?_eq_ok (output : Output) (vout : Nat) :
    (candidate? active params.exodusDestination? output vout : Checked ε (Option Candidate))
      = .ok (OmniLayer.AddressCarrier.candidate? params active output vout) := by
  unfold candidate? OmniLayer.AddressCarrier.candidate?
  rw [classify_eq_ok, ok_bind]
  change (if output.scriptClass.isAllowed active then _ else _) = _
  split
  · change (match Destination.ofClass? output.scriptClass with | none => _ | some _ => _) = _
    cases Destination.ofClass? output.scriptClass with
    | none => rfl
    | some destination =>
      dsimp only
      split <;> rfl
  · rfl

/-- The nine bytes that the search looks at are **in a hash**. -/
theorem isDataHash_eq_ok (hash : Hash160) :
    (isDataHash hash : Checked ε Bool) = .ok (OmniLayer.AddressCarrier.isDataHash hash) := by
  have hlength := hash.length_eq
  rw [isDataHash, mapM_get_range' (by omega), ok_bind, mapM_get_range' (by omega), ok_bind]
  rfl

/-- The first byte of a hash is there. -/
theorem get_sequence_eq_ok (hash : Hash160) : (get hash.bytes 0 : Checked ε UInt8)
    = .ok (OmniLayer.AddressCarrier.sequence hash) := by
  have hlength := hash.length_eq
  cases hbytes : hash.bytes with
  | nil => simp [hbytes] at hlength
  | cons first rest =>
    rw [OmniLayer.AddressCarrier.sequence, hbytes]
    rfl

/-- The search for the data output looks at **bytes that hashes have**. -/
@[simp] theorem dataOutput_eq (candidates : List Candidate) :
    dataOutput candidates = reported (OmniLayer.AddressCarrier.dataOutput candidates) := by
  rw [dataOutput, select_eq_ok fun c _ => isDataHash_eq_ok c.hash, ok_bind,
    OmniLayer.AddressCarrier.dataOutput]
  generalize candidates.filter (fun c => OmniLayer.AddressCarrier.isDataHash c.hash) = found
  rcases found with _ | ⟨c, _ | ⟨c', rest⟩⟩ <;> rfl

/-- The searches for the reference look at the **first bytes** of hashes. -/
@[simp] theorem reference_eq (data : Candidate) (others : List Candidate) :
    reference data others = reported (OmniLayer.AddressCarrier.reference data others) := by
  have hselect : ∀ c ∈ others, (do return (← get c.hash.bytes 0)
      == OmniLayer.AddressCarrier.sequence data.hash + 1 : Checked ParseError Bool)
      = .ok (OmniLayer.AddressCarrier.sequence c.hash
        == OmniLayer.AddressCarrier.sequence data.hash + 1) := by
    intro c _
    rw [get_sequence_eq_ok]
    rfl
  rw [reference, get_sequence_eq_ok, ok_bind, select_eq_ok hselect, ok_bind,
    OmniLayer.AddressCarrier.reference]
  -- Both searches end alike, and only the second one is made when the first finds not one.
  generalize others.filter (fun c => OmniLayer.AddressCarrier.sequence c.hash
      == OmniLayer.AddressCarrier.sequence data.hash + 1) = bySequence
  generalize others.filter (fun c => c.value == data.value) = byValue
  rcases bySequence with _ | ⟨c, _ | ⟨c', rest⟩⟩ <;>
    rcases byValue with _ | ⟨d, _ | ⟨d', rest'⟩⟩ <;> rfl

/-- **Outputs are read within the bounds of hashes.** -/
theorem decode_eq (hsize : 1 + params.addressPacketSize < wordCount) (outputs : List Output) :
    decode params active outputs
      = reported (OmniLayer.AddressCarrier.decode params active outputs) := by
  have hcandidates : ∀ entry ∈ outputs.zipIdx,
      (candidate? active params.exodusDestination? entry.1 entry.2 : Checked ParseError _)
        = .ok (OmniLayer.AddressCarrier.candidate? params active entry.1 entry.2) :=
    fun entry _ => candidate?_eq_ok entry.1 entry.2
  have hpayload (hash : Hash160) :
      (slice hash.bytes 1 (min (1 + params.addressPacketSize) 20) : Checked ParseError Bytes)
        = .ok ((hash.bytes.drop 1).take params.addressPacketSize) := by
    have hlength := hash.length_eq
    rw [slice_eq_ok (by omega) (by omega), List.drop_take]
    -- A larger end is cut to the twenty bytes that there are.
    refine congrArg Except.ok (List.take_eq_take_iff.2 ?_)
    rw [List.length_drop]
    omega
  rw [decode, exodusDestination?_eq_ok, ok_bind, gather_eq_ok hcandidates, ok_bind]
  refine bind_eq_reported (dataOutput_eq _) fun data => ?_
  refine bind_eq_reported (reference_eq _ _) fun reference => ?_
  rw [add_eq_ok hsize, ok_bind, hpayload, ok_bind, OmniLayer.AddressCarrier.readingOf_of_lt hsize]
  rfl

/-- A payload of at most nineteen bytes is copied **into the hash**, behind its first byte. -/
theorem dataHash_eq_ok (sequence : UInt8) {payload : Bytes} (h : payload.length ≤ 19) :
    (dataHash sequence payload : Checked ε Hash160)
      = .ok (OmniLayer.AddressCarrier.dataHash sequence payload) := by
  rw [dataHash, fill_eq_ok sequence (Nat.succ_le_succ h), ok_bind]
  refine fixed_eq_ok (FixedBytes.ofBytes?_eq_some.2 ?_)
  rw [OmniLayer.AddressCarrier.bytes_dataHash sequence h, Bytes.padTo_cons]

/-- **A simple send is laid out within the bounds of its hash.** -/
theorem encode_eq (receiver : String) (payload : Bytes) :
    encode params receiver payload
      = reported (OmniLayer.AddressCarrier.encode params receiver payload) := by
  unfold encode OmniLayer.AddressCarrier.encode
  dsimp only
  refine ite_eq_reported (fun _ => rfl) fun hlength => ?_
  refine ite_eq_reported (fun _ => rfl) fun _ => ?_
  rw [ofAddress?_eq_ok, ok_bind]
  change (match params.decodeAddress? receiver with | none => _ | some _ => _) = _
  cases params.decodeAddress? receiver with
  | none => rfl
  | some destination =>
    dsimp only
    rw [exodusDestination?_eq_ok, ok_bind]
    cases params.exodusDestination? with
    | none => rfl
    | some exodus =>
      dsimp only
      rw [get_sequence_eq_ok, ok_bind, dataHash_eq_ok _ (by omega), ok_bind]
      rfl

end AddressCarrier

/-! ## Packets -/

namespace MultisigCarrier

open OmniLayer.MultisigCarrier (PacketKey Packet chunk packet compressedKeySize packetsPerOutput
  oneOf packetKey)

/-- The packet keys of one output. -/
def keysOf (active : Activation) (output : Output) (vout : Nat) : Checked ε (List PacketKey) := do
  match ← classify output.script with
  | .multisig _ keys =>
    return if active.multisig then
      (keys.zipIdx.drop 1).map fun (key, position) => ⟨vout, position, key⟩
    else []
  | _ => return []

/-- Reads the **packets** of the outputs. A key that is too short for one is reported. -/
def packets (params : Params) (active : Activation) (seed : String) (outputs : List Output) :
    Checked ParseError (List Packet) := do
  let keys ← outputs.zipIdx.mapM fun (output, vout) => keysOf active output vout
  let keys := keys.flatten.take params.maxPackets
  let chunks ← keys.mapM fun key => reported (chunk params.packetSize key)
  let digests := Keystream.digests seed chunks.length
  return (keys.zip chunks).zipIdx.map fun ((key, bytes), index) => packet digests key bytes index

/-- **Reads** the payload from outputs. -/
def decode (params : Params) (active : Activation) (seed : String) (outputs : List Output) :
    Checked ParseError Bytes := do
  let packets ← packets params active seed outputs
  let max ← mul wordCount params.maxPackets params.packetSize
  return (packets.flatMap Packet.data).take max

/-- The masked packet of a piece of payload, given its index. -/
def maskedPacket (packetSize : Nat) (digests : List (FixedBytes 32)) (piece : Bytes)
    (index : Nat) : Checked ε Bytes := do
  let packet ← fill packetSize (UInt8.ofNat (index + 1)) piece
  return Keystream.maskWith? (Keystream.get? digests (index + 1)) packet

/-- The first public key that a key becomes with one of some **closing bytes**. -/
def firstKey (key : Bytes) : List Nat → Checked ε (Option Bytes)
  | [] => return none
  | closing :: rest => do
    let key' ← set key (compressedKeySize - 1) (UInt8.ofNat closing)
    if Secp256k1.isPublicKey key' then return some key' else firstKey key rest

/-- The first key for a masked packet that is a **public key**. -/
def findPacketKey (packet : Bytes) (sequence : UInt8) : Checked EncodeError Bytes := do
  let key ← fill compressedKeySize 0x02 packet
  match ← firstKey key (List.range 256) with
  | some key => return key
  | none => throw (.error (.noValidPoint sequence))

/-- The packet keys of pieces of payload, the first of which has the given index. -/
def pieceKeys (packetSize : Nat) (digests : List (FixedBytes 32)) :
    (index : Nat) → List Bytes → Checked EncodeError (List Bytes)
  | _, [] => return []
  | index, piece :: pieces => do
    let packet ← maskedPacket packetSize digests piece index
    let key ← findPacketKey packet (UInt8.ofNat (index + 1))
    let keys ← pieceKeys packetSize digests (index + 1) pieces
    return key :: keys

/-- **Lays out** a payload as multisig outputs, followed by the Exodus output. -/
def encode (params : Params) (seed : String) (redeemingKey payload : Bytes) :
    Checked EncodeError (List Output) := do
  match ← exodusDestination? params with
  | none => throw (.error (.invalidAddress params.exodusAddress))
  | some exodus =>
    let exodusOutput : Output := ⟨params.dustValue, exodus.script⟩
    if payload.isEmpty then return [exodusOutput]
    else if params.packetSize < 2 ∨ params.packetSize > compressedKeySize - 2 then
      throw (.error (.payloadTooLarge params.packetSize (compressedKeySize - 2)))
    else
      let pieceSize ← sub params.packetSize 1
      let max ← mul wordCount params.maxPackets pieceSize
      if payload.length > max then throw (.error (.payloadTooLarge payload.length max))
      else if ¬Secp256k1.isPublicKey redeemingKey then throw (.error (.invalidPubkey redeemingKey))
      else
        let pieces ← pieces pieceSize payload
        let digests := Keystream.digests seed pieces.length
        let keys ← pieceKeys params.packetSize digests 0 pieces
        let groups ← Checked.pieces packetsPerOutput keys
        let outputs := groups.map fun group =>
          (⟨params.dustValue, oneOf (redeemingKey :: group)⟩ : Output)
        let _ ← sub (outputs ++ [exodusOutput]).length 1
        return outputs ++ [exodusOutput]

/-- An output is classified within its script, so **it gives its packet keys**. -/
@[simp] theorem keysOf_eq_ok (output : Output) (vout : Nat) :
    (keysOf active output vout : Checked ε (List PacketKey))
      = .ok (OmniLayer.MultisigCarrier.keysOf active output vout) := by
  rw [keysOf, classify_eq_ok, ok_bind, OmniLayer.MultisigCarrier.keysOf, Output.scriptClass]
  cases Script.classify output.script <;> rfl

/-- **Packets are read within bounds**, or a key is reported as too short. -/
@[simp] theorem packets_eq (seed : String) (outputs : List Output) :
    packets params active seed outputs
      = reported (OmniLayer.MultisigCarrier.packets params active seed outputs) := by
  have hkeys : ∀ entry ∈ outputs.zipIdx,
      (keysOf active entry.1 entry.2 : Checked ParseError (List PacketKey))
        = .ok (OmniLayer.MultisigCarrier.keysOf active entry.1 entry.2) :=
    fun entry _ => keysOf_eq_ok entry.1 entry.2
  rw [packets, mapM_eq_ok_map hkeys, ok_bind]
  exact bind_eq_reported (mapM_reported _ _) fun chunks => rfl

/-- **The payload is read off packets** when the bound on payloads is a number of a word. -/
theorem decode_eq (hproduct : params.maxPackets * params.packetSize < wordCount) (seed : String)
    (outputs : List Output) : decode params active seed outputs
      = reported (OmniLayer.MultisigCarrier.decode params active seed outputs) := by
  refine bind_eq_reported (packets_eq seed outputs) fun packets => ?_
  rw [mul_eq_ok hproduct, ok_bind, Params.maxPayloadSize?_of_lt hproduct]
  rfl

/-- A piece fits in a packet **behind the sequence byte**. -/
theorem maskedPacket_eq_ok {packetSize : Nat} {piece : Bytes} (h : piece.length + 1 ≤ packetSize)
    (digests : List (FixedBytes 32)) (index : Nat) :
    (maskedPacket packetSize digests piece index : Checked ε Bytes)
      = .ok (OmniLayer.MultisigCarrier.maskedPacket packetSize digests piece index) := by
  rw [maskedPacket, fill_eq_ok _ h]
  rfl

/-- The closing byte of a key is **behind every packet** that fits in one. -/
theorem set_closing_eq_ok {packet : Bytes} (h : packet.length ≤ 31) (closing : Nat) :
    (set (Bytes.padTo compressedKeySize (0x02 :: packet)) (compressedKeySize - 1)
      (UInt8.ofNat closing) : Checked ε Bytes) = .ok (packetKey packet closing) := by
  have hlength : (Bytes.padTo (compressedKeySize - 1) (0x02 :: packet)).length
      = compressedKeySize - 1 :=
    Bytes.length_padTo (Nat.succ_le_succ h)
  -- The last of the zeros is the one that the closing byte replaces.
  have hlast : Bytes.padTo compressedKeySize (0x02 :: packet)
      = Bytes.padTo (compressedKeySize - 1) (0x02 :: packet) ++ [0] := by
    have hzeros : compressedKeySize - (0x02 :: packet).length
        = compressedKeySize - 1 - (0x02 :: packet).length + 1 := by
      have hkey : compressedKeySize = 33 := rfl
      rw [List.length_cons, hkey]
      omega
    rw [Bytes.padTo, Bytes.padTo, hzeros, List.replicate_succ', List.append_assoc]
  rw [hlast, set_eq_ok (by rw [List.length_append, hlength]; decide), packetKey,
    List.set_append_right _ _ hlength.le, hlength, Nat.sub_self]
  rfl

/-- Every closing byte that is tried is **written within the key**. -/
theorem firstKey_eq_ok {packet : Bytes} (h : packet.length ≤ 31) (closings : List Nat) :
    (firstKey (Bytes.padTo compressedKeySize (0x02 :: packet)) closings : Checked ε (Option Bytes))
      = .ok ((closings.map (packetKey packet)).find? Secp256k1.isPublicKey) := by
  induction closings with
  | nil => rfl
  | cons closing rest ih =>
    rw [firstKey, set_closing_eq_ok h, ok_bind, List.map_cons]
    by_cases hkey : Secp256k1.isPublicKey (packetKey packet closing) = true
    · rw [if_pos hkey, List.find?_cons_of_pos hkey]
      rfl
    · rw [if_neg hkey, ih, List.find?_cons_of_neg hkey]

/-- A packet that fits in a key is written **behind its header byte**. -/
theorem findPacketKey_eq {packet : Bytes} (h : packet.length ≤ 31) (sequence : UInt8) :
    findPacketKey packet sequence
      = reported (OmniLayer.MultisigCarrier.findPacketKey packet sequence) := by
  rw [findPacketKey, fill_eq_ok _ (by exact Nat.succ_le_succ (h.trans (by decide))), ok_bind,
    firstKey_eq_ok h, ok_bind, OmniLayer.MultisigCarrier.findPacketKey]
  cases ((List.range 256).map (packetKey packet)).find? Secp256k1.isPublicKey <;> rfl

/-- Pieces of at most **one byte less** than a packet are written within packets and keys. -/
theorem pieceKeys_eq {packetSize : Nat} (hsize : packetSize ≤ 31) (digests : List (FixedBytes 32))
    {pieces : List Bytes} (index : Nat) (h : ∀ piece ∈ pieces, piece.length + 1 ≤ packetSize) :
    pieceKeys packetSize digests index pieces
      = reported (OmniLayer.MultisigCarrier.pieceKeys packetSize digests index pieces) := by
  induction pieces generalizing index with
  | nil => rfl
  | cons piece pieces ih =>
    obtain ⟨hpiece, hrest⟩ := List.forall_mem_cons.1 h
    have hpacket : (OmniLayer.MultisigCarrier.maskedPacket packetSize digests piece index).length
        ≤ 31 :=
      (OmniLayer.MultisigCarrier.length_maskedPacket digests index hpiece).trans_le hsize
    rw [pieceKeys, maskedPacket_eq_ok hpiece, ok_bind, OmniLayer.MultisigCarrier.pieceKeys]
    refine bind_eq_reported (findPacketKey_eq hpacket _) fun key => ?_
    exact bind_eq_reported (ih (index + 1) hrest) fun keys => rfl

/-- **A payload is laid out within packets and keys**, whatever the size of packets. -/
theorem encode_eq (hproduct : params.maxPackets * params.packetSize < wordCount) (seed : String)
    (redeemingKey payload : Bytes) : encode params seed redeemingKey payload
      = reported (OmniLayer.MultisigCarrier.encode params seed redeemingKey payload) := by
  unfold encode OmniLayer.MultisigCarrier.encode
  rw [exodusDestination?_eq_ok, ok_bind]
  cases params.exodusDestination? with
  | none => rfl
  | some exodus =>
    dsimp only
    refine ite_eq_reported (fun _ => rfl) fun _ => ?_
    refine ite_eq_reported (fun _ => rfl) fun hsize => ?_
    -- Behind this test packets have two bytes at least, and fit in a key.
    obtain ⟨htwo, hle⟩ : 2 ≤ params.packetSize ∧ params.packetSize ≤ 31 := by
      have hkey : compressedKeySize - 2 = 31 := rfl
      omega
    have hmax := OmniLayer.MultisigCarrier.pieces_lt_wordCount hproduct
    rw [sub_eq_ok (by omega), ok_bind, mul_eq_ok hmax, ok_bind, wordProduct?_of_lt hmax]
    dsimp only
    refine ite_eq_reported (fun _ => rfl) fun _ => ?_
    refine ite_eq_reported (fun _ => rfl) fun _ => ?_
    rw [pieces_eq_ok (by omega), ok_bind]
    have hpieces : ∀ piece ∈ chunks (params.packetSize - 1) payload,
        piece.length + 1 ≤ params.packetSize := by
      intro piece hpiece
      have := length_le_of_mem_chunks (by omega) hpiece
      omega
    refine bind_eq_reported (pieceKeys_eq hle _ 0 hpieces) fun keys => ?_
    have houtputs (outputs : List Output) (output : Output) : 1 ≤ (outputs ++ [output]).length := by
      rw [List.length_append]
      exact Nat.le_add_left _ _
    have htwoKeys : 0 < packetsPerOutput := Nat.two_pos
    rw [pieces_eq_ok htwoKeys, ok_bind, sub_eq_ok (houtputs _ _), ok_bind]
    rfl

end MultisigCarrier

/-! ## Null data -/

namespace NullDataCarrier

open OmniLayer.NullDataCarrier (taggedOutput)

/-- What an output **adds to the payload**, if it is recognised and tagged. -/
def body? (params : Params) (active : Activation) (output : Output) : Checked ε (Option Bytes) := do
  match ← classify output.script with
  | .nullData pushes =>
    if active.nullData ∧ hasMarker params.marker.bytes pushes then
      let first ← get pushes 0
      let first ← slice first params.marker.bytes.length first.length
      let rest ← slice pushes 1 pushes.length
      return some (first ++ rest.flatten)
    else return none
  | _ => return none

/-- **Reads** the payload from outputs, up to the bound on payloads. -/
def decode (params : Params) (active : Activation) (outputs : List Output) :
    Checked ParseError Bytes := do
  match ← gather (body? params active) outputs with
  | [] => throw (.error (.malformedPayload .noMarker))
  | bodies =>
    let max ← mul wordCount params.maxPackets params.packetSize
    return bodies.flatten.take max

/-- The pieces of a payload; an empty payload still has one. -/
def pieces (size : Nat) (payload : Bytes) : Checked ε (List Bytes) :=
  if payload.isEmpty then return [[]] else Checked.pieces size payload

/-- The output that pays a receiver, if one is given. -/
def receiverOutput (params : Params) : Option String → Checked EncodeError (List Output)
  | none => return []
  | some address => do
    match ← ofAddress? params.addressVersions address with
    | none => throw (.error (.invalidAddress address))
    | some destination => return [⟨params.dustValue, destination.script⟩]

/-- **Lays out** a payload as null-data outputs and an optional output for the receiver. -/
def encode (params : Params) (receiver : Option String) (payload : Bytes) :
    Checked EncodeError (List Output) := do
  let markerSize := params.marker.bytes.length
  let max ← mul wordCount params.maxPackets params.packetSize
  if payload.length > max then throw (.error (.payloadTooLarge payload.length max))
  else
    let receiverOutputs ← receiverOutput params receiver
    if params.maxPushSize ≤ markerSize then
      throw (.error (.payloadTooLarge (markerSize + 1) params.maxPushSize))
    else
      let size ← sub params.maxPushSize markerSize
      let pieces ← pieces size payload
      let outputs ← pieces.mapM fun piece => reported (taggedOutput params piece)
      return outputs ++ receiverOutputs

/-- The marker is cut off pushes that **start with it**. -/
@[simp] theorem body?_eq_ok (output : Output) :
    (body? params active output : Checked ε (Option Bytes))
    = .ok (OmniLayer.NullDataCarrier.body? params active output) := by
  rw [body?, classify_eq_ok, ok_bind, OmniLayer.NullDataCarrier.body?, Output.scriptClass]
  cases Script.classify output.script with
  | nullData pushes =>
    cases pushes with
    | nil =>
      -- Without a push there is none that starts with the marker.
      exact if_neg fun h => Bool.false_ne_true h.2
    | cons first rest =>
      dsimp only
      by_cases htagged : active.nullData ∧ hasMarker params.marker.bytes (first :: rest)
      · have hmarker : params.marker.bytes.length ≤ first.length :=
          (List.isPrefixOf_iff_prefix.1 htagged.2).length_le
        rw [if_pos htagged, if_pos htagged, get_eq_ok List.getElem?_cons_zero, ok_bind,
          slice_length_eq_ok hmarker, ok_bind, slice_length_eq_ok (Nat.le_add_left _ _), ok_bind]
        rfl
      · rw [if_neg htagged, if_neg htagged]
        rfl
  | _ => rfl

/-- **The payload is read off null data within bounds.** -/
theorem decode_eq (hproduct : params.maxPackets * params.packetSize < wordCount)
    (outputs : List Output) : decode params active outputs
      = reported (OmniLayer.NullDataCarrier.decode params active outputs) := by
  rw [decode, gather_eq_ok fun o _ => body?_eq_ok o, ok_bind, OmniLayer.NullDataCarrier.decode]
  cases outputs.filterMap (OmniLayer.NullDataCarrier.body? params active) with
  | nil => rfl
  | cons body bodies =>
    dsimp only
    rw [mul_eq_ok hproduct, ok_bind, Params.maxPayloadSize?_of_lt hproduct]
    rfl

/-- The output for a receiver is found **without an access of its own**. -/
@[simp] theorem receiverOutput_eq (receiver : Option String) : receiverOutput params receiver
    = reported (OmniLayer.NullDataCarrier.receiverOutput params receiver) := by
  cases receiver with
  | none => rfl
  | some address =>
    rw [receiverOutput, ofAddress?_eq_ok, ok_bind, OmniLayer.NullDataCarrier.receiverOutput,
      Params.scriptForAddress?, Params.decodeAddress?]
    cases Destination.ofAddress? params.addressVersions address <;> rfl

/-- A push that holds a byte behind the marker takes **pieces that are not empty**. -/
theorem pieces_eq_ok {size : Nat} (h : 0 < size) (payload : Bytes) :
    (pieces size payload : Checked ε (List Bytes))
      = .ok (OmniLayer.NullDataCarrier.pieces size payload) := by
  unfold pieces OmniLayer.NullDataCarrier.pieces
  split
  · rfl
  · exact Checked.pieces_eq_ok h payload

/-- **A payload is laid out within pushes**, whatever their largest size. -/
theorem encode_eq (hproduct : params.maxPackets * params.packetSize < wordCount)
    (receiver : Option String) (payload : Bytes) : encode params receiver payload
      = reported (OmniLayer.NullDataCarrier.encode params receiver payload) := by
  unfold encode OmniLayer.NullDataCarrier.encode
  dsimp only
  rw [mul_eq_ok hproduct, ok_bind, Params.maxPayloadSize?_of_lt hproduct]
  dsimp only
  refine ite_eq_reported (fun _ => rfl) fun _ => ?_
  refine bind_eq_reported (receiverOutput_eq receiver) fun receiverOutputs => ?_
  refine ite_eq_reported (fun _ => rfl) fun hpush => ?_
  rw [sub_eq_ok (by omega), ok_bind, pieces_eq_ok (by omega), ok_bind]
  exact bind_eq_reported (mapM_reported _ _) fun outputs => rfl

end NullDataCarrier

/-! ## Requests -/

/-- **Lays out** the payload of a request. -/
def encode (params : Params) : Request → Checked EncodeError (List Output)
  | .address receiver payload => AddressCarrier.encode params receiver payload
  | .multisig sender redeemingKey payload =>
    MultisigCarrier.encode params sender redeemingKey payload
  | .nullData receiver payload => NullDataCarrier.encode params receiver payload

/-- **Reads** the payload that outputs carry in a given way. -/
def decode (params : Params) (active : Activation) (sender : Option String)
    (outputs : List Output) : Carrier → Checked ParseError Bytes
  | .address => (AddressCarrier.decode params active outputs).map (·.payload)
  | .multisig =>
    match sender with
    | none => throw (.error (.unresolvableSender .senderRequired))
    | some sender => MultisigCarrier.decode params active sender outputs
  | .nullData => NullDataCarrier.decode params active outputs

/-- **Every request is laid out within bounds**, when the bound on payloads is a number of a word.
-/
theorem encode_eq (hproduct : params.maxPackets * params.packetSize < wordCount)
    (request : Request) : encode params request = reported (request.encode params) := by
  cases request with
  | address receiver payload => exact AddressCarrier.encode_eq receiver payload
  | multisig sender redeemingKey payload =>
    exact MultisigCarrier.encode_eq hproduct sender redeemingKey payload
  | nullData receiver payload => exact NullDataCarrier.encode_eq hproduct receiver payload

/-- **Outputs are read within bounds**, when the bound on payloads and the end of the payload in a
hash are numbers of a word. -/
theorem decode_eq (hproduct : params.maxPackets * params.packetSize < wordCount)
    (hsize : 1 + params.addressPacketSize < wordCount) (sender : Option String)
    (outputs : List Output) (carrier : Carrier) : decode params active sender outputs carrier
      = reported (carrier.decode params active sender outputs) := by
  cases carrier with
  | address =>
    rw [decode, AddressCarrier.decode_eq hsize, Carrier.decode]
    exact map_reported _ _
  | multisig =>
    cases sender with
    | none => rfl
    | some sender => exact MultisigCarrier.decode_eq hproduct sender outputs
  | nullData => exact NullDataCarrier.decode_eq hproduct outputs

end OmniLayer.Checked
