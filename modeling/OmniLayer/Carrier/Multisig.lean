import OmniLayer.Carrier.Decision
import OmniLayer.Chunks
import OmniLayer.Error
import OmniLayer.Keystream

/-! # Payloads in multisig keys

Each recognised bare multisig output holds a real key first and then keys that are packets: behind a
header byte, a packet's bytes masked with the keystream of the sender. The first byte of an unmasked
packet is its sequence number and no part of the payload. -/

namespace OmniLayer.MultisigCarrier

/-- A key that holds a packet, and where it stands. -/
structure PacketKey where
  /-- The place of the output. -/
  vout : Nat
  /-- The place of the key in its script, the real key being 0. -/
  position : Nat
  /-- The key. -/
  key : Bytes
  deriving DecidableEq, Repr

/-- The packet keys of one output: all keys but the first, if it is a recognised bare multisig. -/
def keysOf (active : Activation) (output : Output) (vout : Nat) : List PacketKey :=
  match output.scriptClass with
  | .multisig _ keys =>
    if active.multisig then (keys.zipIdx.drop 1).map fun (key, position) => ⟨vout, position, key⟩
    else []
  | _ => []

/-- The **packet keys** of the outputs, in order. -/
def packetKeys (active : Activation) (outputs : List Output) : List PacketKey :=
  outputs.zipIdx.flatMap fun (output, vout) => keysOf active output vout

/-- A **packet**. -/
structure Packet where
  /-- The place of its output. -/
  vout : Nat
  /-- The place of its key in the script. -/
  position : Nat
  /-- Its place among the packets of the transaction, counted from one. -/
  sequence : Nat
  /-- Its bytes as they stand in the key. -/
  obfuscated : Bytes
  /-- Its bytes without the mask. -/
  clear : Bytes
  deriving DecidableEq, Repr

namespace Packet

/-- The sequence number that a packet carries. -/
def embeddedSequence? (packet : Packet) : Option UInt8 := packet.clear.head?

/-- The payload of a packet. -/
def data (packet : Packet) : Bytes := packet.clear.drop 1

end Packet

/-- The bytes of a key that hold its packet. -/
def chunk (packetSize : Nat) (key : PacketKey) : Except ParseError Bytes :=
  if packetSize + 1 ≤ key.key.length then .ok ((key.key.drop 1).take packetSize)
  else .error (.malformedPayload (.shortKey key.key.length key.vout packetSize))

/-- The packet in a key, given its bytes and its index among the packets. -/
def packet (digests : List (FixedBytes 32)) (key : PacketKey) (bytes : Bytes) (index : Nat) :
    Packet where
  vout := key.vout
  position := key.position
  sequence := index + 1
  obfuscated := bytes
  clear := Keystream.maskWith? (Keystream.get? digests (index + 1)) bytes

/-- Reads the **packets** of the outputs, as many as the network allows, with a seed for the
keystream. -/
def packets (params : Params) (active : Activation) (seed : String) (outputs : List Output) :
    Except ParseError (List Packet) := do
  let keys := (packetKeys active outputs).take params.maxPackets
  let chunks ← keys.mapM (chunk params.packetSize)
  let digests := Keystream.digests seed chunks.length
  return (keys.zip chunks).zipIdx.map fun ((key, bytes), index) => packet digests key bytes index

/-- **Reads** the payload from outputs: what the packets carry, up to the bound on payloads. -/
def decode (params : Params) (active : Activation) (seed : String) (outputs : List Output) :
    Except ParseError Bytes := do
  let packets ← packets params active seed outputs
  match params.maxPayloadSize? with
  | none => throw .overflow
  | some max => return (packets.flatMap Packet.data).take max

/-- The length of a compressed public key. -/
def compressedKeySize : Nat := 33

/-- Packet keys in one output, besides the real key. -/
def packetsPerOutput : Nat := 2

/-- The key that holds a masked packet, with a closing byte. -/
def packetKey (packet : Bytes) (closing : Nat) : Bytes :=
  Bytes.padTo (compressedKeySize - 1) (0x02 :: packet) ++ [UInt8.ofNat closing]

/-- The first key for a masked packet that is a **public key**, trying each closing byte. -/
def findPacketKey (packet : Bytes) (sequence : UInt8) : Except EncodeError Bytes :=
  match ((List.range 256).map (packetKey packet)).find? Secp256k1.isPublicKey with
  | some key => .ok key
  | none => .error (.noValidPoint sequence)

/-- The masked packet of a piece of payload, given its index. -/
def maskedPacket (packetSize : Nat) (digests : List (FixedBytes 32)) (piece : Bytes)
    (index : Nat) : Bytes :=
  Keystream.maskWith? (Keystream.get? digests (index + 1))
    (Bytes.padTo packetSize (UInt8.ofNat (index + 1) :: piece))

/-- The packet keys of pieces of payload, the first of which has the given index. -/
def pieceKeys (packetSize : Nat) (digests : List (FixedBytes 32)) :
    (index : Nat) → List Bytes → Except EncodeError (List Bytes)
  | _, [] => .ok []
  | index, piece :: pieces => do
    let key ← findPacketKey (maskedPacket packetSize digests piece index)
      (UInt8.ofNat (index + 1))
    let keys ← pieceKeys packetSize digests (index + 1) pieces
    return key :: keys

/-- The script that any one of some keys unlocks. -/
def oneOf (keys : List Bytes) : Script :=
  Script.opNumber 1 :: keys.flatMap Script.push ++
    [Script.opNumber keys.length, Script.opCheckMultisig]

/-- **Lays out** a payload as multisig outputs with the redeeming key first, followed by the Exodus
output. An empty payload gives the Exodus output alone. -/
def encode (params : Params) (seed : String) (redeemingKey payload : Bytes) :
    Except EncodeError (List Output) :=
  match params.exodusDestination? with
  | none => .error (.invalidAddress params.exodusAddress)
  | some exodus =>
    let exodusOutput : Output := ⟨params.dustValue, exodus.script⟩
    if payload.isEmpty then .ok [exodusOutput]
    else if params.packetSize < 2 ∨ params.packetSize > compressedKeySize - 2 then
      .error (.payloadTooLarge params.packetSize (compressedKeySize - 2))
    else
      let pieceSize := params.packetSize - 1
      match wordProduct? params.maxPackets pieceSize with
      | none => .error .overflow
      | some max =>
        if payload.length > max then .error (.payloadTooLarge payload.length max)
        else if ¬Secp256k1.isPublicKey redeemingKey then .error (.invalidPubkey redeemingKey)
        else do
          let pieces := chunks pieceSize payload
          let digests := Keystream.digests seed pieces.length
          let keys ← pieceKeys params.packetSize digests 0 pieces
          let outputs := (chunks packetsPerOutput keys).map fun group =>
            (⟨params.dustValue, oneOf (redeemingKey :: group)⟩ : Output)
          return outputs ++ [exodusOutput]

end OmniLayer.MultisigCarrier
