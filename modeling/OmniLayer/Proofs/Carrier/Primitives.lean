import OmniLayer.Parse
import OmniLayer.Proofs.Keystream.Derivation
import OmniLayer.Proofs.Traversal

/-! # Packets with any hash and any check on keys

Two primitives go into packets, the hash from which the keystream is derived and the check that
tells public keys. Nothing that is laid out or read depends on which these are: so they are
parameters here, of the encoder (`MultisigCarrier.encodeWith`), of the decoder
(`MultisigCarrier.decodeWith`) and of a parse (`Transaction.parseWith`), and what runs is the case
of SHA-256 and of the check on public keys. -/

namespace OmniLayer

/-! ## Laying out -/

namespace MultisigCarrier

/-- The first key for a masked packet that **passes a check**, trying each closing byte. -/
def findKey (isKey : Bytes → Bool) (packet : Bytes) (sequence : UInt8) : Except EncodeError Bytes :=
  match ((List.range 256).map (packetKey packet)).find? isKey with
  | some key => .ok key
  | none => .error (.noValidPoint sequence)

/-- The keys of a payload that pass a check, **one for each piece**. -/
def payloadKeys (hash : Bytes → FixedBytes 32) (isKey : Bytes → Bool) (packetSize : Nat)
    (seed : String) (payload : Bytes) : Except EncodeError (List Bytes) :=
  let pieces := chunks (packetSize - 1) payload
  let digests := Keystream.digestsWith hash seed pieces.length
  pieces.zipIdx.mapM fun (piece, index) =>
    findKey isKey (maskedPacket packetSize digests piece index) (UInt8.ofNat (index + 1))

/-- The output for a group of packet keys. -/
def groupOutput (params : Params) (redeemingKey : Bytes) (group : List Bytes) : Output :=
  ⟨params.dustValue, oneOf (redeemingKey :: group)⟩

/-- Lays out a payload with a hash for the keystream, in keys that **pass a check**. -/
def encodeWith (hash : Bytes → FixedBytes 32) (isKey : Bytes → Bool) (params : Params)
    (seed : String) (redeemingKey payload : Bytes) : Except EncodeError (List Output) :=
  match params.exodusDestination? with
  | none => .error (.invalidAddress params.exodusAddress)
  | some exodus =>
    let exodusOutput : Output := ⟨params.dustValue, exodus.script⟩
    if payload.isEmpty then .ok [exodusOutput]
    else if params.packetSize < 2 ∨ params.packetSize > compressedKeySize - 2 then
      .error (.payloadTooLarge params.packetSize (compressedKeySize - 2))
    else
      match wordProduct? params.maxPackets (params.packetSize - 1) with
      | none => .error .overflow
      | some max =>
        if payload.length > max then .error (.payloadTooLarge payload.length max)
        else if ¬isKey redeemingKey then .error (.invalidPubkey redeemingKey)
        else do
          let keys ← payloadKeys hash isKey params.packetSize seed payload
          let outputs := (chunks packetsPerOutput keys).map (groupOutput params redeemingKey)
          return outputs ++ [exodusOutput]

/-- Keys that pass the check of public keys are found **one after another**. -/
theorem pieceKeys_eq_mapM (packetSize : Nat) (digests : List (FixedBytes 32)) (index : Nat)
    (pieces : List Bytes) :
    pieceKeys packetSize digests index pieces
      = (pieces.zipIdx index).mapM fun (piece, index) =>
          findKey Secp256k1.isPublicKey (maskedPacket packetSize digests piece index)
            (UInt8.ofNat (index + 1)) := by
  induction pieces generalizing index with
  | nil => rfl
  | cons piece pieces ih =>
    rw [pieceKeys, List.zipIdx_cons, List.mapM_cons, ih]
    rfl

/-- With SHA-256 and the check of **public keys**, this is how payloads are laid out. -/
@[simp] theorem encodeWith_eq_encode (params : Params) (seed : String)
    (redeemingKey payload : Bytes) :
    encodeWith Sha256.digest Secp256k1.isPublicKey params seed redeemingKey payload
      = encode params seed redeemingKey payload := by
  unfold encodeWith encode
  -- The running encoder finds its keys by a recursion, and takes the digests as they are.
  simp only [payloadKeys, pieceKeys_eq_mapM, Keystream.digestsWith_digest]
  rfl

/-! ## Reading -/

/-- Reads the packets of the outputs with a **hash** for the keystream. -/
def packetsWith (hash : Bytes → FixedBytes 32) (params : Params) (active : Activation)
    (seed : String) (outputs : List Output) : Except ParseError (List Packet) := do
  let keys := (packetKeys active outputs).take params.maxPackets
  let chunks ← keys.mapM (chunk params.packetSize)
  let digests := Keystream.digestsWith hash seed chunks.length
  return (keys.zip chunks).zipIdx.map fun ((key, bytes), index) => packet digests key bytes index

/-- Reads the payload from outputs with a hash for the keystream. -/
def decodeWith (hash : Bytes → FixedBytes 32) (params : Params) (active : Activation)
    (seed : String) (outputs : List Output) : Except ParseError Bytes := do
  let packets ← packetsWith hash params active seed outputs
  match params.maxPayloadSize? with
  | none => throw .overflow
  | some max => return (packets.flatMap Packet.data).take max

/-- With **SHA-256**, this is how packets are read. -/
@[simp] theorem packetsWith_eq_packets (params : Params) (active : Activation) (seed : String)
    (outputs : List Output) :
    packetsWith Sha256.digest params active seed outputs = packets params active seed outputs := by
  unfold packetsWith packets
  simp only [Keystream.digestsWith_digest]

/-- With **SHA-256**, this is how payloads are read. -/
@[simp] theorem decodeWith_eq_decode (params : Params) (active : Activation) (seed : String)
    (outputs : List Output) :
    decodeWith Sha256.digest params active seed outputs = decode params active seed outputs := by
  unfold decodeWith decode
  rewrite [packetsWith_eq_packets]
  rfl

end MultisigCarrier

/-! ## Parsing -/

namespace Transaction

/-- The payload and the receiver of a transaction, with a **hash** for the keystream of packets. -/
def contentWith (hash : Bytes → FixedBytes 32) (params : Params) (active : Activation)
    (sender : String) (outputs : List Output) : Carrier → Except ParseError (Bytes × Option String)
  | .multisig => do
    let payload ← MultisigCarrier.decodeWith hash params active sender outputs
    return (payload, Receiver.identify? params active sender outputs)
  | carrier => content params active sender outputs carrier

/-- The message that a transaction carries in a given way, with a hash for the keystream. -/
def messageWith (hash : Bytes → FixedBytes 32) (params : Params) (coins : CoinLookup)
    (height time : UInt32) (tx : Transaction) (carrier : Carrier) : Except ParseError Message := do
  let active := params.activation.activeAt height
  let sender ← Sender.byRule params active coins tx.previous (.ofCarrier carrier)
  let (payload, receiver) ← contentWith hash params active sender tx.outputs carrier
  let fee ← Fee.ofTransaction coins tx
  return ⟨tx.txid.text, sender, receiver, fee, payload, carrier, height, time⟩

/-- Parses a transaction with a hash for the keystream of packets. -/
def parseWith (hash : Bytes → FixedBytes 32) (params : Params) (coins : CoinLookup)
    (height time : UInt32) (tx : Transaction) : ParseResult :=
  match Decision.ofOutputs params (params.activation.activeAt height) tx.outputs with
  | .carrier carrier => (messageWith hash params coins height time tx carrier).map Outcome.message
  | .notProtocol => .ok .notProtocol
  | .notActivated => .error (.activationNotReached .nullData height)
  | .splitMarker => .error (.malformedPayload .splitMarker)

/-- With **SHA-256**, this is how the content is read. -/
@[simp] theorem contentWith_eq_content (params : Params) (active : Activation) (sender : String)
    (outputs : List Output) (carrier : Carrier) :
    contentWith Sha256.digest params active sender outputs carrier
      = content params active sender outputs carrier := by
  cases carrier with
  | address => rfl
  | multisig =>
    rw [contentWith, MultisigCarrier.decodeWith_eq_decode]
    rfl
  | nullData => rfl

/-- With **SHA-256**, this is how messages are read. -/
@[simp] theorem messageWith_eq_message (params : Params) (coins : CoinLookup)
    (height time : UInt32) (tx : Transaction) (carrier : Carrier) :
    messageWith Sha256.digest params coins height time tx carrier
      = message params coins height time tx carrier := by
  unfold messageWith message
  simp only [contentWith_eq_content]

/-- With **SHA-256**, this is how transactions are parsed. -/
@[simp] theorem parseWith_eq_parse (params : Params) (coins : CoinLookup) (height time : UInt32)
    (tx : Transaction) :
    parseWith Sha256.digest params coins height time tx = parse params coins height time tx := by
  unfold parseWith parse
  cases Decision.ofOutputs params (params.activation.activeAt height) tx.outputs with
  | carrier carrier => simp only [messageWith_eq_message]
  | notProtocol => rfl
  | notActivated => rfl
  | splitMarker => rfl

/-- A transaction is parsed to a **message** when the carrier is decided, the sender is told, the
content is read and the fee is known. -/
theorem parseWith_eq_message {hash : Bytes → FixedBytes 32} {params : Params} {coins : CoinLookup}
    {height time : UInt32} {tx : Transaction} {carrier : Carrier} {sender : String}
    {payload : Bytes} {receiver : Option String} {fee : Int64}
    (hdecision : Decision.ofOutputs params (params.activation.activeAt height) tx.outputs
      = .carrier carrier)
    (hsender : Sender.byRule params (params.activation.activeAt height) coins tx.previous
      (.ofCarrier carrier) = .ok sender)
    (hcontent : contentWith hash params (params.activation.activeAt height) sender tx.outputs
      carrier = .ok (payload, receiver))
    (hfee : Fee.ofTransaction coins tx = .ok fee) :
    parseWith hash params coins height time tx
      = .ok (.message ⟨tx.txid.text, sender, receiver, fee, payload, carrier, height, time⟩) := by
  rw [parseWith, hdecision]
  dsimp only
  -- Each stage gives way to its result, in the order in which they run.
  rw [messageWith, hsender]
  change ((contentWith hash params _ sender tx.outputs carrier) >>= _).map _ = _
  rw [hcontent]
  change ((Fee.ofTransaction coins tx) >>= _).map _ = _
  rw [hfee]
  rfl

end Transaction

end OmniLayer
