import OmniLayer.Proofs.Carrier.Receivers

/-! # Which laid-out outputs are recognised

The checks of network settings take any readable Exodus address, and the encoders pay whatever it
stands for. The decision asks for a payment by key hash. So the outputs that the encoders lay out
are recognised when Exodus is the address of a key hash, and carry nothing when it is that of a
script hash (`ofOutputs_encode`). -/

namespace OmniLayer

variable {params : Params} {active : Activation} {exodus : Destination} {payload : Bytes}
  {outs : List Output}

/-- Whether a destination is a **key hash**. -/
def Destination.isKeyHash : Destination → Bool
  | .pubkeyHash _ => true
  | .scriptHash _ => false

/-- When Exodus is no key hash, no output pays it by one. -/
theorem Output.not_paysExodus (hexodus : params.exodusDestination? = some exodus)
    (hscript : exodus.isKeyHash = false) (output : Output) : ¬output.paysExodus params = true := by
  rw [paysExodus_iff]
  rintro ⟨hash, hhash, -⟩
  obtain rfl : .pubkeyHash hash = exodus := Option.some.inj (hhash.symm.trans hexodus)
  cases hscript

/-- A laid-out simple send uses the **address** carrier when Exodus is a key hash, and none when it
is a script hash. -/
theorem AddressCarrier.ofOutputs_of_encode {receiver : String}
    (hexodus : params.exodusDestination? = some exodus)
    (hencode : encode params receiver payload = .ok outs) :
    Decision.ofOutputs params active outs
      = if exodus.isKeyHash then .carrier .address else .notProtocol := by
  obtain ⟨destination, e, -, he, -, -, rfl⟩ := exists_of_encode_eq_ok hencode
  obtain rfl : exodus = e := Option.some.inj (hexodus.symm.trans he)
  set data := Destination.pubkeyHash (dataHash (sequence destination.hash - 1) payload)
  cases exodus with
  | pubkeyHash hash =>
    have hnone : ∀ o ∈ ([] ++ [] : List Output), ¬o.IsNullData ∧ o.isMultisig active = false :=
      fun o ho => absurd ho List.not_mem_nil
    have hdecision := ofOutputs_append_dustOutputs hexodus data destination hnone
    rwa [List.nil_append, List.append_nil] at hdecision
  | scriptHash hash =>
    have hnull : ∀ o ∈ [.scriptHash hash, data, destination].map (dustOutput params),
        ¬o.IsNullData := by
      intro o ho
      obtain ⟨d, -, rfl⟩ := List.mem_map.1 ho
      exact (@scriptClass_dustOutput params active d).1
    exact Decision.ofOutputs_of_not_paysExodus hnull fun o _ => o.not_paysExodus hexodus rfl

/-- A payload laid out in keys uses the **multisig** carrier when Exodus is a key hash, and none
when it is a script hash. -/
theorem MultisigCarrier.ofOutputs_of_encode {seed : String} {redeemingKey : Bytes}
    (hexodus : params.exodusDestination? = some exodus) (hpayload : payload ≠ [])
    (hencode : encode params seed redeemingKey payload = .ok outs)
    (hactive : active.multisig = true) :
    Decision.ofOutputs params active outs
      = if exodus.isKeyHash then .carrier .multisig else .notProtocol := by
  have hshape : ∀ key, Secp256k1.isPublicKey key = true → Secp256k1.hasKeyShape key = true :=
    fun _ => Secp256k1.hasKeyShape_of_isPublicKey
  rw [← encodeWith_eq_encode] at hencode
  obtain ⟨pieceSize, keys, hlaid⟩ := exists_laidOut hexodus hpayload hencode
  cases exodus with
  | pubkeyHash hash =>
    have hnone : ∀ o ∈ ([] ++ [] : List Output), ¬o.IsNullData :=
      fun o ho => absurd ho List.not_mem_nil
    have hdecision := hlaid.ofOutputs_append hshape hpayload hactive rfl hexodus hnone
    rwa [List.nil_append, List.append_nil] at hdecision
  | scriptHash hash =>
    exact Decision.ofOutputs_of_not_paysExodus (hlaid.not_isNullData hshape) fun o _ =>
      o.not_paysExodus hexodus rfl

namespace NetworkSettings

/-- **Laid-out outputs are recognised exactly when Exodus is a key hash.** Under accepted settings
whose Exodus address is that of a script hash, what the encoders lay out carries no message at any
height. -/
theorem ofOutputs_encode {settings : NetworkSettings} {params : Params}
    (hparams : settings.params = .ok params) :
    ∃ exodus, params.exodusDestination? = some exodus ∧
      (∀ (receiver : String) (payload : Bytes) (outs : List Output) (height : UInt32),
        AddressCarrier.encode params receiver payload = .ok outs →
        Decision.ofOutputs params (params.activation.activeAt height) outs
          = if exodus.isKeyHash then .carrier .address else .notProtocol) ∧
      ∀ (seed : String) (redeemingKey payload : Bytes) (outs : List Output) (height : UInt32),
        payload ≠ [] → MultisigCarrier.encode params seed redeemingKey payload = .ok outs →
        params.activation.multisigHeight ≤ height →
        Decision.ofOutputs params (params.activation.activeAt height) outs
          = if exodus.isKeyHash then .carrier .multisig else .notProtocol := by
  obtain ⟨exodus, hexodus⟩ := (isUsable_of_params hparams).exists_exodus
  refine ⟨exodus, hexodus, fun receiver payload outs height hencode => ?_,
    fun seed redeemingKey payload outs height hpayload hencode hheight => ?_⟩
  · exact AddressCarrier.ofOutputs_of_encode hexodus hencode
  · exact MultisigCarrier.ofOutputs_of_encode hexodus hpayload hencode (decide_eq_true hheight)

/-- The main network with packets of seven bytes behind the sequence byte. -/
def sevenBytePieces : NetworkSettings := { packetSize := some 8 }

/-- With the Exodus address of the main network, a simple send is recognised before any activation
but that of multisig, and packets are recognised beside it. -/
theorem ofOutputs_encode_keyHash :
    sevenBytePieces.params = .ok MultisigCarrier.shortPackets ∧
      AddressCarrier.encode MultisigCarrier.shortPackets "31h1vYVSYuKP6AhS86fbRdMw9XHieotbST"
        AddressCarrier.oneUnit = .ok AddressCarrier.wrappedOutputs ∧
      Decision.ofOutputs MultisigCarrier.shortPackets
        (MultisigCarrier.shortPackets.activation.activeAt 0) AddressCarrier.wrappedOutputs
          = .carrier .address ∧
      Decision.ofOutputs MultisigCarrier.shortPackets
        (MultisigCarrier.shortPackets.activation.activeAt 0) MultisigCarrier.threePacketsOutputs
          = .carrier .multisig := by
  have hexodus : MultisigCarrier.shortPackets.exodusDestination?
      = some (.pubkeyHash Params.mainExodus) :=
    Params.exodusDestination?_bitcoin
  have hparams : sevenBytePieces.params = .ok MultisigCarrier.shortPackets :=
    params_of_packets (some 8) none (by decide) (by decide)
  have hencode : AddressCarrier.encode MultisigCarrier.shortPackets
      "31h1vYVSYuKP6AhS86fbRdMw9XHieotbST" AddressCarrier.oneUnit
        = .ok AddressCarrier.wrappedOutputs := by
    decide +kernel
  obtain ⟨exodus, he, haddress, hmultisig⟩ := ofOutputs_encode hparams
  obtain rfl : .pubkeyHash Params.mainExodus = exodus := Option.some.inj (hexodus.symm.trans he)
  exact ⟨hparams, hencode, haddress _ _ _ 0 hencode,
    hmultisig _ _ _ _ 0 (by decide) MultisigCarrier.encode_threePackets (by decide)⟩

/-- The main network with the address of a script hash as its Exodus address. -/
def scriptHashMark : NetworkSettings :=
  { exodusAddress := some "31h1vYVSYuKP6AhS86fbRdMw9XHieotbST" }

/-- The outputs that carry one unit to the usual Exodus address on that network. -/
def unrecognisedOutputs : List Output :=
  AddressCarrier.laidOut Params.bitcoin (.scriptHash (FixedBytes.zero 20))
    (.pubkeyHash Params.mainExodus) AddressCarrier.oneUnit

/-- These settings are accepted and the outputs are laid out under them, and yet they carry no
message, long after every activation. -/
theorem ofOutputs_encode_scriptHashMark :
    ∃ params, scriptHashMark.params = .ok params ∧
      AddressCarrier.encode params "1EXoDusjGwvnjZUyKkxZ4UHEf77z6A5S4P" AddressCarrier.oneUnit
        = .ok unrecognisedOutputs ∧
      Decision.ofOutputs params (params.activation.activeAt 400000) unrecognisedOutputs
        = .notProtocol := by
  set params : Params :=
    { Params.bitcoin with exodusAddress := "31h1vYVSYuKP6AhS86fbRdMw9XHieotbST" }
  have hexodus : params.exodusDestination? = some (.scriptHash (FixedBytes.zero 20)) := by
    decide +kernel
  have hreceiver : params.decodeAddress? "1EXoDusjGwvnjZUyKkxZ4UHEf77z6A5S4P"
      = some (.pubkeyHash Params.mainExodus) :=
    Params.exodusDestination?_bitcoin
  have hcheck : params.check = .ok () :=
    Params.check_eq_ok_iff.2 ⟨by decide, by decide, by decide, _, hexodus⟩
  have hencode : AddressCarrier.encode params "1EXoDusjGwvnjZUyKkxZ4UHEf77z6A5S4P"
      AddressCarrier.oneUnit = .ok unrecognisedOutputs :=
    AddressCarrier.encode_eq_laidOut rfl hexodus hreceiver (by decide) (by decide)
  exact ⟨params, params_eq_ok_iff.2 ⟨.bitcoin, Params.bitcoin.marker, by decide, rfl, rfl, hcheck⟩,
    hencode, AddressCarrier.ofOutputs_of_encode hexodus hencode⟩

end NetworkSettings

end OmniLayer
