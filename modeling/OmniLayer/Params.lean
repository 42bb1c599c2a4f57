import OmniLayer.Activation
import OmniLayer.Text.Utf8

/-! # Protocol parameters

All that differs between networks: the marker of null-data payloads, sizes, the Exodus address, the
version bytes of addresses and the activation heights. -/

namespace OmniLayer

/-- The **version bytes** of a network's addresses. -/
structure AddressVersions where
  /-- Version of addresses of key hashes. -/
  pubkeyHash : UInt8
  /-- Version with which addresses of script hashes are written. -/
  scriptHash : UInt8
  /-- Further versions that are read as script hashes. -/
  legacyScriptHash : List UInt8
  deriving DecidableEq, Repr

/-- Whether a version byte is read as that of a script hash. -/
def AddressVersions.isScriptHash (versions : AddressVersions) (version : UInt8) : Bool :=
  version == versions.scriptHash || versions.legacyScriptHash.contains version

/-- The **parameters** of a network. -/
structure Params where
  /-- The four bytes that tag null-data payloads. -/
  marker : FixedBytes 4
  /-- Bytes of a multisig packet, with its sequence byte. -/
  packetSize : Nat
  /-- Bound on the packets of one transaction. -/
  maxPackets : Nat
  /-- Bytes of payload in a data address. -/
  addressPacketSize : Nat
  /-- Largest push that the null-data encoder writes. -/
  maxPushSize : Nat
  /-- Value of the outputs that the encoders build. -/
  dustValue : UInt64
  /-- The address that marks address and multisig payloads. -/
  exodusAddress : String
  /-- Version bytes of addresses. -/
  addressVersions : AddressVersions
  /-- Activation heights. -/
  activation : ActivationRules
  deriving DecidableEq, Repr

namespace Params

/-- The marker `omni`. -/
def omniMarker : FixedBytes 4 := ⟨[0x6f, 0x6d, 0x6e, 0x69], rfl⟩

/-- The parameters of the main network. -/
def bitcoin : Params where
  marker := omniMarker
  packetSize := 31
  maxPackets := 255
  addressPacketSize := 19
  maxPushSize := 520
  dustValue := 5460
  exodusAddress := "1EXoDusjGwvnjZUyKkxZ4UHEf77z6A5S4P"
  addressVersions := ⟨0x00, 0x05, []⟩
  activation := ⟨395000, 322000, 0⟩

/-- The parameters of the test network: another Exodus address, other versions, every gate open. -/
def testnet : Params :=
  { bitcoin with
    exodusAddress := "mpexoDuSkGGqvqrkrjiFng38QPkJQVFyqv"
    addressVersions := ⟨0x6f, 0xc4, []⟩
    activation := .allActive }

/-- The parameters of a private test network, equal to those of the public one. -/
def regtest : Params := testnet

/-- The parameters that a **preset name** stands for, in any case of its letters. -/
def ofPreset? (name : String) : Option Params :=
  let name := Text.lowerAscii name
  if name = "bitcoin" ∨ name = "mainnet" ∨ name = "main" then some bitcoin
  else if name = "testnet" ∨ name = "test" ∨ name = "testnet3" then some testnet
  else if name = "regtest" then some regtest
  else none

/-- The **bound** on the bytes of a payload, as many as the packets of a transaction have. There is
none when it passes the largest 64-bit word. -/
def maxPayloadSize? (params : Params) : Option Nat :=
  wordProduct? params.maxPackets params.packetSize

/-- A product that is a word is the bound. -/
@[simp] theorem maxPayloadSize?_of_lt {params : Params}
    (h : params.maxPackets * params.packetSize < wordCount) :
    params.maxPayloadSize? = some (params.maxPackets * params.packetSize) :=
  wordProduct?_of_lt h

/-- There is no bound if the product passes the words. -/
@[simp] theorem maxPayloadSize?_of_le {params : Params}
    (h : wordCount ≤ params.maxPackets * params.packetSize) : params.maxPayloadSize? = none :=
  wordProduct?_of_le h

end Params

end OmniLayer
