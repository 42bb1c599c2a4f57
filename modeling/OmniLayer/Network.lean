import OmniLayer.Destination
import OmniLayer.Text.Hex
import OmniLayer.Text.Decimal

/-! # Network settings

A network is chosen by a preset and any number of overrides. The parameters that come out are
checked: whatever is accepted can hold a packet in a key, a byte behind the marker, and a readable
Exodus address. -/

namespace OmniLayer

/-- The **settings** of a network: a preset, and the values that replace the preset's. -/
structure NetworkSettings where
  /-- The name of the preset. -/
  preset : String := "bitcoin"
  /-- The marker, in hexadecimal digits. -/
  marker : Option String := none
  /-- Bytes of a multisig packet. -/
  packetSize : Option UInt64 := none
  /-- Bound on the packets of one transaction. -/
  maxPackets : Option UInt64 := none
  /-- Largest push of the null-data encoder. -/
  maxPushSize : Option UInt64 := none
  /-- Value of built outputs. -/
  dustValue : Option UInt64 := none
  /-- The Exodus address. -/
  exodusAddress : Option String := none
  /-- Version of addresses of key hashes. -/
  pubkeyHashVersion : Option UInt8 := none
  /-- Version of addresses of script hashes. -/
  scriptHashVersion : Option UInt8 := none
  /-- Further versions read as script hashes. -/
  legacyScriptHashVersions : Option (List UInt8) := none
  /-- First height with null data. -/
  nullDataHeight : Option UInt32 := none
  /-- First height with script hashes. -/
  scriptHashHeight : Option UInt32 := none
  /-- First height with bare multisig. -/
  multisigHeight : Option UInt32 := none
  deriving DecidableEq, Repr

/-- Why network settings are **refused**. -/
inductive NetworkError
  /-- There is no such preset. -/
  | unknownPreset (name : String)
  /-- The marker is no hexadecimal text. -/
  | markerText (cause : Hex.HexError)
  /-- The marker does not have four bytes. -/
  | markerLength (length : Nat)
  /-- A packet of this size does not fit in a key. -/
  | packetSize (size : Nat)
  /-- No packet is allowed. -/
  | noPackets
  /-- A push of this size holds nothing behind the marker. -/
  | maxPushSize (size : Nat)
  /-- The Exodus address is not one of the network. -/
  | exodusAddress (address : String)
  deriving DecidableEq, Repr

/-- The wording of a refusal. -/
def NetworkError.message : NetworkError → String
  | .unknownPreset name =>
    "Unknown network preset '" ++ name ++ "' (expected bitcoin, testnet or regtest)"
  | .markerText cause => "Invalid marker hex: " ++ cause.message
  | .markerLength length => "Marker must be 4 bytes, got " ++ Decimal.natText length
  | .packetSize size =>
    "packet_size must be between 2 and 31, got " ++ Decimal.natText size
  | .noPackets => "max_packets must be positive"
  | .maxPushSize size =>
    "max_push_size " ++ Decimal.natText size ++
      " leaves no room for data behind the 4-byte marker"
  | .exodusAddress address =>
    "Exodus address " ++ address ++ " is not valid for the configured address versions"

/-- Checks that the codec can work with parameters. -/
def Params.check (params : Params) : Except NetworkError Unit :=
  if params.packetSize < 2 ∨ params.packetSize > 31 then .error (.packetSize params.packetSize)
  else if params.maxPackets = 0 then .error .noPackets
  else if params.maxPushSize ≤ 4 then .error (.maxPushSize params.maxPushSize)
  else if params.exodusDestination? = none then .error (.exodusAddress params.exodusAddress)
  else .ok ()

namespace NetworkSettings

/-- The marker that the settings ask for, or the one given. -/
def markerOr (settings : NetworkSettings) (default : FixedBytes 4) :
    Except NetworkError (FixedBytes 4) :=
  match settings.marker with
  | none => .ok default
  | some text =>
    match Hex.decode text with
    | .error cause => .error (.markerText cause)
    | .ok bs =>
      match FixedBytes.ofBytes? 4 bs with
      | some marker => .ok marker
      | none => .error (.markerLength bs.length)

/-- Parameters with all values replaced that the settings give, apart from the marker. -/
def override (settings : NetworkSettings) (params : Params) : Params :=
  { params with
    packetSize := (settings.packetSize.map UInt64.toNat).getD params.packetSize
    maxPackets := (settings.maxPackets.map UInt64.toNat).getD params.maxPackets
    maxPushSize := (settings.maxPushSize.map UInt64.toNat).getD params.maxPushSize
    dustValue := settings.dustValue.getD params.dustValue
    exodusAddress := settings.exodusAddress.getD params.exodusAddress
    addressVersions := {
      pubkeyHash := settings.pubkeyHashVersion.getD params.addressVersions.pubkeyHash
      scriptHash := settings.scriptHashVersion.getD params.addressVersions.scriptHash
      legacyScriptHash :=
        settings.legacyScriptHashVersions.getD params.addressVersions.legacyScriptHash }
    activation := {
      nullDataHeight := settings.nullDataHeight.getD params.activation.nullDataHeight
      scriptHashHeight := settings.scriptHashHeight.getD params.activation.scriptHashHeight
      multisigHeight := settings.multisigHeight.getD params.activation.multisigHeight } }

/-- The **parameters** that the settings stand for, if they are accepted. -/
def params (settings : NetworkSettings) : Except NetworkError Params :=
  match Params.ofPreset? settings.preset with
  | none => .error (.unknownPreset settings.preset)
  | some preset => do
    let marker ← settings.markerOr preset.marker
    let params := settings.override { preset with marker := marker }
    params.check
    return params

end NetworkSettings

end OmniLayer
