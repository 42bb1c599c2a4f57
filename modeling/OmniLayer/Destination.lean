import OmniLayer.Params
import OmniLayer.Text.Base58

/-! # Destinations and addresses

A destination is what an address stands for: the hash of a key or of a script. Two tests say whether
a script pays the Exodus address: one compares address texts, the other destinations. -/

namespace OmniLayer

/-- The **destination** of a single-address script. -/
inductive Destination
  /-- The hash of a public key. -/
  | pubkeyHash (hash : Hash160)
  /-- The hash of a script. -/
  | scriptHash (hash : Hash160)
  deriving DecidableEq, Repr

namespace Destination

/-- The destination of a classified script. -/
def ofClass? : ScriptClass → Option Destination
  | .pubkeyHash hash => some (.pubkeyHash hash)
  | .scriptHash hash => some (.scriptHash hash)
  | _ => none

/-- The hash behind a destination. -/
def hash : Destination → Hash160
  | .pubkeyHash hash => hash
  | .scriptHash hash => hash

/-- The version byte with which a destination is written. -/
def version (versions : AddressVersions) : Destination → UInt8
  | .pubkeyHash _ => versions.pubkeyHash
  | .scriptHash _ => versions.scriptHash

/-- The destination of a version byte and a hash. -/
def ofVersion? (versions : AddressVersions) (version : UInt8) (hash : Hash160) :
    Option Destination :=
  if version = versions.pubkeyHash then some (.pubkeyHash hash)
  else if versions.isScriptHash version then some (.scriptHash hash)
  else none

/-- The **canonical address** of a destination. -/
def toAddress (versions : AddressVersions) (destination : Destination) : String :=
  Base58.encodeCheck (destination.version versions :: destination.hash.bytes)

/-- The destination that an **address** stands for. -/
def ofAddress? (versions : AddressVersions) (address : String) : Option Destination := do
  match ← Base58.decodeCheck? address with
  | [] => none
  | version :: body =>
    let hash ← FixedBytes.ofBytes? 20 body
    ofVersion? versions version hash

/-- The **script** that pays a destination. -/
def script : Destination → Script
  | .pubkeyHash hash => Script.payToPubkeyHash hash
  | .scriptHash hash => Script.payToScriptHash hash

end Destination

/-- The destination of a script, if it has a single address. -/
def Script.destination? (script : Script) : Option Destination :=
  Destination.ofClass? (Script.classify script)

namespace Params

/-- The **address of a script**, if it has one. -/
def addressOf? (params : Params) (script : Script) : Option String :=
  (Script.destination? script).map (Destination.toAddress params.addressVersions)

/-- The destination that an address of the network stands for. -/
def decodeAddress? (params : Params) (address : String) : Option Destination :=
  Destination.ofAddress? params.addressVersions address

/-- The script that pays an address of the network. -/
def scriptForAddress? (params : Params) (address : String) : Option Script :=
  (params.decodeAddress? address).map Destination.script

/-- The destination that the Exodus address stands for. -/
def exodusDestination? (params : Params) : Option Destination :=
  params.decodeAddress? params.exodusAddress

/-- Whether the address of a script reads as the **Exodus address**. -/
def isExodus (params : Params) (script : Script) : Bool :=
  params.addressOf? script == some params.exodusAddress

end Params

end OmniLayer
