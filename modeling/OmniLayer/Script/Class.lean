import OmniLayer.Script.Instruction
import OmniLayer.Secp256k1

/-! # Script classes

The standard templates of output scripts. Classification never fails: a script that fits no template
exactly is non-standard. -/

namespace OmniLayer

/-- A twenty-byte **hash** of a key or a script. -/
abbrev Hash160 := FixedBytes 20

/-- The **class** of a script, with the data that it carries. -/
inductive ScriptClass
  /-- Pays to the hash of a public key. -/
  | pubkeyHash (hash : Hash160)
  /-- Pays to the hash of a script. -/
  | scriptHash (hash : Hash160)
  /-- Pays to a bare public key. -/
  | pubkey (key : Bytes)
  /-- Pays to `required` of the listed keys. -/
  | multisig (required : Nat) (keys : List Bytes)
  /-- Carries data and pays nobody. -/
  | nullData (pushes : List Bytes)
  /-- Fits no template. -/
  | nonStandard
  deriving DecidableEq, Repr

namespace Script

/-- The operation bytes that the templates use. -/
def opReturn : UInt8 := 0x6a

/-- Checks one signature. -/
def opCheckSig : UInt8 := 0xac

/-- Checks several signatures. -/
def opCheckMultisig : UInt8 := 0xae

/-- The last of the operation bytes that only push a value. -/
def opLastNumber : UInt8 := 0x60

/-- The script that pays to the hash of a key. -/
def payToPubkeyHash (hash : Hash160) : Script :=
  [0x76, 0xa9, 0x14] ++ hash.bytes ++ [0x88, 0xac]

/-- The script that pays to the hash of a script. -/
def payToScriptHash (hash : Hash160) : Script := [0xa9, 0x14] ++ hash.bytes ++ [0x87]

/-- The hash in a script that pays to the hash of a key. -/
def pubkeyHash? : Script → Option Hash160
  | 0x76 :: 0xa9 :: 0x14 :: body =>
    if body.drop 20 = [0x88, 0xac] then FixedBytes.ofBytes? 20 (body.take 20) else none
  | _ => none

/-- The hash in a script that pays to the hash of a script. -/
def scriptHash? : Script → Option Hash160
  | 0xa9 :: 0x14 :: body =>
    if body.drop 20 = [0x87] then FixedBytes.ofBytes? 20 (body.take 20) else none
  | _ => none

/-- The data that instructions push, if none of them does more than push a value. Values pushed by a
single operation byte carry no data. -/
def pushedData? : List Instruction → Option (List Bytes)
  | [] => some []
  | .push data :: rest => (pushedData? rest).map (data :: ·)
  | .op code :: rest => if code ≤ opLastNumber then pushedData? rest else none

/-- The pushes of a null-data script. -/
def nullData? : Script → Option (List Bytes)
  | [] => none
  | code :: body =>
    if code = opReturn then (Instruction.ofScript? body).bind pushedData? else none

/-- The key in a script that pays to a bare key. -/
def pubkey? : List Instruction → Option Bytes
  | [.push key, .op code] =>
    if code = opCheckSig ∧ Secp256k1.hasKeyShape key then some key else none
  | _ => none

/-- The small number, one to sixteen, that an instruction pushes. -/
def smallNumber? : Instruction → Option Nat
  | .op code => if 0x51 ≤ code ∧ code ≤ opLastNumber then some (code.toNat - 0x50) else none
  | .push _ => none

/-- The operation byte that pushes a small number. -/
def opNumber (n : Nat) : UInt8 := UInt8.ofNat (0x50 + n)

/-- The keys that instructions push, if they push nothing but keys. -/
def keys? : List Instruction → Option (List Bytes)
  | [] => some []
  | .push key :: rest =>
    if Secp256k1.hasKeyShape key then (keys? rest).map (key :: ·) else none
  | .op _ :: _ => none

/-- The signature count and the keys of a bare multisig script: the count, the keys, their number
and the check, nothing else. -/
def multisig? : List Instruction → Option (Nat × List Bytes)
  | [] => none
  | first :: rest =>
    match rest.reverse with
    | last :: total :: middle =>
      if last = .op opCheckMultisig then do
        let required ← smallNumber? first
        let total ← smallNumber? total
        let keys ← keys? middle.reverse
        if required ≤ total ∧ total = keys.length then some (required, keys) else none
      else none
    | _ => none

/-- The class of a script that is no hash template and no null data. -/
def keyClass (script : Script) : ScriptClass :=
  match Instruction.ofScript? script with
  | none => .nonStandard
  | some items =>
    match pubkey? items with
    | some key => .pubkey key
    | none =>
      match multisig? items with
      | some (required, keys) => .multisig required keys
      | none => .nonStandard

/-- The **class of a script**. -/
def classify (script : Script) : ScriptClass :=
  match pubkeyHash? script with
  | some hash => .pubkeyHash hash
  | none =>
    match scriptHash? script with
    | some hash => .scriptHash hash
    | none =>
      if script.head? = some opReturn then
        match nullData? script with
        | some pushes => .nullData pushes
        | none => .nonStandard
      else keyClass script

end Script

namespace ScriptClass

/-- The name of a class in reports. -/
def name : ScriptClass → String
  | .pubkeyHash _ => "pubkeyhash"
  | .scriptHash _ => "scripthash"
  | .pubkey _ => "pubkey"
  | .multisig _ _ => "multisig"
  | .nullData _ => "nulldata"
  | .nonStandard => "nonstandard"

/-- Whether the class has a single address. -/
def isSingleAddress : ScriptClass → Bool
  | .pubkeyHash _ => true
  | .scriptHash _ => true
  | _ => false

end ScriptClass

end OmniLayer
