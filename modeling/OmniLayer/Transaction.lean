import OmniLayer.Script.Instruction
import OmniLayer.Hash.Sha256
import OmniLayer.Text.Hex
import OmniLayer.Text.Decimal

/-! # Transactions

Transactions, their serialised form without witnesses, and the identifier that is its double
digest. Two transactions that differ in their witnesses only have one identifier. -/

namespace OmniLayer

/-- A **transaction identifier**: a digest, shown with its bytes reversed. -/
structure Txid where
  /-- The digest, in the order in which transactions carry it. -/
  digest : FixedBytes 32
  deriving DecidableEq, Repr

namespace Txid

/-- The identifier as text: the digest's bytes in reverse. -/
def text (txid : Txid) : String := Hex.encode txid.digest.bytes.reverse

/-- Reads an identifier: sixty-four hexadecimal digits in either case. -/
def ofText? (text : String) : Option Txid := do
  let bs ← (Hex.decode text).toOption
  let digest ← FixedBytes.ofBytes? 32 bs.reverse
  return ⟨digest⟩

/-- Whether one identifier comes **before** another: byte by byte, in the order of the digest. -/
def before (a b : Txid) : Bool := go a.digest.bytes b.digest.bytes
where
  go : Bytes → Bytes → Bool
    | [], [] => false
    | [], _ :: _ => true
    | _ :: _, [] => false
    | x :: xs, y :: ys => x < y || (x == y && go xs ys)

end Txid

/-- An **outpoint** names an output: a transaction and a place in its outputs. -/
structure OutPoint where
  /-- The transaction with the output. -/
  txid : Txid
  /-- Its place among the outputs. -/
  vout : UInt32
  deriving DecidableEq, Repr

namespace OutPoint

/-- An outpoint as text. -/
def text (outpoint : OutPoint) : String :=
  outpoint.txid.text ++ ":" ++ Decimal.natText outpoint.vout.toNat

/-- Whether an outpoint is the **null outpoint**, with which a coinbase input names no output. -/
def isNull (outpoint : OutPoint) : Bool :=
  outpoint.vout == 0xffffffff && outpoint.txid == ⟨FixedBytes.zero 32⟩

end OutPoint

/-- An **output**: a value and the script that guards it. Seen from the transaction that spends it,
an output is a coin. -/
structure Output where
  /-- The value in satoshis. -/
  value : UInt64
  /-- The script. -/
  script : Script
  deriving DecidableEq, Repr

/-- An **input** spends an earlier output. -/
structure Input where
  /-- The output it spends. -/
  previous : OutPoint
  /-- The script that unlocks it. -/
  scriptSig : Script
  /-- The sequence number. -/
  sequence : UInt32
  /-- The witness stack. -/
  witness : List Bytes
  deriving DecidableEq, Repr

/-- A **transaction**. -/
structure Transaction where
  /-- The version number. -/
  version : Int32
  /-- The inputs. -/
  inputs : List Input
  /-- The outputs. -/
  outputs : List Output
  /-- The lock time. -/
  lockTime : UInt32
  deriving DecidableEq, Repr

/-- A number in the **compact size** form, the shortest of four. -/
def compactSize (n : Nat) : Bytes :=
  if n < 0xfd then Bytes.ofNatLE 1 n
  else if n < 0x10000 then 0xfd :: Bytes.ofNatLE 2 n
  else if n < 0x100000000 then 0xfe :: Bytes.ofNatLE 4 n
  else 0xff :: Bytes.ofNatLE 8 n

/-- A script behind its length. -/
def Script.serialize (script : Script) : Bytes := compactSize script.length ++ script

/-- The bytes of an outpoint. -/
def OutPoint.serialize (outpoint : OutPoint) : Bytes :=
  outpoint.txid.digest.bytes ++ Bytes.ofNatLE 4 outpoint.vout.toNat

/-- The bytes of an output. -/
def Output.serialize (output : Output) : Bytes :=
  Bytes.ofNatLE 8 output.value.toNat ++ output.script.serialize

/-- The bytes of an input, without its witness. -/
def Input.serialize (input : Input) : Bytes :=
  input.previous.serialize ++ input.scriptSig.serialize ++ Bytes.ofNatLE 4 input.sequence.toNat

namespace Transaction

/-- The bytes of a transaction **without witnesses**. -/
def serialize (tx : Transaction) : Bytes :=
  Bytes.ofNatLE 4 tx.version.toUInt32.toNat ++
    (compactSize tx.inputs.length ++ tx.inputs.flatMap Input.serialize) ++
    (compactSize tx.outputs.length ++ tx.outputs.flatMap Output.serialize) ++
    Bytes.ofNatLE 4 tx.lockTime.toNat

/-- The **identifier** of a transaction. -/
def txid (tx : Transaction) : Txid := ⟨Sha256.doubleDigest tx.serialize⟩

/-- The outpoints that a transaction spends, input by input. -/
def previous (tx : Transaction) : List OutPoint := tx.inputs.map Input.previous

/-- The outputs of a transaction with their outpoints. -/
def created (tx : Transaction) : List (OutPoint × Output) :=
  let txid := tx.txid
  tx.outputs.zipIdx.map fun (output, index) => (⟨txid, UInt32.ofNat index⟩, output)

end Transaction

end OmniLayer
