import OmniLayer.Transaction

/-! # Transactions on the wire

The reader of serialised transactions, with or without witnesses. It reports the first thing that is
wrong: data that ends early, a length not in its shortest form, an unknown witness format, a witness
that is too large, or data left over. -/

namespace OmniLayer.Wire

/-- Why bytes are no serialised transaction. -/
inductive WireError
  /-- The data ends early. -/
  | endOfData
  /-- A compact size is not in its shortest form. -/
  | nonMinimalSize
  /-- The flag byte behind an empty input list is not 1. -/
  | unknownWitnessFormat (flag : UInt8)
  /-- The witness format is used, and no input has a witness. -/
  | noWitnesses
  /-- A witness asks for more than the limit. -/
  | oversized (requested : Nat)
  /-- Bytes are left over. -/
  | trailingData
  deriving DecidableEq, Repr

/-- The **bound** on the space of a witness. -/
def maxWitnessSpace : Nat := 4000000

/-- The wording of a wire error. -/
def WireError.message : WireError → String
  | .endOfData => "IO error"
  | .nonMinimalSize => "non-minimal varint"
  | .unknownWitnessFormat flag =>
    "unsupported segwit version: " ++ Decimal.natText flag.toNat
  | .noWitnesses => "parse failed: witness flag set but no witnesses present"
  | .oversized requested =>
    "allocation of oversized vector: requested " ++ Decimal.natText requested ++
      ", maximum " ++ Decimal.natText maxWitnessSpace
  | .trailingData => "parse failed: data not consumed entirely when explicitly deserializing"

/-- A **reader** takes what it needs off the front of the data. -/
abbrev Reader (α : Type) := StateT Bytes (Except WireError) α

/-- Takes the next `n` bytes. -/
def take (n : Nat) : Reader Bytes := fun bs =>
  match Bytes.takeExact? n bs with
  | some (front, rest) => .ok (front, rest)
  | none => .error .endOfData

/-- A number in `width` bytes, low byte first. -/
def number (width : Nat) : Reader Nat := do return Bytes.toNatLE (← take width)

/-- A number in `width` bytes that a narrower form could not have held. -/
def minimalNumber (width smallest : Nat) : Reader Nat := do
  let n ← number width
  if n < smallest then throw .nonMinimalSize else return n

/-- A number in **compact size** form. -/
def size : Reader Nat := do
  let n ← number 1
  if n = 0xff then minimalNumber 8 0x100000000
  else if n = 0xfe then minimalNumber 4 0x10000
  else if n = 0xfd then minimalNumber 2 0xfd
  else return n

/-- Reads one thing `count` times. -/
def many {α : Type} (item : Reader α) : (count : Nat) → Reader (List α)
  | 0 => return []
  | count + 1 => do
    let first ← item
    let rest ← many item count
    return first :: rest

/-- A list behind its length. -/
def list {α : Type} (item : Reader α) : Reader (List α) := do many item (← size)

/-- Bytes behind their length. -/
def sizedBytes : Reader Bytes := do take (← size)

/-- A 32-bit word. -/
def word : Reader UInt32 := do return UInt32.ofNat (← number 4)

/-- A transaction identifier. -/
def txid : Reader Txid := do
  match FixedBytes.ofBytes? 32 (← take 32) with
  | some digest => return ⟨digest⟩
  | none => throw .endOfData

/-- An input, without its witness. -/
def input : Reader Input := do
  let txid ← txid
  let vout ← word
  let scriptSig ← sizedBytes
  let sequence ← word
  return ⟨⟨txid, vout⟩, scriptSig, sequence, []⟩

/-- An output. -/
def output : Reader Output := do
  let value ← number 8
  let script ← sizedBytes
  return ⟨UInt64.ofNat value, script⟩

/-- The elements of a witness of `total` elements, of which `count` are left and which has used the
space up to `cursor`. The bound is looked at before an element's data. -/
def witnessElements (total : Nat) : (count cursor : Nat) → Reader (List Bytes)
  | 0, _ => return []
  | count + 1, cursor => do
    let length ← size
    let required := cursor + length + (compactSize length).length
    if required > wordMax then throw (.oversized wordMax)
    else if required > maxWitnessSpace + 4 * total then throw (.oversized required)
    else
      let element ← take length
      let rest ← witnessElements total count required
      return element :: rest

/-- The **witness** of one input. -/
def witness : Reader (List Bytes) := do
  let count ← size
  if count > maxWitnessSpace then throw (.oversized count)
  else witnessElements count count (4 * count)

/-- Reads one witness for each input. -/
def withWitnesses : List Input → Reader (List Input)
  | [] => return []
  | input :: rest => do
    let stack ← witness
    let rest ← withWitnesses rest
    return { input with witness := stack } :: rest

/-- A transaction in the **witness format**, behind its flag byte. -/
def witnessTransaction (version : Int32) : Reader Transaction := do
  let inputs ← list input
  let outputs ← list output
  let inputs ← withWitnesses inputs
  if inputs ≠ [] ∧ inputs.all (·.witness.isEmpty) then throw .noWitnesses
  else
    let lockTime ← word
    return ⟨version, inputs, outputs, lockTime⟩

/-- A **transaction**. An empty input list announces the witness format. -/
def transaction : Reader Transaction := do
  let version := (← word).toInt32
  let inputs ← list input
  if inputs = [] then
    let flag ← number 1
    if flag = 1 then witnessTransaction version
    else throw (.unknownWitnessFormat (UInt8.ofNat flag))
  else
    let outputs ← list output
    let lockTime ← word
    return ⟨version, inputs, outputs, lockTime⟩

/-- The transaction that bytes spell, all of them. -/
def deserialize (bs : Bytes) : Except WireError Transaction := do
  let (tx, rest) ← transaction.run bs
  if rest.isEmpty then return tx else throw .trailingData

end OmniLayer.Wire
