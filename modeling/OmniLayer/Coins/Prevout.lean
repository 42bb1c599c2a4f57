import OmniLayer.Coins

/-! # Coins as text

A coin and its outpoint written as four fields with colons between them: transaction, place, value
and script. -/

namespace OmniLayer

/-- Which field of a written coin is **wrong**. -/
inductive PrevoutError
  /-- There are not four fields. -/
  | fieldCount
  /-- The first field is no transaction identifier. -/
  | txid (text : String)
  /-- The second field is no 32-bit word. -/
  | vout
  /-- The third field is no 64-bit word. -/
  | value
  /-- The fourth field is not hexadecimal. -/
  | script
  deriving DecidableEq, Repr

namespace Prevout

/-- Reads the four fields of a **written coin**; of several wrong fields the first is reported. -/
def ofFields (txid vout value script : String) : Except PrevoutError (OutPoint × Output) := do
  let some txid := Txid.ofText? txid | throw (.txid txid)
  let some vout := Decimal.uint32? vout | throw .vout
  let some value := Decimal.uint64? value | throw .value
  let .ok script := Hex.decode script | throw .script
  return (⟨txid, vout⟩, ⟨value, script⟩)

/-- Reads a **written coin**. -/
def ofText (text : String) : Except PrevoutError (OutPoint × Output) :=
  match (Text.splitOn ':' text.toList).map String.ofList with
  | [txid, vout, value, script] => ofFields txid vout value script
  | _ => .error .fieldCount

end Prevout

end OmniLayer
