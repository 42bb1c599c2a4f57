import OmniLayer.Script.Class

/-! # Activation

The protocol began to recognise each output type at a certain block height. A height acts on parsing
only through the three answers collected in `Activation`. -/

namespace OmniLayer

/-- Which of the gated output types the protocol **recognises**. -/
structure Activation where
  /-- Null-data outputs are recognised. -/
  nullData : Bool
  /-- Outputs that pay to a script hash are recognised. -/
  scriptHash : Bool
  /-- Bare multisig outputs are recognised. -/
  multisig : Bool
  deriving DecidableEq, Repr

/-- The heights from which each gated output type is recognised. -/
structure ActivationRules where
  /-- First height with null data. -/
  nullDataHeight : UInt32
  /-- First height with script hashes. -/
  scriptHashHeight : UInt32
  /-- First height with bare multisig. -/
  multisigHeight : UInt32
  deriving DecidableEq, Repr

namespace ActivationRules

/-- The rules under which every type is recognised from the first block. -/
def allActive : ActivationRules := ⟨0, 0, 0⟩

/-- What is recognised **at a height**; each gate is open at its own height already. -/
def activeAt (rules : ActivationRules) (height : UInt32) : Activation where
  nullData := rules.nullDataHeight ≤ height
  scriptHash := rules.scriptHashHeight ≤ height
  multisig := rules.multisigHeight ≤ height

end ActivationRules

namespace ScriptClass

/-- Whether outputs of a class are **recognised**. Payments to a key hash always are, payments to a
bare key and non-standard scripts never. -/
def isAllowed (active : Activation) : ScriptClass → Bool
  | .pubkeyHash _ => true
  | .scriptHash _ => active.scriptHash
  | .multisig _ _ => active.multisig
  | .nullData _ => active.nullData
  | .pubkey _ => false
  | .nonStandard => false

end ScriptClass

end OmniLayer
