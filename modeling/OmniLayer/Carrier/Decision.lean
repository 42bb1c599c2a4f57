import OmniLayer.Carrier
import OmniLayer.Destination
import OmniLayer.Transaction

/-! # The carrier decision

Which carrier the outputs of a transaction use. A null-data output with the marker comes first, then
the Exodus output beside a bare multisig output, then the Exodus output alone. -/

namespace OmniLayer

/-- The **decision** on the outputs of a transaction. -/
inductive Decision
  /-- The outputs use a carrier. -/
  | carrier (carrier : Carrier)
  /-- The outputs carry no payload. -/
  | notProtocol
  /-- There is a tagged null-data output, but null data is not recognised yet. -/
  | notActivated
  /-- The first null-data output has the marker only when its pushes are joined. -/
  | splitMarker
  deriving DecidableEq, Repr

/-- Whether the first push of a null-data output **starts with the marker**. -/
def hasMarker (marker : Bytes) : List Bytes → Bool
  | [] => false
  | first :: _ => marker.isPrefixOf first

/-- Whether pushes have the marker only when they are joined. -/
def isSplitMarker (marker : Bytes) (pushes : List Bytes) : Bool :=
  1 < pushes.length && !hasMarker marker pushes && marker.isPrefixOf pushes.flatten

/-- The class of the script of an output. -/
def Output.scriptClass (output : Output) : ScriptClass := Script.classify output.script

/-- The pushes of each null-data output, recognised or not. -/
def nullDataPushes (outputs : List Output) : List (List Bytes) :=
  outputs.filterMap fun output =>
    match output.scriptClass with
    | .nullData pushes => some pushes
    | _ => none

/-- Whether an output is a recognised bare multisig. -/
def Output.isMultisig (active : Activation) (output : Output) : Bool :=
  match output.scriptClass with
  | .multisig _ _ => active.multisig
  | _ => false

/-- Whether an output pays the Exodus address by key hash. -/
def Output.paysExodus (params : Params) (output : Output) : Bool :=
  match output.scriptClass with
  | .pubkeyHash _ => params.isExodus output.script
  | _ => false

/-- **Decides** on outputs. -/
def Decision.ofOutputs (params : Params) (active : Activation) (outputs : List Output) :
    Decision :=
  let nullData := nullDataPushes outputs
  let tagged := nullData.any (hasMarker params.marker.bytes)
  let split := (nullData.head?.map (isSplitMarker params.marker.bytes)).getD false
  let exodus := outputs.any (Output.paysExodus params)
  let multisig := outputs.any (Output.isMultisig active)
  if active.nullData ∧ tagged then .carrier .nullData
  else if active.nullData ∧ split then .splitMarker
  else if exodus ∧ multisig then .carrier .multisig
  else if exodus then .carrier .address
  else if tagged then .notActivated
  else .notProtocol

end OmniLayer
