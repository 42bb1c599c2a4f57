import OmniLayer.Carrier.Decision

/-! # The receiver

The receiver of a multisig or null-data payload. One candidate is the receiver; of several, the
first that pays the sender is change, and the last of the others is the receiver. -/

namespace OmniLayer.Receiver

/-- The address of an output that may name the **receiver**: recognised, with a single address, and
not Exodus. -/
def candidate? (params : Params) (active : Activation) (output : Output) : Option String :=
  if output.scriptClass.isSingleAddress ∧ output.scriptClass.isAllowed active ∧
      ¬params.isExodus output.script then
    params.addressOf? output.script
  else none

/-- The candidates among the outputs, in order. -/
def candidates (params : Params) (active : Activation) (outputs : List Output) : List String :=
  outputs.filterMap (candidate? params active)

/-- How far a **scan** of the candidates has come. -/
structure Scan where
  /-- A candidate that pays the sender was taken for change. -/
  changeSkipped : Bool
  /-- The last candidate that was not. -/
  receiver : Option String
  deriving DecidableEq, Repr

/-- Scans one candidate: the first that pays the sender is **change** and skipped, any other takes
the receiver's place. -/
def Scan.step (sender : String) (scan : Scan) (candidate : String) : Scan :=
  if !scan.changeSkipped ∧ candidate = sender then { scan with changeSkipped := true }
  else { scan with receiver := some candidate }

/-- The receiver among candidates: a single one is not scanned. -/
def ofCandidates? (sender : String) : List String → Option String
  | [candidate] => some candidate
  | candidates => (candidates.foldl (Scan.step sender) ⟨false, none⟩).receiver

/-- The **receiver** named by outputs. -/
def identify? (params : Params) (active : Activation) (sender : String)
    (outputs : List Output) : Option String :=
  ofCandidates? sender (candidates params active outputs)

end OmniLayer.Receiver
