import Mathlib.Tactic.SplitIfs
import OmniLayer.Carrier.Decision
import OmniLayer.Proofs.Destination

/-! # When the outputs use a carrier

The decision asks three things of the outputs: is one of them null data with the marker, does one
pay Exodus by key hash, is one a recognised bare multisig. Each is read off the class of one output,
so each is known of outputs in which encoded ones stand among others (`forall_mem_around`). Exodus
has to be the address of a key hash for an output to pay it by one (`paysExodus_iff`). -/

namespace OmniLayer

/-! ## Outputs among others -/

section Around

variable {α : Type} {before inner after : List α}

/-- What stands inside is among all. -/
theorem mem_around {x : α} (h : x ∈ inner) : x ∈ before ++ inner ++ after :=
  List.mem_append_left _ (List.mem_append_right _ h)

/-- What holds inside and around holds of all. -/
theorem forall_mem_around {p : α → Prop} (hinner : ∀ x ∈ inner, p x)
    (haround : ∀ x ∈ before ++ after, p x) : ∀ x ∈ before ++ inner ++ after, p x := by
  intro x hx
  rcases List.mem_append.1 hx with hx | hx
  · rcases List.mem_append.1 hx with hx | hx
    · exact haround x (List.mem_append_left _ hx)
    · exact hinner x hx
  · exact haround x (List.mem_append_right _ hx)

/-- Members around that give nothing leave what those inside give. -/
theorem flatMap_around {β : Type} {f : α → List β} (haround : ∀ x ∈ before ++ after, f x = []) :
    (before ++ inner ++ after).flatMap f = inner.flatMap f := by
  have hbefore : before.flatMap f = [] :=
    List.flatMap_eq_nil_iff.2 fun x hx => haround x (List.mem_append_left _ hx)
  have hafter : after.flatMap f = [] :=
    List.flatMap_eq_nil_iff.2 fun x hx => haround x (List.mem_append_right _ hx)
  rw [List.flatMap_append, List.flatMap_append, hbefore, hafter, List.nil_append, List.append_nil]

end Around

/-! ## Classes of outputs -/

namespace Output

/-- Whether an output is null data, recognised or not. -/
def IsNullData (output : Output) : Prop := ∃ pushes, output.scriptClass = .nullData pushes

/-- Whether an output is **tagged**: null data whose first push starts with the marker. -/
def IsTagged (params : Params) (output : Output) : Prop :=
  ∃ pushes, output.scriptClass = .nullData pushes ∧ hasMarker params.marker.bytes pushes = true

/-- Whether an output is bare multisig, recognised or not. -/
def IsBareMultisig (output : Output) : Prop :=
  ∃ required keys, output.scriptClass = .multisig required keys

/-- An output is a recognised bare multisig when it is one and these are recognised. -/
@[simp] theorem isMultisig_iff {active : Activation} {output : Output} :
    output.isMultisig active = true ↔ output.IsBareMultisig ∧ active.multisig = true := by
  unfold isMultisig IsBareMultisig
  cases output.scriptClass <;> simp

/-- An output **pays Exodus by key hash** when Exodus is the address of a key hash and the output is
a payment to that. -/
theorem paysExodus_iff {params : Params} {output : Output} :
    output.paysExodus params = true ↔
      ∃ hash, params.exodusDestination? = some (.pubkeyHash hash) ∧
        output.script = Script.payToPubkeyHash hash := by
  constructor
  · intro h
    unfold paysExodus at h
    split at h
    · next hash hclass =>
      have hscript : output.script = Script.payToPubkeyHash hash :=
        Script.destination?_eq_some_iff.1 (congrArg Destination.ofClass? hclass)
      rw [hscript, Params.isExodus_payToPubkeyHash_iff] at h
      exact ⟨hash, h, hscript⟩
    · cases h
  · rintro ⟨hash, hexodus, hscript⟩
    rw [paysExodus, scriptClass, hscript, Script.classify_payToPubkeyHash]
    exact Params.isExodus_exodus hexodus

end Output

/-! ## The decision -/

namespace Decision

variable {params : Params} {active : Activation} {outputs : List Output}

/-- The pushes of null-data outputs are found by their outputs. -/
@[simp] theorem mem_nullDataPushes {pushes : List Bytes} :
    pushes ∈ nullDataPushes outputs ↔ ∃ o ∈ outputs, o.scriptClass = .nullData pushes := by
  rw [nullDataPushes, List.mem_filterMap]
  refine exists_congr fun o => and_congr_right fun _ => ?_
  cases o.scriptClass <;> simp

/-- Outputs without null data have no pushes of null data. -/
theorem nullDataPushes_eq_nil (h : ∀ o ∈ outputs, ¬o.IsNullData) : nullDataPushes outputs = [] :=
  List.eq_nil_iff_forall_not_mem.2 fun pushes hmem =>
    have ⟨o, ho, hclass⟩ := mem_nullDataPushes.1 hmem
    h o ho ⟨pushes, hclass⟩

/-- One of the pushes of null-data outputs has the marker when an output is tagged. -/
@[simp] theorem any_hasMarker_iff :
    (nullDataPushes outputs).any (hasMarker params.marker.bytes) = true ↔
      ∃ o ∈ outputs, o.IsTagged params := by
  rw [List.any_eq_true]
  constructor
  · rintro ⟨pushes, hpushes, hmarker⟩
    obtain ⟨o, ho, hclass⟩ := mem_nullDataPushes.1 hpushes
    exact ⟨o, ho, pushes, hclass, hmarker⟩
  · rintro ⟨o, ho, pushes, hclass, hmarker⟩
    exact ⟨pushes, mem_nullDataPushes.2 ⟨o, ho, hclass⟩, hmarker⟩

/-- The carrier is **null data** when null data is recognised and an output is tagged. -/
theorem ofOutputs_eq_nullData_iff :
    ofOutputs params active outputs = .carrier .nullData ↔
      active.nullData = true ∧ ∃ o ∈ outputs, o.IsTagged params := by
  rw [← any_hasMarker_iff]
  unfold ofOutputs
  dsimp only
  by_cases htagged : active.nullData = true ∧
      (nullDataPushes outputs).any (hasMarker params.marker.bytes) = true
  · exact iff_of_true (if_pos htagged) htagged
  · rw [if_neg htagged]
    refine iff_of_false (fun h => ?_) htagged
    split_ifs at h <;> cases h

/-- A tagged output, when null data is recognised, makes the carrier **null data**. -/
theorem ofOutputs_eq_nullData (hactive : active.nullData = true)
    (htagged : ∃ o ∈ outputs, o.IsTagged params) :
    ofOutputs params active outputs = .carrier .nullData :=
  ofOutputs_eq_nullData_iff.2 ⟨hactive, htagged⟩

/-- Without null data, an output that pays Exodus makes the carrier **multisig** beside a recognised
bare multisig output, and **address** alone. -/
theorem ofOutputs_of_paysExodus (hnull : ∀ o ∈ outputs, ¬o.IsNullData)
    (hexodus : ∃ o ∈ outputs, o.paysExodus params = true) :
    ofOutputs params active outputs
      = if ∃ o ∈ outputs, o.isMultisig active = true then .carrier .multisig
        else .carrier .address := by
  have hpays : outputs.any (Output.paysExodus params) = true := List.any_eq_true.2 hexodus
  rw [ofOutputs, nullDataPushes_eq_nil hnull, hpays, List.any_nil, List.head?_nil, Option.map_none,
    Option.getD_none]
  simp only [Bool.false_eq_true, and_false, if_false, true_and, if_true, List.any_eq_true]

/-- Without null data and without an output that pays Exodus there is **no message**, whatever other
outputs there are. -/
theorem ofOutputs_of_not_paysExodus (hnull : ∀ o ∈ outputs, ¬o.IsNullData)
    (hexodus : ∀ o ∈ outputs, ¬o.paysExodus params = true) :
    ofOutputs params active outputs = .notProtocol := by
  have hpays : outputs.any (Output.paysExodus params) = false := List.any_eq_false.2 hexodus
  rw [ofOutputs, nullDataPushes_eq_nil hnull, hpays, List.any_nil, List.head?_nil, Option.map_none,
    Option.getD_none]
  simp only [Bool.false_eq_true, and_false, if_false, false_and]

end Decision

end OmniLayer
