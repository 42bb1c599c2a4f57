import OmniLayer.Destination
import OmniLayer.Proofs.Script.Grammar

/-! # The scripts that the library builds are classified as meant

Each script that is written fits a template, so it is recognised as what it was written for:
payments to a hash and null data with one push here, bare multisig beside its encoder. A payment to
a hash is recognised in no other script (`destination?_eq_some_iff`), and what is recognised as bare
multisig holds nothing but keys (`hasKeyShape_of_classify`). -/

namespace OmniLayer.Script

/-! ## Payments to a hash -/

/-- The script that pays to the hash of a key is read as that. -/
@[simp] theorem classify_payToPubkeyHash (hash : Hash160) :
    classify (payToPubkeyHash hash) = .pubkeyHash hash :=
  classify_of_template (.pubkeyHash hash)

/-- The script that pays to the hash of a script is read as that. -/
@[simp] theorem classify_payToScriptHash (hash : Hash160) :
    classify (payToScriptHash hash) = .scriptHash hash :=
  classify_of_template (.scriptHash hash)

/-- The script that pays a destination is read as paying it. -/
@[simp] theorem destination?_script (destination : Destination) :
    Script.destination? destination.script = some destination := by
  cases destination with
  | pubkeyHash hash => rw [Script.destination?, Destination.script, classify_payToPubkeyHash]; rfl
  | scriptHash hash => rw [Script.destination?, Destination.script, classify_payToScriptHash]; rfl

/-- A class with a destination has the script that pays it as its only one. -/
theorem eq_script_of_template {scriptClass : ScriptClass} {script : Script}
    {destination : Destination} (h : Template scriptClass script)
    (hclass : Destination.ofClass? scriptClass = some destination) :
    script = destination.script := by
  cases h with
  | pubkeyHash hash => cases hclass; rfl
  | scriptHash hash => cases hclass; rfl
  | _ => cases hclass

/-- **One script pays a destination.** -/
@[simp] theorem destination?_eq_some_iff {script : Script} {destination : Destination} :
    Script.destination? script = some destination ↔ script = destination.script := by
  refine ⟨fun h => ?_, fun h => h ▸ destination?_script destination⟩
  refine eq_script_of_template (template_of_classify rfl ?_) h
  intro hnone
  rw [Script.destination?, hnone] at h
  cases h

/-! ## Null data and bare multisig -/

/-- A null-data script with one push is read as that. -/
theorem classify_opReturn_push {data : Bytes} (h : data.length ≤ maxPush) :
    classify (opReturn :: push data) = .nullData [data] := by
  have hbody : IsNullDataBody [data] (push data ++ []) := .push (isPush_push h) .nil
  rw [List.append_nil] at hbody
  exact classify_of_template (.nullData hbody)

/-- A script of the class of bare multisig holds nothing but **keys**. -/
theorem hasKeyShape_of_classify {script : Script} {required : Nat} {keys : List Bytes}
    (h : classify script = .multisig required keys) :
    ∀ key ∈ keys, Secp256k1.hasKeyShape key = true := by
  cases template_of_classify h (fun hne => ScriptClass.noConfusion hne) with
  | multisig _ _ _ hkeys _ =>
    exact fun key hkey => Secp256k1.hasKeyShape_iff.2 (hkeys key hkey)

end OmniLayer.Script
