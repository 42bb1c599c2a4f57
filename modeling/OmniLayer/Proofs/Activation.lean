import OmniLayer.Proofs.Dependence
import OmniLayer.Proofs.Heights

/-! # What the height does to a parse

A height acts through three gates, each of which opens once (`ActivationRules.activeAt_within`). The
decision tries the newest form of payload first, and an open gate only lets more outputs pass a
test. So a growing height may replace a form by a newer one, and never by an older one or by none
(`Decision.rank_mono`); a payload that came too early is null data as soon as its gate opens. The
stages of a parse, each of which takes the height, ask for nothing but the gates
(`Transaction.parseAt_eq_parse`). So at two heights with the same gates open, all that differs is
the height that results record (`Transaction.parse_atHeight`). -/

namespace OmniLayer

variable {params : Params} {active active' : Activation} {outputs : List Output}

/-! ## Opening gates -/

/-- Whether one activation recognises no more than another does. -/
structure Activation.Within (active active' : Activation) : Prop where
  /-- Null data is recognised still. -/
  nullData : active.nullData = true → active'.nullData = true
  /-- Script hashes are recognised still. -/
  scriptHash : active.scriptHash = true → active'.scriptHash = true
  /-- Bare multisig is recognised still. -/
  multisig : active.multisig = true → active'.multisig = true

/-- What is recognised at a height is recognised **at every later one**. -/
theorem ActivationRules.activeAt_within (rules : ActivationRules) {height height' : UInt32}
    (hle : height ≤ height') : (rules.activeAt height).Within (rules.activeAt height') := by
  have hopen {first : UInt32} (h : decide (first ≤ height) = true) :
      decide (first ≤ height') = true :=
    decide_eq_true (UInt32.le_trans (of_decide_eq_true h) hle)
  exact ⟨hopen, hopen, hopen⟩

/-- A recognised bare multisig stays one when more is recognised. -/
theorem Output.isMultisig_of_within (h : active.Within active') {output : Output}
    (hmultisig : output.isMultisig active = true) : output.isMultisig active' = true := by
  rw [isMultisig_iff] at hmultisig ⊢
  exact ⟨hmultisig.1, h.multisig hmultisig.2⟩

/-! ## The rank of a decision -/

/-- A choice whose condition comes to hold, and whose other value does not fall, **does not fall**,
provided that the first value was the larger one. -/
theorem ite_le_ite_of_imp {p p' : Prop} [Decidable p] [Decidable p'] {a b b' : Nat} (hp : p → p')
    (hb : b ≤ b') (ha : b ≤ a) : (if p then a else b) ≤ if p' then a else b' := by
  by_cases h : p
  · rw [if_pos h, if_pos (hp h)]
  · rw [if_neg h]
    by_cases h' : p'
    · rw [if_pos h']
      exact ha
    · rw [if_neg h']
      exact hb

namespace Decision

/-- The **rank** of a decision: the forms of payloads from the oldest to the newest, with no
readable payload at the bottom. -/
def rank : Decision → Nat
  | .notProtocol => 0
  | .notActivated => 0
  | .carrier .address => 1
  | .carrier .multisig => 2
  | .splitMarker => 3
  | .carrier .nullData => 4

/-- The rank is told by four tests, the one for the **highest** first. -/
theorem rank_ofOutputs (params : Params) (active : Activation) (outputs : List Output) :
    (ofOutputs params active outputs).rank
      = if active.nullData ∧ (nullDataPushes outputs).any (hasMarker params.marker.bytes) then 4
        else if active.nullData ∧ ((nullDataPushes outputs).head?.map
          (isSplitMarker params.marker.bytes)).getD false then 3
        else if outputs.any (Output.paysExodus params) ∧ outputs.any (Output.isMultisig active)
          then 2
        else if outputs.any (Output.paysExodus params) then 1
        else 0 := by
  unfold ofOutputs
  dsimp only
  split_ifs <;> rfl

/-- When more is recognised the decision **does not fall** in rank. -/
theorem rank_mono (h : active.Within active') (params : Params) (outputs : List Output) :
    (ofOutputs params active outputs).rank ≤ (ofOutputs params active' outputs).rank := by
  have hmultisig : outputs.any (Output.isMultisig active) = true →
      outputs.any (Output.isMultisig active') = true := by
    intro hany
    obtain ⟨o, ho, hmultisig⟩ := List.any_eq_true.1 hany
    exact List.any_eq_true.2 ⟨o, ho, Output.isMultisig_of_within h hmultisig⟩
  rw [rank_ofOutputs, rank_ofOutputs]
  -- Each test that passed passes still, and a test that passes anew stands for a higher rank.
  apply ite_le_ite_of_imp (And.imp_left h.nullData)
  · apply ite_le_ite_of_imp (And.imp_left h.nullData)
    · apply ite_le_ite_of_imp (And.imp_right hmultisig)
      · exact le_refl _
      · split_ifs <;> omega
    · split_ifs <;> omega
  · split_ifs <;> omega

/-- Null data that came too early is **tagged**. -/
theorem exists_isTagged_of_notActivated (h : ofOutputs params active outputs = .notActivated) :
    ∃ o ∈ outputs, o.IsTagged params := by
  rw [← any_hasMarker_iff]
  unfold ofOutputs at h
  dsimp only at h
  split_ifs at h with _ _ _ _ htagged
  exact htagged

/-- Null data that came too early **is null data** once that is recognised. -/
theorem ofOutputs_of_notActivated (h : ofOutputs params active outputs = .notActivated)
    (hactive : active'.nullData = true) :
    ofOutputs params active' outputs = .carrier .nullData :=
  ofOutputs_eq_nullData hactive (exists_isTagged_of_notActivated h)

end Decision

/-! ## The height in results -/

/-- An error with another height recorded in it, if it records one. -/
def ParseError.atHeight (height : UInt32) : ParseError → ParseError
  | .activationNotReached carrier _ => .activationNotReached carrier height
  | .malformedPayload cause => .malformedPayload cause
  | .unresolvableSender problem => .unresolvableSender problem
  | .overflow => .overflow

/-- The result with **another height recorded**. -/
def ParseResult.atHeight (height : UInt32) : ParseResult → ParseResult
  | .ok outcome => .ok (outcome.map fun m => { m with blockHeight := height })
  | .error e => .error (e.atHeight height)

/-- A malformed payload, an unresolved sender and a number past the words record no height. -/
theorem ParseError.atHeight_eq_self {e : ParseError}
    (h : e.IsUnresolvableSender ∨ e.IsMalformedPayload ∨ e = .overflow) (height : UInt32) :
    e.atHeight height = e := by
  rcases h with ⟨problem, rfl⟩ | ⟨cause, rfl⟩ | rfl
  · rfl
  · rfl
  · rfl

namespace Transaction

variable {coins : CoinLookup} {height height' time : UInt32} {tx : Transaction}

/-- A message is **the same but for its height** where the same is recognised. -/
theorem message_atHeight (carrier : Carrier)
    (h : params.activation.activeAt height' = params.activation.activeAt height) :
    message params coins height' time tx carrier
      = (message params coins height time tx carrier).map fun m =>
          { m with blockHeight := height' } := by
  unfold message
  dsimp only
  rw [h]
  cases Sender.byRule params (params.activation.activeAt height) coins tx.previous
      (.ofCarrier carrier) with
  | error e => rfl
  | ok sender =>
    dsimp only [bind, Except.bind]
    cases content params (params.activation.activeAt height) sender tx.outputs carrier with
    | error e => rfl
    | ok c =>
      dsimp only
      cases Fee.ofTransaction coins tx with
      | error e => rfl
      | ok fee => rfl

/-- A parse is **the same but for the height recorded** where the same is recognised. -/
theorem parse_atHeight
    (h : params.activation.activeAt height' = params.activation.activeAt height) :
    parse params coins height' time tx = (parse params coins height time tx).atHeight height' := by
  unfold parse
  rw [h]
  cases Decision.ofOutputs params (params.activation.activeAt height) tx.outputs with
  | notProtocol => rfl
  | notActivated => rfl
  | splitMarker => rfl
  | carrier carrier =>
    dsimp only
    rw [message_atHeight carrier h]
    cases hmessage : message params coins height time tx carrier with
    | ok m => rfl
    | error e =>
      -- No stage behind the decision tells of the height when it fails.
      have hkind := failsOnly_message_of_carrier params coins height time tx carrier e hmessage
      show Except.error e = Except.error (e.atHeight height')
      rw [ParseError.atHeight_eq_self (hkind.imp_right (Or.imp_right And.right))]

/-- **A parse takes the height through the gates alone, and they only open.** The rank of the
decision does not fall as the height grows; what came too early is null data from the height of that
gate on; and at heights with the same gates open the results are the same but for the height that
they record. That is so of the parse whose stages take the height each, which is the same parse. -/
theorem parse_activation (params : Params) :
    (∀ (outputs : List Output) (height height' : UInt32), height ≤ height' →
      (Decision.ofOutputs params (params.activation.activeAt height) outputs).rank
        ≤ (Decision.ofOutputs params (params.activation.activeAt height') outputs).rank) ∧
    (∀ (outputs : List Output) (height height' : UInt32),
      Decision.ofOutputs params (params.activation.activeAt height) outputs = .notActivated →
      params.activation.nullDataHeight ≤ height' →
      Decision.ofOutputs params (params.activation.activeAt height') outputs
        = .carrier .nullData) ∧
    (∀ (coins : CoinLookup) (height height' time : UInt32) (tx : Transaction),
      params.activation.activeAt height' = params.activation.activeAt height →
      parse params coins height' time tx
        = (parse params coins height time tx).atHeight height') ∧
    (∀ (coins : CoinLookup) (height time : UInt32) (tx : Transaction),
      parseAt params coins height time tx = parse params coins height time tx) ∧
    ∀ (coins : CoinLookup) (height height' time : UInt32) (tx : Transaction),
      params.activation.activeAt height' = params.activation.activeAt height →
      parseAt params coins height' time tx
        = (parseAt params coins height time tx).atHeight height' := by
  refine ⟨?_, ?_, ?_, parseAt_eq_parse params, ?_⟩
  · intro outputs height height' hle
    exact Decision.rank_mono (params.activation.activeAt_within hle) params outputs
  · intro outputs height height' hearly hopen
    have hactive : (params.activation.activeAt height').nullData = true := decide_eq_true hopen
    exact Decision.ofOutputs_of_notActivated hearly hactive
  · intro coins height height' time tx hgates
    exact parse_atHeight hgates
  · intro coins height height' time tx hgates
    rw [parseAt_eq_parse, parseAt_eq_parse]
    exact parse_atHeight hgates

/-- A transaction that pays Exodus beside null data with the marker. -/
def exodusBesideMarker : Transaction :=
  spending (AddressCarrier.dustOutput Params.bitcoin (.pubkeyHash Params.mainExodus)
    :: markerAlone.outputs)

/-- One block before null data is recognised, the marker alone comes too early and beside Exodus it
is an address payload; from the next block on both are null data, in which a message is found that
stays the same at later heights. -/
theorem parse_activation_nullDataGate :
    (Decision.ofOutputs Params.bitcoin (Params.bitcoin.activation.activeAt 394999)
        markerAlone.outputs = .notActivated ∧
      Decision.ofOutputs Params.bitcoin (Params.bitcoin.activation.activeAt 395000)
        markerAlone.outputs = .carrier .nullData) ∧
    (Decision.ofOutputs Params.bitcoin (Params.bitcoin.activation.activeAt 394999)
        exodusBesideMarker.outputs = .carrier .address ∧
      1 ≤ (Decision.ofOutputs Params.bitcoin (Params.bitcoin.activation.activeAt 395000)
        exodusBesideMarker.outputs).rank) ∧
    (∃ m, parse Params.bitcoin spentCoins 395000 0 markerAlone = .ok (.message m)) ∧
    parse Params.bitcoin spentCoins 500000 0 markerAlone
      = (parse Params.bitcoin spentCoins 395000 0 markerAlone).atHeight 500000 := by
  obtain ⟨hmono, hearly, hsame, -⟩ := parse_activation Params.bitcoin
  have hnotActivated : Decision.ofOutputs Params.bitcoin
      (Params.bitcoin.activation.activeAt 394999) markerAlone.outputs = .notActivated := by
    decide +kernel
  have haddress : Decision.ofOutputs Params.bitcoin
      (Params.bitcoin.activation.activeAt 394999) exodusBesideMarker.outputs
      = .carrier .address := by
    decide +kernel
  have hrank := hmono exodusBesideMarker.outputs 394999 395000 (by decide)
  rw [haddress] at hrank
  have hmessage : ((parse Params.bitcoin spentCoins 395000 0 markerAlone).toOption.bind
      Outcome.message?).isSome = true := by
    decide +kernel
  obtain ⟨m, hm⟩ := Option.isSome_iff_exists.1 hmessage
  exact ⟨⟨hnotActivated, hearly _ 394999 395000 hnotActivated (by decide)⟩, ⟨haddress, hrank⟩,
    ⟨m, eq_message_of_message? hm⟩, hsame spentCoins 395000 500000 0 markerAlone (by decide)⟩

end Transaction

end OmniLayer
