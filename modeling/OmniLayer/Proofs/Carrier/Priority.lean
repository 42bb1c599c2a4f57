import OmniLayer.Proofs.Carrier.Decision

/-! # The order of priority in the decision

The decision rests on five facts about the outputs (`Decision.Facts.Hold`), none of which depends on
the order of outputs but that of null data, and takes the first choice that they allow
(`Decision.ofOutputs_of_hold`). One pass that collects null data and sets two flags finds them
(`Decision.foldl_see_eq`). So outputs may change their places, as long as null data keeps its order
(`Decision.ofOutputs_perm`), and outputs that do not matter may come and go
(`Decision.ofOutputs_filter`). -/

namespace OmniLayer

/-! ## Null data among outputs -/

namespace Output

/-- The pushes of an output, if it is null data. -/
def pushes? (output : Output) : Option (List Bytes) :=
  match output.scriptClass with
  | .nullData pushes => some pushes
  | _ => none

/-- An output has pushes when it is null data with these. -/
@[simp] theorem pushes?_eq_some_iff {output : Output} {pushes : List Bytes} :
    output.pushes? = some pushes ↔ output.scriptClass = .nullData pushes := by
  unfold pushes?
  cases output.scriptClass <;> simp

/-- An output of another kind has no pushes. -/
@[simp] theorem pushes?_eq_none_iff {output : Output} :
    output.pushes? = none ↔ ¬output.IsNullData := by
  unfold pushes? Output.IsNullData
  cases output.scriptClass <;> simp

/-- Whether an output is null data, as a test. -/
def isNullData (output : Output) : Bool := output.pushes?.isSome

/-- The test tells whether an output is null data. -/
@[simp] theorem isNullData_iff {output : Output} :
    output.isNullData = true ↔ output.IsNullData := by
  rw [isNullData, Option.isSome_iff_ne_none, ne_eq, pushes?_eq_none_iff, not_not]

end Output

namespace Decision

variable {params : Params} {active : Activation} {outputs others : List Output}

/-! ## Facts about outputs -/

/-- The **facts** on which the decision rests. -/
@[ext]
structure Facts where
  /-- Null data is recognised. -/
  recognised : Bool
  /-- An output is tagged. -/
  tagged : Bool
  /-- The first null-data output has the marker only when its pushes are joined. -/
  split : Bool
  /-- An output pays Exodus by key hash. -/
  exodus : Bool
  /-- An output is a recognised bare multisig. -/
  multisig : Bool

/-- The **first choice** that facts allow. -/
def ofFacts (facts : Facts) : Decision :=
  if facts.recognised ∧ facts.tagged then .carrier .nullData
  else if facts.recognised ∧ facts.split then .splitMarker
  else if facts.exodus ∧ facts.multisig then .carrier .multisig
  else if facts.exodus then .carrier .address
  else if facts.tagged then .notActivated
  else .notProtocol

/-- Whether facts **hold** of outputs at a height. -/
structure Facts.Hold (params : Params) (height : UInt32) (outputs : List Output) (facts : Facts) :
    Prop where
  /-- Null data is recognised from its height on. -/
  recognised_iff : facts.recognised = true ↔ params.activation.nullDataHeight ≤ height
  /-- A null-data output is tagged, recognised or not. -/
  tagged_iff : facts.tagged = true ↔ ∃ o ∈ outputs, o.IsTagged params
  /-- The first null-data output has several pushes, and the marker in front of all of them but not
  in front of the first. -/
  split_iff : facts.split = true ↔ ∃ front o back pushes, outputs = front ++ o :: back ∧
    (∀ before ∈ front, ¬before.IsNullData) ∧ o.scriptClass = .nullData pushes ∧
      1 < pushes.length ∧ ¬o.IsTagged params ∧ params.marker.bytes <+: pushes.flatten
  /-- An output pays a key hash, and that is Exodus. -/
  exodus_iff : facts.exodus = true ↔
    ∃ o ∈ outputs, (∃ hash, o.scriptClass = .pubkeyHash hash) ∧ params.isExodus o.script = true
  /-- An output is bare multisig, which is recognised from its height on. -/
  multisig_iff : facts.multisig = true ↔
    params.activation.multisigHeight ≤ height ∧ ∃ o ∈ outputs, o.IsBareMultisig

/-- Facts that hold of the same outputs are **the same**. -/
theorem Facts.Hold.unique {height : UInt32} {facts facts' : Facts}
    (h : facts.Hold params height outputs) (h' : facts'.Hold params height outputs) :
    facts = facts' := by
  ext
  · exact Bool.eq_iff_iff.2 (h.recognised_iff.trans h'.recognised_iff.symm)
  · exact Bool.eq_iff_iff.2 (h.tagged_iff.trans h'.tagged_iff.symm)
  · exact Bool.eq_iff_iff.2 (h.split_iff.trans h'.split_iff.symm)
  · exact Bool.eq_iff_iff.2 (h.exodus_iff.trans h'.exodus_iff.symm)
  · exact Bool.eq_iff_iff.2 (h.multisig_iff.trans h'.multisig_iff.symm)

/-- The facts that the decision asks for. -/
def factsOf (params : Params) (active : Activation) (outputs : List Output) : Facts where
  recognised := active.nullData
  tagged := (nullDataPushes outputs).any (hasMarker params.marker.bytes)
  split := ((nullDataPushes outputs).head?.map (isSplitMarker params.marker.bytes)).getD false
  exodus := outputs.any (Output.paysExodus params)
  multisig := outputs.any (Output.isMultisig active)

/-- The decision is the first choice that **its facts** allow. -/
theorem ofOutputs_eq_ofFacts (params : Params) (active : Activation) (outputs : List Output) :
    ofOutputs params active outputs = ofFacts (factsOf params active outputs) :=
  rfl

/-- The pushes of null data are those of the outputs that have some. -/
theorem nullDataPushes_eq (outputs : List Output) :
    nullDataPushes outputs = outputs.filterMap Output.pushes? :=
  rfl

/-- The pushes of the first null-data output come **behind outputs of other kinds**. -/
theorem head?_nullDataPushes_eq_some_iff {pushes : List Bytes} :
    (nullDataPushes outputs).head? = some pushes ↔ ∃ front o back, outputs = front ++ o :: back ∧
      (∀ before ∈ front, ¬before.IsNullData) ∧ o.scriptClass = .nullData pushes := by
  rw [nullDataPushes_eq, List.head?_filterMap, List.findSome?_eq_some_iff]
  simp only [Output.pushes?_eq_none_iff, Output.pushes?_eq_some_iff]
  constructor
  · rintro ⟨front, o, back, rfl, hclass, hfront⟩
    exact ⟨front, o, back, rfl, hfront, hclass⟩
  · rintro ⟨front, o, back, rfl, hfront, hclass⟩
    exact ⟨front, o, back, rfl, hclass, hfront⟩

/-- Pushes of null data are split when the output is **not tagged**, and the marker is in front of
several pushes joined. -/
theorem isSplitMarker_iff {output : Output} {pushes : List Bytes}
    (h : output.scriptClass = .nullData pushes) :
    isSplitMarker params.marker.bytes pushes = true ↔
      1 < pushes.length ∧ ¬output.IsTagged params ∧ params.marker.bytes <+: pushes.flatten := by
  have htagged : output.IsTagged params ↔ hasMarker params.marker.bytes pushes = true := by
    unfold Output.IsTagged
    rw [h]
    simp
  rw [htagged]
  simp [isSplitMarker, and_assoc]

/-- The facts that the decision asks for **hold**. -/
theorem hold_factsOf (params : Params) (height : UInt32) (outputs : List Output) :
    (factsOf params (params.activation.activeAt height) outputs).Hold params height outputs where
  recognised_iff := decide_eq_true_iff
  tagged_iff := any_hasMarker_iff
  split_iff := by
    -- The pushes of the first null-data output tell whether it is split.
    have hhead : (factsOf params (params.activation.activeAt height) outputs).split = true ↔
        ∃ pushes, (nullDataPushes outputs).head? = some pushes ∧
          isSplitMarker params.marker.bytes pushes = true := by
      show ((nullDataPushes outputs).head?.map _).getD false = true ↔ _
      cases (nullDataPushes outputs).head? <;> simp
    rw [hhead]
    simp only [head?_nullDataPushes_eq_some_iff]
    constructor
    · rintro ⟨pushes, ⟨front, o, back, houtputs, hfront, hclass⟩, hsplit⟩
      exact ⟨front, o, back, pushes, houtputs, hfront, hclass, (isSplitMarker_iff hclass).1 hsplit⟩
    · rintro ⟨front, o, back, pushes, houtputs, hfront, hclass, hsplit⟩
      exact ⟨pushes, ⟨front, o, back, houtputs, hfront, hclass⟩,
        (isSplitMarker_iff hclass).2 hsplit⟩
  exodus_iff := by
    show outputs.any (Output.paysExodus params) = true ↔ _
    rw [List.any_eq_true]
    refine exists_congr fun o => and_congr_right fun _ => ?_
    unfold Output.paysExodus
    cases o.scriptClass <;> simp
  multisig_iff := by
    show outputs.any (Output.isMultisig _) = true ↔ _
    rw [List.any_eq_true]
    simp only [Output.isMultisig_iff]
    constructor
    · rintro ⟨o, ho, hmultisig, hactive⟩
      exact ⟨of_decide_eq_true hactive, o, ho, hmultisig⟩
    · rintro ⟨hheight, o, ho, hmultisig⟩
      exact ⟨o, ho, hmultisig, decide_eq_true hheight⟩

/-- The decision is the first choice that **facts that hold** allow. -/
theorem ofOutputs_of_hold {height : UInt32} {facts : Facts}
    (h : facts.Hold params height outputs) :
    ofOutputs params (params.activation.activeAt height) outputs = ofFacts facts := by
  rw [ofOutputs_eq_ofFacts, h.unique (hold_factsOf params height outputs)]

/-! ## One pass -/

/-- What a pass over outputs has seen. -/
structure Seen where
  /-- The pushes of null data, recognised or not. -/
  nullData : List (List Bytes)
  /-- An output pays Exodus by key hash. -/
  exodus : Bool
  /-- An output is a recognised bare multisig. -/
  multisig : Bool

/-- **Sees** one more output. An output whose class is not recognised, or that does not pay Exodus,
is passed over. -/
def see (params : Params) (active : Activation) (seen : Seen) (output : Output) : Seen :=
  match output.scriptClass with
  | .nullData pushes => { seen with nullData := seen.nullData ++ [pushes] }
  | .multisig _ _ => if active.multisig then { seen with multisig := true } else seen
  | .pubkeyHash _ => if params.isExodus output.script then { seen with exodus := true } else seen
  | _ => seen

/-- Decides on outputs after **one pass** over them. Null data is looked at first, if it is
recognised. -/
def inOnePass (params : Params) (active : Activation) (outputs : List Output) : Decision :=
  let seen := outputs.foldl (see params active) ⟨[], false, false⟩
  let tagged := seen.nullData.any (hasMarker params.marker.bytes)
  let others : Decision :=
    if seen.exodus && seen.multisig then .carrier .multisig
    else if seen.exodus then .carrier .address
    else if tagged then .notActivated
    else .notProtocol
  if active.nullData then
    if tagged then .carrier .nullData
    else
      match seen.nullData with
      | first :: _ => if isSplitMarker params.marker.bytes first then .splitMarker else others
      | [] => others
  else others

/-- One output adds its pushes, or sets a flag. -/
theorem see_eq (seen : Seen) (output : Output) :
    see params active seen output
      = ⟨seen.nullData ++ output.pushes?.toList, seen.exodus || output.paysExodus params,
          seen.multisig || output.isMultisig active⟩ := by
  unfold see Output.pushes? Output.paysExodus Output.isMultisig
  cases output.scriptClass with
  | multisig required keys => cases active.multisig <;> simp
  | pubkeyHash hash => cases params.isExodus output.script <;> simp
  | _ => simp

/-- A pass collects the pushes of **all null data** and finds the other facts. -/
theorem foldl_see_eq (seen : Seen) (outputs : List Output) :
    outputs.foldl (see params active) seen
      = ⟨seen.nullData ++ nullDataPushes outputs,
          seen.exodus || outputs.any (Output.paysExodus params),
          seen.multisig || outputs.any (Output.isMultisig active)⟩ := by
  -- What was seen before stays in front, so the start varies.
  induction outputs generalizing seen with
  | nil => simp [nullDataPushes]
  | cons output outputs ih =>
    rw [List.foldl_cons, ih, see_eq, nullDataPushes_eq, nullDataPushes_eq, List.any_cons,
      List.any_cons, ← Bool.or_assoc, ← Bool.or_assoc, List.append_assoc]
    cases hpushes : output.pushes? with
    | none => simp [List.filterMap_cons_none hpushes]
    | some pushes => simp [List.filterMap_cons_some hpushes]

/-- After one pass the decision is **the same**. -/
@[simp] theorem inOnePass_eq (params : Params) (active : Activation) (outputs : List Output) :
    inOnePass params active outputs = ofOutputs params active outputs := by
  unfold inOnePass ofOutputs
  rw [foldl_see_eq]
  simp only [List.nil_append, Bool.false_or, Bool.and_eq_true]
  cases active.nullData with
  | false => simp
  | true =>
    -- Only the first null-data output can be split.
    cases nullDataPushes outputs with
    | nil => simp
    | cons first rest => simp

/-! ## Outputs in other places -/

/-- Outputs with the same null data, in order, and with outputs of the other two kinds in both or in
neither, are **decided alike**. -/
theorem ofOutputs_congr (hnull : nullDataPushes others = nullDataPushes outputs)
    (hexodus : others.any (Output.paysExodus params) = outputs.any (Output.paysExodus params))
    (hmultisig : others.any (Output.isMultisig active) = outputs.any (Output.isMultisig active)) :
    ofOutputs params active others = ofOutputs params active outputs := by
  unfold ofOutputs
  rw [hnull, hexodus, hmultisig]

/-- The pushes of null data are known from a choice of outputs that keeps **all null data**. -/
theorem nullDataPushes_filter {keep : Output → Bool}
    (hkeep : ∀ o, o.isNullData = true → keep o = true) (outputs : List Output) :
    nullDataPushes (outputs.filter keep) = nullDataPushes outputs := by
  rw [nullDataPushes_eq, nullDataPushes_eq, List.filterMap_filter]
  congr 1
  funext o
  cases hpushes : o.pushes? with
  | none => simp
  | some pushes =>
    have hnull : o.isNullData = true := by
      rw [Output.isNullData, hpushes]
      rfl
    simp [hkeep o hnull]

/-- Outputs may **change their places**, if null data keeps its order. -/
theorem ofOutputs_perm (hperm : others.Perm outputs)
    (hnull : others.filter Output.isNullData = outputs.filter Output.isNullData) :
    ofOutputs params active others = ofOutputs params active outputs := by
  apply ofOutputs_congr
  · rw [← nullDataPushes_filter (fun _ h => h) others, hnull,
      nullDataPushes_filter (fun _ h => h) outputs]
  · exact hperm.any_eq
  · exact hperm.any_eq

/-- Whether an output **matters** for the decision at a height: it is null data, recognised or not,
a bare multisig that is recognised, or a payment to a key hash that is Exodus. -/
def Matters (params : Params) (height : UInt32) (output : Output) : Prop :=
  output.IsNullData ∨
    (params.activation.multisigHeight ≤ height ∧ output.IsBareMultisig) ∨
      ((∃ hash, output.scriptClass = .pubkeyHash hash) ∧ params.isExodus output.script = true)

/-- Outputs that do not matter may be **left out**. -/
theorem ofOutputs_filter {height : UInt32} {keep : Output → Bool}
    (hkeep : ∀ o, Matters params height o → keep o = true) (outputs : List Output) :
    ofOutputs params (params.activation.activeAt height) (outputs.filter keep)
      = ofOutputs params (params.activation.activeAt height) outputs := by
  apply ofOutputs_congr
  · exact nullDataPushes_filter (fun o h => hkeep o (Or.inl (Output.isNullData_iff.1 h))) outputs
  · rw [List.any_filter]
    congr 1
    funext o
    cases hpays : o.paysExodus params with
    | false => exact Bool.and_false _
    | true =>
      have hmatters : (∃ hash, o.scriptClass = .pubkeyHash hash) ∧
          params.isExodus o.script = true := by
        unfold Output.paysExodus at hpays
        split at hpays
        · next hash hclass => exact ⟨⟨hash, hclass⟩, hpays⟩
        · cases hpays
      rw [hkeep o (Or.inr (Or.inr hmatters)), Bool.and_true]
  · rw [List.any_filter]
    congr 1
    funext o
    cases hmultisig : o.isMultisig (params.activation.activeAt height) with
    | false => exact Bool.and_false _
    | true =>
      obtain ⟨hbare, hactive⟩ := Output.isMultisig_iff.1 hmultisig
      rw [hkeep o (Or.inr (Or.inl ⟨of_decide_eq_true hactive, hbare⟩)), Bool.and_true]

/-- **The decision is a fixed priority over facts.** Exactly one choice of five facts holds of
outputs at a height, and the decision is the first that these allow: null data before a split
marker, both only where null data is recognised, then multisig packets and addresses, and a tagged
output is named last. One pass over the outputs decides the same. So the decision does not change
with the places of outputs, as long as null data keeps its order, nor with outputs of other kinds.
-/
theorem ofOutputs_by_priority (params : Params) (height : UInt32) (outputs : List Output) :
    let active := params.activation.activeAt height
    (∃! facts : Facts, facts.Hold params height outputs) ∧
    (∀ facts : Facts, facts.Hold params height outputs →
      ofOutputs params active outputs = ofFacts facts) ∧
    inOnePass params active outputs = ofOutputs params active outputs ∧
    (∀ others : List Output, others.Perm outputs →
      others.filter Output.isNullData = outputs.filter Output.isNullData →
        ofOutputs params active others = ofOutputs params active outputs) ∧
    (∀ (keep : Output → Bool) (others : List Output),
      (∀ o, Matters params height o → keep o = true) →
        others.filter keep = outputs.filter keep →
          ofOutputs params active others = ofOutputs params active outputs) := by
  intro active
  refine ⟨⟨_, hold_factsOf params height outputs, ?_⟩, fun facts h => ofOutputs_of_hold h,
    inOnePass_eq params active outputs, fun others => ofOutputs_perm, ?_⟩
  · exact fun facts h => h.unique (hold_factsOf params height outputs)
  · intro keep others hkeep h
    rw [← ofOutputs_filter hkeep others, h, ofOutputs_filter hkeep]

end Decision

end OmniLayer
