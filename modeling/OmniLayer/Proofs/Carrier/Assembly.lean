import OmniLayer.Proofs.Carrier.NullData
import OmniLayer.Proofs.Network
import OmniLayer.Proofs.Packets

/-! # A payload assembled from null data

What tagged outputs bear is known without the bound on payloads (`borne`): the pushes of each, one
after another, without the marker in front. A reading is the front of that (`decode_eq`), so it
joins where outputs are joined and pays no regard to the others (`decode_congr`). It fails where
there is nothing to read, and breaks off when the bound passes the words (`decode_eq_error_iff`).
The payload can be gathered in one pass that
counts the tagged outputs (`decodeInOnePass_eq`). What is laid out has one push in each output, and
only the last of these may be short (`Pushes`). -/

namespace OmniLayer

variable {params : Params} {active : Activation}

/-! ## Tagged outputs -/

namespace Output

/-- Whether an output is tagged, as a test. -/
def isTagged (params : Params) (output : Output) : Bool :=
  match output.scriptClass with
  | .nullData pushes => hasMarker params.marker.bytes pushes
  | _ => false

/-- The test tells whether an output is tagged. -/
@[simp] theorem isTagged_iff {output : Output} :
    output.isTagged params = true ↔ output.IsTagged params := by
  unfold isTagged IsTagged
  cases output.scriptClass <;> simp

/-- What an output **bears**: its pushes without the marker in front. -/
def body (params : Params) (output : Output) : Bytes :=
  match output.scriptClass with
  | .nullData (first :: rest) => first.drop params.marker.bytes.length ++ rest.flatten
  | _ => []

end Output

namespace NullDataCarrier

/-- What **tagged outputs** bear, in their order. -/
def borne (params : Params) (outputs : List Output) : Bytes :=
  (outputs.filter (Output.isTagged params)).flatMap (Output.body params)

/-- Joined outputs bear what the parts bear. -/
@[simp] theorem borne_append (xs ys : List Output) :
    borne params (xs ++ ys) = borne params xs ++ borne params ys := by
  simp [borne]

/-- A recognised output adds what it bears, **if it is tagged**. -/
theorem body?_eq (hactive : active.nullData = true) (output : Output) :
    body? params active output
      = if output.isTagged params then some (output.body params) else none := by
  unfold body? Output.isTagged Output.body
  split
  · next first rest hclass => simp [hclass, hactive]
  · next hother =>
    -- Null data without pushes has no marker.
    split
    · next pushes hclass =>
      cases pushes with
      | nil => simp [hasMarker]
      | cons first rest => exact absurd hclass (hother first rest)
    · simp

/-- Where null data is not recognised, outputs add nothing. -/
theorem filterMap_body?_of_inactive (hactive : active.nullData = false) (outputs : List Output) :
    outputs.filterMap (body? params active) = [] := by
  refine List.filterMap_eq_nil_iff.2 fun output _ => ?_
  unfold body?
  split <;> simp [hactive]

/-- Recognised outputs add what the tagged ones bear. -/
theorem filterMap_body? (hactive : active.nullData = true) (outputs : List Output) :
    outputs.filterMap (body? params active)
      = (outputs.filter (Output.isTagged params)).map (Output.body params) := by
  rw [← List.filterMap_eq_map, List.filterMap_filter]
  congr 1
  funext output
  rw [body?_eq hactive]
  simp

/-! ## One pass -/

/-- What a pass over outputs has gathered. -/
structure Gathered where
  /-- What the tagged outputs bear. -/
  payload : Bytes
  /-- Their number. -/
  tagged : Nat

/-- **Gathers** what one more output adds. -/
def gather (params : Params) (active : Activation) (gathered : Gathered) (output : Output) :
    Gathered :=
  if ¬output.scriptClass.isAllowed active then gathered
  else
    match output.scriptClass with
    | .nullData (first :: rest) =>
      if hasMarker params.marker.bytes (first :: rest) then
        ⟨rest.foldl (· ++ ·) (gathered.payload ++ first.drop params.marker.bytes.length),
          gathered.tagged + 1⟩
      else gathered
    | _ => gathered

/-- Reads the payload in **one pass** over the outputs, and cuts it off at the bound afterwards. -/
def decodeInOnePass (params : Params) (active : Activation) (outputs : List Output) :
    Except ParseError Bytes :=
  let gathered := outputs.foldl (gather params active) ⟨[], 0⟩
  if gathered.tagged = 0 then .error (.malformedPayload .noMarker)
  else
    match params.maxPayloadSize? with
    | none => .error .overflow
    | some max =>
      if gathered.payload.length > max then .ok (gathered.payload.take max)
      else .ok gathered.payload

/-- One output adds **what it is read to**. -/
theorem gather_eq (gathered : Gathered) (output : Output) :
    gather params active gathered output
      = match body? params active output with
        | some body => ⟨gathered.payload ++ body, gathered.tagged + 1⟩
        | none => gathered := by
  unfold gather body?
  cases hclass : output.scriptClass with
  | nullData pushes =>
    cases pushes with
    | nil => simp
    | cons first rest =>
      have hrest : rest.foldl (· ++ ·)
          (gathered.payload ++ first.drop params.marker.bytes.length)
            = gathered.payload ++ (first.drop params.marker.bytes.length ++ rest.flatten) := by
        rw [List.foldl_append_eq_append, List.append_assoc, List.map_id']
      dsimp only
      rw [hrest]
      by_cases hactive : active.nullData = true
      · by_cases hmarker : hasMarker params.marker.bytes (first :: rest) = true
        · simp [ScriptClass.isAllowed, hactive, hmarker]
        · simp [ScriptClass.isAllowed, hactive, hmarker]
      · simp [ScriptClass.isAllowed, hactive]
  | _ => simp

/-- A pass adds what **all outputs** are read to. -/
theorem foldl_gather_eq (gathered : Gathered) (outputs : List Output) :
    outputs.foldl (gather params active) gathered
      = ⟨gathered.payload ++ (outputs.filterMap (body? params active)).flatten,
          gathered.tagged + (outputs.filterMap (body? params active)).length⟩ := by
  -- What was gathered before stays in front, so the start varies.
  induction outputs generalizing gathered with
  | nil => simp
  | cons output outputs ih =>
    rw [List.foldl_cons, ih, gather_eq]
    cases hbody : body? params active output with
    | none => simp [List.filterMap_cons_none hbody]
    | some body =>
      simp only [List.filterMap_cons_some hbody, List.flatten_cons, List.length_cons,
        List.append_assoc, Gathered.mk.injEq, true_and]
      omega

/-- The pass reads **the same payload**. -/
@[simp] theorem decodeInOnePass_eq (params : Params) (active : Activation) (outputs : List Output) :
    decodeInOnePass params active outputs = decode params active outputs := by
  unfold decodeInOnePass decode
  rw [foldl_gather_eq]
  cases outputs.filterMap (body? params active) with
  | nil => simp
  | cons body bodies =>
    -- The count is not zero, and a payload within the bound is its own front.
    dsimp only
    rw [List.nil_append, List.length_cons, if_neg (by omega)]
    cases params.maxPayloadSize? with
    | none => rfl
    | some max =>
      dsimp only
      split
      · rfl
      · next hshort => rw [List.take_of_length_le (Nat.le_of_not_lt hshort)]

/-! ## Reading -/

/-- A reading is the **front of what is borne**, where null data is recognised and an output is
tagged, unless the bound on payloads passes the words. -/
theorem decode_eq (outputs : List Output) :
    decode params active outputs
      = if active.nullData ∧ outputs.any (Output.isTagged params) then
          if params.maxPackets * params.packetSize < wordCount then
            .ok ((borne params outputs).take (params.maxPackets * params.packetSize))
          else .error .overflow
        else .error (.malformedPayload .noMarker) := by
  unfold decode
  by_cases hactive : active.nullData = true
  · rw [filterMap_body? hactive, borne, List.flatMap_def]
    cases htagged : outputs.filter (Output.isTagged params) with
    | nil =>
      have hnone : outputs.any (Output.isTagged params) = false := by
        simpa [List.filter_eq_nil_iff] using htagged
      simp [hnone]
    | cons o rest =>
      have hsome : outputs.any (Output.isTagged params) = true := by
        obtain ⟨hmem, htag⟩ := List.mem_filter.1 (htagged ▸ List.mem_cons_self)
        exact List.any_eq_true.2 ⟨o, hmem, htag⟩
      by_cases hword : params.maxPackets * params.packetSize < wordCount
      · simp [hactive, hsome, hword]
      · simp [hactive, hsome, hword, Nat.not_lt.1 hword]
  · rw [Bool.not_eq_true] at hactive
    rw [filterMap_body?_of_inactive hactive]
    simp [hactive]

/-- The test finds a tagged output where there is one. -/
@[simp] theorem any_isTagged_iff {outputs : List Output} :
    outputs.any (Output.isTagged params) = true ↔ ∃ o ∈ outputs, o.IsTagged params := by
  simp [Output.isTagged_iff]

/-- A payload is read where null data is recognised and **an output is tagged**, if the bound on
payloads is a word. -/
theorem decode_eq_ok_iff {outputs : List Output} {payload : Bytes} :
    decode params active outputs = .ok payload ↔
      active.nullData = true ∧ (∃ o ∈ outputs, o.IsTagged params) ∧
        params.maxPackets * params.packetSize < wordCount ∧
          payload = (borne params outputs).take (params.maxPackets * params.packetSize) := by
  rw [decode_eq, ← any_isTagged_iff]
  split_ifs with h hword
  · simp [h, hword, eq_comm]
  · simp [hword]
  · refine iff_of_false (fun herror => by cases herror) ?_
    rintro ⟨hactive, htagged, -⟩
    exact h ⟨hactive, htagged⟩

/-- Reading fails where null data is not recognised and where **no output is tagged**. Where there
is something to read, it breaks off when the bound on payloads passes the words. -/
theorem decode_eq_error_iff {outputs : List Output} {e : ParseError} :
    decode params active outputs = .error e ↔
      ((active.nullData = false ∨ ∀ o ∈ outputs, ¬o.IsTagged params) ∧
        e = .malformedPayload .noMarker) ∨
      (active.nullData = true ∧ (∃ o ∈ outputs, o.IsTagged params) ∧
        wordCount ≤ params.maxPackets * params.packetSize ∧ e = .overflow) := by
  have hnone : (active.nullData = false ∨ ∀ o ∈ outputs, ¬o.IsTagged params) ↔
      ¬(active.nullData = true ∧ outputs.any (Output.isTagged params) = true) := by
    rw [any_isTagged_iff, not_and_or, Bool.not_eq_true]
    push Not
    rfl
  rw [decode_eq, hnone, ← any_isTagged_iff, ← Nat.not_lt]
  split_ifs with h hword
  · simp [h, hword]
  · simp [h, hword, eq_comm]
  · simp only [h, not_false_eq_true, true_and, Except.error.injEq]
    constructor
    · exact fun he => Or.inl he.symm
    · rintro (he | ⟨hactive, htagged, -⟩)
      · exact he.symm
      · exact absurd ⟨hactive, htagged⟩ h

/-- Outputs that agree in the **tagged ones** are read the same. -/
theorem decode_congr {outputs others : List Output}
    (h : others.filter (Output.isTagged params) = outputs.filter (Output.isTagged params)) :
    decode params active others = decode params active outputs := by
  unfold decode
  by_cases hactive : active.nullData = true
  · rw [filterMap_body? hactive, filterMap_body? hactive, h]
  · rw [Bool.not_eq_true] at hactive
    rw [filterMap_body?_of_inactive hactive, filterMap_body?_of_inactive hactive]

/-! ## Laid-out outputs -/

/-- A payload has as many pieces as it **fills**, and at least one. -/
theorem length_pieces {size : Nat} (hs : 0 < size) (payload : Bytes) :
    (pieces size payload).length = max 1 (payload.length ⌈/⌉ size) := by
  unfold pieces
  cases payload with
  | nil => simp
  | cons b rest =>
    have hpos : 0 < (chunks size (b :: rest)).length :=
      List.length_pos_iff.2 (chunks_ne_nil size (List.cons_ne_nil b rest))
    rw [List.isEmpty_cons, if_neg Bool.false_ne_true, ← length_chunks hs]
    omega

/-- A piece has at most the size, and **exactly** the size if another follows. -/
theorem length_of_getElem?_pieces {size place : Nat} (hs : 0 < size) {payload piece : Bytes}
    (h : (pieces size payload)[place]? = some piece) :
    piece.length ≤ size ∧ (place + 1 < (pieces size payload).length → piece.length = size) := by
  unfold pieces at h ⊢
  split at h
  · next hnil =>
    obtain ⟨hplace, rfl⟩ := List.getElem?_eq_some_iff.1 h
    rw [List.length_singleton] at hplace
    obtain rfl : place = 0 := by omega
    simp [hnil]
  · next hne =>
    obtain ⟨hplace, -⟩ := List.getElem?_eq_some_iff.1 h
    rw [getElem?_chunks hs hplace, Option.some.injEq] at h
    rw [if_neg hne, ← h]
    exact ⟨List.length_take_le .., fun hnext => length_take_drop_of_lt_chunks hs hnext⟩

/-- What the outputs for the pieces of a payload are: **null data of one push** each, the marker and
a piece, and only the last push may be short. -/
structure Pushes (params : Params) (payload : Bytes) (tagged : List Output) : Prop where
  /-- There are as many as the payload fills beside the marker, and at least one. -/
  length_eq : tagged.length = max 1 (payload.length ⌈/⌉ (params.maxPushSize - 4))
  /-- They have no value. -/
  value_eq : ∀ o ∈ tagged, o.value = 0
  /-- Each is one push that starts with the marker, as long as a push may be unless it is the
  last. -/
  push : ∀ place o, tagged[place]? = some o → ∃ push, o.scriptClass = .nullData [push] ∧
    params.marker.bytes <+: push ∧ push.length ≤ params.maxPushSize ∧
      (place + 1 < tagged.length → push.length = params.maxPushSize)
  /-- Together they bear the payload. -/
  borne_eq : borne params tagged = payload

/-- The outputs for the pieces are **such pushes**. -/
theorem pushes_of_mapM {payload : Bytes} {tagged : List Output}
    (hmarker : params.marker.bytes.length < params.maxPushSize)
    (h : (pieces (params.maxPushSize - params.marker.bytes.length) payload).mapM
      (taggedOutput params) = .ok tagged) : Pushes params payload tagged := by
  have hsize : 0 < params.maxPushSize - params.marker.bytes.length := by omega
  have hlength := (mapM_eq_ok_iff.1 h).length_eq
  exact {
    length_eq := by
      rw [← hlength, length_pieces hsize, params.marker.length_eq]
    value_eq := by
      intro o ho
      obtain ⟨piece, -, hpiece⟩ := exists_mem_of_mapM_eq_ok h ho
      unfold taggedOutput at hpiece
      dsimp only at hpiece
      split at hpiece
      · cases hpiece
        rfl
      · cases hpiece
    push := by
      intro place o hget
      obtain ⟨piece, hplace, hpiece⟩ := exists_getElem?_of_mapM_eq_ok h hget
      obtain ⟨hle, hfull⟩ := length_of_getElem?_pieces hsize hplace
      refine ⟨_, scriptClass_taggedOutput hpiece, List.prefix_append _ _, ?_, fun hnext => ?_⟩
      · rw [List.length_append]
        omega
      · rw [List.length_append, hfull (hlength ▸ hnext)]
        omega
    borne_eq := by
      -- What the outputs bear does not depend on the height: take one at which all is recognised.
      have hbodies : tagged.filterMap (body? params ⟨true, true, true⟩) = _ :=
        filterMap_body?_tagged rfl h
      rw [filterMap_body? rfl] at hbodies
      rw [borne, List.flatMap_def, hbodies]
      exact (flatten_pieces _ payload).1 }

/-- The output that pays the receiver: **none** without a receiver, and otherwise one of dust for
the destination of the address. -/
theorem receiverOutput_eq {receiver : Option String} {outs : List Output}
    (h : receiverOutput params receiver = .ok outs) :
    (receiver = none → outs = []) ∧ ∀ address, receiver = some address →
      ∃ destination, params.decodeAddress? address = some destination ∧
        outs = [⟨params.dustValue, destination.script⟩] := by
  cases receiver with
  | none =>
    cases h
    exact ⟨fun _ => rfl, fun _ h => by cases h⟩
  | some address =>
    constructor
    · intro hnone
      cases hnone
    · intro address' hsame
      cases hsame
      exact exists_of_receiverOutput_eq_ok h

/-- **A payload is assembled from tagged outputs alone.** Where null data is recognised and an
output is tagged, a reading is the front of what the tagged outputs bear, one after another, as long
as a word can count the bound on payloads; when it cannot, reading breaks off. In every other case
it fails for want of the marker. Whatever stands between the tagged outputs changes nothing, joined
outputs bear what the parts bear, and one pass reads the same. A payload that is laid out is borne
by outputs of one push each, all full but the last, followed by the one that pays the receiver, if
there is one. -/
theorem payload_assembled (params : Params) (height : UInt32) (outputs : List Output) :
    let active := params.activation.activeAt height
    let max := params.maxPackets * params.packetSize
    decodeInOnePass params active outputs = decode params active outputs ∧
    (∀ e, decode params active outputs = .error e ↔
      ((height < params.activation.nullDataHeight ∨ ∀ o ∈ outputs, ¬o.IsTagged params) ∧
        e = .malformedPayload .noMarker) ∨
      (params.activation.nullDataHeight ≤ height ∧ (∃ o ∈ outputs, o.IsTagged params) ∧
        wordCount ≤ max ∧ e = .overflow)) ∧
    (∀ payload, decode params active outputs = .ok payload ↔
      params.activation.nullDataHeight ≤ height ∧ (∃ o ∈ outputs, o.IsTagged params) ∧
        max < wordCount ∧ payload = (borne params outputs).take max) ∧
    (∀ others : List Output,
      others.filter (Output.isTagged params) = outputs.filter (Output.isTagged params) →
        decode params active others = decode params active outputs) ∧
    (∀ more payload, decode params active (outputs ++ more) = .ok payload ↔
      params.activation.nullDataHeight ≤ height ∧ (∃ o ∈ outputs ++ more, o.IsTagged params) ∧
        max < wordCount ∧ payload = (borne params outputs ++ borne params more).take max) ∧
    (∀ receiver payload outs, encode params receiver payload = .ok outs →
      ∃ tagged receiverOutputs, outs = tagged ++ receiverOutputs ∧ Pushes params payload tagged ∧
        (receiver = none → receiverOutputs = []) ∧ ∀ address, receiver = some address →
          ∃ destination, params.decodeAddress? address = some destination ∧
            receiverOutputs = [⟨params.dustValue, destination.script⟩]) := by
  intro active max
  have hactive : active.nullData = true ↔ params.activation.nullDataHeight ≤ height :=
    decide_eq_true_iff
  have hinactive : active.nullData = false ↔ height < params.activation.nullDataHeight := by
    rw [← Bool.not_eq_true, hactive, UInt32.not_le]
  refine ⟨decodeInOnePass_eq params active outputs, ?_, ?_, fun others h => decode_congr h, ?_, ?_⟩
  · intro e
    rw [decode_eq_error_iff, hinactive, hactive]
  · intro payload
    rw [decode_eq_ok_iff, hactive]
  · intro more payload
    rw [decode_eq_ok_iff, hactive, borne_append]
  · intro receiver payload outs h
    obtain ⟨-, -, hmarker, tagged, receiverOutputs, htagged, hreceiver, rfl⟩ :=
      encode_eq_ok_iff.1 h
    exact ⟨tagged, receiverOutputs, rfl, pushes_of_mapM hmarker htagged,
      receiverOutput_eq hreceiver⟩

/-- A payload for two pushes and a receiver are laid out in three outputs: two that bear the
payload, and one of dust for the destination of the receiver. -/
theorem payload_assembled_twoPieces :
    encode shortPushes (some "31h1vYVSYuKP6AhS86fbRdMw9XHieotbST") twoPieces
        = .ok twoPiecesOutputs ∧
      ∃ tagged, Pushes shortPushes twoPieces tagged ∧
        twoPiecesOutputs = tagged ++ [⟨5460, Script.payToScriptHash (FixedBytes.zero 20)⟩] := by
  have hencode : encode shortPushes (some "31h1vYVSYuKP6AhS86fbRdMw9XHieotbST") twoPieces
      = .ok twoPiecesOutputs := by
    decide +kernel
  have hdestination : shortPushes.decodeAddress? "31h1vYVSYuKP6AhS86fbRdMw9XHieotbST"
      = some (.scriptHash (FixedBytes.zero 20)) := by
    decide +kernel
  obtain ⟨-, -, -, -, -, hlaid⟩ := payload_assembled shortPushes 400000 []
  obtain ⟨tagged, receiverOutputs, houts, hpushes, -, hpaid⟩ := hlaid _ _ _ hencode
  obtain ⟨destination, hread, rfl⟩ := hpaid _ rfl
  obtain rfl := Option.some.inj (hdestination.symm.trans hread)
  exact ⟨hencode, tagged, hpushes, houts⟩

/-- An output with the marker and four bytes of payload. -/
def fourBytes : Output :=
  ⟨0, Script.opReturn :: Script.push [0x6f, 0x6d, 0x6e, 0x69, 0, 0, 0, 0]⟩

/-- With accepted settings reading **breaks off** at a tagged output, for all that is recognised: no
word can count the bound on payloads. -/
theorem decode_fourBytes_overlong :
    NetworkSettings.overlong.params = .ok Params.overlong ∧
      Params.overlong.activation.nullDataHeight ≤ 400000 ∧ fourBytes.IsTagged Params.overlong ∧
      decode Params.overlong (Params.overlong.activation.activeAt 400000) [fourBytes]
        = .error .overflow := by
  have htagged : fourBytes.IsTagged Params.overlong := Output.isTagged_iff.1 (by decide +kernel)
  refine ⟨NetworkSettings.params_overlong, by decide, htagged, decode_eq_error_iff.2 (.inr ?_)⟩
  exact ⟨by decide, ⟨fourBytes, List.mem_cons_self, htagged⟩, by decide, rfl⟩

end NullDataCarrier

end OmniLayer
