import OmniLayer.Proofs.Carrier.Decision
import OmniLayer.Proofs.Destination
import OmniLayer.Proofs.Message.SimpleSend
import OmniLayer.Proofs.Packets
import OmniLayer.Proofs.Parse

/-! # A payload laid out in addresses is read back

The decoder searches all outputs for the one with a data hash, and then for the receiver's: first by
the sequence byte, then by the value. Laid-out outputs are found among others that keep out of the
two searches (`decode_encode`), so a parse gives the payload and the receiver
(`parse_address_encode`). -/

namespace OmniLayer.AddressCarrier

variable {params : Params} {active : Activation}

/-! ## Candidates -/

/-- Whether an output **names** a destination: it is recognised, pays the destination, and is not
the Exodus output. -/
def Names (params : Params) (active : Activation) (output : Output)
    (destination : Destination) : Prop :=
  output.scriptClass.isAllowed active = true ∧
    Script.destination? output.script = some destination ∧
    params.exodusDestination? ≠ some destination

/-- An output is a candidate when it names a destination, with the hash of that. -/
theorem candidate?_eq_some {output : Output} {vout : Nat} {c : Candidate} :
    candidate? params active output vout = some c ↔
      ∃ d, Names params active output d ∧ c = ⟨vout, d.hash, output.value⟩ := by
  have hpays : Script.destination? output.script = Destination.ofClass? output.scriptClass := rfl
  unfold candidate? Names
  rw [hpays]
  by_cases hallowed : output.scriptClass.isAllowed active = true
  · rw [if_pos hallowed]
    cases Destination.ofClass? output.scriptClass with
    | none =>
      constructor
      · intro h
        cases h
      · rintro ⟨d, ⟨-, h, -⟩, -⟩
        cases h
    | some destination =>
      dsimp only
      by_cases hexodus : params.exodusDestination? = some destination
      · rw [if_pos hexodus]
        constructor
        · intro h
          cases h
        · rintro ⟨d, ⟨-, h, hne⟩, -⟩
          cases h
          exact absurd hexodus hne
      · rw [if_neg hexodus]
        constructor
        · intro h
          cases h
          exact ⟨destination, ⟨hallowed, rfl, hexodus⟩, rfl⟩
        · rintro ⟨d, ⟨-, h, -⟩, rfl⟩
          cases h
          rfl
  · rw [if_neg hallowed]
    constructor
    · intro h
      cases h
    · rintro ⟨d, ⟨h, -⟩, -⟩
      exact absurd h hallowed

/-- The candidates among outputs whose first stands at a place. -/
def candidatesFrom (params : Params) (active : Activation) (start : Nat)
    (outputs : List Output) : List Candidate :=
  (outputs.zipIdx start).filterMap fun (output, vout) => candidate? params active output vout

/-- The candidates of joined outputs are those of the parts, each from its own place. -/
theorem candidatesFrom_append (start : Nat) (xs ys : List Output) :
    candidatesFrom params active start (xs ++ ys)
      = candidatesFrom params active start xs
        ++ candidatesFrom params active (start + xs.length) ys := by
  rw [candidatesFrom, List.zipIdx_append, List.filterMap_append]
  rfl

/-- The candidates from an output on are the one it makes, if any, and those after it. -/
theorem candidatesFrom_cons (start : Nat) (output : Output) (outputs : List Output) :
    candidatesFrom params active start (output :: outputs)
      = (candidate? params active output start).toList
        ++ candidatesFrom params active (start + 1) outputs := by
  rw [candidatesFrom, List.zipIdx_cons, List.filterMap_cons]
  dsimp only
  cases candidate? params active output start <;> rfl

/-- A candidate comes from an output that names a destination, and stands in its place. -/
theorem exists_names_of_mem_candidatesFrom {start : Nat} {outputs : List Output} {c : Candidate}
    (h : c ∈ candidatesFrom params active start outputs) :
    start ≤ c.vout ∧ c.vout < start + outputs.length ∧
      ∃ o ∈ outputs, ∃ d, Names params active o d ∧ c.hash = d.hash ∧ c.value = o.value := by
  obtain ⟨⟨o, vout⟩, hmem, hc⟩ := List.mem_filterMap.1 h
  obtain ⟨d, hd, rfl⟩ := candidate?_eq_some.1 hc
  obtain ⟨hle, hlt, hget⟩ := List.mem_zipIdx hmem
  exact ⟨hle, hlt, o, hget ▸ List.getElem_mem _, d, hd, rfl, rfl⟩

/-! ## The two searches -/

/-- A member that alone passes a test is all that the test leaves. -/
theorem filter_eq_singleton {α : Type} {p : α → Bool} {x : α} {front back : List α}
    (hx : p x = true) (hothers : ∀ y ∈ front ++ back, p y = false) :
    (front ++ x :: back).filter p = [x] := by
  have hnil {l : List α} (hl : ∀ y ∈ l, p y = false) : l.filter p = [] :=
    List.filter_eq_nil_iff.2 fun y hy => Bool.not_eq_true _ ▸ hl y hy
  rw [List.filter_append, List.filter_cons_of_pos hx,
    hnil fun y hy => hothers y (List.mem_append_left _ hy),
    hnil fun y hy => hothers y (List.mem_append_right _ hy), List.nil_append]

/-- The one candidate with a data hash is the data output. -/
theorem dataOutput_eq_ok {data : Candidate} {front back : List Candidate}
    (hdata : isDataHash data.hash = true)
    (hothers : ∀ c ∈ front ++ back, isDataHash c.hash = false) :
    dataOutput (front ++ data :: back) = .ok data := by
  have hfilter : (front ++ data :: back).filter (fun c => isDataHash c.hash) = [data] :=
    filter_eq_singleton hdata hothers
  rw [dataOutput, hfilter]

/-- The candidate with the next sequence byte and the data output's value is the **reference**, if
no other has that byte, or no other has that value. -/
theorem reference_eq_ok {data receiver : Candidate} {front back : List Candidate}
    (hsequence : sequence receiver.hash = sequence data.hash + 1)
    (hvalue : receiver.value = data.value)
    (hothers : (∀ c ∈ front ++ back, sequence c.hash ≠ sequence receiver.hash) ∨
      ∀ c ∈ front ++ back, c.value ≠ data.value) :
    reference data (front ++ receiver :: back) = .ok receiver := by
  -- The first search is by the sequence byte; a failure of it is decided by the value.
  set next : Candidate → Bool := fun c => sequence c.hash == sequence data.hash + 1 with hnext
  set same : Candidate → Bool := fun c => c.value == data.value with hsame
  have hreceiver : next receiver = true := beq_iff_eq.2 hsequence
  unfold reference
  rcases hothers with hothers | hothers
  · have hbySequence : (front ++ receiver :: back).filter next = [receiver] :=
      filter_eq_singleton hreceiver fun c hc =>
        beq_eq_false_iff_ne.2 (hsequence ▸ hothers c hc)
    rw [hbySequence]
  · have hbyValue : (front ++ receiver :: back).filter same = [receiver] :=
      filter_eq_singleton (beq_iff_eq.2 hvalue) fun c hc => beq_eq_false_iff_ne.2 (hothers c hc)
    rw [hbyValue]
    split
    · next c hfilter =>
      -- The receiver has the next byte itself, so a single match is the receiver.
      have hmem : receiver ∈ [c] :=
        hfilter ▸ List.mem_filter.2 ⟨List.mem_append_right _ List.mem_cons_self, hreceiver⟩
      rw [List.mem_singleton.1 hmem]
    · rfl

/-! ## The data hash -/

/-- The data hash of a short payload is the sequence byte and the payload, filled up with zeros. -/
theorem bytes_dataHash (sequence : UInt8) {payload : Bytes} (h : payload.length ≤ 19) :
    (dataHash sequence payload).bytes = sequence :: Bytes.padTo 19 payload := by
  have hlength : (Bytes.padTo 20 (sequence :: payload)).length = 20 :=
    Bytes.length_padTo (Nat.succ_le_succ h)
  change (Bytes.padTo 20 (sequence :: payload)).take 20 = _
  rw [List.take_of_length_le (Nat.le_of_eq hlength), Bytes.padTo_cons]

/-- The sequence byte of a data hash is the one it was given. -/
theorem sequence_dataHash (byte : UInt8) {payload : Bytes} (h : payload.length ≤ 19) :
    sequence (dataHash byte payload) = byte := by
  rw [sequence, bytes_dataHash byte h, List.headD_cons]

/-- Behind its first byte a data hash holds the payload, filled up with zeros. -/
theorem payload_dataHash (byte : UInt8) {payload : Bytes} (h : payload.length ≤ 19) :
    ((dataHash byte payload).bytes.drop 1).take 19 = Bytes.padTo 19 payload := by
  have hlength : (Bytes.padTo 19 payload).length = 19 := Bytes.length_padTo h
  rw [bytes_dataHash byte h, List.drop_one, List.tail_cons,
    List.take_of_length_le (Nat.le_of_eq hlength)]

/-- A hash is a data hash exactly when what it holds **behind its first byte** reads as a simple
send. -/
theorem isDataHash_iff_ofPayload? {hash : Hash160} :
    isDataHash hash = true ↔ SimpleSend.ofPayload? (hash.bytes.drop 1) ≠ none := by
  set body := hash.bytes.drop 1 with hbody
  have hlength : body.length = 19 := by
    rw [hbody, List.length_drop, hash.length_eq]
  have hid : (hash.bytes.drop 5).take 4 = (body.drop 4).take 4 := by
    rw [hbody, List.drop_drop]
  rw [isDataHash, ← hbody, hid, Bool.and_eq_true, beq_iff_eq, Option.isSome_iff_exists,
    Option.ne_none_iff_exists']
  simp only [SimpleSend.ofPayload?_eq_some_iff_parts]
  constructor
  · rintro ⟨hzero, property, hproperty⟩
    have hheader : body.take 4 = [0, 0, 0, 0] :=
      Bytes.eq_of_toNatBE_eq (by simp [hlength]) hzero
    -- The nineteen bytes are the zeros, the property, the amount and three more.
    refine ⟨⟨property, _⟩, (body.drop 4).take 4, ((body.drop 4).drop 4).take 8,
      ((body.drop 4).drop 4).drop 8, ?_, by simp [hlength], by simp [hlength], hproperty, rfl⟩
    rw [List.take_append_drop, List.take_append_drop, ← hheader, List.take_append_drop]
  · rintro ⟨send, id, amount, rest, hparts, hidLength, -, hproperty, -⟩
    have hheader : body.take 4 = [0, 0, 0, 0] := by
      rw [hparts]
      rfl
    have hnumber : (body.drop 4).take 4 = id := by
      rw [hparts]
      exact List.take_left' hidLength
    rw [hheader, hnumber]
    exact ⟨rfl, send.property, hproperty⟩

/-- The data hash of a simple send **is a data hash**, whatever its sequence byte. -/
theorem isDataHash_dataHash (sequence : UInt8) {payload : Bytes} (hlength : payload.length ≤ 19)
    (hsend : SimpleSend.ofPayload? payload ≠ none) :
    isDataHash (dataHash sequence payload) = true := by
  rw [isDataHash_iff_ofPayload?, bytes_dataHash sequence hlength, List.drop_one, List.tail_cons,
    Bytes.padTo, SimpleSend.ofPayload?_append hsend]
  exact hsend

/-! ## Reading laid-out outputs among others -/

/-- A simple send that is laid out is a short payload for a readable receiver, beside Exodus. -/
theorem exists_of_encode_eq_ok {receiver : String} {payload : Bytes} {outs : List Output}
    (h : encode params receiver payload = .ok outs) :
    ∃ destination exodus, params.decodeAddress? receiver = some destination ∧
      params.exodusDestination? = some exodus ∧ payload.length ≤ 19 ∧
      SimpleSend.ofPayload? payload ≠ none ∧
      outs = [exodus, .pubkeyHash (dataHash (sequence destination.hash - 1) payload),
        destination].map (dustOutput params) := by
  unfold encode at h
  dsimp only at h
  by_cases hlength : payload.length > min params.addressPacketSize 19
  · rw [if_pos hlength] at h
    cases h
  rw [if_neg hlength] at h
  by_cases hsend : SimpleSend.ofPayload? payload = none
  · rw [if_pos hsend] at h
    cases h
  rw [if_neg hsend] at h
  cases hdestination : params.decodeAddress? receiver with
  | none =>
    rw [hdestination] at h
    cases h
  | some destination =>
    cases hexodus : params.exodusDestination? with
    | none =>
      rw [hdestination, hexodus] at h
      cases h
    | some exodus =>
      rw [hdestination, hexodus] at h
      cases h
      exact ⟨destination, exodus, rfl, rfl, by omega, hsend, rfl⟩

/-- An output that pays a recognised destination other than Exodus names it. -/
theorem names_dustOutput {destination : Destination}
    (hallowed : (Script.classify destination.script).isAllowed active = true)
    (hexodus : params.exodusDestination? ≠ some destination) :
    Names params active (dustOutput params destination) destination :=
  ⟨hallowed, Script.destination?_script destination, hexodus⟩

/-- The Exodus output is no candidate. -/
theorem candidate?_exodus {exodus : Destination}
    (hexodus : params.exodusDestination? = some exodus) (vout : Nat) :
    candidate? params active (dustOutput params exodus) vout = none := by
  rw [Option.eq_none_iff_forall_ne_some]
  intro c hc
  obtain ⟨d, ⟨-, hpays, hne⟩, -⟩ := candidate?_eq_some.1 hc
  rw [dustOutput, Script.destination?_script] at hpays
  exact hne (hexodus.trans hpays)

/-- **Laid-out outputs are read** among others, of which none has a data hash, and either none has
the receiver's first byte or none has the value of the laid-out ones. -/
theorem decode_append_dustOutputs {before after : List Output}
    {exodus data receiver : Destination} (hsize : 1 + params.addressPacketSize < wordCount)
    (hexodus : params.exodusDestination? = some exodus)
    (hdata : Names params active (dustOutput params data) data)
    (hreceiver : Names params active (dustOutput params receiver) receiver)
    (hdataHash : isDataHash data.hash = true) (hreceiverHash : isDataHash receiver.hash = false)
    (hsequence : sequence receiver.hash = sequence data.hash + 1)
    (hothers : ∀ o ∈ before ++ after, ∀ d, Names params active o d → isDataHash d.hash = false)
    (hunique : (∀ o ∈ before ++ after, ∀ d, Names params active o d →
        sequence d.hash ≠ sequence receiver.hash) ∨
      ∀ o ∈ before ++ after, ∀ d, Names params active o d → o.value ≠ params.dustValue) :
    decode params active (before ++ [exodus, data, receiver].map (dustOutput params) ++ after)
      = .ok ⟨(data.hash.bytes.drop 1).take params.addressPacketSize, before.length + 1,
          before.length + 2⟩ := by
  set front := candidatesFrom params active 0 before with hfront
  set back := candidatesFrom params active (before.length + 3) after with hback
  set d : Candidate := ⟨before.length + 1, data.hash, params.dustValue⟩ with hd
  set r : Candidate := ⟨before.length + 2, receiver.hash, params.dustValue⟩ with hr
  have hcandidates : candidates params active
      (before ++ [exodus, data, receiver].map (dustOutput params) ++ after)
      = front ++ d :: r :: back := by
    change candidatesFrom params active 0 _ = _
    rw [List.append_assoc, candidatesFrom_append, List.map_cons, List.map_cons, List.map_cons,
      List.map_nil, List.cons_append, List.cons_append, List.cons_append, List.nil_append,
      candidatesFrom_cons, candidate?_exodus hexodus, candidatesFrom_cons,
      candidate?_eq_some.2 ⟨data, hdata, rfl⟩, candidatesFrom_cons,
      candidate?_eq_some.2 ⟨receiver, hreceiver, rfl⟩, Nat.zero_add]
    rfl
  -- Every other candidate comes from an output around the laid-out ones, before or after them.
  have haround : ∀ c ∈ front ++ back, c.vout ≠ before.length + 1 ∧
      ∃ o ∈ before ++ after, ∃ d, Names params active o d ∧ c.hash = d.hash ∧
        c.value = o.value := by
    intro c hc
    rcases List.mem_append.1 hc with hc | hc
    · obtain ⟨-, hlt, o, ho, hnames⟩ := exists_names_of_mem_candidatesFrom hc
      exact ⟨by omega, o, List.mem_append_left _ ho, hnames⟩
    · obtain ⟨hle, -, o, ho, hnames⟩ := exists_names_of_mem_candidatesFrom hc
      exact ⟨by omega, o, List.mem_append_right _ ho, hnames⟩
  have hhash : ∀ c ∈ front ++ back, isDataHash c.hash = false := by
    intro c hc
    obtain ⟨-, o, ho, e, he, hhash, -⟩ := haround c hc
    rw [hhash]
    exact hothers o ho e he
  have hdataOutput : dataOutput (front ++ d :: r :: back) = .ok d := by
    refine dataOutput_eq_ok hdataHash fun c hc => ?_
    rcases List.mem_append.1 hc with hc | hc
    · exact hhash c (List.mem_append_left _ hc)
    · rcases List.mem_cons.1 hc with rfl | hc
      · exact hreceiverHash
      · exact hhash c (List.mem_append_right _ hc)
  -- The data output takes itself out of the search for the receiver, by its place.
  have hremaining : (front ++ d :: r :: back).filter (fun c => c.vout ≠ d.vout)
      = front ++ r :: back := by
    rw [List.filter_append, List.filter_cons_of_neg (by simp),
      List.filter_cons_of_pos (by simp [hd, hr]), List.filter_eq_self.2, List.filter_eq_self.2]
    · exact fun c hc => decide_eq_true (haround c (List.mem_append_right _ hc)).1
    · exact fun c hc => decide_eq_true (haround c (List.mem_append_left _ hc)).1
  have hreference : reference d (front ++ r :: back) = .ok r := by
    refine reference_eq_ok hsequence rfl (hunique.imp (fun h c hc => ?_) fun h c hc => ?_)
    · obtain ⟨-, o, ho, e, he, hhash, -⟩ := haround c hc
      rw [hhash]
      exact h o ho e he
    · obtain ⟨-, o, ho, e, he, -, hvalue⟩ := haround c hc
      rw [hvalue]
      exact h o ho e he
  rw [decode, hcandidates, hdataOutput]
  change reference d ((front ++ d :: r :: back).filter fun c => c.vout ≠ d.vout) >>= _ = _
  rw [hremaining, hreference]
  exact readingOf_of_lt hsize d r

/-! ## Parsing -/

/-- An output that pays a destination is no null data and no bare multisig. -/
theorem scriptClass_dustOutput (destination : Destination) :
    ¬(dustOutput params destination).IsNullData ∧
      (dustOutput params destination).isMultisig active = false := by
  have hclass : (dustOutput params destination).scriptClass
      = Script.classify destination.script := rfl
  unfold Output.IsNullData Output.isMultisig
  rw [hclass]
  cases destination <;> simp [Destination.script]

/-- Laid-out outputs among others that are neither null data nor recognised bare multisig use the
**address** carrier. -/
theorem ofOutputs_append_dustOutputs {before after : List Output} {exodus : Hash160}
    (hexodus : params.exodusDestination? = some (.pubkeyHash exodus)) (data receiver : Destination)
    (haround : ∀ o ∈ before ++ after, ¬o.IsNullData ∧ o.isMultisig active = false) :
    Decision.ofOutputs params active
        (before ++ [.pubkeyHash exodus, data, receiver].map (dustOutput params) ++ after)
      = .carrier .address := by
  set laid := [.pubkeyHash exodus, data, receiver].map (dustOutput params) with hlaid
  have hlaid : ∀ o ∈ laid, ¬o.IsNullData ∧ o.isMultisig active = false := by
    intro o ho
    obtain ⟨destination, -, rfl⟩ := List.mem_map.1 ho
    exact scriptClass_dustOutput destination
  have hall := forall_mem_around hlaid haround
  have hpays : ∃ o ∈ before ++ laid ++ after, o.paysExodus params = true :=
    ⟨dustOutput params (.pubkeyHash exodus), mem_around List.mem_cons_self,
      Output.paysExodus_iff.2 ⟨exodus, hexodus, rfl⟩⟩
  rw [Decision.ofOutputs_of_paysExodus (fun o ho => (hall o ho).1) hpays, if_neg]
  rintro ⟨o, ho, hmultisig⟩
  rw [(hall o ho).2] at hmultisig
  cases hmultisig

/-- **A simple send laid out in addresses is parsed back**, whatever outputs stand around it, as
long as none of these is null data, a recognised bare multisig or a second data output, and either
none has the receiver's first byte or none has the value of the laid-out outputs. The sequence byte
wraps, so the receiver's first byte may be zero. -/
theorem parse_address_encode {params : Params} {coins : CoinLookup} {height time : UInt32}
    {tx : Transaction} {sender receiver : String} {payload : Bytes}
    {outs before after : List Output} {exodus : Hash160} {destination : Destination}
    (hsize : params.addressPacketSize = 19)
    (hexodus : params.exodusDestination? = some (.pubkeyHash exodus))
    (hencode : encode params receiver payload = .ok outs)
    (hdestination : params.decodeAddress? receiver = some destination)
    (hallowed : (Script.classify destination.script).isAllowed (params.activation.activeAt height)
      = true)
    (hreceiver : destination ≠ .pubkeyHash exodus)
    (hreceiverHash : isDataHash destination.hash = false)
    (hdata : dataHash (sequence destination.hash - 1) payload ≠ exodus)
    (htx : tx.outputs = before ++ outs ++ after)
    (haround : ∀ o ∈ before ++ after, ¬o.IsNullData ∧
      o.isMultisig (params.activation.activeAt height) = false ∧
      ∀ d, Names params (params.activation.activeAt height) o d → isDataHash d.hash = false)
    (hunique : (∀ o ∈ before ++ after, ∀ d, Names params (params.activation.activeAt height) o d →
        sequence d.hash ≠ sequence destination.hash) ∨
      ∀ o ∈ before ++ after, ∀ d, Names params (params.activation.activeAt height) o d →
        o.value ≠ params.dustValue)
    (hsender : Sender.contributionSum params (params.activation.activeAt height) coins tx.previous
      = .ok sender) :
    ∃ fee, Fee.ofTransaction coins tx = .ok fee ∧
      Transaction.parse params coins height time tx
        = .ok (.message ⟨tx.txid.text, sender,
            some (destination.toAddress params.addressVersions), fee, Bytes.padTo 19 payload,
            .address, height, time⟩) := by
  obtain ⟨d, e, hd, he, hlength, hsend, rfl⟩ := exists_of_encode_eq_ok hencode
  obtain rfl : destination = d := Option.some.inj (hdestination.symm.trans hd)
  obtain rfl : .pubkeyHash exodus = e := Option.some.inj (hexodus.symm.trans he)
  set data := dataHash (sequence destination.hash - 1) payload with hdataDef
  have hdataNames : Names params (params.activation.activeAt height)
      (dustOutput params (.pubkeyHash data)) (.pubkeyHash data) := by
    refine names_dustOutput (by rw [Destination.script, Script.classify_payToPubkeyHash]; rfl) ?_
    rw [hexodus]
    exact fun h => hdata (Destination.pubkeyHash.inj (Option.some.inj h)).symm
  have hreceiverNames : Names params (params.activation.activeAt height)
      (dustOutput params destination) destination := by
    refine names_dustOutput hallowed ?_
    rw [hexodus]
    exact fun h => hreceiver (Option.some.inj h).symm
  have hsequence : sequence destination.hash = sequence data + 1 := by
    rw [hdataDef, sequence_dataHash _ hlength, UInt8.sub_add_cancel]
  have hdecode := decode_append_dustOutputs (hsize ▸ by decide) hexodus hdataNames hreceiverNames
    (isDataHash_dataHash _ hlength hsend) hreceiverHash hsequence
    (fun o ho => (haround o ho).2.2) hunique
  have hget : tx.outputs[before.length + 2]? = some (dustOutput params destination) := by
    rw [htx, List.append_assoc, List.getElem?_append_right (Nat.le_add_right _ _),
      Nat.add_sub_cancel_left]
    rfl
  have hcontent : Transaction.content params (params.activation.activeAt height) sender tx.outputs
      .address = .ok (Bytes.padTo 19 payload,
        some (destination.toAddress params.addressVersions)) := by
    rw [Transaction.content, htx, hdecode, ← htx]
    change Except.ok ((data.bytes.drop 1).take params.addressPacketSize,
      tx.outputs[before.length + 2]?.bind _) = _
    rw [hget, hsize, payload_dataHash _ hlength, Option.bind_some, dustOutput,
      Params.addressOf?_script]
  have hdecision : Decision.ofOutputs params (params.activation.activeAt height) tx.outputs
      = .carrier .address := by
    rw [htx]
    exact ofOutputs_append_dustOutputs hexodus _ _ fun o ho =>
      ⟨(haround o ho).1, (haround o ho).2.1⟩
  obtain ⟨fee, hfee⟩ :=
    Fee.exists_ofTransaction_eq_ok (Sender.exists_coin_of_contributionSum hsender)
  exact ⟨fee, hfee, Transaction.parse_eq_message hdecision hsender hcontent hfee⟩

/-- A simple send of one unit of the main property. -/
def oneUnit : Bytes := [0, 0, 0, 0, 0, 0, 0, 1, 0, 0, 0, 0, 0, 0, 0, 1]

/-- The receiver whose first byte is the one after the largest. -/
def wrappedReceiver : Destination := .scriptHash (FixedBytes.zero 20)

/-- The outputs that carry one unit to that receiver. -/
def wrappedOutputs : List Output :=
  [.pubkeyHash Params.mainExodus, .pubkeyHash (dataHash 0xff oneUnit), wrappedReceiver].map
    (dustOutput Params.bitcoin)

/-- A change output with the receiver's first byte and another value. -/
def wrappedChange : Output := ⟨1000, Script.payToPubkeyHash (FixedBytes.zero 20)⟩

/-- A transaction with the change output before the laid-out ones. -/
def wrappedTransaction : Transaction :=
  .spending ([wrappedChange] ++ wrappedOutputs ++ [])

/-- The byte before zero is the largest one, and the value tells the receiver from the change. -/
theorem parse_address_encode_wrapped :
    encode Params.bitcoin "31h1vYVSYuKP6AhS86fbRdMw9XHieotbST" oneUnit = .ok wrappedOutputs ∧
      ∃ fee, Transaction.parse Params.bitcoin Transaction.spentCoins 400000 0
          wrappedTransaction
        = .ok (.message ⟨wrappedTransaction.txid.text, "1eA9ctCNq41iLLnQErtTUVdxpRyZ9hZmW",
            some (wrappedReceiver.toAddress Params.bitcoin.addressVersions), fee,
            Bytes.padTo 19 oneUnit, .address, 400000, 0⟩) := by
  have hencode : encode Params.bitcoin "31h1vYVSYuKP6AhS86fbRdMw9XHieotbST" oneUnit
      = .ok wrappedOutputs := by
    decide +kernel
  have hdestination : Params.bitcoin.decodeAddress? "31h1vYVSYuKP6AhS86fbRdMw9XHieotbST"
      = some wrappedReceiver := by
    decide +kernel
  have hsender : Sender.contributionSum Params.bitcoin
      (Params.bitcoin.activation.activeAt 400000) Transaction.spentCoins
      wrappedTransaction.previous = .ok "1eA9ctCNq41iLLnQErtTUVdxpRyZ9hZmW" := by
    decide +kernel
  have hclass : wrappedChange.scriptClass = .pubkeyHash (FixedBytes.zero 20) :=
    Script.classify_payToPubkeyHash _
  have haround : ∀ o ∈ [wrappedChange] ++ [], ¬o.IsNullData ∧
      o.isMultisig (Params.bitcoin.activation.activeAt 400000) = false ∧
      ∀ d, Names Params.bitcoin (Params.bitcoin.activation.activeAt 400000) o d →
        isDataHash d.hash = false := by
    intro o ho
    obtain rfl := List.mem_singleton.1 ho
    refine ⟨?_, by rw [Output.isMultisig, hclass], fun d hd => ?_⟩
    · rintro ⟨pushes, h⟩
      rw [hclass] at h
      cases h
    · obtain rfl : .pubkeyHash (FixedBytes.zero 20) = d :=
        Option.some.inj ((Script.destination?_script (.pubkeyHash _)).symm.trans hd.2.1)
      decide
  have hvalue : ∀ o ∈ [wrappedChange] ++ [], ∀ d, Names Params.bitcoin
      (Params.bitcoin.activation.activeAt 400000) o d → o.value ≠ Params.bitcoin.dustValue := by
    intro o ho d _
    obtain rfl := List.mem_singleton.1 ho
    decide
  obtain ⟨fee, -, hparse⟩ := parse_address_encode rfl Params.exodusDestination?_bitcoin hencode
    hdestination (by decide) (by decide) (by decide) (by decide) rfl haround (Or.inr hvalue) hsender
  exact ⟨hencode, fee, hparse⟩

end OmniLayer.AddressCarrier
