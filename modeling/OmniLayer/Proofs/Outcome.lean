import OmniLayer.Proofs.Carrier.Reading
import OmniLayer.Proofs.Network

/-! # What a parse yields

The decision on the outputs and the stages behind it go over the same transaction separately. They
agree all the same. Once null data or multisig is decided the payload is read
(`exists_content_eq_ok`), so only the sender can be wanting; once an address is decided the payload
may be unreadable as well (`failsOnly_message_of_decision`). So every result is one that the
decision leaves open (`allows_parse`), and which one is told by the sender's rule, with the address
decoder for addresses alone (`parse_followsDecision`). The one way out is a bound on payloads that
no word can count: there a parse breaks off once the sender is told (`parse_eq_overflow_iff`). -/

namespace OmniLayer

variable {params : Params} {active : Activation} {coins : CoinLookup} {height time : UInt32}
  {tx : Transaction}

namespace ParseError

/-- Whether an error is that the sender cannot be told. -/
def IsUnresolvableSender (e : ParseError) : Prop := ∃ problem, e = .unresolvableSender problem

/-- Whether an error is that the payload is malformed. -/
def IsMalformedPayload (e : ParseError) : Prop := ∃ cause, e = .malformedPayload cause

end ParseError

/-- What cannot be read is malformed. -/
theorem AddressCarrier.isMalformedPayload {e : ParseError} (h : IsUnreadable e) :
    e.IsMalformedPayload := by
  cases h with
  | noDataOutput => exact ⟨_, rfl⟩
  | severalDataOutputs count => exact ⟨_, rfl⟩
  | ambiguousReference count => exact ⟨_, rfl⟩

/-- Packets that are not read are malformed, or no word can count the bound on payloads. -/
theorem MultisigCarrier.failsOnly_decode (params : Params) (active : Activation) (seed : String)
    (outputs : List Output) :
    FailsOnly (fun e => e.IsMalformedPayload ∨ params.IsOverlong ∧ e = .overflow)
      (decode params active seed outputs) := by
  have hchunk (key : PacketKey) :
      FailsOnly ParseError.IsMalformedPayload (chunk params.packetSize key) := by
    unfold chunk
    split
    · exact .ok _
    · exact .error ⟨_, rfl⟩
  have hpackets : FailsOnly ParseError.IsMalformedPayload (packets params active seed outputs) :=
    (FailsOnly.mapM hchunk _).bind fun _ => .ok _
  refine (hpackets.mono fun _ => Or.inl).bind fun _ => ?_
  rcases Nat.lt_or_ge (params.maxPackets * params.packetSize) wordCount with hword | hword
  · rw [Params.maxPayloadSize?_of_lt hword]
    exact .ok _
  · rw [Params.maxPayloadSize?_of_le hword]
    exact .error (.inr ⟨.inl hword, rfl⟩)

/-- Null data that is not read is malformed, or no word can count the bound on payloads. -/
theorem NullDataCarrier.failsOnly_decode (params : Params) (active : Activation)
    (outputs : List Output) :
    FailsOnly (fun e => e.IsMalformedPayload ∨ params.IsOverlong ∧ e = .overflow)
      (decode params active outputs) := by
  unfold decode
  split
  · exact .error (.inl ⟨_, rfl⟩)
  · rcases Nat.lt_or_ge (params.maxPackets * params.packetSize) wordCount with hword | hword
    · rw [Params.maxPayloadSize?_of_lt hword]
      exact .ok _
    · rw [Params.maxPayloadSize?_of_le hword]
      exact .error (.inr ⟨.inl hword, rfl⟩)

/-! ## Failures of the stages -/

namespace Sender

/-- A coin that is not known leaves the sender unresolved. -/
theorem failsOnly_coin (coins : CoinLookup) (outpoint : OutPoint) :
    FailsOnly ParseError.IsUnresolvableSender (coin coins outpoint) := by
  unfold coin
  split
  · exact .ok _
  · exact .error ⟨_, rfl⟩

/-- A coin that speaks for no address leaves the sender unresolved. -/
theorem failsOnly_coinAddress (params : Params) (active : Activation) (outpoint : OutPoint)
    (coin : Output) :
    FailsOnly ParseError.IsUnresolvableSender (coinAddress params active outpoint coin) := by
  unfold coinAddress
  dsimp only
  split
  · split
    · exact .ok _
    · exact .error ⟨_, rfl⟩
  · exact .error ⟨_, rfl⟩

/-- An outpoint that contributes nothing leaves the sender unresolved. -/
theorem failsOnly_contribution (params : Params) (active : Activation) (coins : CoinLookup)
    (outpoint : OutPoint) :
    FailsOnly ParseError.IsUnresolvableSender (contribution params active coins outpoint) := by
  unfold contribution
  refine (failsOnly_coin coins outpoint).bind fun coin => ?_
  exact (failsOnly_coinAddress params active outpoint coin).bind fun _ => .ok _

/-- A rule that names no sender leaves it **unresolved**, whatever the outpoints. -/
theorem failsOnly_byRule (params : Params) (active : Activation) (coins : CoinLookup)
    (outpoints : List OutPoint) (rule : SenderRule) :
    FailsOnly ParseError.IsUnresolvableSender (byRule params active coins outpoints rule) := by
  cases rule with
  | firstInput =>
    cases outpoints with
    | nil => exact .error ⟨_, rfl⟩
    | cons outpoint rest => exact (failsOnly_contribution params active coins outpoint).map _
  | contributionSum =>
    change FailsOnly _ (contributionSum params active coins outpoints)
    unfold contributionSum
    split
    · exact .error ⟨_, rfl⟩
    · refine (FailsOnly.mapM (failsOnly_contribution params active coins) _).bind fun cs => ?_
      split
      · exact .ok _
      · exact .error ⟨_, rfl⟩

end Sender

/-- A fee is unknown only for want of a coin, which leaves the sender unresolved as well. -/
theorem Fee.failsOnly_ofTransaction (coins : CoinLookup) (tx : Transaction) :
    FailsOnly ParseError.IsUnresolvableSender (Fee.ofTransaction coins tx) := by
  unfold Fee.ofTransaction
  exact (FailsOnly.mapM (Sender.failsOnly_coin coins) _).bind fun _ => .ok _

/-! ## What a decision leaves open -/

namespace Decision

/-- The results that a decision **leaves open**. -/
inductive Allows (height : UInt32) : Decision → ParseResult → Prop
  /-- There is no message. -/
  | notProtocol : Allows height .notProtocol (.ok .notProtocol)
  /-- Null data comes too early. -/
  | notActivated : Allows height .notActivated (.error (.activationNotReached .nullData height))
  /-- The marker is split. -/
  | splitMarker : Allows height .splitMarker (.error (.malformedPayload .splitMarker))
  /-- There is a message of the carrier. -/
  | message (m : Message) : Allows height (.carrier m.carrier) (.ok (.message m))
  /-- The sender cannot be told. -/
  | unresolvable (carrier : Carrier) (problem : SenderProblem) :
    Allows height (.carrier carrier) (.error (.unresolvableSender problem))
  /-- The address cannot be read. -/
  | unreadable {e : ParseError} (h : AddressCarrier.IsUnreadable e) :
    Allows height (.carrier .address) (.error e)
  /-- No word can count the bound on payloads. -/
  | overflow (carrier : Carrier) : Allows height (.carrier carrier) (.error .overflow)

namespace Allows

variable {decision : Decision} {result : ParseResult}

/-- No message is found exactly when that is the decision. -/
theorem eq_notProtocol_iff (h : decision.Allows height result) :
    result = .ok .notProtocol ↔ decision = .notProtocol := by
  cases h <;> simp

/-- Null data comes too early exactly when that is the decision. -/
theorem eq_activationNotReached_iff (h : decision.Allows height result) :
    result = .error (.activationNotReached .nullData height) ↔ decision = .notActivated := by
  cases h with
  | unreadable h => cases h <;> simp
  | _ => simp

/-- A carrier other than an address fails for want of a sender, unless it breaks off. -/
theorem isUnresolvableSender {carrier : Carrier} {e : ParseError}
    (h : (Decision.carrier carrier).Allows height (.error e)) (hne : carrier ≠ .address)
    (hoverflow : e ≠ .overflow) : e.IsUnresolvableSender := by
  cases h with
  | unresolvable _ problem => exact ⟨problem, rfl⟩
  | unreadable _ => exact absurd rfl hne
  | overflow => exact absurd rfl hoverflow

/-- A payload is malformed with its marker split, or as an address that cannot be read. -/
theorem of_malformedPayload {cause : Malformation}
    (h : decision.Allows height (.error (.malformedPayload cause))) :
    (decision = .splitMarker ∧ cause = .splitMarker) ∨
      (decision = .carrier .address ∧ AddressCarrier.IsUnreadable (.malformedPayload cause)) := by
  cases h with
  | splitMarker => exact Or.inl ⟨rfl, rfl⟩
  | unreadable h => exact Or.inr ⟨rfl, h⟩

/-- A message has the carrier that was decided. -/
theorem eq_carrier {m : Message} (h : decision.Allows height (.ok (.message m))) :
    decision = .carrier m.carrier := by
  cases h
  rfl

end Allows

end Decision

namespace Transaction

/-! ## The content -/

/-- The content of an address is read when the address decoder reads it. -/
theorem exists_content_address_iff {sender : String} {outputs : List Output} :
    (∃ c, content params active sender outputs .address = .ok c) ↔
      ∃ reading, AddressCarrier.decode params active outputs = .ok reading := by
  constructor
  · rintro ⟨c, hc⟩
    obtain ⟨reading, hreading, -⟩ := bind_eq_ok_iff.1 hc
    exact ⟨reading, hreading⟩
  · rintro ⟨reading, hreading⟩
    exact ⟨_, bind_eq_ok_iff.2 ⟨reading, hreading, rfl⟩⟩

/-- The content of a carrier other than an address is **read off the outputs** on which it was
decided, if a word can count the bound on payloads. -/
theorem exists_content_eq_ok {carrier : Carrier} {outputs : List Output}
    (husable : params.IsUsable) (hword : params.maxPackets * params.packetSize < wordCount)
    (hdecision : Decision.ofOutputs params active outputs = .carrier carrier)
    (hne : carrier ≠ .address) (sender : String) :
    ∃ c, content params active sender outputs carrier = .ok c := by
  cases carrier with
  | address => exact absurd rfl hne
  | multisig =>
    obtain ⟨read, hread⟩ := MultisigCarrier.exists_packets_eq_ok husable.packetSize_lt active
      sender outputs
    have hpayload := MultisigCarrier.decode_eq_ite hread
    rw [if_pos hword] at hpayload
    exact ⟨_, bind_eq_ok_iff.2 ⟨_, hpayload, rfl⟩⟩
  | nullData =>
    obtain ⟨hactive, htagged⟩ := Decision.ofOutputs_eq_nullData_iff.1 hdecision
    have hpayload := NullDataCarrier.decode_eq_ok_iff.2 ⟨hactive, htagged, hword, rfl⟩
    exact ⟨_, bind_eq_ok_iff.2 ⟨_, hpayload, rfl⟩⟩

/-- When no word can count the bound on payloads, reading the content **breaks off**. -/
theorem content_eq_overflow {carrier : Carrier} {outputs : List Output}
    (husable : params.IsUsable) (hword : wordCount ≤ params.maxPackets * params.packetSize)
    (hdecision : Decision.ofOutputs params active outputs = .carrier carrier)
    (hne : carrier ≠ .address) (sender : String) :
    content params active sender outputs carrier = .error .overflow := by
  cases carrier with
  | address => exact absurd rfl hne
  | multisig =>
    obtain ⟨read, hread⟩ := MultisigCarrier.exists_packets_eq_ok husable.packetSize_lt active
      sender outputs
    have hpayload := MultisigCarrier.decode_eq_ite hread
    rw [if_neg (Nat.not_lt.2 hword)] at hpayload
    exact bind_eq_error_iff.2 (.inl hpayload)
  | nullData =>
    obtain ⟨hactive, htagged⟩ := Decision.ofOutputs_eq_nullData_iff.1 hdecision
    have hpayload := NullDataCarrier.decode_eq_error_iff.2 (.inr ⟨hactive, htagged, hword, rfl⟩)
    exact bind_eq_error_iff.2 (.inl hpayload)

/-- The content of an address that is not read is unreadable. -/
theorem failsOnly_content_address (hsize : 1 + params.addressPacketSize < wordCount)
    (active : Activation) (sender : String) (outputs : List Output) :
    FailsOnly AddressCarrier.IsUnreadable (content params active sender outputs .address) :=
  (AddressCarrier.failsOnly_decode_of_lt hsize active outputs).bind fun _ => .ok _

/-- The content of any carrier that is not read is **malformed**, or reading breaks off for an
overlong size. -/
theorem failsOnly_content (params : Params) (active : Activation) (sender : String)
    (outputs : List Output) (carrier : Carrier) :
    FailsOnly (fun e => e.IsMalformedPayload ∨ params.IsOverlong ∧ e = .overflow)
      (content params active sender outputs carrier) := by
  cases carrier with
  | address =>
    refine FailsOnly.bind ?_ fun _ => .ok _
    exact (AddressCarrier.failsOnly_decode params active outputs).mono fun _ hkind =>
      hkind.imp AddressCarrier.isMalformedPayload (And.imp_left Or.inr)
  | multisig =>
    exact (MultisigCarrier.failsOnly_decode params active sender outputs).bind fun _ => .ok _
  | nullData =>
    exact (NullDataCarrier.failsOnly_decode params active outputs).bind fun _ => .ok _

/-- The content of a carrier other than an address is the payload that **its decoder** reads, with
the receiver that the outputs identify. -/
theorem decode_of_content {carrier : Carrier} {sender : String} {outputs : List Output}
    {payload : Bytes} {receiver : Option String} (hne : carrier ≠ .address)
    (h : content params active sender outputs carrier = .ok (payload, receiver)) :
    carrier.decode params active (some sender) outputs = .ok payload ∧
      Receiver.identify? params active sender outputs = receiver := by
  cases carrier with
  | address => exact absurd rfl hne
  | multisig =>
    obtain ⟨payload', hpayload, h⟩ := bind_eq_ok_iff.1 h
    cases h
    exact ⟨hpayload, rfl⟩
  | nullData =>
    obtain ⟨payload', hpayload, h⟩ := bind_eq_ok_iff.1 h
    cases h
    exact ⟨hpayload, rfl⟩

/-! ## The message -/

/-- There is a message when every stage gives its part. -/
theorem exists_message_eq_ok_iff {carrier : Carrier} :
    (∃ m, message params coins height time tx carrier = .ok m) ↔
      ∃ sender, Sender.byRule params (params.activation.activeAt height) coins tx.previous
          (.ofCarrier carrier) = .ok sender ∧
        (∃ c, content params (params.activation.activeAt height) sender tx.outputs carrier
          = .ok c) ∧
        ∀ o ∈ tx.previous, ∃ coin, coins o = some coin := by
  simp only [← Fee.exists_ofTransaction_eq_ok_iff]
  constructor
  · rintro ⟨m, hm⟩
    obtain ⟨sender, hsender, h⟩ := bind_eq_ok_iff.1 hm
    obtain ⟨c, hc, h⟩ := bind_eq_ok_iff.1 h
    obtain ⟨fee, hfee, -⟩ := bind_eq_ok_iff.1 h
    exact ⟨sender, hsender, ⟨c, hc⟩, fee, hfee⟩
  · rintro ⟨sender, hsender, ⟨c, hc⟩, fee, hfee⟩
    exact ⟨_, bind_eq_ok_iff.2 ⟨sender, hsender, bind_eq_ok_iff.2 ⟨c, hc,
      bind_eq_ok_iff.2 ⟨fee, hfee, rfl⟩⟩⟩⟩

/-- The **stages** behind a message: what each of them gave stands in its own field. -/
structure IsStaged (params : Params) (active : Activation) (coins : CoinLookup) (tx : Transaction)
    (m : Message) : Prop where
  /-- The sender is told by the rule of the carrier. -/
  sender : Sender.byRule params active coins tx.previous (.ofCarrier m.carrier) = .ok m.sender
  /-- The payload and the receiver are the content of the outputs. -/
  content : content params active m.sender tx.outputs m.carrier = .ok (m.payload, m.receiver)
  /-- The fee is that of the transaction. -/
  fee : Fee.ofTransaction coins tx = .ok m.fee

/-- A message holds what its stages gave, beside the carrier that it was read from. -/
theorem isStaged_of_message_eq_ok {carrier : Carrier} {m : Message}
    (h : message params coins height time tx carrier = .ok m) :
    m.carrier = carrier ∧ IsStaged params (params.activation.activeAt height) coins tx m := by
  obtain ⟨sender, hsender, h⟩ := bind_eq_ok_iff.1 h
  obtain ⟨⟨payload, receiver⟩, hcontent, h⟩ := bind_eq_ok_iff.1 h
  obtain ⟨fee, hfee, h⟩ := bind_eq_ok_iff.1 h
  cases h
  exact ⟨rfl, hsender, hcontent, hfee⟩

/-- A message fails in one of its stages. -/
theorem failsOnly_message {kind : ParseError → Prop} {carrier : Carrier}
    (hsender : FailsOnly kind (Sender.byRule params (params.activation.activeAt height) coins
      tx.previous (.ofCarrier carrier)))
    (hcontent : ∀ sender, FailsOnly kind
      (content params (params.activation.activeAt height) sender tx.outputs carrier))
    (hfee : FailsOnly kind (Fee.ofTransaction coins tx)) :
    FailsOnly kind (message params coins height time tx carrier) := by
  unfold message
  exact hsender.bind fun sender => (hcontent sender).bind fun _ => hfee.bind fun _ => .ok _

/-- A message fails for want of a sender or with a malformed payload, or reading it breaks off for
an overlong size. -/
theorem failsOnly_message_of_carrier (params : Params) (coins : CoinLookup) (height time : UInt32)
    (tx : Transaction) (carrier : Carrier) :
    FailsOnly (fun e => e.IsUnresolvableSender ∨ e.IsMalformedPayload ∨
        params.IsOverlong ∧ e = .overflow)
      (message params coins height time tx carrier) := by
  refine failsOnly_message ((Sender.failsOnly_byRule _ _ _ _ _).mono fun _ => Or.inl) ?_
    ((Fee.failsOnly_ofTransaction coins tx).mono fun _ => Or.inl)
  intro sender
  exact (failsOnly_content params _ sender tx.outputs carrier).mono fun _ => Or.inr

/-- With a decided carrier the sender **cannot be told**, or an address is unreadable, or no word
can count the bound on payloads. -/
theorem failsOnly_message_of_decision {carrier : Carrier} (husable : params.IsUsable)
    (h : Decision.ofOutputs params (params.activation.activeAt height) tx.outputs
      = .carrier carrier) :
    FailsOnly (fun e => e.IsUnresolvableSender ∨
        carrier = .address ∧ AddressCarrier.IsUnreadable e ∨ e = .overflow)
      (message params coins height time tx carrier) := by
  refine failsOnly_message ((Sender.failsOnly_byRule _ _ _ _ _).mono fun _ => Or.inl) ?_
    ((Fee.failsOnly_ofTransaction coins tx).mono fun _ => Or.inl)
  intro sender
  -- The content fails for an address alone: the others are read off what was decided.
  by_cases haddress : carrier = .address
  · subst haddress
    exact (failsOnly_content_address husable.addressPacketSize_lt _ sender _).mono fun _ hun =>
      Or.inr (Or.inl ⟨rfl, hun⟩)
  · rcases Nat.lt_or_ge (params.maxPackets * params.packetSize) wordCount with hword | hword
    · obtain ⟨c, hc⟩ := exists_content_eq_ok husable hword h haddress sender
      exact hc ▸ .ok c
    · rw [content_eq_overflow husable hword h haddress sender]
      exact .error (.inr (.inr rfl))

/-- A result in which a message is found is that message. -/
theorem eq_message_of_message? {result : ParseResult} {m : Message}
    (h : result.toOption.bind Outcome.message? = some m) : result = .ok (.message m) := by
  cases result with
  | error e => cases h
  | ok outcome =>
    cases outcome with
    | message m' =>
      cases h
      rfl
    | notProtocol => cases h

/-- A message that is parsed has the carrier that was **decided**, and its stages behind it. -/
theorem isStaged_of_parse {m : Message} (h : parse params coins height time tx = .ok (.message m)) :
    Decision.ofOutputs params (params.activation.activeAt height) tx.outputs = .carrier m.carrier ∧
      IsStaged params (params.activation.activeAt height) coins tx m := by
  unfold parse at h
  split at h
  · next carrier hdecision =>
    cases hmessage : message params coins height time tx carrier with
    | error e =>
      rw [hmessage] at h
      cases h
    | ok m' =>
      rw [hmessage] at h
      cases h
      obtain ⟨rfl, hstaged⟩ := isStaged_of_message_eq_ok hmessage
      exact ⟨hdecision, hstaged⟩
  · cases h
  · cases h
  · cases h

/-- A parse gives a result that its decision **leaves open**. -/
theorem allows_parse (husable : params.IsUsable) (coins : CoinLookup) (height time : UInt32)
    (tx : Transaction) :
    (Decision.ofOutputs params (params.activation.activeAt height) tx.outputs).Allows height
      (parse params coins height time tx) := by
  unfold parse
  cases hdecision : Decision.ofOutputs params (params.activation.activeAt height) tx.outputs with
  | notProtocol => exact .notProtocol
  | notActivated => exact .notActivated
  | splitMarker => exact .splitMarker
  | carrier carrier =>
    dsimp only
    cases hmessage : message params coins height time tx carrier with
    | ok m =>
      obtain ⟨rfl, -⟩ := isStaged_of_message_eq_ok hmessage
      exact .message m
    | error e =>
      rcases failsOnly_message_of_decision husable hdecision e hmessage with
        ⟨problem, rfl⟩ | ⟨rfl, hunreadable⟩ | rfl
      · exact .unresolvable carrier problem
      · exact .unreadable hunreadable
      · exact .overflow carrier

/-! ## When there is a message -/

section Decided

variable {carrier : Carrier}

/-- A parse gives the message of the decided carrier. -/
theorem parse_eq_message_iff {m : Message}
    (h : Decision.ofOutputs params (params.activation.activeAt height) tx.outputs
      = .carrier carrier) :
    parse params coins height time tx = .ok (.message m) ↔
      message params coins height time tx carrier = .ok m := by
  rw [parse, h]
  dsimp only
  cases message params coins height time tx carrier with
  | error e =>
    constructor
    · intro h
      cases h
    · intro h
      cases h
  | ok m' => rw [Except.map, Except.ok.injEq, Except.ok.injEq, Outcome.message.injEq]

/-- A parse fails as the message of the decided carrier does. -/
theorem parse_eq_error_iff {e : ParseError}
    (h : Decision.ofOutputs params (params.activation.activeAt height) tx.outputs
      = .carrier carrier) :
    parse params coins height time tx = .error e ↔
      message params coins height time tx carrier = .error e := by
  rw [parse, h]
  dsimp only
  cases message params coins height time tx carrier with
  | error e' => rw [Except.map, Except.error.injEq, Except.error.injEq]
  | ok m =>
    constructor
    · intro h
      cases h
    · intro h
      cases h

/-- A decided carrier other than an address **breaks off** when its sender is told and no word can
count the bound on payloads. -/
theorem parse_eq_overflow_of_carrier_iff (husable : params.IsUsable)
    (h : Decision.ofOutputs params (params.activation.activeAt height) tx.outputs
      = .carrier carrier) (hne : carrier ≠ .address) :
    parse params coins height time tx = .error .overflow ↔
      wordCount ≤ params.maxPackets * params.packetSize ∧
        ∃ sender, Sender.byRule params (params.activation.activeAt height) coins tx.previous
          (.ofCarrier carrier) = .ok sender := by
  rw [parse_eq_error_iff h]
  constructor
  · intro hoverflow
    rcases bind_eq_error_iff.1 hoverflow with hsender | ⟨sender, hsender, hrest⟩
    · obtain ⟨problem, hproblem⟩ := Sender.failsOnly_byRule _ _ _ _ _ _ hsender
      cases hproblem
    · refine ⟨Nat.le_of_not_lt fun hword => ?_, sender, hsender⟩
      -- With a bound that is a word the content is read, and a fee does not break off.
      obtain ⟨c, hc⟩ := exists_content_eq_ok husable hword h hne sender
      rw [hc] at hrest
      rcases bind_eq_error_iff.1 hrest with hcontent | ⟨c', -, hrest⟩
      · cases hcontent
      · rcases bind_eq_error_iff.1 hrest with hfee | ⟨fee, -, hrest⟩
        · obtain ⟨problem, hproblem⟩ := Fee.failsOnly_ofTransaction _ _ _ hfee
          cases hproblem
        · cases hrest
  · rintro ⟨hword, sender, hsender⟩
    exact bind_eq_error_iff.2 (.inr ⟨sender, hsender, bind_eq_error_iff.2
      (.inl (content_eq_overflow husable hword h hne sender))⟩)

/-- A decided address **never** breaks off. -/
theorem parse_address_ne_overflow (husable : params.IsUsable)
    (h : Decision.ofOutputs params (params.activation.activeAt height) tx.outputs
      = .carrier .address) :
    parse params coins height time tx ≠ .error .overflow := by
  intro hoverflow
  have hkind : FailsOnly (fun e => e.IsUnresolvableSender ∨ AddressCarrier.IsUnreadable e)
      (message params coins height time tx .address) := by
    refine failsOnly_message ((Sender.failsOnly_byRule _ _ _ _ _).mono fun _ => Or.inl) ?_
      ((Fee.failsOnly_ofTransaction coins tx).mono fun _ => Or.inl)
    exact fun sender => (failsOnly_content_address husable.addressPacketSize_lt _ sender _).mono
      fun _ => Or.inr
  rcases hkind _ ((parse_eq_error_iff h).1 hoverflow) with ⟨problem, hproblem⟩ | hunreadable
  · cases hproblem
  · cases hunreadable

/-- A parse gives a message when every stage behind the decision gives its part. -/
theorem exists_parse_eq_message_iff
    (h : Decision.ofOutputs params (params.activation.activeAt height) tx.outputs
      = .carrier carrier) :
    (∃ m, parse params coins height time tx = .ok (.message m)) ↔
      ∃ sender, Sender.byRule params (params.activation.activeAt height) coins tx.previous
          (.ofCarrier carrier) = .ok sender ∧
        (∃ c, content params (params.activation.activeAt height) sender tx.outputs carrier
          = .ok c) ∧
        ∀ o ∈ tx.previous, ∃ coin, coins o = some coin := by
  have hmessage (m : Message) : parse params coins height time tx = .ok (.message m) ↔
      message params coins height time tx carrier = .ok m := parse_eq_message_iff h
  exact (exists_congr hmessage).trans exists_message_eq_ok_iff

end Decided

/-- Content that does not break off is read off the outputs on which its carrier was decided. -/
theorem exists_content_of_parse_ne_overflow {carrier : Carrier} {sender : String}
    (husable : params.IsUsable)
    (h : Decision.ofOutputs params (params.activation.activeAt height) tx.outputs
      = .carrier carrier) (hne : carrier ≠ .address)
    (hoverflow : parse params coins height time tx ≠ .error .overflow)
    (hsender : Sender.byRule params (params.activation.activeAt height) coins tx.previous
      (.ofCarrier carrier) = .ok sender) :
    ∃ c, content params (params.activation.activeAt height) sender tx.outputs carrier = .ok c := by
  rw [Ne, parse_eq_overflow_of_carrier_iff husable h hne] at hoverflow
  refine exists_content_eq_ok husable (Nat.lt_of_not_le fun hword => ?_) h hne sender
  exact hoverflow ⟨hword, sender, hsender⟩

/-- Decided **null data** gives a message when the first input names a sender and all coins are
known, unless the parse breaks off. -/
theorem exists_parse_nullData_iff (husable : params.IsUsable)
    (h : Decision.ofOutputs params (params.activation.activeAt height) tx.outputs
      = .carrier .nullData)
    (hoverflow : parse params coins height time tx ≠ .error .overflow) :
    (∃ m, parse params coins height time tx = .ok (.message m)) ↔
      (∃ sender, Sender.firstInput params (params.activation.activeAt height) coins tx.previous
          = .ok sender) ∧
        ∀ o ∈ tx.previous, ∃ coin, coins o = some coin := by
  rw [exists_parse_eq_message_iff h]
  constructor
  · rintro ⟨sender, hsender, -, hcoins⟩
    exact ⟨⟨sender, hsender⟩, hcoins⟩
  · rintro ⟨⟨sender, hsender⟩, hcoins⟩
    exact ⟨sender, hsender,
      exists_content_of_parse_ne_overflow husable h (by decide) hoverflow hsender, hcoins⟩

/-- Decided **multisig** gives a message when the contributions name a sender, unless the parse
breaks off. -/
theorem exists_parse_multisig_iff (husable : params.IsUsable)
    (h : Decision.ofOutputs params (params.activation.activeAt height) tx.outputs
      = .carrier .multisig)
    (hoverflow : parse params coins height time tx ≠ .error .overflow) :
    (∃ m, parse params coins height time tx = .ok (.message m)) ↔
      ∃ sender, Sender.contributionSum params (params.activation.activeAt height) coins tx.previous
        = .ok sender := by
  rw [exists_parse_eq_message_iff h]
  constructor
  · rintro ⟨sender, hsender, -⟩
    exact ⟨sender, hsender⟩
  · rintro ⟨sender, hsender⟩
    exact ⟨sender, hsender,
      exists_content_of_parse_ne_overflow husable h (by decide) hoverflow hsender,
      Sender.exists_coin_of_contributionSum hsender⟩

/-- A decided **address** gives a message when the contributions name a sender and the outputs are
read. -/
theorem exists_parse_address_iff
    (h : Decision.ofOutputs params (params.activation.activeAt height) tx.outputs
      = .carrier .address) :
    (∃ m, parse params coins height time tx = .ok (.message m)) ↔
      (∃ sender, Sender.contributionSum params (params.activation.activeAt height) coins
          tx.previous = .ok sender) ∧
        ∃ reading, AddressCarrier.decode params (params.activation.activeAt height) tx.outputs
          = .ok reading := by
  rw [exists_parse_eq_message_iff h]
  constructor
  · rintro ⟨sender, hsender, hcontent, -⟩
    exact ⟨⟨sender, hsender⟩, exists_content_address_iff.1 hcontent⟩
  · rintro ⟨⟨sender, hsender⟩, hreading⟩
    exact ⟨sender, hsender, exists_content_address_iff.2 hreading,
      Sender.exists_coin_of_contributionSum hsender⟩

/-- A decided address without a sender is refused for that. -/
theorem parse_address_unresolvable
    (h : Decision.ofOutputs params (params.activation.activeAt height) tx.outputs
      = .carrier .address)
    (hsender : ¬∃ sender, Sender.contributionSum params (params.activation.activeAt height) coins
      tx.previous = .ok sender) :
    ∃ e, parse params coins height time tx = .error e ∧ e.IsUnresolvableSender := by
  obtain ⟨e, he, hkind⟩ :=
    (Sender.failsOnly_byRule params _ coins tx.previous .contributionSum).exists_eq_error hsender
  have hmessage : message params coins height time tx .address = .error e := by
    unfold message
    exact congrArg (· >>= _) he
  exact ⟨e, (parse_eq_error_iff h).2 hmessage, hkind⟩

/-- A decided address with a sender whose outputs are not read is malformed. -/
theorem parse_address_malformed (husable : params.IsUsable)
    (h : Decision.ofOutputs params (params.activation.activeAt height) tx.outputs
      = .carrier .address)
    (hsender : ∃ sender, Sender.contributionSum params (params.activation.activeAt height) coins
      tx.previous = .ok sender)
    (hreading : ¬∃ reading, AddressCarrier.decode params (params.activation.activeAt height)
      tx.outputs = .ok reading) :
    ∃ e, parse params coins height time tx = .error e ∧ e.IsMalformedPayload := by
  obtain ⟨sender, hsender⟩ := hsender
  -- A sender by contributions brings the fee with it, so only the content is left to fail.
  obtain ⟨fee, hfee⟩ :=
    Fee.exists_ofTransaction_eq_ok (Sender.exists_coin_of_contributionSum hsender)
  have hbyRule : Sender.byRule params (params.activation.activeAt height) coins tx.previous
      (.ofCarrier .address) = .ok sender := hsender
  have hkind : FailsOnly ParseError.IsMalformedPayload
      (message params coins height time tx .address) := by
    refine failsOnly_message (hbyRule ▸ .ok sender) (fun sender => ?_) (hfee ▸ .ok fee)
    exact (failsOnly_content_address husable.addressPacketSize_lt _ sender _).mono fun _ =>
      AddressCarrier.isMalformedPayload
  have hnone : ¬∃ m, message params coins height time tx .address = .ok m := by
    rw [exists_message_eq_ok_iff]
    rintro ⟨_, -, hcontent, -⟩
    exact hreading (exists_content_address_iff.1 hcontent)
  obtain ⟨e, he, hmalformed⟩ := hkind.exists_eq_error hnone
  exact ⟨e, (parse_eq_error_iff h).2 he, hmalformed⟩

/-- How the result of a parse **follows the decision** on the outputs. -/
structure FollowsDecision (params : Params) (active : Activation) (coins : CoinLookup)
    (height : UInt32) (tx : Transaction) (result : ParseResult) : Prop where
  /-- No message is found exactly when that is the decision. -/
  notProtocol_iff : result = .ok .notProtocol ↔
    Decision.ofOutputs params active tx.outputs = .notProtocol
  /-- Null data comes too early exactly when that is the decision. -/
  notActivated_iff : result = .error (.activationNotReached .nullData height) ↔
    Decision.ofOutputs params active tx.outputs = .notActivated
  /-- Null data gives a message when the first input names a sender and all coins are known, and
  else there is no sender. -/
  nullData : Decision.ofOutputs params active tx.outputs = .carrier .nullData →
    ((∃ m, result = .ok (.message m)) ↔
      (∃ sender, Sender.firstInput params active coins tx.previous = .ok sender) ∧
        ∀ o ∈ tx.previous, ∃ coin, coins o = some coin) ∧
    ∀ e, result = .error e → e.IsUnresolvableSender
  /-- Multisig gives a message when the contributions name a sender, and else there is none. -/
  multisig : Decision.ofOutputs params active tx.outputs = .carrier .multisig →
    ((∃ m, result = .ok (.message m)) ↔
      ∃ sender, Sender.contributionSum params active coins tx.previous = .ok sender) ∧
    ∀ e, result = .error e → e.IsUnresolvableSender
  /-- An address gives a message when the contributions name a sender and the outputs are read.
  Without a sender that is the error; with one the payload is malformed. -/
  address : Decision.ofOutputs params active tx.outputs = .carrier .address →
    ((∃ m, result = .ok (.message m)) ↔
      (∃ sender, Sender.contributionSum params active coins tx.previous = .ok sender) ∧
        ∃ reading, AddressCarrier.decode params active tx.outputs = .ok reading) ∧
    ((¬∃ sender, Sender.contributionSum params active coins tx.previous = .ok sender) →
      ∃ e, result = .error e ∧ e.IsUnresolvableSender) ∧
    ((∃ sender, Sender.contributionSum params active coins tx.previous = .ok sender) →
      (¬∃ reading, AddressCarrier.decode params active tx.outputs = .ok reading) →
      ∃ e, result = .error e ∧ e.IsMalformedPayload)
  /-- A payload is malformed only when the marker is split or an address was decided. -/
  malformed : ∀ e, result = .error e → e.IsMalformedPayload →
    Decision.ofOutputs params active tx.outputs = .splitMarker ∨
      Decision.ofOutputs params active tx.outputs = .carrier .address
  /-- A parse is never in want of a tagged output. -/
  ne_noMarker : result ≠ .error (.malformedPayload .noMarker)
  /-- A parse never meets a key too short for a packet. -/
  ne_shortKey : ∀ length vout packetSize,
    result ≠ .error (.malformedPayload (.shortKey length vout packetSize))
  /-- A message has the carrier that was decided. -/
  carrier_eq : ∀ m, result = .ok (.message m) →
    Decision.ofOutputs params active tx.outputs = .carrier m.carrier

/-- A parse **breaks off** exactly when no word can count the bound on payloads, and the sender of
decided null data or multisig is told. -/
theorem parse_eq_overflow_iff (husable : params.IsUsable) :
    parse params coins height time tx = .error .overflow ↔
      wordCount ≤ params.maxPackets * params.packetSize ∧
        ((Decision.ofOutputs params (params.activation.activeAt height) tx.outputs
            = .carrier .nullData ∧
          ∃ sender, Sender.firstInput params (params.activation.activeAt height) coins tx.previous
            = .ok sender) ∨
        (Decision.ofOutputs params (params.activation.activeAt height) tx.outputs
            = .carrier .multisig ∧
          ∃ sender, Sender.contributionSum params (params.activation.activeAt height) coins
            tx.previous = .ok sender)) := by
  cases hdecision : Decision.ofOutputs params (params.activation.activeAt height) tx.outputs with
  | carrier carrier =>
    cases carrier with
    | address => simpa using parse_address_ne_overflow husable hdecision
    | multisig =>
      simpa [Sender.byRule, SenderRule.ofCarrier] using
        parse_eq_overflow_of_carrier_iff husable hdecision (by decide)
    | nullData =>
      simpa [Sender.byRule, SenderRule.ofCarrier] using
        parse_eq_overflow_of_carrier_iff husable hdecision (by decide)
  | notProtocol => simp [parse, hdecision]
  | notActivated => simp [parse, hdecision]
  | splitMarker => simp [parse, hdecision]

/-- With any parameters, a parse breaks off only for an **overlong** size. -/
theorem isOverlong_of_parse_eq_overflow
    (h : parse params coins height time tx = .error .overflow) : params.IsOverlong := by
  cases hdecision : Decision.ofOutputs params (params.activation.activeAt height) tx.outputs with
  | carrier carrier =>
    have hmessage := (parse_eq_error_iff hdecision).1 h
    rcases failsOnly_message_of_carrier _ _ _ _ _ _ _ hmessage with
      ⟨problem, hproblem⟩ | ⟨cause, hcause⟩ | ⟨hoverlong, -⟩
    · cases hproblem
    · cases hcause
    · exact hoverlong
  | notProtocol => simp [parse, hdecision] at h
  | notActivated => simp [parse, hdecision] at h
  | splitMarker => simp [parse, hdecision] at h

/-- **A parse follows the decision** on the outputs, whenever it gives a result: the decoders read
what was decided, but for addresses, and the fee is known whenever the contributions named a sender.
It gives none exactly when no word can count the bound on payloads, and the sender of decided null
data or multisig is told. -/
theorem parse_followsDecision {settings : NetworkSettings} (hparams : settings.params = .ok params)
    (coins : CoinLookup) (height time : UInt32) (tx : Transaction) :
    (parse params coins height time tx = .error .overflow ↔
      wordCount ≤ params.maxPackets * params.packetSize ∧
        ((Decision.ofOutputs params (params.activation.activeAt height) tx.outputs
            = .carrier .nullData ∧
          ∃ sender, Sender.firstInput params (params.activation.activeAt height) coins tx.previous
            = .ok sender) ∨
        (Decision.ofOutputs params (params.activation.activeAt height) tx.outputs
            = .carrier .multisig ∧
          ∃ sender, Sender.contributionSum params (params.activation.activeAt height) coins
            tx.previous = .ok sender))) ∧
    (parse params coins height time tx ≠ .error .overflow →
      FollowsDecision params (params.activation.activeAt height) coins height tx
        (parse params coins height time tx)) := by
  have husable := NetworkSettings.isUsable_of_params hparams
  refine ⟨parse_eq_overflow_iff husable, fun hoverflow => ?_⟩
  have hallows := allows_parse husable coins height time tx
  have hunresolvable (carrier : Carrier) (hne : carrier ≠ .address)
      (h : Decision.ofOutputs params (params.activation.activeAt height) tx.outputs
        = .carrier carrier) :
      ∀ e, parse params coins height time tx = .error e → e.IsUnresolvableSender := by
    intro e he
    rw [he] at hoverflow
    rw [h, he] at hallows
    exact hallows.isUnresolvableSender hne fun heq => hoverflow (congrArg _ heq)
  have hmalformed (cause : Malformation)
      (he : parse params coins height time tx = .error (.malformedPayload cause)) := by
    rw [he] at hallows
    exact hallows.of_malformedPayload
  constructor
  case notProtocol_iff => exact hallows.eq_notProtocol_iff
  case notActivated_iff => exact hallows.eq_activationNotReached_iff
  case nullData =>
    intro h
    exact ⟨exists_parse_nullData_iff husable h hoverflow, hunresolvable .nullData (by decide) h⟩
  case multisig =>
    intro h
    exact ⟨exists_parse_multisig_iff husable h hoverflow, hunresolvable .multisig (by decide) h⟩
  case address =>
    intro h
    exact ⟨exists_parse_address_iff h, parse_address_unresolvable h,
      parse_address_malformed husable h⟩
  case malformed =>
    rintro e he ⟨cause, rfl⟩
    exact (hmalformed cause he).imp And.left And.left
  -- Neither of the last two causes is a split marker or an address that cannot be read.
  case ne_noMarker =>
    intro he
    rcases hmalformed _ he with ⟨-, hcause⟩ | ⟨-, hunreadable⟩
    · cases hcause
    · cases hunreadable
  case ne_shortKey =>
    intro length vout packetSize he
    rcases hmalformed _ he with ⟨-, hcause⟩ | ⟨-, hunreadable⟩
    · cases hcause
    · cases hunreadable
  case carrier_eq =>
    intro m he
    rw [he] at hallows
    exact hallows.eq_carrier

/-- A transaction that pays Exodus and nobody else. -/
def exodusAlone : Transaction :=
  spending [AddressCarrier.dustOutput Params.bitcoin (.pubkeyHash Params.mainExodus)]

/-- Exodus alone makes the carrier an address, and there is a sender, so what is wrong is that
there is nothing to read. -/
theorem parse_followsDecision_exodusAlone :
    Decision.ofOutputs Params.bitcoin (Params.bitcoin.activation.activeAt 400000)
        exodusAlone.outputs = .carrier .address ∧
      ∃ e, parse Params.bitcoin spentCoins 400000 0 exodusAlone = .error e ∧
        e.IsMalformedPayload := by
  have hdecision : Decision.ofOutputs Params.bitcoin (Params.bitcoin.activation.activeAt 400000)
      exodusAlone.outputs = .carrier .address := by
    decide +kernel
  have hsender : Sender.contributionSum Params.bitcoin
      (Params.bitcoin.activation.activeAt 400000) spentCoins exodusAlone.previous
      = .ok "1eA9ctCNq41iLLnQErtTUVdxpRyZ9hZmW" := by
    decide +kernel
  have hreading : AddressCarrier.decode Params.bitcoin
      (Params.bitcoin.activation.activeAt 400000) exodusAlone.outputs
      = .error (.malformedPayload .noDataOutput) := by
    decide +kernel
  obtain ⟨hbreaksOff, hfollows⟩ :=
    parse_followsDecision NetworkSettings.params_default spentCoins 400000 0 exodusAlone
  have hword : ¬wordCount ≤ Params.bitcoin.maxPackets * Params.bitcoin.packetSize := by decide
  have hresult := hfollows fun hoverflow => hword (hbreaksOff.1 hoverflow).1
  refine ⟨hdecision, (hresult.address hdecision).2.2 ⟨_, hsender⟩ ?_⟩
  rintro ⟨reading, h⟩
  rw [hreading] at h
  cases h

/-- With accepted settings a parse of null data **breaks off**, though its sender is told and all
coins are known: there is no message, and the sender is not what is wanting. -/
theorem parse_markerAlone_overlong :
    NetworkSettings.overlong.params = .ok Params.overlong ∧
      Decision.ofOutputs Params.overlong (Params.overlong.activation.activeAt 400000)
        markerAlone.outputs = .carrier .nullData ∧
      Sender.firstInput Params.overlong (Params.overlong.activation.activeAt 400000) spentCoins
        markerAlone.previous = .ok "1eA9ctCNq41iLLnQErtTUVdxpRyZ9hZmW" ∧
      (∀ o ∈ markerAlone.previous, ∃ coin, spentCoins o = some coin) ∧
      parse Params.overlong spentCoins 400000 0 markerAlone = .error .overflow ∧
      ¬ParseError.overflow.IsUnresolvableSender := by
  have hdecision : Decision.ofOutputs Params.overlong
      (Params.overlong.activation.activeAt 400000) markerAlone.outputs = .carrier .nullData := by
    decide +kernel
  have hsender : Sender.firstInput Params.overlong (Params.overlong.activation.activeAt 400000)
      spentCoins markerAlone.previous = .ok "1eA9ctCNq41iLLnQErtTUVdxpRyZ9hZmW" := by
    decide +kernel
  have husable := NetworkSettings.isUsable_of_params NetworkSettings.params_overlong
  refine ⟨NetworkSettings.params_overlong, hdecision, hsender, fun o _ => ⟨_, rfl⟩, ?_, ?_⟩
  · exact (parse_eq_overflow_iff husable).2 ⟨by decide, .inl ⟨hdecision, _, hsender⟩⟩
  · rintro ⟨problem, hproblem⟩
    cases hproblem

end Transaction

end OmniLayer
