import OmniLayer.Inspection
import OmniLayer.Proofs.Outcome

/-! # Inspections agree with parses

An inspection decides on the carrier, tells the sender and reads the packets by itself, and shows
what each of these steps gave even when a parse stops at an earlier one. It is a faithful account
all the same: a step that fails is the very step in which the parse fails
(`Transaction.message_of_sender_error`, `Transaction.message_of_packets_error`), and a message holds
what the steps shown gave. The clauses of `Inspection.Agrees` say so, and
`Transaction.inspect_agrees` holds them of every inspection. There is none where the parse breaks
off. With the parameters of accepted settings only the sender can fail to be shown
(`Transaction.packetError?_inspectSteps`). -/

namespace OmniLayer

variable {params : Params} {coins : CoinLookup} {height time : UInt32} {tx : Transaction}
  {result : ParseResult}

/-- A decision has the carrier that it is for. -/
@[simp] theorem Decision.carrier?_eq_some {decision : Decision} {carrier : Carrier} :
    decision.carrier? = some carrier ↔ decision = .carrier carrier := by
  cases decision with
  | carrier c => rw [carrier?, Option.some.injEq, Decision.carrier.injEq]
  | _ => simp [carrier?]

/-! ## Steps that fail -/

namespace Transaction

/-- A message fails **as its sender does**. -/
theorem message_of_sender_error {carrier : Carrier} {e : ParseError}
    (h : Sender.byRule params (params.activation.activeAt height) coins tx.previous
      (.ofCarrier carrier) = .error e) :
    message params coins height time tx carrier = .error e := by
  rw [message, h]
  rfl

/-- A message in packets fails **as these do**, once the sender is told. -/
theorem message_of_packets_error {sender : String} {e : ParseError}
    (hsender : Sender.byRule params (params.activation.activeAt height) coins tx.previous
      (.ofCarrier .multisig) = .ok sender)
    (h : MultisigCarrier.packets params (params.activation.activeAt height) sender tx.outputs
      = .error e) :
    message params coins height time tx .multisig = .error e := by
  have hcontent : content params (params.activation.activeAt height) sender tx.outputs .multisig
      = .error e := by
    simp only [content, Carrier.decode, MultisigCarrier.decode, h]
    rfl
  rw [message, hsender]
  show (content _ _ sender _ _ >>= _) = _
  rw [hcontent]
  rfl

end Transaction

/-! ## What an inspection shows -/

namespace Inspection

variable {ε α : Type}

/-- The error of a step is the one that it fails with. -/
@[simp] theorem error?_eq_some {x : Except ε α} {e : ε} : error? x = some e ↔ x = .error e := by
  cases x with
  | error e' => rw [error?, Option.some.injEq, Except.error.injEq]
  | ok a => simp [error?]

/-- A text for an error is that of the error with which the step fails. -/
theorem message_error?_eq_some {x : Except ParseError α} {text : String} :
    (error? x).map ParseError.message = some text ↔ ∃ e, x = .error e ∧ e.message = text := by
  simp only [Option.map_eq_some_iff, error?_eq_some]

/-- A step shows its value or the text of its error, and **never both**. -/
theorem shows_value_or_error (x : Except ParseError α) :
    (∃ a, x = .ok a ∧ x.toOption = some a ∧ (error? x).map ParseError.message = none) ∨
      ∃ e, x = .error e ∧ x.toOption = none ∧
        (error? x).map ParseError.message = some e.message := by
  cases x with
  | ok a => exact Or.inl ⟨a, rfl, rfl, rfl⟩
  | error e => exact Or.inr ⟨e, rfl, rfl, rfl⟩

/-- Whether an inspection **agrees** with a decision on the carrier and with the result of a
parse. -/
structure Agrees (params : Params) (decision : Decision) (result : ParseResult)
    (inspection : Inspection) : Prop where
  /-- The outcome of the parse is shown or the text of its error, and not both. -/
  shown : (∃ outcome, result = .ok outcome ∧ inspection.outcome? = some outcome ∧
      inspection.parseError? = none) ∨
    ∃ e, result = .error e ∧ inspection.outcome? = none ∧
      inspection.parseError? = some e.message
  /-- A carrier is shown when the decision is for it. -/
  carrier : ∀ c, inspection.carrier? = some c ↔ decision = .carrier c
  /-- With a carrier its rule is shown, and the sender or why it cannot be told, and not both. -/
  decided : ∀ c, decision = .carrier c → inspection.senderRule? = some (.ofCarrier c) ∧
    ((∃ sender, inspection.sender? = some sender ∧ inspection.senderError? = none) ∨
      ∃ text, inspection.sender? = none ∧ inspection.senderError? = some text)
  /-- Without a carrier nothing is shown of a sender or of packets. -/
  undecided : (∀ c, decision ≠ .carrier c) → inspection.senderRule? = none ∧
    inspection.sender? = none ∧ inspection.senderError? = none ∧ inspection.packets = .ok []
  /-- When the sender cannot be told, that is why there is no outcome. -/
  senderError : ∀ text, inspection.senderError? = some text → inspection.parseError? = some text
  /-- When packets cannot be read, that is why there is no outcome. -/
  packetError : ∀ text, inspection.packetError? = some text → inspection.parseError? = some text
  /-- A message has the carrier and the sender that are shown. -/
  message : ∀ m, result = .ok (.message m) →
    inspection.carrier? = some m.carrier ∧ inspection.sender? = some m.sender
  /-- The payload of a message in packets is what the packets shown carry, up to the bound. -/
  payload : ∀ m, result = .ok (.message m) → m.carrier = .multisig →
    ∃ packets, inspection.packets = .ok packets ∧
      m.payload = (packets.flatMap MultisigCarrier.Packet.data).take
        (params.maxPackets * params.packetSize)

end Inspection

/-! ## Inspections of transactions -/

namespace Transaction

/-- The sender shown behind a decided carrier is what the **rule of the carrier** gives. -/
theorem sender_inspectSteps_of_carrier {carrier : Carrier}
    (h : Decision.ofOutputs params (params.activation.activeAt height) tx.outputs
      = .carrier carrier) :
    (tx.inspectSteps params coins height result).sender
      = some (Sender.byRule params (params.activation.activeAt height) coins tx.previous
          (.ofCarrier carrier)) := by
  show (Decision.ofOutputs _ _ _).carrier?.map _ = _
  rw [h]
  rfl

/-- The packets shown behind a decided multisig are read with the **sender** for their seed. -/
theorem packets_inspectSteps_of_multisig {sender : String}
    (h : Decision.ofOutputs params (params.activation.activeAt height) tx.outputs
      = .carrier .multisig)
    (hsender : Sender.byRule params (params.activation.activeAt height) coins tx.previous
      (.ofCarrier .multisig) = .ok sender) :
    (tx.inspectSteps params coins height result).packets
      = MultisigCarrier.packets params (params.activation.activeAt height) sender tx.outputs := by
  show inspectPackets _ _ _ (Decision.carrier? _)
    (tx.inspectSteps params coins height result).sender = _
  rw [sender_inspectSteps_of_carrier h, hsender, h]
  rfl

/-- Packets that an inspection cannot read stand behind a multisig carrier with a sender. -/
theorem exists_sender_of_packets_error {e : ParseError}
    (h : (tx.inspectSteps params coins height result).packets = .error e) :
    Decision.ofOutputs params (params.activation.activeAt height) tx.outputs
        = .carrier .multisig ∧
      ∃ sender, Sender.byRule params (params.activation.activeAt height) coins tx.previous
          (.ofCarrier .multisig) = .ok sender ∧
        MultisigCarrier.packets params (params.activation.activeAt height) sender tx.outputs
          = .error e := by
  change inspectPackets _ _ _ (Decision.carrier? _)
    (tx.inspectSteps params coins height result).sender = _ at h
  unfold inspectPackets at h
  split at h
  · next sender hcarrier hsender =>
    have hdecision := Decision.carrier?_eq_some.1 hcarrier
    rw [sender_inspectSteps_of_carrier hdecision] at hsender
    exact ⟨hdecision, sender, Option.some.inj hsender, h⟩
  · cases h

/-- With usable parameters packets are **always read**: every key has room for one. -/
theorem packetError?_inspectSteps (husable : params.IsUsable) (coins : CoinLookup)
    (height : UInt32) (tx : Transaction) (result : ParseResult) :
    (tx.inspectSteps params coins height result).packetError? = none := by
  rw [Option.eq_none_iff_forall_ne_some]
  intro text htext
  obtain ⟨e, hpackets, -⟩ := Inspection.message_error?_eq_some.1 htext
  obtain ⟨-, sender, -, hpackets⟩ := exists_sender_of_packets_error hpackets
  obtain ⟨packets, hread⟩ := MultisigCarrier.exists_packets_eq_ok husable.packetSize_lt
    (params.activation.activeAt height) sender tx.outputs
  rw [hpackets] at hread
  cases hread

/-- Without a carrier an inspection shows **nothing** of a sender or of packets. -/
theorem inspectSteps_undecided (coins : CoinLookup) (result : ParseResult)
    (h : ∀ c, Decision.ofOutputs params (params.activation.activeAt height) tx.outputs
      ≠ .carrier c) :
    (tx.inspectSteps params coins height result).carrier? = none ∧
      (tx.inspectSteps params coins height result).sender = none ∧
      (tx.inspectSteps params coins height result).packets = .ok [] := by
  have hnone : (Decision.ofOutputs params (params.activation.activeAt height)
      tx.outputs).carrier? = none := by
    rw [Option.eq_none_iff_forall_ne_some]
    intro c hc
    exact h c (Decision.carrier?_eq_some.1 hc)
  refine ⟨hnone, Option.map_eq_none_iff.2 hnone, ?_⟩
  show inspectPackets _ _ _ (Decision.carrier? _) _ = _
  rw [hnone]
  rfl

/-- The error shown for a parse is the one with which the message of the **decided carrier**
fails. -/
theorem parseError?_inspectSteps_of_message {carrier : Carrier} {e : ParseError}
    (hdecision : Decision.ofOutputs params (params.activation.activeAt height) tx.outputs
      = .carrier carrier)
    (h : message params coins height 0 tx carrier = .error e) :
    (tx.inspectSteps params coins height (tx.parse params coins height 0)).parseError?
      = some e.message := by
  have hresult : tx.parse params coins height 0 = .error e := (parse_eq_error_iff hdecision).2 h
  exact Inspection.message_error?_eq_some.2 ⟨e, hresult, rfl⟩

/-- Why the sender cannot be told is why there is **no outcome**. -/
theorem parseError?_of_senderError? {text : String}
    (h : (tx.inspectSteps params coins height result).senderError? = some text) :
    (tx.inspectSteps params coins height (tx.parse params coins height 0)).parseError?
      = some text := by
  obtain ⟨e, herror, rfl⟩ := Option.map_eq_some_iff.1 h
  obtain ⟨x, hx, herror⟩ := Option.bind_eq_some_iff.1 herror
  -- A sender is looked for behind a carrier alone.
  obtain ⟨carrier, hcarrier, rfl⟩ := Option.map_eq_some_iff.1 hx
  have hmessage : message params coins height 0 tx carrier = .error e :=
    message_of_sender_error (Inspection.error?_eq_some.1 herror)
  exact parseError?_inspectSteps_of_message (Decision.carrier?_eq_some.1 hcarrier) hmessage

/-- Why packets cannot be read is why there is **no outcome**. -/
theorem parseError?_of_packetError? {text : String}
    (h : (tx.inspectSteps params coins height result).packetError? = some text) :
    (tx.inspectSteps params coins height (tx.parse params coins height 0)).parseError?
      = some text := by
  obtain ⟨e, hpackets, rfl⟩ := Inspection.message_error?_eq_some.1 h
  obtain ⟨hdecision, sender, hsender, hpackets⟩ := exists_sender_of_packets_error hpackets
  have hmessage : message params coins height 0 tx .multisig = .error e :=
    message_of_packets_error hsender hpackets
  exact parseError?_inspectSteps_of_message hdecision hmessage

/-- The payload of a message in packets is what the **packets shown** carry, up to the bound. -/
theorem exists_packets_of_parse {m : Message}
    (hm : tx.parse params coins height time = .ok (.message m))
    (hmultisig : m.carrier = .multisig) :
    ∃ packets, (tx.inspectSteps params coins height result).packets = .ok packets ∧
      m.payload = (packets.flatMap MultisigCarrier.Packet.data).take
        (params.maxPackets * params.packetSize) := by
  obtain ⟨hdecision, hstaged⟩ := isStaged_of_parse hm
  have hne : m.carrier ≠ .address := by
    rw [hmultisig]
    decide
  obtain ⟨hdecode, -⟩ := decode_of_content hne hstaged.content
  have hsender := hstaged.sender
  rw [hmultisig] at hdecision hdecode hsender
  obtain ⟨-, packets, hpackets, hpayload⟩ := MultisigCarrier.exists_packets_of_decode hdecode
  exact ⟨packets, (packets_inspectSteps_of_multisig hdecision hsender).trans hpackets, hpayload⟩

/-- The steps of a parse **agree with its result**, whatever the transaction, the coins and the
parameters. -/
theorem inspectSteps_agrees (params : Params) (coins : CoinLookup) (height : UInt32)
    (tx : Transaction) :
    (tx.inspectSteps params coins height (tx.parse params coins height 0)).Agrees params
      (Decision.ofOutputs params (params.activation.activeAt height) tx.outputs)
      (tx.parse params coins height 0) := by
  set steps := tx.inspectSteps params coins height (tx.parse params coins height 0) with hsteps
  have hcarrier (c : Carrier) : steps.carrier? = some c ↔
      Decision.ofOutputs params (params.activation.activeAt height) tx.outputs = .carrier c :=
    Decision.carrier?_eq_some
  constructor
  case shown => exact Inspection.shows_value_or_error (tx.parse params coins height 0)
  case carrier => exact hcarrier
  case decided =>
    intro c hdecision
    have hrule : steps.senderRule? = some (.ofCarrier c) := by
      rw [Inspection.senderRule?, (hcarrier c).2 hdecision]
      rfl
    refine ⟨hrule, ?_⟩
    rw [Inspection.sender?, Inspection.senderError?, hsteps,
      sender_inspectSteps_of_carrier hdecision]
    rcases Inspection.shows_value_or_error (Sender.byRule params
        (params.activation.activeAt height) coins tx.previous (.ofCarrier c)) with
      ⟨sender, -, hvalue, herror⟩ | ⟨e, -, hvalue, herror⟩
    · exact Or.inl ⟨sender, hvalue, herror⟩
    · exact Or.inr ⟨e.message, hvalue, herror⟩
  case undecided =>
    intro hundecided
    obtain ⟨hnone, hsender, hpackets⟩ := inspectSteps_undecided coins
      (tx.parse params coins height 0) hundecided
    rw [Inspection.senderRule?, Inspection.sender?, Inspection.senderError?, hsteps, hnone, hsender]
    exact ⟨rfl, rfl, rfl, hpackets⟩
  case senderError =>
    intro text htext
    exact parseError?_of_senderError? htext
  case packetError =>
    intro text htext
    exact parseError?_of_packetError? htext
  case message =>
    intro m hm
    obtain ⟨hdecision, hstaged⟩ := isStaged_of_parse hm
    refine ⟨(hcarrier m.carrier).2 hdecision, ?_⟩
    rw [Inspection.sender?, hsteps, sender_inspectSteps_of_carrier hdecision, hstaged.sender]
    rfl
  case payload =>
    intro m hm hmultisig
    exact exists_packets_of_parse hm hmultisig

/-- There is no inspection exactly where the parse **breaks off**. -/
@[simp] theorem inspect_eq_none_iff : tx.inspect params coins height = none ↔
    tx.parse params coins height 0 = .error .overflow := by
  simp [inspect]

/-- An inspection shows the steps of the parse beside its result. -/
theorem eq_of_inspect_eq_some {inspection : Inspection}
    (h : tx.inspect params coins height = some inspection) :
    inspection = tx.inspectSteps params coins height (tx.parse params coins height 0) := by
  unfold inspect at h
  dsimp only at h
  split at h
  · cases h
  · exact (Option.some.inj h).symm

/-- **An inspection agrees with the parse** at its height, whatever the transaction, the coins and
the parameters. There is one unless the parse breaks off, as it never does when a word counts the
bytes of the packets that are allowed, and those up to the end of a data address. -/
theorem inspect_agrees (params : Params) (coins : CoinLookup) (height : UInt32)
    (tx : Transaction) :
    (tx.inspect params coins height = none ↔
      tx.parse params coins height 0 = .error .overflow) ∧
    (params.maxPackets * params.packetSize < wordCount →
      1 + params.addressPacketSize < wordCount →
        ∃ inspection, tx.inspect params coins height = some inspection) ∧
    ∀ inspection, tx.inspect params coins height = some inspection →
      inspection.Agrees params
        (Decision.ofOutputs params (params.activation.activeAt height) tx.outputs)
        (tx.parse params coins height 0) := by
  refine ⟨inspect_eq_none_iff, fun hproduct hsize => ?_, fun inspection h => ?_⟩
  · -- A parse breaks off for one of the two sizes.
    rw [← Option.ne_none_iff_exists', Ne, inspect_eq_none_iff]
    intro hoverflow
    rcases isOverlong_of_parse_eq_overflow hoverflow with hlarge | hlarge
    · exact Nat.not_lt.2 hlarge hproduct
    · exact Nat.not_lt.2 hlarge hsize
  · rw [eq_of_inspect_eq_some h]
    exact inspectSteps_agrees params coins height tx

/-- Parameters with packets that no key has room for. -/
def longPackets : Params := { Params.bitcoin with packetSize := 40 }

/-- Three packets are shown as the message in them has them; where no key has room for a packet,
that is shown twice, for the packets and for the parse. -/
theorem inspect_agrees_threePackets :
    (∃ m packets inspection, MultisigCarrier.threePacketsTransaction.parse
        MultisigCarrier.shortPackets spentCoins 330000 0 = .ok (.message m) ∧
      MultisigCarrier.threePacketsTransaction.inspect MultisigCarrier.shortPackets spentCoins
        330000 = some inspection ∧
      inspection.packets = .ok packets ∧ packets.length = 3 ∧
      m.payload = (packets.flatMap MultisigCarrier.Packet.data).take
        (MultisigCarrier.shortPackets.maxPackets * MultisigCarrier.shortPackets.packetSize)) ∧
    ∃ inspection text, MultisigCarrier.threePacketsTransaction.inspect longPackets spentCoins
        330000 = some inspection ∧
      inspection.packetError? = some text ∧ inspection.parseError? = some text := by
  obtain ⟨-, hshort, hshortAgrees⟩ := inspect_agrees MultisigCarrier.shortPackets spentCoins 330000
    MultisigCarrier.threePacketsTransaction
  obtain ⟨-, hlong, hlongAgrees⟩ := inspect_agrees longPackets spentCoins 330000
    MultisigCarrier.threePacketsTransaction
  constructor
  · have hcarrier : ((MultisigCarrier.threePacketsTransaction.parse MultisigCarrier.shortPackets
        spentCoins 330000 0).toOption.bind Outcome.message?).map Message.carrier
          = some .multisig := by
      decide +kernel
    have hlength : (MultisigCarrier.threePacketsTransaction.inspect MultisigCarrier.shortPackets
        spentCoins 330000).bind (fun inspection => inspection.packets.toOption.map List.length)
          = some 3 := by
      decide +kernel
    obtain ⟨m, hm, hmultisig⟩ := Option.map_eq_some_iff.1 hcarrier
    have hparse := eq_message_of_message? hm
    obtain ⟨inspection, hinspection⟩ := hshort (by decide) (by decide)
    obtain ⟨packets, hpackets, hpayload⟩ :=
      (hshortAgrees inspection hinspection).payload m hparse hmultisig
    rw [hinspection, Option.bind_some, hpackets] at hlength
    exact ⟨m, packets, inspection, hparse, hinspection, hpackets, Option.some.inj hlength,
      hpayload⟩
  · have herror : ((MultisigCarrier.threePacketsTransaction.inspect longPackets spentCoins
        330000).bind Inspection.packetError?).isSome = true := by
      decide +kernel
    obtain ⟨inspection, hinspection⟩ := hlong (by decide) (by decide)
    rw [hinspection, Option.bind_some] at herror
    obtain ⟨text, htext⟩ := Option.isSome_iff_exists.1 herror
    exact ⟨inspection, text, hinspection, htext,
      (hlongAgrees inspection hinspection).packetError text htext⟩

/-- With accepted settings there is **no inspection** of null data whose sender is told and whose
coins are known: the parse breaks off. -/
theorem inspect_markerAlone_overlong :
    NetworkSettings.overlong.params = .ok Params.overlong ∧
      Decision.ofOutputs Params.overlong (Params.overlong.activation.activeAt 400000)
        markerAlone.outputs = .carrier .nullData ∧
      markerAlone.inspect Params.overlong spentCoins 400000 = none := by
  have hdecision : Decision.ofOutputs Params.overlong
      (Params.overlong.activation.activeAt 400000) markerAlone.outputs = .carrier .nullData := by
    decide +kernel
  have hsender : Sender.firstInput Params.overlong (Params.overlong.activation.activeAt 400000)
      spentCoins markerAlone.previous = .ok "1eA9ctCNq41iLLnQErtTUVdxpRyZ9hZmW" := by
    decide +kernel
  have husable := NetworkSettings.isUsable_of_params NetworkSettings.params_overlong
  have hoverflow : markerAlone.parse Params.overlong spentCoins 400000 0 = .error .overflow :=
    (parse_eq_overflow_iff husable).2 ⟨by decide, .inl ⟨hdecision, _, hsender⟩⟩
  exact ⟨NetworkSettings.params_overlong, hdecision, inspect_eq_none_iff.2 hoverflow⟩

end Transaction

end OmniLayer
