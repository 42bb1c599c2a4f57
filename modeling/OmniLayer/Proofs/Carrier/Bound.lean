import OmniLayer.Proofs.Carrier.Acceptance

/-! # The bound on payloads

The bound on payloads is a product that has to be a word, and so is the bound on what packets hold.
The checks on settings leave the number of packets free, so the products need not be words. For
`2 ^ 59` packets and fewer they are, whatever the size of packets, and then nothing that is laid out
is lost (`NetworkSettings.payload_bounds`). Beyond that laying out and reading break off, each at
its own product: packets may be laid out that cannot be read. Null data is measured by the same
product when it is laid out and when it is read, so whatever is laid out is read. -/

namespace OmniLayer

namespace MultisigCarrier

variable {params : Params} {sender : String} {redeemingKey payload : Bytes}

/-- Laying out packets **breaks off** when no word counts what they hold, and then for every payload
but the empty one. -/
theorem encode_eq_overflow_iff (h : params.IsUsable) :
    encode params sender redeemingKey payload = .error .overflow ↔
      payload ≠ [] ∧ wordCount ≤ params.maxPackets * (params.packetSize - 1) := by
  rcases Nat.lt_or_ge (params.maxPackets * (params.packetSize - 1)) wordCount with hword | hword
  · -- Nothing that is wrong with a request in itself is called so.
    refine iff_of_false (fun herror => ?_) fun h => Nat.not_lt.2 h.2 hword
    cases ((encode_iff h hword).2 _).1 herror
  · obtain ⟨exodus, hexodus⟩ := h.exists_exodus
    rw [and_iff_left hword]
    constructor
    · rintro herror rfl
      rw [encode_nil hexodus] at herror
      cases herror
    · intro hpayload
      rw [← encodeWith_eq_encode]
      exact encodeWith_eq_overflow hexodus h.two_le_packetSize h.packetSize_le hword hpayload

/-- A payload is too large for packets when it is larger than **what they hold**, counted by a word.
-/
theorem encode_eq_payloadTooLarge_iff (h : params.IsUsable)
    (hword : params.maxPackets * (params.packetSize - 1) < wordCount) :
    encode params sender redeemingKey payload
        = .error (.payloadTooLarge payload.length (params.maxPackets * (params.packetSize - 1))) ↔
      params.maxPackets * (params.packetSize - 1) < payload.length :=
  ⟨fun herror => (((encode_iff h hword).2 _).1 herror).lt_of_payloadTooLarge,
    fun hlength => ((encode_iff h hword).2 _).2 (.multisigTooLarge hlength)⟩

end MultisigCarrier

namespace NullDataCarrier

variable {params : Params} {receiver : Option String} {payload : Bytes}

/-- An output for a piece is refused only for the size of the piece. -/
theorem failsOnly_taggedOutput (piece : Bytes) :
    FailsOnly (· ≠ .overflow) (taggedOutput params piece) := by
  unfold taggedOutput
  dsimp only
  split_ifs
  · exact .ok _
  · exact .error fun h => by cases h

/-- An output for a receiver is refused only for the address. -/
theorem failsOnly_receiverOutput (receiver : Option String) :
    FailsOnly (· ≠ .overflow) (receiverOutput params receiver) := by
  unfold receiverOutput
  split
  · exact .ok _
  · split
    · exact .error fun h => by cases h
    · exact .ok _

/-- Laying out null data **breaks off** when the bound on payloads is no word, whatever the payload.
-/
theorem encode_eq_overflow_iff : encode params receiver payload = .error .overflow ↔
    wordCount ≤ params.maxPackets * params.packetSize := by
  refine ⟨fun herror => ?_, fun hword => encode_eq_overflow hword receiver payload⟩
  by_contra hword
  -- Behind a bound that is a word, every stage is refused for the request.
  have hfails : FailsOnly (· ≠ .overflow) (encode params receiver payload) := by
    unfold encode
    rw [Params.maxPayloadSize?_of_lt (Nat.not_le.1 hword)]
    dsimp only
    split_ifs
    · exact .error fun h => by cases h
    · exact (failsOnly_receiverOutput receiver).bind fun _ => .error fun h => by cases h
    · exact (failsOnly_receiverOutput receiver).bind fun _ =>
        (FailsOnly.mapM failsOnly_taggedOutput _).bind fun _ => .ok _
  exact hfails _ herror rfl

end NullDataCarrier

namespace NetworkSettings

open MultisigCarrier (someKey)

/-- **The bounds on payloads are exact as long as they are words.** Settings are accepted with any
number of packets, and with at most `2 ^ 59` of them the bounds are words. Packets are laid out as
long as what they hold is counted by a word, and are read as long as their bytes are: then the
payload is read whole, and filled up with zeros. Null data is laid out only when it is read, and
then it is read whole. -/
theorem payload_bounds {settings : NetworkSettings} {params : Params}
    (h : settings.params = .ok params) :
    (params.maxPackets ≤ 2 ^ 59 → params.maxPackets * params.packetSize < wordCount) ∧
    (params.maxPayloadSize? = some (params.maxPackets * params.packetSize) ↔
      params.maxPackets * params.packetSize < wordCount) ∧
    (∀ sender redeemingKey payload,
      (MultisigCarrier.encode params sender redeemingKey payload = .error .overflow ↔
        payload ≠ [] ∧ wordCount ≤ params.maxPackets * (params.packetSize - 1)) ∧
      (params.maxPackets * (params.packetSize - 1) < wordCount →
        (MultisigCarrier.encode params sender redeemingKey payload
            = .error (.payloadTooLarge payload.length
                (params.maxPackets * (params.packetSize - 1))) ↔
          params.maxPackets * (params.packetSize - 1) < payload.length))) ∧
    (∀ sender redeemingKey payload outs,
      MultisigCarrier.encode params sender redeemingKey payload = .ok outs →
      ∀ height, params.activation.multisigHeight ≤ height →
      ∀ before after, (∀ o ∈ before ++ after, ¬o.IsBareMultisig) →
        (params.maxPackets * params.packetSize < wordCount →
          ∃ zeros, MultisigCarrier.decode params (params.activation.activeAt height) sender
            (before ++ outs ++ after) = .ok (payload ++ List.replicate zeros 0)) ∧
        (wordCount ≤ params.maxPackets * params.packetSize →
          MultisigCarrier.decode params (params.activation.activeAt height) sender
            (before ++ outs ++ after) = .error .overflow)) ∧
    (∀ receiver payload, NullDataCarrier.encode params receiver payload = .error .overflow ↔
      wordCount ≤ params.maxPackets * params.packetSize) ∧
    ∀ receiver payload outs, NullDataCarrier.encode params receiver payload = .ok outs →
      ∀ height, params.activation.nullDataHeight ≤ height →
      ∀ before after, (∀ o ∈ before ++ after, ¬o.IsTagged params) →
        NullDataCarrier.decode params (params.activation.activeAt height) (before ++ outs ++ after)
          = .ok payload := by
  have husable := isUsable_of_params h
  obtain ⟨exodus, hexodus⟩ := husable.exists_exodus
  refine ⟨fun hmax => ?_, ⟨fun hsome => ?_, Params.maxPayloadSize?_of_lt⟩, ?_, ?_, ?_, ?_⟩
  · -- No packets of more than 31 bytes are accepted.
    calc params.maxPackets * params.packetSize
        ≤ 2 ^ 59 * 31 := Nat.mul_le_mul hmax husable.packetSize_le
      _ < wordCount := by decide
  · by_contra hword
    rw [Params.maxPayloadSize?_of_le (Nat.not_lt.1 hword)] at hsome
    cases hsome
  · exact fun sender redeemingKey payload =>
      ⟨MultisigCarrier.encode_eq_overflow_iff husable,
        MultisigCarrier.encode_eq_payloadTooLarge_iff husable⟩
  · intro sender redeemingKey payload outs hencode height hheight before after haround
    have hactive : (params.activation.activeAt height).multisig = true := decide_eq_true hheight
    rw [MultisigCarrier.decode_append_eq_ite hexodus hactive hencode haround]
    exact ⟨fun hword => ⟨_, if_pos hword⟩, fun hword => if_neg (Nat.not_lt.2 hword)⟩
  · exact fun receiver payload => NullDataCarrier.encode_eq_overflow_iff
  · intro receiver payload outs hencode height hheight before after haround
    exact NullDataCarrier.decode_append (decide_eq_true hheight) hencode haround

/-- Three packets are read with the **whole payload** in front. -/
theorem payload_bounds_threePackets :
    ∃ zeros, MultisigCarrier.decode MultisigCarrier.shortPackets
        (MultisigCarrier.shortPackets.activation.activeAt 330000)
        "1eA9ctCNq41iLLnQErtTUVdxpRyZ9hZmW" MultisigCarrier.threePacketsOutputs
      = .ok (MultisigCarrier.threePackets ++ List.replicate zeros 0) := by
  have hparams : ({ packetSize := some 8 } : NetworkSettings).params
      = .ok MultisigCarrier.shortPackets :=
    params_of_packets (some 8) none (by decide) (by decide)
  obtain ⟨-, -, -, hpackets, -⟩ := payload_bounds hparams
  have hread := (hpackets _ _ _ _ MultisigCarrier.encode_threePackets 330000 (by decide) [] []
    (fun _ ho => absurd ho List.not_mem_nil)).1 (by decide)
  rwa [List.nil_append, List.append_nil] at hread

/-- The output with the two packets of a simple send, and the Exodus output. -/
def overlongOutputs : List Output :=
  [⟨5460, MultisigCarrier.oneOf [someKey,
      MultisigCarrier.packetKey [5, 76, 6, 23, 125, 33, 207, 6, 167, 230, 75, 22, 60, 30, 1, 124] 1,
      MultisigCarrier.packetKey [91, 69, 143, 168, 116, 141, 40, 180, 23, 199, 160, 10, 40, 210, 85,
        28] 1]⟩,
    ⟨5460, Script.payToPubkeyHash Params.mainExodus⟩]

/-- A simple send is **laid out** under settings that are accepted, and reading it back breaks off:
the bytes of `2 ^ 60` packets of sixteen bytes are more than a word counts. -/
theorem decode_overlongOutputs :
    overlong.params = .ok Params.overlong ∧
      wordCount ≤ Params.overlong.maxPackets * Params.overlong.packetSize ∧
      MultisigCarrier.encode Params.overlong "1eA9ctCNq41iLLnQErtTUVdxpRyZ9hZmW" someKey
        AddressCarrier.oneUnit = .ok overlongOutputs ∧
      MultisigCarrier.decode Params.overlong (Params.overlong.activation.activeAt 400000)
        "1eA9ctCNq41iLLnQErtTUVdxpRyZ9hZmW" overlongOutputs = .error .overflow := by
  have hencode : MultisigCarrier.encode Params.overlong "1eA9ctCNq41iLLnQErtTUVdxpRyZ9hZmW" someKey
      AddressCarrier.oneUnit = .ok overlongOutputs := by
    decide +kernel
  have hexodus : Params.overlong.exodusDestination? = some (.pubkeyHash Params.mainExodus) :=
    Params.exodusDestination?_bitcoin
  have hactive : (Params.overlong.activation.activeAt 400000).multisig = true := by decide
  have haround : ∀ o ∈ ([] ++ [] : List Output), ¬o.IsBareMultisig :=
    fun _ ho => absurd ho List.not_mem_nil
  have hdecode := MultisigCarrier.decode_append_eq_ite hexodus hactive hencode haround
  rw [List.nil_append, List.append_nil, if_neg (by decide)] at hdecode
  exact ⟨params_overlong, by decide, hencode, hdecode⟩

end NetworkSettings

end OmniLayer
