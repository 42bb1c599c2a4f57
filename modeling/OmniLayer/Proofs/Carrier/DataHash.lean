import OmniLayer.Proofs.Carrier.Reading

/-! # Data hashes and simple sends

A data hash is told by two words at fixed places, a simple send by reading a payload from its front.
Both ask for the same bytes, so a hash is a data hash exactly when it holds a simple send
(`isDataHash_iff_ofPayload?`), and zeros behind a payload change neither. Hence what is read from
addresses is a simple send (`exists_ofPayload?_of_decode`), and every simple send of nineteen bytes
is read from some outputs (`decode_readable`). -/

namespace OmniLayer.AddressCarrier

variable {params : Params} {active : Activation} {outputs : List Output} {payload : Bytes}

/-- Of payloads that fit, those that are no simple send are **refused as unsupported**, for every
receiver. -/
theorem encode_ne_unsupported_iff (receiver : String)
    (hlength : payload.length ≤ min params.addressPacketSize 19) :
    encode params receiver payload ≠ .error (.unsupportedAddressPayload payload) ↔
      SimpleSend.ofPayload? payload ≠ none := by
  unfold encode
  dsimp only
  rw [if_neg (Nat.not_lt.2 hlength)]
  by_cases hsend : SimpleSend.ofPayload? payload = none
  · rw [if_pos hsend]
    exact iff_of_false (fun h => h rfl) (not_not.2 hsend)
  · rw [if_neg hsend]
    refine iff_of_true ?_ hsend
    -- What is left to fail is one of the two addresses.
    cases params.decodeAddress? receiver with
    | none => exact fun h => by cases h
    | some destination =>
      cases params.exodusDestination? with
      | none => exact fun h => by cases h
      | some exodus => exact fun h => by cases h

/-- A payload that is read is what a data hash holds **behind its first byte**, so a simple send. -/
theorem exists_ofPayload?_of_decode {reading : Reading} (hsize : params.addressPacketSize = 19)
    (h : decode params active outputs = .ok reading) :
    reading.payload.length = 19 ∧ SimpleSend.ofPayload? reading.payload ≠ none := by
  obtain ⟨data, reference, hdata, -, -, -, rfl⟩ := exists_of_decode_eq_ok h
  have hsearch : data ∈ (candidates params active outputs).filter (fun c => isDataHash c.hash) :=
    hdata ▸ List.mem_singleton_self data
  have hlength : (data.hash.bytes.drop 1).length = 19 := by
    rw [List.length_drop, data.hash.length_eq]
  dsimp only
  rw [hsize, List.take_of_length_le hlength.le]
  exact ⟨hlength, isDataHash_iff_ofPayload?.1 (List.mem_filter.1 hsearch).2⟩

/-! ## Outputs for every simple send -/

/-- A sequence byte such that neither it nor the **next one** is the first byte of Exodus. -/
def freeSequence (params : Params) : UInt8 :=
  ((params.exodusDestination?.map fun exodus => sequence exodus.hash).getD 0) + 1

/-- A destination with one of these two first bytes is not Exodus. -/
theorem exodusDestination?_ne {destination : Destination}
    (h : sequence destination.hash = freeSequence params ∨
      sequence destination.hash = freeSequence params + 1) :
    params.exodusDestination? ≠ some destination := by
  intro hexodus
  simp only [freeSequence, hexodus, Option.map_some, Option.getD_some] at h
  grind

/-- A hash that is no data hash, with a first byte. -/
def plainHash (first : UInt8) : Hash160 := ⟨first :: List.replicate 19 0xff, rfl⟩

/-- Two outputs from which a simple send is **read**, whatever the Exodus address is. -/
def readable (params : Params) (payload : Bytes) : List Output :=
  [.pubkeyHash (dataHash (freeSequence params) payload),
    .pubkeyHash (plainHash (freeSequence params + 1))].map (dustOutput params)

/-- Every simple send that fits is read from **some outputs**, filled up with zeros. -/
theorem decode_readable (hsize : params.addressPacketSize = 19) (hlength : payload.length ≤ 19)
    (hsend : SimpleSend.ofPayload? payload ≠ none) :
    decode params active (readable params payload) = .ok ⟨Bytes.padTo 19 payload, 0, 1⟩ := by
  set first := freeSequence params with hfirst
  have hfirstByte : sequence (dataHash first payload) = first := sequence_dataHash first hlength
  have hdata : Names params active (dustOutput params (.pubkeyHash (dataHash first payload)))
      (.pubkeyHash (dataHash first payload)) :=
    names_dustOutput (by rw [Destination.script, Script.classify_payToPubkeyHash]; rfl)
      (exodusDestination?_ne (Or.inl hfirstByte))
  have hreceiver : Names params active (dustOutput params (.pubkeyHash (plainHash (first + 1))))
      (.pubkeyHash (plainHash (first + 1))) :=
    names_dustOutput (by rw [Destination.script, Script.classify_payToPubkeyHash]; rfl)
      (exodusDestination?_ne (Or.inr rfl))
  set d : Candidate := ⟨0, dataHash first payload, params.dustValue⟩ with hd
  set r : Candidate := ⟨1, plainHash (first + 1), params.dustValue⟩ with hr
  have hcandidates : candidates params active (readable params payload) = [d, r] := by
    change candidatesFrom params active 0 _ = _
    rw [readable, List.map_cons, List.map_cons, List.map_nil, candidatesFrom_cons,
      candidate?_eq_some.2 ⟨_, hdata, rfl⟩, candidatesFrom_cons,
      candidate?_eq_some.2 ⟨_, hreceiver, rfl⟩]
    rfl
  have hdataOutput : dataOutput [d, r] = .ok d := by
    change dataOutput ([] ++ d :: [r]) = .ok d
    refine dataOutput_eq_ok (isDataHash_dataHash first hlength hsend) ?_
    intro c hc
    obtain rfl := List.mem_singleton.1 hc
    rfl
  have hreference : reference d [r] = .ok r := by
    change reference d ([] ++ r :: []) = .ok r
    refine reference_eq_ok ?_ rfl (Or.inl fun c hc => absurd hc List.not_mem_nil)
    rw [hfirstByte]
    rfl
  have hread : readingOf params d r = .ok ⟨Bytes.padTo 19 payload, 0, 1⟩ := by
    rw [readingOf_of_lt (by rw [hsize]; decide), hsize, payload_dataHash first hlength]
  rw [decode, hcandidates, hdataOutput]
  change reference d [r] >>= _ = _
  rw [hreference]
  exact hread

/-- **The detector of data hashes and the reader of simple sends agree.** A hash is a data hash
exactly when what stands behind its first byte reads as a simple send. A payload that fits and is
not refused as unsupported is a simple send, the same one with zeros behind it, every data hash that
is built from it is one, and such a hash is paid by the second output that is laid out. With
nineteen bytes in a data address, whatever is read from outputs is a simple send, and the payloads
that can be read are those that are accepted, filled up with zeros. -/
theorem dataHashes_hold_simpleSends (params : Params) :
    (∀ hash : Hash160, isDataHash hash = true ↔
      ∃ send, SimpleSend.ofPayload? (hash.bytes.drop 1) = some send) ∧
    (∀ receiver payload, payload.length ≤ min params.addressPacketSize 19 →
      encode params receiver payload ≠ .error (.unsupportedAddressPayload payload) →
      (∃ send, SimpleSend.ofPayload? payload = some send ∧
        SimpleSend.ofPayload? (Bytes.padTo 19 payload) = some send) ∧
      (∀ first, isDataHash (dataHash first payload) = true) ∧
      ∀ outs, encode params receiver payload = .ok outs → ∃ first,
        outs[1]? = some (dustOutput params (.pubkeyHash (dataHash first payload)))) ∧
    (params.addressPacketSize = 19 → ∀ active : Activation,
      (∀ outputs reading, decode params active outputs = .ok reading →
        ∃ send, SimpleSend.ofPayload? reading.payload = some send) ∧
      ∀ payload, (∃ outputs reading, decode params active outputs = .ok reading ∧
          reading.payload = payload) ↔
        ∃ accepted, accepted.length ≤ 19 ∧
          (∀ receiver, encode params receiver accepted
            ≠ .error (.unsupportedAddressPayload accepted)) ∧
          payload = Bytes.padTo 19 accepted) := by
  refine ⟨fun hash => ?_, fun receiver payload hlength hsupported => ?_, fun hsize active => ?_⟩
  · rw [isDataHash_iff_ofPayload?, Option.ne_none_iff_exists']
  · rw [encode_ne_unsupported_iff receiver hlength] at hsupported
    obtain ⟨send, hsend⟩ := Option.ne_none_iff_exists'.1 hsupported
    refine ⟨⟨send, hsend, ?_⟩, fun first => ?_, fun outs hencode => ?_⟩
    · rw [Bytes.padTo, SimpleSend.ofPayload?_append hsupported, hsend]
    · exact isDataHash_dataHash first (hlength.trans (Nat.min_le_right _ _)) hsupported
    · obtain ⟨destination, exodus, -, -, -, -, rfl⟩ := exists_of_encode_eq_ok hencode
      exact ⟨_, rfl⟩
  · have hmin {accepted : Bytes} (h : accepted.length ≤ 19) :
        accepted.length ≤ min params.addressPacketSize 19 := by
      rwa [hsize, Nat.min_self]
    refine ⟨fun outputs reading h => ?_, fun payload => ⟨?_, ?_⟩⟩
    · exact Option.ne_none_iff_exists'.1 (exists_ofPayload?_of_decode hsize h).2
    · -- What is read has nineteen bytes, so it is accepted as it is.
      rintro ⟨outputs, reading, h, rfl⟩
      obtain ⟨hlength, hsend⟩ := exists_ofPayload?_of_decode hsize h
      exact ⟨reading.payload, hlength.le,
        fun receiver => (encode_ne_unsupported_iff receiver (hmin hlength.le)).2 hsend,
        (Bytes.padTo_of_length_eq hlength).symm⟩
    · rintro ⟨accepted, hlength, hsupported, rfl⟩
      have hsend := (encode_ne_unsupported_iff "" (hmin hlength)).1 (hsupported "")
      exact ⟨readable params accepted, _, decode_readable hsize hlength hsend, rfl⟩

/-- One unit is laid out, so it is a simple send, with zeros behind it too, and the second output
pays a data hash. -/
theorem dataHashes_hold_simpleSends_wrapped :
    encode Params.bitcoin "31h1vYVSYuKP6AhS86fbRdMw9XHieotbST" oneUnit = .ok wrappedOutputs ∧
      (∃ send, SimpleSend.ofPayload? oneUnit = some send ∧
        SimpleSend.ofPayload? (Bytes.padTo 19 oneUnit) = some send) ∧
      ∃ hash, wrappedOutputs[1]? = some (dustOutput Params.bitcoin (.pubkeyHash hash)) ∧
        isDataHash hash = true := by
  have hencode : encode Params.bitcoin "31h1vYVSYuKP6AhS86fbRdMw9XHieotbST" oneUnit
      = .ok wrappedOutputs := by
    decide +kernel
  obtain ⟨-, hlaid, -⟩ := dataHashes_hold_simpleSends Params.bitcoin
  have hsupported : encode Params.bitcoin "31h1vYVSYuKP6AhS86fbRdMw9XHieotbST" oneUnit
      ≠ .error (.unsupportedAddressPayload oneUnit) := by
    rw [hencode]
    exact fun h => by cases h
  obtain ⟨hsend, hhash, houts⟩ := hlaid _ oneUnit (by decide) hsupported
  obtain ⟨first, hsecond⟩ := houts _ hencode
  exact ⟨hencode, hsend, dataHash first oneUnit, hsecond, hhash first⟩

end OmniLayer.AddressCarrier
