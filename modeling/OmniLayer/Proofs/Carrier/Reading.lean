import OmniLayer.Proofs.Carrier.Address
import OmniLayer.Proofs.Carrier.Assembly
import OmniLayer.Proofs.Carrier.Multisig

/-! # What the decoders need

The decision and the decoders go over the outputs separately. Still, the tagged output that makes
the decision for null data is one that the decoder reads (`NullDataCarrier.decode_eq`), and packets
are read off any outputs, since a key in bare multisig is always long enough for one
(`MultisigCarrier.decode_eq_ite`): both break off only where no word can count the bound on
payloads. Addresses may fail to be read: a reading takes one data output and another candidate as
the reference (`AddressCarrier.exists_of_decode_eq_ok`), and for want of these there are three
errors (`AddressCarrier.failsOnly_decode`). -/

namespace OmniLayer

variable {params : Params} {active : Activation} {outputs : List Output}

/-- A packet stands in a compressed key behind its header byte. -/
theorem Params.IsUsable.packetSize_lt (h : params.IsUsable) :
    params.packetSize + 1 ≤ MultisigCarrier.compressedKeySize :=
  Nat.succ_le_succ (h.packetSize_le.trans (by decide))

/-- Whether sizes are **overlong**: no word counts the bytes of the packets that are allowed, or
those up to the end of the payload in a data address. -/
def Params.IsOverlong (params : Params) : Prop :=
  wordCount ≤ params.maxPackets * params.packetSize ∨ wordCount ≤ 1 + params.addressPacketSize

namespace MultisigCarrier

/-- Packet keys are serialised keys. -/
theorem hasKeyShape_of_mem_packetKeys {key : PacketKey} (h : key ∈ packetKeys active outputs) :
    Secp256k1.hasKeyShape key.key = true := by
  have hmem : key.key ∈ outputs.flatMap (keysIn active) := by
    rw [← map_key_packetKeys]
    exact List.mem_map_of_mem h
  obtain ⟨o, -, hkey⟩ := List.mem_flatMap.1 hmem
  by_cases hmultisig : o.IsBareMultisig
  · obtain ⟨required, keys, hclass⟩ := hmultisig
    by_cases hactive : active.multisig = true
    · rw [keysIn_eq_tail hactive hclass] at hkey
      exact Script.hasKeyShape_of_classify hclass _ (List.mem_of_mem_tail hkey)
    · rw [keysIn, keysOf, hclass] at hkey
      dsimp only at hkey
      rw [if_neg hactive] at hkey
      exact absurd hkey List.not_mem_nil
  · rw [keysIn_eq_nil hmultisig] at hkey
    exact absurd hkey List.not_mem_nil

/-- Packets that fit in a compressed key are **read off any outputs**, with any seed. -/
theorem exists_packets_eq_ok (hsize : params.packetSize + 1 ≤ compressedKeySize)
    (active : Activation) (seed : String) (outputs : List Output) :
    ∃ read, packets params active seed outputs = .ok read := by
  set keys := (packetKeys active outputs).take params.maxPackets with hkeys
  have hlong : ∀ key ∈ keys, params.packetSize + 1 ≤ key.key.length := by
    intro key hkey
    rcases length_of_hasKeyShape (hasKeyShape_of_mem_packetKeys (List.mem_of_mem_take hkey))
      with h | h
    · exact h ▸ hsize
    · exact h ▸ hsize.trans (by decide)
  rw [packets, ← hkeys, mapM_chunk_of_long hlong]
  exact ⟨_, rfl⟩

/-- When the packets are read, the payload is what they carry up to the bound, and reading **breaks
off** when no word can count that. -/
theorem decode_eq_ite {seed : String} {read : List Packet}
    (h : packets params active seed outputs = .ok read) :
    decode params active seed outputs
      = if params.maxPackets * params.packetSize < wordCount then
          .ok ((read.flatMap Packet.data).take (params.maxPackets * params.packetSize))
        else .error .overflow := by
  rw [← packetsWith_eq_packets] at h
  rw [← decodeWith_eq_decode]
  exact decodeWith_eq_ite h

/-- A payload that is read is what the **packets** carry, up to a bound that a word can count. -/
theorem exists_packets_of_decode {seed : String} {payload : Bytes}
    (h : decode params active seed outputs = .ok payload) :
    params.maxPackets * params.packetSize < wordCount ∧
      ∃ read, packets params active seed outputs = .ok read ∧
        payload = (read.flatMap Packet.data).take (params.maxPackets * params.packetSize) := by
  obtain ⟨read, hread, -⟩ := bind_eq_ok_iff.1 h
  rw [decode_eq_ite hread] at h
  split at h
  · next hword =>
    cases h
    exact ⟨hword, read, hread, rfl⟩
  · cases h

end MultisigCarrier

namespace AddressCarrier

/-- What is wrong with outputs from which **no simple send can be read**. -/
inductive IsUnreadable : ParseError → Prop
  /-- There is no data output. -/
  | noDataOutput : IsUnreadable (.malformedPayload .noDataOutput)
  /-- There are several data outputs. -/
  | severalDataOutputs (count : Nat) :
    IsUnreadable (.malformedPayload (.severalDataOutputs count))
  /-- The reference is not determined. -/
  | ambiguousReference (count : Nat) :
    IsUnreadable (.malformedPayload (.ambiguousReference count))

/-- There is a data output when **one candidate** has a data hash. -/
@[simp] theorem dataOutput_eq_ok_iff {cs : List Candidate} {data : Candidate} :
    dataOutput cs = .ok data ↔ cs.filter (fun c => isDataHash c.hash) = [data] := by
  unfold dataOutput
  split
  · next hnil => simp [hnil]
  · next c hone => simp [hone]
  · next several _ hseveral =>
    refine iff_of_false (fun h => ?_) (hseveral data)
    cases h

/-- The reference is one of the other candidates. -/
theorem mem_of_reference_eq_ok {data c : Candidate} {others : List Candidate}
    (h : reference data others = .ok c) : c ∈ others := by
  have hmem {p : Candidate → Bool} {c' : Candidate} (hp : others.filter p = [c']) : c' ∈ others :=
    List.mem_of_mem_filter (hp ▸ List.mem_singleton_self c')
  unfold reference at h
  split at h
  · next hsequence =>
    cases h
    exact hmem hsequence
  · split at h
    · next hvalue =>
      cases h
      exact hmem hvalue
    · cases h

/-- A reading is that of the **one data output**, beside another candidate as the reference. -/
theorem exists_of_decode_eq_ok {reading : Reading}
    (h : decode params active outputs = .ok reading) :
    ∃ data reference,
      (candidates params active outputs).filter (fun c => isDataHash c.hash) = [data] ∧
        reference ∈ candidates params active outputs ∧ reference.vout ≠ data.vout ∧
        1 + params.addressPacketSize < wordCount ∧
        reading = ⟨(data.hash.bytes.drop 1).take params.addressPacketSize, data.vout,
          reference.vout⟩ := by
  obtain ⟨data, hdata, h⟩ := bind_eq_ok_iff.1 h
  obtain ⟨reference, hreference, h⟩ := bind_eq_ok_iff.1 h
  obtain ⟨hmem, hne⟩ := List.mem_filter.1 (mem_of_reference_eq_ok hreference)
  rcases Nat.lt_or_ge (1 + params.addressPacketSize) wordCount with hsize | hsize
  · rw [readingOf_of_lt hsize] at h
    cases h
    exact ⟨data, reference, dataOutput_eq_ok_iff.1 hdata, hmem, of_decide_eq_true hne, hsize, rfl⟩
  · rw [readingOf_of_le hsize] at h
    cases h

/-- The data output is missed for one of two reasons. -/
theorem failsOnly_dataOutput (cs : List Candidate) : FailsOnly IsUnreadable (dataOutput cs) := by
  unfold dataOutput
  split
  · exact .error .noDataOutput
  · exact .ok _
  · exact .error (.severalDataOutputs _)

/-- The reference is missed for one reason. -/
theorem failsOnly_reference (data : Candidate) (others : List Candidate) :
    FailsOnly IsUnreadable (reference data others) := by
  unfold reference
  split
  · exact .ok _
  · split
    · exact .ok _
    · exact .error (.ambiguousReference _)

/-- A simple send that is not read is unreadable for one of **three reasons**, or reading breaks off
for a size that no hash has. -/
theorem failsOnly_decode (params : Params) (active : Activation) (outputs : List Output) :
    FailsOnly (fun e => IsUnreadable e ∨ wordCount ≤ 1 + params.addressPacketSize ∧ e = .overflow)
      (decode params active outputs) := by
  refine FailsOnly.bind ?_ fun data => FailsOnly.bind ?_ fun reference => ?_
  · exact (failsOnly_dataOutput _).mono fun _ => Or.inl
  · exact (failsOnly_reference data _).mono fun _ => Or.inl
  · rcases Nat.lt_or_ge (1 + params.addressPacketSize) wordCount with hsize | hsize
    · rw [readingOf_of_lt hsize]
      exact .ok _
    · rw [readingOf_of_le hsize]
      exact .error (.inr ⟨hsize, rfl⟩)

/-- With a size that a word can count, the three reasons are all. -/
theorem failsOnly_decode_of_lt (hsize : 1 + params.addressPacketSize < wordCount)
    (active : Activation) (outputs : List Output) :
    FailsOnly IsUnreadable (decode params active outputs) :=
  (failsOnly_decode params active outputs).mono fun _ hkind =>
    hkind.resolve_right fun hlarge => Nat.not_le.2 hsize hlarge.1

end AddressCarrier

end OmniLayer
