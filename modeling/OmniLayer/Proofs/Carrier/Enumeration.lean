import OmniLayer.Proofs.Carrier.Multisig
import OmniLayer.Proofs.Keystream
import OmniLayer.Proofs.Provenance

/-! # The packets of a transaction, one by one

The packets can be found in one scan over the outputs that takes keys as it meets them, counts the
packets as it goes and ends at the bound (`packetsByScan`). Scanning the keys of one output is the
step (`scanKeys_eq`), scanning the outputs the run (`scanOutputs_eq`), and the scan finds what the
reader reads (`packetsByScan_eq`). The keys are all but the first of each recognised bare multisig
output, in order (`enumerates_packetKeys`), so the packets, the first key that is too short for one
(`packets_eq_error_iff`) and their numbers are known from the outputs alone
(`packets_eq_ok_iff`). -/

namespace OmniLayer.MultisigCarrier

variable {params : Params} {active : Activation} {seed : String}

/-! ## The scan -/

/-- A packet as the scan finds it, with the mask on still, given its index among the packets. -/
def masked (key : PacketKey) (bytes : Bytes) (index : Nat) : Packet :=
  ⟨key.vout, key.position, index + 1, bytes, bytes⟩

/-- **Scans keys** behind packets that were found. The scan is done before the first key for which
there is no room, and that key is not looked at. -/
def scanKeys (params : Params) :
    List PacketKey → (found : List Packet) → Except ParseError (ForInStep (List Packet))
  | [], found => .ok (.yield found)
  | key :: keys, found =>
    if params.maxPackets ≤ found.length then .ok (.done found)
    else do
      let bytes ← chunk params.packetSize key
      scanKeys params keys (found ++ [masked key bytes found.length])

/-- **Scans outputs** with their places, up to the one in whose keys the scan is done. -/
def scanOutputs (params : Params) (active : Activation) :
    List (Output × Nat) → (found : List Packet) → Except ParseError (List Packet)
  | [], found => .ok found
  | (output, vout) :: rest, found => do
    match ← scanKeys params (keysOf active output vout) found with
    | .done found => return found
    | .yield found => scanOutputs params active rest found

/-- Takes the masks off, with a keystream that is as long as there are packets. -/
def unmask (seed : String) (found : List Packet) : List Packet :=
  let digests := Keystream.digests seed found.length
  found.map fun packet =>
    { packet with
      clear := Keystream.maskWith? (Keystream.get? digests packet.sequence) packet.clear }

/-- Finds the packets in **one scan** and takes the masks off afterwards. -/
def packetsByScan (params : Params) (active : Activation) (seed : String)
    (outputs : List Output) : Except ParseError (List Packet) := do
  let found ← scanOutputs params active outputs.zipIdx []
  return unmask seed found

/-- A key beside the bytes that hold its packet. -/
def readKey (packetSize : Nat) (key : PacketKey) : Except ParseError (PacketKey × Bytes) :=
  (chunk packetSize key).map (Prod.mk key)

/-- Packets are **numbered** in the order of their keys, from a start. -/
def number (start : Nat) (read : List (PacketKey × Bytes)) : List Packet :=
  (read.zipIdx start).map fun ((key, bytes), index) => masked key bytes index

/-- Without keys there are no packets. -/
@[simp] theorem number_nil (start : Nat) : number start [] = [] := rfl

/-- There is a packet for each key. -/
@[simp] theorem length_number (start : Nat) (read : List (PacketKey × Bytes)) :
    (number start read).length = read.length := by
  simp [number]

/-- The first packet has the number at the start. -/
theorem number_cons (start : Nat) (key : PacketKey) (bytes : Bytes)
    (read : List (PacketKey × Bytes)) :
    number start ((key, bytes) :: read) = masked key bytes start :: number (start + 1) read := by
  simp [number]

/-- Numbers **go on** from one part to the next. -/
@[simp] theorem number_append (start : Nat) (xs ys : List (PacketKey × Bytes)) :
    number start (xs ++ ys) = number start xs ++ number (start + xs.length) ys := by
  simp [number, List.zipIdx_append]

/-- Scanning the keys of an output **adds the packets for which there is room**, and goes on to the
next output if there was room for all. -/
theorem scanKeys_eq (keys : List PacketKey) (found : List Packet) :
    scanKeys params keys found
      = ((keys.take (params.maxPackets - found.length)).mapM (readKey params.packetSize)).map
          fun read =>
            if keys.length ≤ params.maxPackets - found.length then
              .yield (found ++ number found.length read)
            else .done (found ++ number found.length read) := by
  induction keys generalizing found with
  | nil => simp [scanKeys, Except.map, pure, Except.pure]
  | cons key keys ih =>
    by_cases hfull : params.maxPackets ≤ found.length
    · -- The scan is done before the first key, and none is read.
      have hroom : params.maxPackets - found.length = 0 := by omega
      simp [scanKeys, hfull, hroom, Except.map, pure, Except.pure]
    · obtain ⟨room, hroom⟩ : ∃ room, params.maxPackets - found.length = room + 1 :=
        ⟨params.maxPackets - found.length - 1, by omega⟩
      rw [scanKeys, if_neg hfull, hroom, List.take_succ_cons, List.mapM_cons]
      cases hchunk : chunk params.packetSize key with
      | error e => simp [readKey, hchunk, bind, Except.bind, Except.map]
      | ok bytes =>
        -- One packet more was found, and there is room for one less.
        have hnext : params.maxPackets - (found ++ [masked key bytes found.length]).length
            = room := by
          rw [List.length_append, List.length_singleton]
          omega
        show scanKeys params keys (found ++ [masked key bytes found.length]) = _
        rw [ih, hnext]
        cases hrest : (keys.take room).mapM (readKey params.packetSize) with
        | error e => simp [readKey, hchunk, bind, Except.bind, Except.map]
        | ok read =>
          simp [readKey, hchunk, bind, Except.bind, Except.map, pure, Except.pure, number_cons]

/-- Scanning outputs adds the packets of **all their keys for which there is room**. -/
theorem scanOutputs_eq (entries : List (Output × Nat)) (found : List Packet) :
    scanOutputs params active entries found
      = (((entries.flatMap fun (output, vout) => keysOf active output vout).take
          (params.maxPackets - found.length)).mapM (readKey params.packetSize)).map
            fun read => found ++ number found.length read := by
  induction entries generalizing found with
  | nil => simp [scanOutputs, Except.map, pure, Except.pure]
  | cons entry rest ih =>
    obtain ⟨output, vout⟩ := entry
    rw [scanOutputs, scanKeys_eq, List.flatMap_cons, List.take_append, List.mapM_append]
    dsimp only
    set keys := keysOf active output vout
    set room := params.maxPackets - found.length with hroom
    cases hfront : (keys.take room).mapM (readKey params.packetSize) with
    | error e => simp [bind, Except.bind, Except.map]
    | ok read =>
      have hlength : read.length = min room keys.length := by
        rw [← (mapM_eq_ok_iff.1 hfront).length_eq, List.length_take]
      by_cases hall : keys.length ≤ room
      · -- The scan goes on with the room that these keys leave.
        have hnext : params.maxPackets - (found ++ number found.length read).length
            = room - keys.length := by
          rw [List.length_append, length_number, hlength]
          omega
        simp only [hall, if_true, Except.map, bind, Except.bind]
        rw [ih, hnext]
        cases ((rest.flatMap fun (output, vout) => keysOf active output vout).take
            (room - keys.length)).mapM (readKey params.packetSize) with
        | error e => rfl
        | ok more =>
          simp [Except.map, pure, Except.pure, number_append]
      · -- The scan is done, and there is no room for the keys of further outputs.
        have hnone : room - keys.length = 0 := by omega
        simp [hall, hnone, Except.map, bind, Except.bind, pure, Except.pure]

/-- The bytes of keys beside the keys, from the bytes alone. -/
theorem mapM_readKey (packetSize : Nat) (keys : List PacketKey) :
    keys.mapM (readKey packetSize) = (keys.mapM (chunk packetSize)).map keys.zip :=
  mapM_map (chunk packetSize) Prod.mk keys

/-- Without the masks, numbered packets are the **packets of their keys**. -/
theorem unmask_number (seed : String) (read : List (PacketKey × Bytes)) :
    unmask seed (number 0 read)
      = read.zipIdx.map fun ((key, bytes), index) =>
          packet (Keystream.digests seed read.length) key bytes index := by
  rw [unmask, length_number, number, List.map_map]
  rfl

/-- The scan finds **what is read** key by key. -/
theorem packetsByScan_eq (params : Params) (active : Activation) (seed : String)
    (outputs : List Output) :
    packetsByScan params active seed outputs = packets params active seed outputs := by
  rw [packetsByScan, scanOutputs_eq, packets]
  show _ >>= _ = ((packetKeys active outputs).take params.maxPackets).mapM _ >>= _
  set keys := (packetKeys active outputs).take params.maxPackets with hkeys
  have hall : ((outputs.zipIdx.flatMap fun (output, vout) => keysOf active output vout).take
      (params.maxPackets - ([] : List Packet).length)).mapM (readKey params.packetSize)
        = (keys.mapM (chunk params.packetSize)).map keys.zip :=
    mapM_readKey params.packetSize keys
  rw [hall]
  cases hchunks : keys.mapM (chunk params.packetSize) with
  | error e => rfl
  | ok chunks =>
    have hlength : (keys.zip chunks).length = chunks.length := by
      rw [List.length_zip, (mapM_eq_ok_iff.1 hchunks).length_eq, Nat.min_self]
    show Except.ok (unmask seed (number 0 (keys.zip chunks))) = _
    rw [unmask_number, hlength]
    rfl

/-! ## The keys -/

/-- Whether a list **enumerates the packet keys** of outputs at a height: it holds, once each and in
order, all keys but the first of the bare multisig outputs that are recognised. -/
structure Enumerates (params : Params) (height : UInt32) (outputs : List Output)
    (keys : List PacketKey) : Prop where
  /-- The keys are those behind the first in the scripts. -/
  mem_iff : ∀ key, key ∈ keys ↔ params.activation.multisigHeight ≤ height ∧
    ∃ output required all, outputs[key.vout]? = some output ∧
      output.scriptClass = .multisig required all ∧
        0 < key.position ∧ all[key.position]? = some key.key
  /-- They come in the order of the outputs, and in one output in that of the script. -/
  pairwise : keys.Pairwise fun a b =>
    a.vout < b.vout ∨ a.vout = b.vout ∧ a.position < b.position

/-- Places in a list come in order. -/
theorem pairwise_zipIdx {α : Type} (xs : List α) (start : Nat) :
    (xs.zipIdx start).Pairwise fun a b => a.2 < b.2 := by
  have hplaces : ((xs.zipIdx start).map Prod.snd).Pairwise (· < ·) := by
    rw [List.zipIdx_map_snd]
    exact List.pairwise_lt_range'
  exact List.pairwise_map.1 hplaces

/-- The packet keys of an output are those **behind the first** key of its script. -/
theorem mem_keysOf_iff {output : Output} {vout : Nat} {key : PacketKey} :
    key ∈ keysOf active output vout ↔ active.multisig = true ∧ key.vout = vout ∧
      ∃ required all, output.scriptClass = .multisig required all ∧
        0 < key.position ∧ all[key.position]? = some key.key := by
  unfold keysOf
  cases hclass : output.scriptClass with
  | multisig required all =>
    dsimp only
    by_cases hactive : active.multisig = true
    · rw [if_pos hactive, List.mem_map]
      constructor
      · rintro ⟨⟨bytes, position⟩, hmem, rfl⟩
        obtain ⟨index, hindex, hget⟩ := List.mem_drop_iff_getElem.1 hmem
        rw [List.getElem_zipIdx, Prod.mk.injEq] at hget
        refine ⟨hactive, rfl, required, all, rfl, ?_, ?_⟩
        · show 0 < position
          omega
        · rw [← hget.1, ← hget.2, Nat.zero_add]
          exact List.getElem?_eq_getElem _
      · -- Behind the first key, places are one less.
        rintro ⟨-, rfl, required', all', hsame, hposition, hget⟩
        cases hsame
        obtain ⟨hlt, hget⟩ := List.getElem?_eq_some_iff.1 hget
        refine ⟨(key.key, key.position), List.mem_drop_iff_getElem.2 ⟨key.position - 1, ?_, ?_⟩,
          rfl⟩
        · rw [List.length_zipIdx]
          omega
        · have hplace : 1 + (key.position - 1) = key.position := by omega
          simp [List.getElem_zipIdx, hplace, hget]
    · simp [hactive]
  | _ => simp

/-- The packet keys of an output come in the order of its script. -/
theorem pairwise_keysOf (output : Output) (vout : Nat) :
    (keysOf active output vout).Pairwise fun a b => a.position < b.position := by
  unfold keysOf
  split
  · next required all _ =>
    split
    · exact List.pairwise_map.2 ((pairwise_zipIdx all 0).sublist (List.drop_sublist 1 _))
    · exact List.Pairwise.nil
  · exact List.Pairwise.nil

/-- The packet keys that are read are those of the outputs, **in order**. -/
theorem enumerates_packetKeys (params : Params) (height : UInt32) (outputs : List Output) :
    Enumerates params height outputs
      (packetKeys (params.activation.activeAt height) outputs) where
  mem_iff := by
    intro key
    rw [packetKeys, List.mem_flatMap]
    constructor
    · rintro ⟨⟨output, vout⟩, hentry, hkey⟩
      obtain ⟨hactive, rfl, required, all, hkey⟩ := mem_keysOf_iff.1 hkey
      exact ⟨of_decide_eq_true hactive, output, required, all,
        List.mk_mem_zipIdx_iff_getElem?.1 hentry, hkey⟩
    · rintro ⟨hheight, output, required, all, hget, hkey⟩
      exact ⟨(output, key.vout), List.mk_mem_zipIdx_iff_getElem?.2 hget,
        mem_keysOf_iff.2 ⟨decide_eq_true hheight, rfl, required, all, hkey⟩⟩
  pairwise := by
    rw [packetKeys, List.pairwise_flatMap]
    constructor
    · -- In one output the place is the same, and the scripts are in order.
      rintro ⟨output, vout⟩ -
      refine (pairwise_keysOf output vout).imp_of_mem ?_
      intro a b ha hb hlt
      exact Or.inr ⟨(mem_keysOf_iff.1 ha).2.1.trans (mem_keysOf_iff.1 hb).2.1.symm, hlt⟩
    · refine (pairwise_zipIdx outputs 0).imp ?_
      intro entry entry' hlt a ha b hb
      rw [← (mem_keysOf_iff.1 ha).2.1, ← (mem_keysOf_iff.1 hb).2.1] at hlt
      exact Or.inl hlt

/-- The packet keys of joined outputs begin with those of the first. -/
theorem packetKeys_prefix_append (active : Activation) (outputs more : List Output) :
    packetKeys active outputs <+: packetKeys active (outputs ++ more) := by
  rw [packetKeys, packetKeys, List.zipIdx_append, List.flatMap_append]
  exact List.prefix_append _ _

/-! ## The packets -/

/-- The bytes of a key behind its header, as many as a packet has. -/
def PacketKey.obfuscated (packetSize : Nat) (key : PacketKey) : Bytes :=
  (key.key.drop 1).take packetSize

/-- The packet in a key, given its index among the packets: the mask is the digest of the seed with
that index. -/
def packetIn (packetSize : Nat) (seed : String) (key : PacketKey) (index : Nat) : Packet where
  vout := key.vout
  position := key.position
  sequence := index + 1
  obfuscated := key.obfuscated packetSize
  clear := List.zipWith (· ^^^ ·) (key.obfuscated packetSize)
      (Keystream.digestAt seed index).bytes ++ (key.obfuscated packetSize).drop 32

/-- The packets of keys that are all long enough. -/
theorem packets_of_long {outputs : List Output}
    (hlong : ∀ key ∈ (packetKeys active outputs).take params.maxPackets,
      params.packetSize + 1 ≤ key.key.length) :
    packets params active seed outputs
      = .ok (((packetKeys active outputs).take params.maxPackets).zipIdx.map
          fun (key, index) => packetIn params.packetSize seed key index) := by
  set keys := (packetKeys active outputs).take params.maxPackets with hkeys
  rw [packets, ← hkeys, mapM_chunk_of_long hlong]
  show Except.ok _ = _
  rw [← List.map_prod_left_eq_zip, List.zipIdx_map, List.map_map]
  congr 1
  refine List.map_congr_left ?_
  rintro ⟨key, index⟩ hentry
  -- The keystream is as long as there are keys, so it reaches the index of each.
  have hlt : index < keys.length :=
    (List.getElem?_eq_some_iff.1 (List.mk_mem_zipIdx_iff_getElem?.1 hentry)).1
  simp [packet, packetIn, PacketKey.obfuscated, Keystream.maskWith?_digests seed hlt]

/-- A key holds a packet when it is long enough. -/
theorem exists_chunk_eq_ok_iff {packetSize : Nat} {key : PacketKey} :
    (∃ bytes, chunk packetSize key = .ok bytes) ↔ packetSize + 1 ≤ key.key.length := by
  unfold chunk
  split <;> simp_all

/-- A key that is too short for a packet is named with its length and its output. -/
theorem chunk_eq_error_iff {packetSize : Nat} {key : PacketKey} {e : ParseError} :
    chunk packetSize key = .error e ↔ key.key.length < packetSize + 1 ∧
      e = .malformedPayload (.shortKey key.key.length key.vout packetSize) := by
  unfold chunk
  split
  · next h => simp [Nat.not_lt.2 h]
  · next h => simp [Nat.lt_of_not_le h, eq_comm]

/-- Reading packets fails where reading the keys does. -/
theorem packets_eq_error_iff_mapM {outputs : List Output} {e : ParseError} :
    packets params active seed outputs = .error e ↔
      ((packetKeys active outputs).take params.maxPackets).mapM (chunk params.packetSize)
        = .error e := by
  simp [packets, bind_eq_error_iff, pure, Except.pure]

/-- Reading packets fails with the **first key that is too short**, of those for which there is
room. -/
theorem packets_eq_error_iff {outputs : List Output} {e : ParseError} :
    packets params active seed outputs = .error e ↔
      ∃ front key back, (packetKeys active outputs).take params.maxPackets = front ++ key :: back ∧
        (∀ long ∈ front, params.packetSize + 1 ≤ long.key.length) ∧
          key.key.length < params.packetSize + 1 ∧
            e = .malformedPayload (.shortKey key.key.length key.vout params.packetSize) := by
  rw [packets_eq_error_iff_mapM, mapM_eq_error_iff]
  simp only [exists_chunk_eq_ok_iff, chunk_eq_error_iff]

/-- Reading packets fails when **one of the keys** for which there is room is too short. -/
theorem exists_packets_eq_error_iff {outputs : List Output} :
    (∃ e, packets params active seed outputs = .error e) ↔
      ∃ key ∈ (packetKeys active outputs).take params.maxPackets,
        key.key.length < params.packetSize + 1 := by
  constructor
  · rintro ⟨e, he⟩
    obtain ⟨front, key, back, hkeys, -, hshort, -⟩ := packets_eq_error_iff.1 he
    exact ⟨key, hkeys ▸ List.mem_append_right _ List.mem_cons_self, hshort⟩
  · rintro ⟨key, hkey, hshort⟩
    cases hread : packets params active seed outputs with
    | error e => exact ⟨e, rfl⟩
    | ok found =>
      -- There are bytes for every key, so for the short one.
      obtain ⟨chunks, hchunks, -⟩ := bind_eq_ok_iff.1 hread
      have hlong := exists_chunk_eq_ok_iff.1 (exists_mapM_eq_ok_iff.1 ⟨chunks, hchunks⟩ key hkey)
      omega

/-- Packets are read when **every key** for which there is room is long enough, and they are the
packets in these keys. -/
theorem packets_eq_ok_iff {outputs : List Output} {found : List Packet} :
    packets params active seed outputs = .ok found ↔
      (∀ key ∈ (packetKeys active outputs).take params.maxPackets,
        params.packetSize + 1 ≤ key.key.length) ∧
        found = ((packetKeys active outputs).take params.maxPackets).zipIdx.map
          fun (key, index) => packetIn params.packetSize seed key index := by
  constructor
  · intro hread
    have hlong : ∀ key ∈ (packetKeys active outputs).take params.maxPackets,
        params.packetSize + 1 ≤ key.key.length := by
      intro key hkey
      by_contra hshort
      obtain ⟨e, he⟩ := exists_packets_eq_error_iff.2 ⟨key, hkey, Nat.lt_of_not_le hshort⟩
      rw [he] at hread
      cases hread
    rw [packets_of_long hlong] at hread
    exact ⟨hlong, (Except.ok.inj hread).symm⟩
  · rintro ⟨hlong, rfl⟩
    exact packets_of_long hlong

/-- More outputs **add packets behind** those that are read without them. -/
theorem packets_prefix_of_append {outputs more : List Output} {found : List Packet}
    (h : packets params active seed (outputs ++ more) = .ok found) :
    ∃ front, packets params active seed outputs = .ok front ∧ front <+: found := by
  obtain ⟨hlong, rfl⟩ := packets_eq_ok_iff.1 h
  -- The bound cuts off the end only, so a front stays one.
  have hkeys : (packetKeys active outputs).take params.maxPackets
      <+: (packetKeys active (outputs ++ more)).take params.maxPackets :=
    (packetKeys_prefix_append active outputs more).take params.maxPackets
  refine ⟨_, packets_of_long fun key hkey => hlong key (hkeys.subset hkey), ?_⟩
  obtain ⟨rest, hrest⟩ := hkeys
  rw [← hrest, List.zipIdx_append, List.map_append]
  exact List.prefix_append _ _

/-- The payload in packets that are read is **not cut**, if the bound on payloads fits in a word. -/
theorem decode_of_packets {outputs : List Output} {found : List Packet}
    (h : packets params active seed outputs = .ok found)
    (hfits : params.maxPackets * params.packetSize < wordCount) :
    decode params active seed outputs = .ok (found.flatMap Packet.data) := by
  rw [decode_eq_ite h, if_pos hfits, take_flatMap_data h]

/-- **The packets of a transaction are enumerated.** The keys behind the first of each recognised
bare multisig output, in order and up to the bound, each hold one packet, numbered from one; its
mask is the digest of the seed with its number. Reading fails with the first of these keys that is
too short, and with no later one. Further outputs only add packets at the end, and a bound that fits
in a word cuts nothing off the payload. One scan over the outputs finds the same. -/
theorem packets_enumerated (params : Params) (height : UInt32) (seed : String)
    (outputs : List Output) :
    let active := params.activation.activeAt height
    ∃ keys, Enumerates params height outputs keys ∧
      packetsByScan params active seed outputs = packets params active seed outputs ∧
      ((∃ e, packets params active seed outputs = .error e) ↔
        ∃ key ∈ keys.take params.maxPackets, key.key.length < params.packetSize + 1) ∧
      (∀ e, packets params active seed outputs = .error e ↔
        ∃ front key back, keys.take params.maxPackets = front ++ key :: back ∧
          (∀ long ∈ front, params.packetSize + 1 ≤ long.key.length) ∧
            key.key.length < params.packetSize + 1 ∧
              e = .malformedPayload (.shortKey key.key.length key.vout params.packetSize)) ∧
      (∀ found, packets params active seed outputs = .ok found ↔
        (∀ key ∈ keys.take params.maxPackets, params.packetSize + 1 ≤ key.key.length) ∧
          found = (keys.take params.maxPackets).zipIdx.map
            fun (key, index) => packetIn params.packetSize seed key index) ∧
      (∀ more found, packets params active seed (outputs ++ more) = .ok found →
        ∃ front, packets params active seed outputs = .ok front ∧ front <+: found) ∧
      (params.maxPackets * params.packetSize < wordCount →
        ∀ found, packets params active seed outputs = .ok found →
          decode params active seed outputs = .ok (found.flatMap Packet.data)) := by
  intro active
  refine ⟨packetKeys active outputs, enumerates_packetKeys params height outputs,
    packetsByScan_eq params active seed outputs, exists_packets_eq_error_iff, ?_, ?_, ?_, ?_⟩
  · exact fun e => packets_eq_error_iff
  · exact fun found => packets_eq_ok_iff
  · exact fun more found h => packets_prefix_of_append h
  · exact fun hfits found h => decode_of_packets h hfits

end OmniLayer.MultisigCarrier
