import Mathlib.Data.List.Nodup
import Mathlib.Logic.Equiv.Fintype
import OmniLayer.Proofs.Provenance

/-! # The search for a simple send

What is read from addresses is found by two searches, each of which asks for **one** candidate: the
data output by its hash, the reference by its first byte or, failing that, by its value. Neither
asks where a candidate stands, except that the reference is not the data output. So a reading is
described by uniqueness alone (`decode_eq_ok_iff`), and outputs in another order give the same
reading at the places where the outputs now stand (`decode_of_rearranged`). Both are put together in
`decode_uniqueness_search`. The end of the payload in its hash is computed before it is cut to the
hash, so for a size that no hash has reading may break off (`decode_eq_overflow_iff`). -/

namespace OmniLayer.AddressCarrier

variable {params : Params} {active : Activation} {outputs outputs' : List Output}

/-! ## Data hashes -/

/-- Whether a hash has the **bytes of a simple send** behind its first byte: one or two, in eight
bytes. -/
def HasDataBytes (hash : Hash160) : Prop :=
  (hash.bytes.drop 1).take 8 = [0, 0, 0, 0, 0, 0, 0, 1] ∨
    (hash.bytes.drop 1).take 8 = [0, 0, 0, 0, 0, 0, 0, 2]

/-- Only one and two are the numbers of properties. -/
@[simp] theorem isSome_ofId?_iff {id : Nat} :
    (Property.ofId? id).isSome = true ↔ id = 1 ∨ id = 2 := by
  unfold Property.ofId?
  split
  · simp_all
  · split <;> simp_all

/-- A hash carries a simple send exactly when it has the bytes of one. -/
theorem isDataHash_iff {hash : Hash160} : isDataHash hash = true ↔ HasDataBytes hash := by
  have hheader : ((hash.bytes.drop 1).take 4).length = 4 := by simp [hash.length_eq]
  have hid : ((hash.bytes.drop 5).take 4).length = 4 := by simp [hash.length_eq]
  -- Four bytes are told by the number that they spell.
  have hspells {bs : Bytes} (hbs : bs.length = 4) (ds : Bytes) (hds : ds.length = 4) :
      Bytes.toNatBE bs = Bytes.toNatBE ds ↔ bs = ds :=
    ⟨Bytes.eq_of_toNatBE_eq (hbs.trans hds.symm), congrArg _⟩
  have hzero : Bytes.toNatBE ((hash.bytes.drop 1).take 4) = 0 ↔
      (hash.bytes.drop 1).take 4 = [0, 0, 0, 0] := hspells hheader [0, 0, 0, 0] rfl
  have hone : Bytes.toNatBE ((hash.bytes.drop 5).take 4) = 1 ↔
      (hash.bytes.drop 5).take 4 = [0, 0, 0, 1] := hspells hid [0, 0, 0, 1] rfl
  have htwo : Bytes.toNatBE ((hash.bytes.drop 5).take 4) = 2 ↔
      (hash.bytes.drop 5).take 4 = [0, 0, 0, 2] := hspells hid [0, 0, 0, 2] rfl
  have happend (id : Bytes) : (hash.bytes.drop 1).take 8 = [0, 0, 0, 0] ++ id ↔
      (hash.bytes.drop 1).take 4 = [0, 0, 0, 0] ∧ (hash.bytes.drop 5).take 4 = id := by
    rw [← List.append_eq_append_iff_of_size_eq_left hheader, ← List.drop_drop (i := 4) (j := 1),
      ← List.take_add]
  unfold isDataHash HasDataBytes
  rw [Bool.and_eq_true, beq_iff_eq, isSome_ofId?_iff, hzero, hone, htwo, and_or_left]
  exact or_congr (happend [0, 0, 0, 1]).symm (happend [0, 0, 0, 2]).symm

/-! ## Candidates by their places -/

/-- Whether a candidate **stands among** outputs: the output at its place names a destination, and
the candidate has the hash of that and the value of the output. -/
def Stands (params : Params) (active : Activation) (outputs : List Output) (c : Candidate) : Prop :=
  ∃ o d, outputs[c.vout]? = some o ∧ Names params active o d ∧ c.hash = d.hash ∧ c.value = o.value

/-- The candidates are those that stand among the outputs. -/
@[simp] theorem mem_candidates_iff {c : Candidate} :
    c ∈ candidates params active outputs ↔ Stands params active outputs c := by
  constructor
  · intro h
    obtain ⟨⟨o, vout⟩, hmem, hcandidate⟩ := List.mem_filterMap.1 h
    obtain ⟨d, hnames, rfl⟩ := candidate?_eq_some.1 hcandidate
    exact ⟨o, d, List.mem_zipIdx_iff_getElem?.1 hmem, hnames, rfl, rfl⟩
  · obtain ⟨vout, hash, value⟩ := c
    rintro ⟨o, d, ho, hnames, rfl, rfl⟩
    exact List.mem_filterMap.2 ⟨(o, vout), List.mem_zipIdx_iff_getElem?.2 ho,
      candidate?_eq_some.2 ⟨d, hnames, rfl⟩⟩

/-- No candidate is listed twice, since no place is. -/
theorem nodup_candidates : (candidates params active outputs).Nodup := by
  have hplaces : outputs.zipIdx.Pairwise fun a b => a.2 ≠ b.2 := by
    rw [← List.pairwise_map (f := Prod.snd), List.zipIdx_map_snd]
    exact List.nodup_range'
  refine hplaces.filterMap _ ?_
  rintro ⟨o, vout⟩ ⟨o', vout'⟩ hne c hc c' hc' rfl
  obtain ⟨d, -, rfl⟩ := candidate?_eq_some.1 hc
  obtain ⟨d', -, heq⟩ := candidate?_eq_some.1 hc'
  exact hne (congrArg Candidate.vout heq)

/-! ## Uniqueness -/

/-- Whether a candidate **alone** meets a condition. -/
def IsOnly (p : Candidate → Prop) (c : Candidate) : Prop := p c ∧ ∀ c', p c' → c' = c

/-- A test leaves one of different candidates when that one **alone** passes it. -/
theorem filter_eq_singleton_iff {cs : List Candidate} (hcs : cs.Nodup) {p : Candidate → Bool}
    {c : Candidate} : cs.filter p = [c] ↔ IsOnly (fun c' => c' ∈ cs ∧ p c' = true) c := by
  rw [← List.perm_singleton, List.perm_ext_iff_of_nodup (hcs.filter p) (List.nodup_singleton c)]
  simp only [List.mem_filter, List.mem_singleton]
  constructor
  · intro h
    exact ⟨(h c).2 rfl, fun c' hc' => (h c').1 hc'⟩
  · rintro ⟨hc, honly⟩ c'
    exact ⟨honly c', fun heq => heq ▸ hc⟩

/-- The reference by its **value** alone. -/
def byValue (data : Candidate) (others : List Candidate) : Except ParseError Candidate :=
  match others.filter fun c => c.value == data.value with
  | [candidate] => .ok candidate
  | several => .error (.malformedPayload (.ambiguousReference several.length))

/-- A single candidate with the next first byte is the reference. -/
theorem reference_eq_ok_of_filter {data c : Candidate} {others : List Candidate}
    (h : others.filter (fun c => sequence c.hash == sequence data.hash + 1) = [c]) :
    reference data others = .ok c := by
  rw [reference, h]

/-- Without a single candidate with the next first byte, the reference is searched by its value. -/
theorem reference_eq_byValue {data : Candidate} {others : List Candidate}
    (h : ∀ c, others.filter (fun c => sequence c.hash == sequence data.hash + 1) ≠ [c]) :
    reference data others = byValue data others := by
  unfold reference
  split
  · next c hone => exact absurd hone (h c)
  · rfl

/-- The search by value finds a candidate that **alone** has the value. -/
@[simp] theorem byValue_eq_ok_iff {data reference : Candidate} {others : List Candidate} :
    byValue data others = .ok reference ↔
      others.filter (fun c => c.value == data.value) = [reference] := by
  unfold byValue
  split
  · next c hone => simp [hone]
  · next hnot => simpa using hnot reference

/-- The reference is the one of the other candidates with the **next first byte** or, unless there
is one, the one with the **same value**. -/
theorem reference_eq_ok_iff {others : List Candidate} (hothers : others.Nodup)
    {data c : Candidate} : reference data others = .ok c ↔
      IsOnly (fun c => c ∈ others ∧ sequence c.hash = sequence data.hash + 1) c ∨
        (¬∃ c', IsOnly (fun c => c ∈ others ∧ sequence c.hash = sequence data.hash + 1) c') ∧
          IsOnly (fun c => c ∈ others ∧ c.value = data.value) c := by
  have hsequence (c' : Candidate) :
      others.filter (fun c => sequence c.hash == sequence data.hash + 1) = [c'] ↔
        IsOnly (fun c => c ∈ others ∧ sequence c.hash = sequence data.hash + 1) c' := by
    simp only [filter_eq_singleton_iff hothers, beq_iff_eq]
  have hvalue : others.filter (fun c => c.value == data.value) = [c] ↔
      IsOnly (fun c => c ∈ others ∧ c.value = data.value) c := by
    simp only [filter_eq_singleton_iff hothers, beq_iff_eq]
  simp only [← hsequence, ← hvalue]
  by_cases hone :
      ∃ c', others.filter (fun c => sequence c.hash == sequence data.hash + 1) = [c']
  · obtain ⟨c', hc'⟩ := hone
    simp [reference_eq_ok_of_filter hc', hc']
  · rw [reference_eq_byValue fun c' hc' => hone ⟨c', hc'⟩, byValue_eq_ok_iff]
    -- No candidate is found by its first byte, so only the second alternative is left.
    constructor
    · intro h
      exact .inr ⟨hone, h⟩
    · rintro (h | ⟨-, h⟩)
      · exact absurd ⟨c, h⟩ hone
      · exact h

/-- Whether a candidate stands among outputs beside the data output and has the **next first
byte**. -/
def IsNext (params : Params) (active : Activation) (outputs : List Output)
    (data c : Candidate) : Prop :=
  Stands params active outputs c ∧ c.vout ≠ data.vout ∧ sequence c.hash = sequence data.hash + 1

/-- Whether a candidate stands among outputs beside the data output and has the **same value**. -/
def IsEqual (params : Params) (active : Activation) (outputs : List Output)
    (data c : Candidate) : Prop :=
  Stands params active outputs c ∧ c.vout ≠ data.vout ∧ c.value = data.value

/-- Two candidates make a **reading** of outputs: the first is the only one with the bytes of a
simple send, and the second is the only other one with the next first byte or, unless there is such
a one, the only other one with the same value. -/
structure IsReading (params : Params) (active : Activation) (outputs : List Output)
    (data reference : Candidate) : Prop where
  /-- The first is the data output. -/
  isData : IsOnly (fun c => Stands params active outputs c ∧ HasDataBytes c.hash) data
  /-- The second is the reference. -/
  isReference : IsOnly (IsNext params active outputs data) reference ∨
    (¬∃ c, IsOnly (IsNext params active outputs data) c) ∧
      IsOnly (IsEqual params active outputs data) reference

/-- Two candidates make a reading exactly when **the two searches** end with them. -/
theorem isReading_iff {data reference : Candidate} :
    IsReading params active outputs data reference ↔
      dataOutput (candidates params active outputs) = .ok data ∧
        AddressCarrier.reference data
            ((candidates params active outputs).filter fun c => c.vout ≠ data.vout)
          = .ok reference := by
  have hdata (data : Candidate) :
      dataOutput (candidates params active outputs) = .ok data ↔
        IsOnly (fun c => Stands params active outputs c ∧ HasDataBytes c.hash) data := by
    rw [dataOutput_eq_ok_iff, filter_eq_singleton_iff nodup_candidates]
    simp only [mem_candidates_iff, isDataHash_iff]
  have hreference (data reference : Candidate) :
      AddressCarrier.reference data
          ((candidates params active outputs).filter fun c => c.vout ≠ data.vout) = .ok reference ↔
        IsOnly (IsNext params active outputs data) reference ∨
          (¬∃ c, IsOnly (IsNext params active outputs data) c) ∧
            IsOnly (IsEqual params active outputs data) reference := by
    rw [reference_eq_ok_iff (nodup_candidates.filter _)]
    simp only [List.mem_filter, mem_candidates_iff, decide_eq_true_iff, and_assoc]
    rfl
  rw [hdata, hreference]
  exact ⟨fun h => ⟨h.isData, h.isReference⟩, fun h => ⟨h.1, h.2⟩⟩

/-- Outputs are read exactly when two candidates make a **reading** of them, with a size that a word
can count. -/
theorem decode_eq_ok_iff {reading : Reading} :
    decode params active outputs = .ok reading ↔
      1 + params.addressPacketSize < wordCount ∧
      ∃ data reference, IsReading params active outputs data reference ∧
        reading = ⟨(data.hash.bytes.drop 1).take params.addressPacketSize, data.vout,
          reference.vout⟩ := by
  rcases Nat.lt_or_ge (1 + params.addressPacketSize) wordCount with hsize | hsize
  · simp only [isReading_iff, hsize, true_and, decode, bind_eq_ok_iff, readingOf_of_lt hsize,
      Except.ok.injEq, eq_comm (b := reading), and_assoc, exists_and_left]
  · simp [Nat.not_lt.2 hsize, decode, bind_eq_ok_iff, readingOf_of_le hsize]

/-- With a size that no word can count, reading **breaks off** exactly where two candidates make a
reading. -/
theorem decode_eq_overflow_iff :
    decode params active outputs = .error .overflow ↔
      wordCount ≤ 1 + params.addressPacketSize ∧
        ∃ data reference, IsReading params active outputs data reference := by
  constructor
  · -- Neither search breaks off, so both end with a candidate.
    intro h
    rcases bind_eq_error_iff.1 h with hfailed | ⟨data, hdata, h⟩
    · cases failsOnly_dataOutput _ _ hfailed
    rcases bind_eq_error_iff.1 h with hfailed | ⟨reference, hreference, h⟩
    · cases failsOnly_reference _ _ _ hfailed
    refine ⟨Nat.le_of_not_lt fun hsize => ?_, data, reference, isReading_iff.2 ⟨hdata, hreference⟩⟩
    rw [readingOf_of_lt hsize] at h
    cases h
  · rintro ⟨hsize, data, reference, hreading⟩
    obtain ⟨hdata, hreference⟩ := isReading_iff.1 hreading
    rw [decode, hdata]
    change AddressCarrier.reference data _ >>= _ = _
    rw [hreference]
    exact readingOf_of_le hsize data reference

/-! ## Outputs in another order -/

/-- A list of outputs in **another order**: the one at each place goes where a permutation says. -/
def rearranged (outputs : List Output) (σ : Equiv.Perm (Fin outputs.length)) : List Output :=
  List.ofFn fun i => outputs.get (σ.symm i)

/-- Where a permutation of a list's places takes any place; those behind the list stay. -/
def newPlace {n : Nat} (σ : Equiv.Perm (Fin n)) : Equiv.Perm Nat :=
  σ.extendDomain Fin.equivSubtype

/-- Every output stands at its **new place**. -/
@[simp] theorem getElem?_rearranged (outputs : List Output) (σ : Equiv.Perm (Fin outputs.length))
    (place : Nat) : (rearranged outputs σ)[newPlace σ place]? = outputs[place]? := by
  unfold rearranged newPlace
  by_cases hplace : place < outputs.length
  · rw [Equiv.Perm.extendDomain_apply_subtype σ Fin.equivSubtype hplace]
    simp [Fin.equivSubtype]
  · rw [Equiv.Perm.extendDomain_apply_not_subtype σ Fin.equivSubtype hplace]
    simp [hplace]

variable {σ : Equiv.Perm Nat}

/-- A candidate at its new place. -/
def Candidate.moved (σ : Equiv.Perm Nat) (c : Candidate) : Candidate := { c with vout := σ c.vout }

/-- A reading with the new places of its outputs. -/
def Reading.moved (σ : Equiv.Perm Nat) (reading : Reading) : Reading :=
  { reading with dataVout := σ reading.dataVout, referenceVout := σ reading.referenceVout }

/-- A candidate that is moved back is the one it was. -/
@[simp] theorem Candidate.moved_symm_moved (σ : Equiv.Perm Nat) (c : Candidate) :
    (c.moved σ).moved σ.symm = c := by
  simp [Candidate.moved]

/-- A candidate comes from the one at its old place. -/
@[simp] theorem Candidate.moved_moved_symm (σ : Equiv.Perm Nat) (c : Candidate) :
    (c.moved σ.symm).moved σ = c := by
  simp [Candidate.moved]

/-- The candidates are the same, at their new places and in another order. -/
theorem candidates_perm (h : ∀ place, outputs'[σ place]? = outputs[place]?) :
    (candidates params active outputs').Perm
      ((candidates params active outputs).map (Candidate.moved σ)) := by
  have hinjective : Function.Injective (Candidate.moved σ) :=
    Function.LeftInverse.injective (Candidate.moved_symm_moved σ)
  have hstands (c : Candidate) : Stands params active outputs' (c.moved σ) ↔
      Stands params active outputs c := by
    unfold Stands Candidate.moved
    rw [h]
  rw [List.perm_ext_iff_of_nodup nodup_candidates (nodup_candidates.map hinjective)]
  intro c
  rw [List.mem_map, mem_candidates_iff]
  constructor
  · intro hc
    rw [← c.moved_moved_symm σ] at hc
    exact ⟨c.moved σ.symm, mem_candidates_iff.2 ((hstands _).1 hc), c.moved_moved_symm σ⟩
  · rintro ⟨c, hc, rfl⟩
    exact (hstands c).2 (mem_candidates_iff.1 hc)

/-- Of two lists that are the same but for order and places, both are empty, both have one member,
or both have **as many**, and more than one. -/
theorem perm_map_cases {cs cs' : List Candidate} (h : cs'.Perm (cs.map (Candidate.moved σ))) :
    (cs = [] ∧ cs' = []) ∨ (∃ c, cs = [c] ∧ cs' = [c.moved σ]) ∨
      (∃ a b rest a' b' rest', cs = a :: b :: rest ∧ cs' = a' :: b' :: rest' ∧
        cs'.length = cs.length) := by
  have hlength : cs'.length = cs.length := h.length_eq.trans (List.length_map _)
  match cs, cs' with
  | [], cs' => exact .inl ⟨rfl, List.perm_nil.1 h⟩
  | [c], cs' => exact .inr (.inl ⟨c, rfl, List.perm_singleton.1 h⟩)
  | a :: b :: rest, a' :: b' :: rest' =>
    exact .inr (.inr ⟨a, b, rest, a', b', rest', rfl, rfl, hlength⟩)

/-- A test that passes a candidate at its new place when another passes it at the old one leaves the
same candidates as the other. -/
theorem filter_perm {cs cs' : List Candidate} (h : cs'.Perm (cs.map (Candidate.moved σ)))
    (p q : Candidate → Bool) (hp : ∀ c, p (c.moved σ) = q c) :
    (cs'.filter p).Perm ((cs.filter q).map (Candidate.moved σ)) := by
  have hmap : p ∘ Candidate.moved σ = q := funext hp
  have hfilter := h.filter p
  rwa [List.filter_map, hmap] at hfilter

/-- The data output is found in another order too, or missed with the **same error**. -/
theorem dataOutput_of_perm {cs cs' : List Candidate}
    (h : cs'.Perm (cs.map (Candidate.moved σ))) :
    dataOutput cs' = (dataOutput cs).map (Candidate.moved σ) := by
  unfold dataOutput
  obtain ⟨hnil, hnil'⟩ | ⟨c, hone, hone'⟩ | ⟨a, b, rest, a', b', rest', hmany, hmany', hlength⟩ :=
    perm_map_cases (filter_perm h (fun c => isDataHash c.hash) (fun c => isDataHash c.hash)
      fun _ => rfl)
  · rw [hnil, hnil']
    rfl
  · rw [hone, hone']
    rfl
  · rw [hmany, hmany'] at hlength ⊢
    dsimp only
    rw [hlength]
    rfl

/-- The search by value ends alike in another order. -/
theorem byValue_of_perm {others others' : List Candidate} (data : Candidate)
    (h : others'.Perm (others.map (Candidate.moved σ))) :
    byValue (data.moved σ) others' = (byValue data others).map (Candidate.moved σ) := by
  unfold byValue
  obtain ⟨hnil, hnil'⟩ | ⟨c, hone, hone'⟩ | ⟨a, b, rest, a', b', rest', hmany, hmany', hlength⟩ :=
    perm_map_cases (filter_perm h (fun c => c.value == (data.moved σ).value)
      (fun c => c.value == data.value) fun _ => rfl)
  · rw [hnil, hnil']
    rfl
  · rw [hone, hone']
    rfl
  · rw [hmany, hmany'] at hlength ⊢
    dsimp only
    rw [hlength]
    rfl

/-- The reference is found in another order too, or missed with the **same error**. -/
theorem reference_of_perm {others others' : List Candidate} (data : Candidate)
    (h : others'.Perm (others.map (Candidate.moved σ))) :
    reference (data.moved σ) others' = (reference data others).map (Candidate.moved σ) := by
  have hfilter := filter_perm h (fun c => sequence c.hash == sequence (data.moved σ).hash + 1)
    (fun c => sequence c.hash == sequence data.hash + 1) fun _ => rfl
  by_cases hone : ∃ c, others.filter (fun c => sequence c.hash == sequence data.hash + 1) = [c]
  · obtain ⟨c, hc⟩ := hone
    rw [hc] at hfilter
    rw [reference_eq_ok_of_filter hc, reference_eq_ok_of_filter (List.perm_singleton.1 hfilter)]
    rfl
  · -- Without one by its first byte here there is none there, as there are as many.
    have hnone (c' : Candidate) :
        others'.filter (fun c => sequence c.hash == sequence (data.moved σ).hash + 1) ≠ [c'] := by
      intro hc'
      have hlength := hfilter.length_eq
      rw [hc', List.length_map] at hlength
      exact hone (List.length_eq_one_iff.1 hlength.symm)
    rw [reference_eq_byValue fun c hc => hone ⟨c, hc⟩, reference_eq_byValue hnone,
      byValue_of_perm data h]

/-- The reading of two candidates moves with them. -/
@[simp] theorem readingOf_moved (data reference : Candidate) :
    readingOf params (data.moved σ) (reference.moved σ)
      = (readingOf params data reference).map (Reading.moved σ) := by
  unfold readingOf
  split
  · rfl
  · rfl

/-- Outputs in another order are **read alike**: with the same payload at the new places, or with
the same error. -/
theorem decode_of_rearranged (params : Params) (active : Activation)
    (h : ∀ place, outputs'[σ place]? = outputs[place]?) :
    decode params active outputs' = (decode params active outputs).map (Reading.moved σ) := by
  have hperm : (candidates params active outputs').Perm
      ((candidates params active outputs).map (Candidate.moved σ)) := candidates_perm h
  unfold decode
  simp only [dataOutput_of_perm hperm]
  refine map_bind_eq_map fun data => ?_
  have hothers := filter_perm hperm (fun c => c.vout ≠ (data.moved σ).vout)
    (fun c => c.vout ≠ data.vout) fun c => by simp [Candidate.moved]
  rw [reference_of_perm data hothers]
  exact map_bind_eq_map fun reference => readingOf_moved data reference

/-- **Reading addresses is a search for the one data output and the one reference**, and does not
depend on the order of the outputs. Outputs are read exactly when a single candidate has the bytes
of a simple send, and a single other one has the next first byte or, unless there is such a one, a
single other one has the same value; the payload stands behind the first byte of the data output.
Only when no word counts the bytes up to the end of the payload, such outputs are not read, and
reading breaks off there. In another order the outputs give the same payload at the places where
these two now stand, or the same error. -/
theorem decode_uniqueness_search (params : Params) (active : Activation) (outputs : List Output) :
    (∀ reading, decode params active outputs = .ok reading ↔
      1 + params.addressPacketSize < wordCount ∧
      ∃ data reference, IsReading params active outputs data reference ∧
        reading = ⟨(data.hash.bytes.drop 1).take params.addressPacketSize, data.vout,
          reference.vout⟩) ∧
    (decode params active outputs = .error .overflow ↔
      wordCount ≤ 1 + params.addressPacketSize ∧
      ∃ data reference, IsReading params active outputs data reference) ∧
    ∀ σ : Equiv.Perm (Fin outputs.length), decode params active (rearranged outputs σ)
      = (decode params active outputs).map (Reading.moved (newPlace σ)) :=
  ⟨fun _ => decode_eq_ok_iff, decode_eq_overflow_iff,
    fun σ => decode_of_rearranged params active (getElem?_rearranged outputs σ)⟩

/-- Parameters whose data addresses are said to hold as many bytes as the **largest word** counts.
-/
def endless : Params := { Params.bitcoin with addressPacketSize := wordCount - 1 }

/-- A simple send that is read by the parameters of the main network is a reading by these too, and
still **is not read**. -/
theorem decode_wrappedOutputs_endless :
    decode Params.bitcoin (Params.bitcoin.activation.activeAt 400000) wrappedOutputs
        = .ok ⟨Bytes.padTo 19 oneUnit, 1, 2⟩ ∧
      (∃ data reference,
        IsReading endless (endless.activation.activeAt 400000) wrappedOutputs data reference) ∧
      decode endless (endless.activation.activeAt 400000) wrappedOutputs = .error .overflow := by
  have hread : decode Params.bitcoin (Params.bitcoin.activation.activeAt 400000) wrappedOutputs
      = .ok ⟨Bytes.padTo 19 oneUnit, 1, 2⟩ := by
    decide +kernel
  -- The two sets of parameters differ in the size alone, of which a reading says nothing.
  obtain ⟨-, data, reference, hreading, -⟩ := decode_eq_ok_iff.1 hread
  have hendless :
      IsReading endless (endless.activation.activeAt 400000) wrappedOutputs data reference :=
    ⟨hreading.isData, hreading.isReference⟩
  exact ⟨hread, ⟨data, reference, hendless⟩,
    decode_eq_overflow_iff.2 ⟨by decide, data, reference, hendless⟩⟩

end OmniLayer.AddressCarrier
