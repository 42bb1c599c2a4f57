import OmniLayer.Script.Class
import Mathlib.Algebra.Order.Ring.Nat

/-! # Scripts as sequences of instructions

A script is spelled instruction by instruction, a push in any of four forms. This is said here in
terms of joined byte strings (`IsPush`, `Spells`, `Reads`). The reader takes exactly the sequences
of instructions and gives back their instructions (`ofScript?_eq_some_iff`), and it takes no script
that breaks off inside a push (`ofScript?_eq_none_of_breaksOff`). -/

namespace OmniLayer

/-! ## Lengths and fields -/

namespace Bytes

/-- Splitting with an exact length gives the front of that length and the rest. -/
@[simp] theorem takeExact?_append (front rest : Bytes) :
    takeExact? front.length (front ++ rest) = some (front, rest) :=
  takeExact?_eq_some.2 ⟨rfl, rfl⟩

/-- Nothing is split off a byte string that is too short. -/
theorem takeExact?_eq_none {n : Nat} {bs : Bytes} (h : bs.length < n) : takeExact? n bs = none :=
  if_neg (Nat.not_le.2 h)

/-- Bytes are written back from the number that they spell. -/
@[simp] theorem ofNatLE_toNatLE (bs : Bytes) : ofNatLE bs.length (toNatLE bs) = bs := by
  induction bs with
  | nil => rfl
  | cons b rest ih =>
    -- The number is taken apart into its low byte, which is the first, and what the rest spells.
    have hlow : UInt8.ofNat (b.toNat + 256 * toNatLE rest) = b := by
      rw [← UInt8.toNat_inj, UInt8.toNat_ofNat', Nat.add_mul_mod_self_left,
        Nat.mod_eq_of_lt b.toNat_lt]
    have hhigh : (b.toNat + 256 * toNatLE rest) / 256 = toNatLE rest := by
      have hb := b.toNat_lt
      omega
    rw [toNatLE, List.length_cons, ofNatLE, hlow, hhigh, ih]

/-- The numbers that a count of bytes spells are those below a power. -/
theorem span_eq_pow (width : Nat) : span width = 256 ^ width := by
  induction width with
  | zero => rfl
  | succ width ih => rw [span, ih, Nat.pow_succ, Nat.mul_comm]

end Bytes

/-! ## Pushes -/

namespace Script

/-- The operation bytes of pushes with a **length field**, with the width of the field. -/
def lengthFields : List (UInt8 × Nat) := [(0x4c, 1), (0x4d, 2), (0x4e, 4)]

/-- The forms in which data may be **pushed**, the shortest or not. -/
inductive IsPush (data : Bytes) : Script → Prop
  /-- The first byte is the length. -/
  | direct (h : data.length ≤ 0x4b) : IsPush data (UInt8.ofNat data.length :: data)
  /-- The length stands in a field, low byte first. -/
  | sized {code : UInt8} {width : Nat} (hcode : (code, width) ∈ lengthFields)
    (h : data.length < 256 ^ width) :
    IsPush data (code :: (Bytes.ofNatLE width data.length ++ data))

/-- A push that is **cut short**: there are fewer bytes than it announces. -/
inductive IsCutPush : Script → Prop
  /-- There are fewer bytes than the first byte says. -/
  | direct {code : UInt8} {rest : Bytes} (hcode : code ≤ 0x4b) (h : rest.length < code.toNat) :
    IsCutPush (code :: rest)
  /-- The length field is not complete. -/
  | field {code : UInt8} {width : Nat} {rest : Bytes} (hcode : (code, width) ∈ lengthFields)
    (h : rest.length < width) : IsCutPush (code :: rest)
  /-- There are fewer bytes than the length field says. -/
  | sized {code : UInt8} {width : Nat} {field rest : Bytes} (hcode : (code, width) ∈ lengthFields)
    (hfield : field.length = width) (h : rest.length < Bytes.toNatLE field) :
    IsCutPush (code :: (field ++ rest))

/-- What the library writes for data is one of the forms. -/
theorem isPush_push {data : Bytes} (h : data.length ≤ maxPush) : IsPush data (push data) := by
  unfold push pushHeader
  by_cases h1 : data.length ≤ 0x4b
  · rw [if_pos h1]
    exact .direct h1
  rw [if_neg h1]
  by_cases h2 : data.length < 0x100
  · rw [if_pos h2]
    exact .sized (by decide) h2
  rw [if_neg h2]
  by_cases h3 : data.length < 0x10000
  · rw [if_pos h3]
    exact .sized (by decide) h3
  rw [if_neg h3]
  exact .sized (by decide) (Nat.lt_succ_of_le h)

/-- A push starts with a byte up to the last with a length field. -/
theorem IsPush.exists_eq_cons {data : Bytes} {part : Script} (h : IsPush data part) :
    ∃ code rest, part = code :: rest ∧ code ≤ 0x4e := by
  cases h with
  | direct h =>
    refine ⟨_, _, rfl, ?_⟩
    rw [UInt8.le_iff_toNat_le,
      UInt8.toNat_ofNat_of_lt' (Nat.lt_of_le_of_lt h (by decide))]
    exact Nat.le_trans h (by decide)
  | sized hcode _ =>
    have hall : ∀ entry ∈ lengthFields, entry.1 ≤ 0x4e := by decide
    exact ⟨_, _, rfl, hall _ hcode⟩

end Script

/-! ## Instructions -/

namespace Instruction

/-- The bytes that an **instruction** may be spelled with. -/
inductive Spells : Instruction → Script → Prop
  /-- A push has one of its forms. -/
  | push {data : Bytes} {part : Script} (h : Script.IsPush data part) : Spells (.push data) part
  /-- Any other operation is one byte, behind those of the pushes. -/
  | op {code : UInt8} (h : 0x4e < code) : Spells (.op code) [code]

/-- A byte up to the longest direct length starts a direct push. -/
theorem split?_direct {code : UInt8} (h : code.toNat ≤ 0x4b) (bs : Bytes) :
    split? code bs
      = (Bytes.takeExact? code.toNat bs).map fun (data, rest) => (.push data, rest) := by
  rw [split?, if_pos h]
  cases Bytes.takeExact? code.toNat bs <;> rfl

/-- The operation byte of a length field is followed by that field. -/
theorem split?_sized {code : UInt8} {width : Nat} (h : (code, width) ∈ Script.lengthFields)
    (bs : Bytes) : split? code bs = splitSized? width bs := by
  simp only [Script.lengthFields, List.mem_cons, Prod.mk.injEq, List.not_mem_nil, or_false] at h
  rcases h with ⟨rfl, rfl⟩ | ⟨rfl, rfl⟩ | ⟨rfl, rfl⟩ <;> rfl

/-- An operation byte that pushes no data stands by itself. -/
theorem split?_op {code : UInt8} (h : 0x4e < code) (bs : Bytes) :
    split? code bs = some (.op code, bs) := by
  have hcode : 0x4e < code.toNat := UInt8.lt_iff_toNat_lt.1 h
  have hne {c : UInt8} (hc : c.toNat ≤ 0x4e) : code ≠ c := by
    rintro rfl
    exact absurd hcode (Nat.not_lt.2 hc)
  rw [split?, if_neg (by omega), if_neg (hne (by decide)), if_neg (hne (by decide)),
    if_neg (hne (by decide))]

/-- The first byte of an instruction is a **direct length**, has a **length field**, or is an
**operation** by itself. -/
theorem direct_or_sized_or_op (code : UInt8) :
    code.toNat ≤ 0x4b ∨ (∃ width, (code, width) ∈ Script.lengthFields) ∨ 0x4e < code := by
  have hfields : ∀ code : UInt8, code = 0x4c ∨ code = 0x4d ∨ code = 0x4e →
      ∃ width, (code, width) ∈ Script.lengthFields := by
    rintro code (rfl | rfl | rfl)
    · exact ⟨1, by decide⟩
    · exact ⟨2, by decide⟩
    · exact ⟨4, by decide⟩
  by_cases hdirect : code.toNat ≤ 0x4b
  · exact Or.inl hdirect
  by_cases hop : 0x4e < code
  · exact Or.inr (Or.inr hop)
  -- Three bytes are left between the direct lengths and the operations.
  · refine Or.inr (Or.inl (hfields code ?_))
    rw [UInt8.lt_iff_toNat_lt] at hop
    simp only [← UInt8.toNat_inj, UInt8.reduceToNat] at hop ⊢
    omega

/-- Splitting a sized push splits off its length field and its data. -/
theorem splitSized?_eq_some {width : Nat} {bs rest : Bytes} {item : Instruction} :
    splitSized? width bs = some (item, rest) ↔
      ∃ data, item = .push data ∧ data.length < 256 ^ width ∧
        bs = Bytes.ofNatLE width data.length ++ data ++ rest := by
  simp only [splitSized?, Option.bind_eq_bind, Option.bind_eq_some_iff]
  constructor
  · rintro ⟨⟨field, middle⟩, hfield, ⟨data, last⟩, hdata, h⟩
    obtain ⟨rfl, rfl⟩ := Bytes.takeExact?_eq_some.1 hfield
    obtain ⟨rfl, hlength⟩ := Bytes.takeExact?_eq_some.1 hdata
    cases h
    refine ⟨data, rfl, ?_, ?_⟩
    · rw [hlength, ← Bytes.span_eq_pow]
      exact Bytes.toNatLE_lt field
    · rw [hlength, Bytes.ofNatLE_toNatLE, List.append_assoc]
  · rintro ⟨data, rfl, hlength, rfl⟩
    rw [← Bytes.span_eq_pow] at hlength
    refine ⟨(Bytes.ofNatLE width data.length, data ++ rest), ?_, (data, rest), ?_, rfl⟩
    · exact Bytes.takeExact?_eq_some.2 ⟨List.append_assoc _ _ _, Bytes.length_ofNatLE _ _⟩
    · exact Bytes.takeExact?_eq_some.2 ⟨rfl, (Bytes.toNatLE_ofNatLE hlength).symm⟩

/-- What is split off is a **spelling** of the instruction. -/
theorem exists_spells_of_split? {code : UInt8} {bs rest : Bytes} {item : Instruction}
    (h : split? code bs = some (item, rest)) :
    ∃ part, code :: bs = part ++ rest ∧ item.Spells part := by
  rcases direct_or_sized_or_op code with hcode | ⟨width, hcode⟩ | hcode
  · rw [split?_direct hcode, Option.map_eq_some_iff] at h
    obtain ⟨⟨data, last⟩, hdata, h⟩ := h
    cases h
    obtain ⟨rfl, hlength⟩ := Bytes.takeExact?_eq_some.1 hdata
    -- The byte that was read is the length of what was split off.
    have hpush : Script.IsPush data (UInt8.ofNat data.length :: data) :=
      .direct (hlength ▸ hcode)
    rw [hlength, UInt8.ofNat_toNat] at hpush
    exact ⟨code :: data, rfl, .push hpush⟩
  · rw [split?_sized hcode, splitSized?_eq_some] at h
    obtain ⟨data, rfl, hlength, rfl⟩ := h
    exact ⟨_, rfl, .push (.sized hcode hlength)⟩
  · rw [split?_op hcode] at h
    cases h
    exact ⟨[code], rfl, .op hcode⟩

/-- A spelling of an instruction is **split off**, whatever stands behind it. -/
theorem Spells.exists_split? {item : Instruction} {part : Script} (h : item.Spells part)
    (rest : Bytes) :
    ∃ code bs, part = code :: bs ∧ split? code (bs ++ rest) = some (item, rest) := by
  cases h with
  | op h => exact ⟨_, [], rfl, split?_op h rest⟩
  | @push data part h =>
    cases h with
    | direct h =>
      have hcode : (UInt8.ofNat data.length).toNat = data.length :=
        UInt8.toNat_ofNat_of_lt' (Nat.lt_of_le_of_lt h (by decide))
      refine ⟨_, data, rfl, ?_⟩
      rw [split?_direct (hcode.symm ▸ h), hcode, Bytes.takeExact?_append]
      rfl
    | sized hcode h =>
      refine ⟨_, _, rfl, ?_⟩
      rw [split?_sized hcode, splitSized?_eq_some]
      exact ⟨data, rfl, h, rfl⟩

/-- Nothing is split off a push that is **cut short**. -/
theorem split?_eq_none_of_isCutPush {code : UInt8} {bs : Bytes}
    (h : Script.IsCutPush (code :: bs)) : split? code bs = none := by
  cases h with
  | direct hcode h => rw [split?_direct hcode, Bytes.takeExact?_eq_none h, Option.map_none]
  | field hcode h =>
    rw [split?_sized hcode, splitSized?, Bytes.takeExact?_eq_none h]
    rfl
  | sized hcode hfield h =>
    rename_i width field rest
    subst hfield
    -- The field is complete; it is the data behind it that is too short.
    rw [split?_sized hcode, splitSized?, Bytes.takeExact?_append, Option.bind_eq_bind,
      Option.bind_some]
    dsimp only
    rw [Bytes.takeExact?_eq_none h]
    rfl

/-! ## Sequences -/

/-- A script is a **sequence of instructions** when it joins spellings of them. -/
inductive Reads : Script → List Instruction → Prop
  /-- The empty script holds no instruction. -/
  | nil : Reads [] []
  /-- One instruction may stand in front. -/
  | cons {item : Instruction} {part rest : Script} {items : List Instruction}
    (hitem : item.Spells part) (hrest : Reads rest items) : Reads (part ++ rest) (item :: items)

namespace Reads

variable {script script' : Script} {items items' : List Instruction} {item : Instruction}

/-- An operation may stand in front. -/
theorem op {code : UInt8} (hcode : 0x4e < code) (h : Reads script items) :
    Reads (code :: script) (.op code :: items) :=
  cons (.op hcode) h

/-- Sequences are joined as their scripts are. -/
theorem append (h : Reads script items) (h' : Reads script' items') :
    Reads (script ++ script') (items ++ items') := by
  induction h with
  | nil => exact h'
  | cons hitem _ ih =>
    rw [List.append_assoc]
    exact cons hitem ih

/-- A sequence is its first instruction and the others. -/
theorem cons_iff :
    Reads script (item :: items) ↔
      ∃ part rest, script = part ++ rest ∧ item.Spells part ∧ Reads rest items := by
  constructor
  · rintro (_ | ⟨hitem, hrest⟩)
    exact ⟨_, _, rfl, hitem, hrest⟩
  · rintro ⟨part, rest, rfl, hitem, hrest⟩
    exact cons hitem hrest

/-- Operations stand for themselves. -/
theorem op_cons_iff {code : UInt8} :
    Reads script (.op code :: items) ↔
      ∃ rest, script = code :: rest ∧ 0x4e < code ∧ Reads rest items := by
  rw [cons_iff]
  constructor
  · rintro ⟨part, rest, rfl, hitem, hrest⟩
    cases hitem with
    | op h => exact ⟨rest, rfl, h, hrest⟩
  · rintro ⟨rest, rfl, h, hrest⟩
    exact ⟨[code], rest, rfl, Spells.op h, hrest⟩

/-- A sequence is cut where its instructions are. -/
theorem append_iff :
    Reads script (items ++ items') ↔
      ∃ front back, script = front ++ back ∧ Reads front items ∧ Reads back items' := by
  constructor
  · intro h
    induction items generalizing script with
    | nil => exact ⟨[], script, rfl, nil, h⟩
    | cons item items ih =>
      obtain ⟨part, rest, rfl, hitem, hrest⟩ := cons_iff.1 h
      obtain ⟨front, back, rfl, hfront, hback⟩ := ih hrest
      exact ⟨part ++ front, back, (List.append_assoc _ _ _).symm, cons hitem hfront, hback⟩
  · rintro ⟨front, back, rfl, hfront, hback⟩
    exact hfront.append hback

end Reads

/-- A script is read one instruction at a time. -/
theorem ofScript?_cons (code : UInt8) (bs : Bytes) :
    ofScript? (code :: bs)
      = (split? code bs).bind fun (item, rest) => (ofScript? rest).map (item :: ·) := by
  rw [ofScript?]
  split
  · next h => rw [h, Option.bind_none]
  · next item rest h => rw [h, Option.bind_some]

/-- A spelling in front is read as its instruction. -/
theorem Spells.ofScript?_append {item : Instruction} {part : Script} (h : item.Spells part)
    (rest : Script) : ofScript? (part ++ rest) = (ofScript? rest).map (item :: ·) := by
  obtain ⟨code, bs, rfl, hsplit⟩ := h.exists_split? rest
  rw [List.cons_append, ofScript?_cons, hsplit, Option.bind_some]

/-- A sequence in front is read as its instructions. -/
theorem Reads.ofScript?_append {front : Script} {items : List Instruction} (h : Reads front items)
    (rest : Script) : ofScript? (front ++ rest) = (ofScript? rest).map (items ++ ·) := by
  induction h with
  | nil => exact Option.map_id'.symm
  | cons hitem _ ih =>
    rw [List.append_assoc, hitem.ofScript?_append, ih, Option.map_map]
    rfl

/-- **The reader takes exactly the sequences of instructions**, and gives their instructions. -/
@[simp] theorem ofScript?_eq_some_iff {script : Script} {items : List Instruction} :
    ofScript? script = some items ↔ Reads script items := by
  constructor
  · intro h
    -- The reader goes on with what it leaves behind the first instruction.
    induction script using ofScript?.induct generalizing items with
    | case1 =>
      rw [ofScript?] at h
      cases h
      exact .nil
    | case2 code bs hsplit =>
      rw [ofScript?_cons, hsplit] at h
      cases h
    | case3 code bs item rest hsplit ih =>
      rw [ofScript?_cons, hsplit, Option.bind_some, Option.map_eq_some_iff] at h
      obtain ⟨items, hitems, rfl⟩ := h
      obtain ⟨part, hpart, hspells⟩ := exists_spells_of_split? hsplit
      rw [hpart]
      exact .cons hspells (ih hitems)
  · intro h
    have hread := h.ofScript?_append []
    rwa [List.append_nil, ofScript?, Option.map_some, List.append_nil] at hread

/-- A script **breaks off** inside a push that stands behind complete instructions. -/
def BreaksOff (script : Script) : Prop :=
  ∃ front items tail, script = front ++ tail ∧ Reads front items ∧ Script.IsCutPush tail

/-- A script that breaks off is not read. -/
theorem ofScript?_eq_none_of_breaksOff {script : Script} (h : BreaksOff script) :
    ofScript? script = none := by
  obtain ⟨front, items, tail, rfl, hfront, htail⟩ := h
  cases tail with
  | nil => cases htail
  | cons code bs =>
    rw [hfront.ofScript?_append, ofScript?_cons, split?_eq_none_of_isCutPush htail,
      Option.bind_none, Option.map_none]

end Instruction

end OmniLayer
