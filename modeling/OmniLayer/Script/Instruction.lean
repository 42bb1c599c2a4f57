import OmniLayer.Bytes

/-! # Script instructions

A script is a sequence of instructions, each a push of data or a single operation byte. This module
reads a script into its instructions and writes pushes in their shortest form. Reading fails only
on a push that runs past the end. -/

namespace OmniLayer

/-- A **script** as it stands in an output. -/
abbrev Script := Bytes

/-- One **instruction** of a script. -/
inductive Instruction
  /-- Push data on the stack; the byte 0 pushes the empty string. -/
  | push (data : Bytes)
  /-- Any other operation. -/
  | op (code : UInt8)
  deriving DecidableEq, Repr

namespace Instruction

/-- Splits a push with a length field of `width` bytes off the bytes after its operation byte. -/
def splitSized? (width : Nat) (bs : Bytes) : Option (Instruction × Bytes) := do
  let (field, rest) ← Bytes.takeExact? width bs
  let (data, rest) ← Bytes.takeExact? (Bytes.toNatLE field) rest
  return (.push data, rest)

/-- Splits the first instruction off a script that starts with the byte `code`. -/
def split? (code : UInt8) (rest : Bytes) : Option (Instruction × Bytes) :=
  if code.toNat ≤ 0x4b then do
    let (data, rest) ← Bytes.takeExact? code.toNat rest
    return (.push data, rest)
  else if code = 0x4c then splitSized? 1 rest
  else if code = 0x4d then splitSized? 2 rest
  else if code = 0x4e then splitSized? 4 rest
  else some (.op code, rest)

/-- Splitting with an exact length never leaves more than there was. -/
theorem length_le_of_takeExact? {n : Nat} {bs front rest : Bytes}
    (h : Bytes.takeExact? n bs = some (front, rest)) : rest.length ≤ bs.length := by
  obtain ⟨rfl, -⟩ := Bytes.takeExact?_eq_some.1 h
  simp

/-- A sized push leaves no more bytes than there were. -/
theorem length_le_of_splitSized? {width : Nat} {bs rest : Bytes} {item : Instruction}
    (h : splitSized? width bs = some (item, rest)) : rest.length ≤ bs.length := by
  simp only [splitSized?, Option.bind_eq_bind, Option.bind_eq_some_iff] at h
  obtain ⟨⟨field, middle⟩, h1, ⟨data, last⟩, h2, h3⟩ := h
  have e1 := length_le_of_takeExact? h1
  have e2 := length_le_of_takeExact? h2
  cases h3
  exact Nat.le_trans e2 e1

/-- An instruction leaves no more bytes than stood behind its first. -/
theorem length_le_of_split? {code : UInt8} {bs rest : Bytes} {item : Instruction}
    (h : split? code bs = some (item, rest)) : rest.length ≤ bs.length := by
  unfold split? at h
  split at h
  · simp only [Option.bind_eq_bind, Option.bind_eq_some_iff] at h
    obtain ⟨⟨data, last⟩, h1, h2⟩ := h
    have e := length_le_of_takeExact? h1
    cases h2
    exact e
  · split at h
    · exact length_le_of_splitSized? h
    · split at h
      · exact length_le_of_splitSized? h
      · split at h
        · exact length_le_of_splitSized? h
        · cases h
          exact Nat.le_refl _

/-- The **instructions** of a script, unless its last push is cut short. -/
def ofScript? : Script → Option (List Instruction)
  | [] => some []
  | code :: bs =>
    match _h : split? code bs with
    | none => none
    | some (item, rest) => (ofScript? rest).map (item :: ·)
termination_by script => script.length
decreasing_by exact Nat.lt_succ_of_le (length_le_of_split? _h)

end Instruction

namespace Script

/-- The most bytes that one push can hold. -/
def maxPush : Nat := 0xffffffff

/-- The operation bytes and length field in front of pushed data: the shortest form that holds its
length. -/
def pushHeader (length : Nat) : Bytes :=
  if length ≤ 0x4b then [UInt8.ofNat length]
  else if length < 0x100 then 0x4c :: Bytes.ofNatLE 1 length
  else if length < 0x10000 then 0x4d :: Bytes.ofNatLE 2 length
  else 0x4e :: Bytes.ofNatLE 4 length

/-- The script that **pushes** data. -/
def push (data : Bytes) : Script := pushHeader data.length ++ data

end Script

end OmniLayer
