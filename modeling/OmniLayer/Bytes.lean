/-! # Byte strings

Byte strings of free and of fixed length, and the two ways of writing a number in a fixed count of
bytes. The numbers are naturals; a width too small for a number keeps its low bytes. -/

namespace OmniLayer

/-- A **byte string**. -/
abbrev Bytes := List UInt8

/-- A byte string of a **fixed length**. -/
structure FixedBytes (n : Nat) where
  /-- The bytes themselves. -/
  bytes : Bytes
  /-- There are exactly `n` of them. -/
  length_eq : bytes.length = n
  deriving DecidableEq, Repr

namespace FixedBytes

/-- Two byte strings of one fixed length are equal when their bytes are. -/
@[ext] theorem ext {n : Nat} {a b : FixedBytes n} (h : a.bytes = b.bytes) : a = b := by
  cases a; cases b; cases h; rfl

/-- Reads a byte string as one of length `n`, if that is its length. -/
def ofBytes? (n : Nat) (bs : Bytes) : Option (FixedBytes n) :=
  if h : bs.length = n then some ⟨bs, h⟩ else none

/-- The bytes of a fixed-length string are read back as that string. -/
@[simp] theorem ofBytes?_bytes {n : Nat} (a : FixedBytes n) : ofBytes? n a.bytes = some a := by
  simp [ofBytes?, a.length_eq]

/-- Only strings of length `n` are read. -/
theorem ofBytes?_eq_some {n : Nat} {bs : Bytes} {a : FixedBytes n} :
    ofBytes? n bs = some a ↔ bs = a.bytes := by
  constructor
  · intro h
    unfold ofBytes? at h
    split at h
    · cases h; rfl
    · cases h
  · rintro rfl
    simp

/-- The string of `n` zero bytes. -/
def zero (n : Nat) : FixedBytes n := ⟨List.replicate n 0, List.length_replicate⟩

end FixedBytes

namespace Bytes

/-- Splits off the first `n` bytes, if there are that many. -/
def takeExact? (n : Nat) (bs : Bytes) : Option (Bytes × Bytes) :=
  if n ≤ bs.length then some (bs.take n, bs.drop n) else none

/-- A successful split loses nothing, and its first part has the length asked for. -/
theorem takeExact?_eq_some {n : Nat} {bs front rest : Bytes} :
    takeExact? n bs = some (front, rest) ↔ bs = front ++ rest ∧ front.length = n := by
  unfold takeExact?
  constructor
  · intro h
    split at h
    · cases h
      exact ⟨(List.take_append_drop n bs).symm, List.length_take_of_le ‹n ≤ bs.length›⟩
    · cases h
  · rintro ⟨rfl, rfl⟩
    simp

/-- Fills a byte string with zeros up to length `n`; a longer one is left alone. -/
def padTo (n : Nat) (bs : Bytes) : Bytes := bs ++ List.replicate (n - bs.length) 0

/-- A number in `width` bytes, **low byte first**. -/
def ofNatLE : (width value : Nat) → Bytes
  | 0, _ => []
  | width + 1, value => UInt8.ofNat value :: ofNatLE width (value / 256)

/-- The number that bytes spell, **low byte first**. -/
def toNatLE : Bytes → Nat
  | [] => 0
  | b :: rest => b.toNat + 256 * toNatLE rest

/-- A number in `width` bytes, **high byte first**. -/
def ofNatBE (width value : Nat) : Bytes := (ofNatLE width value).reverse

/-- The number that bytes spell, **high byte first**. -/
def toNatBE (bs : Bytes) : Nat := bs.foldl (fun value b => value * 256 + b.toNat) 0

/-- A number takes as many bytes as there are. -/
@[simp] theorem length_ofNatLE (width value : Nat) : (ofNatLE width value).length = width := by
  induction width generalizing value with
  | zero => rfl
  | succ width ih => simp [ofNatLE, ih]

/-- A number takes as many bytes as there are, in either order. -/
@[simp] theorem length_ofNatBE (width value : Nat) : (ofNatBE width value).length = width := by
  simp [ofNatBE]

/-- How many numbers `width` bytes spell. -/
def span : (width : Nat) → Nat
  | 0 => 1
  | width + 1 => 256 * span width

/-- What was written in enough bytes is read back. -/
theorem toNatLE_ofNatLE {width value : Nat} (h : value < span width) :
    toNatLE (ofNatLE width value) = value := by
  induction width generalizing value with
  | zero => simp [span] at h; simp [ofNatLE, toNatLE, h]
  | succ width ih =>
    have hq : value / 256 < span width := Nat.div_lt_of_lt_mul h
    simp only [ofNatLE, toNatLE, ih hq, UInt8.toNat_ofNat']
    omega

/-- Bytes read low byte first spell one of as many numbers as their count allows. -/
theorem toNatLE_lt (bs : Bytes) : toNatLE bs < span bs.length := by
  induction bs with
  | nil => simp [toNatLE, span]
  | cons b rest ih =>
    have hb := b.toNat_lt
    simp only [toNatLE, List.length_cons, span]
    omega

end Bytes

/-- The number of values of a 64-bit word. -/
def wordCount : Nat := UInt64.size

/-- The largest 64-bit word. -/
def wordMax : Nat := UInt64.size - 1

/-- The **sum** of two numbers as a 64-bit word, unless it passes the largest one. -/
def wordSum? (a b : Nat) : Option Nat := if a + b < wordCount then some (a + b) else none

/-- The **product** of two numbers as a 64-bit word, unless it passes the largest one. -/
def wordProduct? (a b : Nat) : Option Nat := if a * b < wordCount then some (a * b) else none

/-- A sum below the number of words is one. -/
@[simp] theorem wordSum?_of_lt {a b : Nat} (h : a + b < wordCount) : wordSum? a b = some (a + b) :=
  if_pos h

/-- A sum from the number of words on is none. -/
@[simp] theorem wordSum?_of_le {a b : Nat} (h : wordCount ≤ a + b) : wordSum? a b = none :=
  if_neg (Nat.not_lt.2 h)

/-- A product below the number of words is one. -/
@[simp] theorem wordProduct?_of_lt {a b : Nat} (h : a * b < wordCount) :
    wordProduct? a b = some (a * b) :=
  if_pos h

/-- A product from the number of words on is none. -/
@[simp] theorem wordProduct?_of_le {a b : Nat} (h : wordCount ≤ a * b) :
    wordProduct? a b = none :=
  if_neg (Nat.not_lt.2 h)

end OmniLayer
