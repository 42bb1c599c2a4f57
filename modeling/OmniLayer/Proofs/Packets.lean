import OmniLayer.Bytes
import OmniLayer.Chunks
import OmniLayer.Keystream
import Mathlib.Algebra.Order.Floor.Div
import Mathlib.Algebra.Order.Ring.Nat

/-! # Cutting, filling and masking

What the packets do to a payload and take back. A payload is cut into pieces of one size
(`length_chunks`), the last of which is filled up with zeros (`flatten_map_padTo_chunks`). A
payload that is filled up itself is cut at the same places (`chunks_padToMultiple`). Each piece is
masked with a digest, which a second time undoes (`maskWith?_maskWith?`). -/

namespace OmniLayer

/-! ## Cutting -/

section Cutting

universe u

variable {α : Type u}

/-- The first chunk of a list is its front, the others are those of the rest. -/
theorem chunks_eq_cons {size : Nat} (hs : 0 < size) {xs : List α} (h : xs ≠ []) :
    chunks size xs = xs.take size :: chunks size (xs.drop size) := by
  obtain ⟨n, rfl⟩ : ∃ n, size = n + 1 := ⟨size - 1, by omega⟩
  cases xs with
  | nil => exact absurd rfl h
  | cons x rest => rw [chunks, Nat.add_sub_cancel, List.take_succ_cons, List.drop_succ_cons]

/-- As many chunks as hold a list are **enough** for it. -/
theorem length_chunks_le {size count : Nat} (hs : 0 < size) {xs : List α}
    (h : xs.length ≤ count * size) : (chunks size xs).length ≤ count := by
  induction count generalizing xs with
  | zero =>
    rw [Nat.zero_mul, Nat.le_zero, List.length_eq_zero_iff] at h
    rw [h, chunks_nil, List.length_nil]
  | succ count ih =>
    by_cases hxs : xs = []
    · rw [hxs, chunks_nil]
      exact Nat.zero_le _
    · rw [chunks_eq_cons hs hxs, List.length_cons]
      refine Nat.succ_le_succ (ih ?_)
      rw [List.length_drop]
      rw [Nat.add_mul, Nat.one_mul] at h
      omega

/-- The chunks of a list that is not empty are not none. -/
theorem chunks_ne_nil (size : Nat) {xs : List α} (h : xs ≠ []) : chunks size xs ≠ [] := by
  intro hnil
  apply h
  rw [← flatten_chunks size xs, hnil, List.flatten_nil]

/-- A list is cut into **as many chunks as it fills**, the last of them perhaps in part. -/
theorem length_chunks {size : Nat} (hs : 0 < size) (xs : List α) :
    (chunks size xs).length = xs.length ⌈/⌉ size := by
  induction xs using chunks.induct size with
  | case1 => simp
  | case2 x rest ih =>
    rw [chunks, List.length_cons, ih, List.length_drop, List.length_cons,
      Nat.ceilDiv_eq_add_pred_div, Nat.ceilDiv_eq_add_pred_div, ← Nat.add_div_right _ hs]
    by_cases hle : size - 1 ≤ rest.length
    · congr 1
      omega
    · -- The rest is shorter than a chunk, so it ends with this one.
      have hlt : rest.length - (size - 1) = 0 := by omega
      rw [Nat.div_eq_of_lt_le (k := 1) (by omega) (by omega),
        Nat.div_eq_of_lt_le (k := 1) (by omega) (by omega)]

/-- The chunk with a place starts behind **that many full ones**. -/
theorem getElem?_chunks {size : Nat} (hs : 0 < size) {xs : List α} {place : Nat}
    (h : place < (chunks size xs).length) :
    (chunks size xs)[place]? = some ((xs.drop (place * size)).take size) := by
  induction place generalizing xs with
  | zero =>
    have hxs : xs ≠ [] := by
      rintro rfl
      simp at h
    rw [chunks_eq_cons hs hxs, List.getElem?_cons_zero, Nat.zero_mul, List.drop_zero]
  | succ place ih =>
    have hxs : xs ≠ [] := by
      rintro rfl
      simp at h
    rw [chunks_eq_cons hs hxs, List.length_cons, Nat.add_lt_add_iff_right] at h
    rw [chunks_eq_cons hs hxs, List.getElem?_cons_succ, ih h, List.drop_drop, Nat.succ_mul,
      Nat.add_comm size]

/-- The chunks with their places, cut out **one by one**. -/
theorem zipIdx_chunks {size : Nat} (hs : 0 < size) (xs : List α) :
    (chunks size xs).zipIdx = (List.range (xs.length ⌈/⌉ size)).map
      fun place => ((xs.drop (place * size)).take size, place) := by
  refine List.ext_getElem? fun place => ?_
  rw [List.getElem?_zipIdx, List.getElem?_map, ← length_chunks hs]
  by_cases h : place < (chunks size xs).length
  · rw [getElem?_chunks hs h, List.getElem?_range h]
    simp
  · simp [h]

/-- All chunks but the last are **full**. -/
theorem length_take_drop_of_lt_chunks {size : Nat} (hs : 0 < size) {xs : List α} {place : Nat}
    (h : place + 1 < (chunks size xs).length) :
    ((xs.drop (place * size)).take size).length = size := by
  rw [length_chunks hs, ← not_le, ceilDiv_le_iff_le_mul hs, not_le, Nat.mul_succ] at h
  rw [List.length_take, List.length_drop, Nat.mul_comm place]
  omega

end Cutting

/-! ## Filling -/

namespace Bytes

/-- A filled byte string has the length, if it was not longer. -/
theorem length_padTo {n : Nat} {bs : Bytes} (h : bs.length ≤ n) : (padTo n bs).length = n := by
  rw [padTo, List.length_append, List.length_replicate]
  omega

/-- A byte string of the length is left alone. -/
theorem padTo_of_length_eq {n : Nat} {bs : Bytes} (h : bs.length = n) : padTo n bs = bs := by
  rw [padTo, h, Nat.sub_self, List.replicate_zero, List.append_nil]

/-- Filling up a second time changes nothing. -/
@[simp] theorem padTo_padTo (n : Nat) (bs : Bytes) : padTo n (padTo n bs) = padTo n bs := by
  by_cases h : bs.length ≤ n
  · exact padTo_of_length_eq (length_padTo h)
  · rw [padTo, padTo, Nat.sub_eq_zero_of_le (Nat.le_of_not_le h), List.replicate_zero,
      List.append_nil, Nat.sub_eq_zero_of_le (Nat.le_of_not_le h), List.replicate_zero,
      List.append_nil]

/-- Behind its first byte, a filled byte string is filled up by one less. -/
@[simp] theorem padTo_cons (n : Nat) (b : UInt8) (bs : Bytes) :
    padTo (n + 1) (b :: bs) = b :: padTo n bs := by
  rw [padTo, padTo, List.length_cons, List.cons_append, Nat.add_sub_add_right]

/-- Fills a byte string with zeros up to the **next multiple** of a length. -/
def padToMultiple (unit : Nat) (bs : Bytes) : Bytes :=
  bs ++ List.replicate ((unit - bs.length % unit) % unit) 0

/-- A byte string of a multiple of the length is left alone. -/
theorem padToMultiple_of_dvd {unit : Nat} {bs : Bytes} (h : unit ∣ bs.length) :
    padToMultiple unit bs = bs := by
  rw [padToMultiple, Nat.mod_eq_zero_of_dvd h, Nat.sub_zero, Nat.mod_self, List.replicate_zero,
    List.append_nil]

/-- A byte string that is shorter than the length, and not empty, is filled up to the length. -/
theorem padToMultiple_of_lt {unit : Nat} {bs : Bytes} (hpos : 0 < bs.length)
    (h : bs.length < unit) : padToMultiple unit bs = padTo unit bs := by
  rw [padToMultiple, padTo, Nat.mod_eq_of_lt h, Nat.mod_eq_of_lt (Nat.sub_lt_self hpos h.le)]

/-- A front of the length plays no part in how far the rest is filled up. -/
theorem padToMultiple_append {unit : Nat} {front : Bytes} (h : front.length = unit)
    (rest : Bytes) : padToMultiple unit (front ++ rest) = front ++ padToMultiple unit rest := by
  rw [padToMultiple, padToMultiple, List.length_append, h, Nat.add_mod_left, List.append_assoc]

/-- A byte string that is filled up is **cut at the same places**, into the pieces filled up. -/
theorem chunks_padToMultiple {size : Nat} (hs : 0 < size) (bs : Bytes) :
    chunks size (padToMultiple size bs) = (chunks size bs).map (padTo size) := by
  -- Strong induction on the length: each piece but the last is full.
  induction hn : bs.length using Nat.strong_induction_on generalizing bs with
  | _ n ih =>
    by_cases hbs : bs = []
    · rw [hbs, padToMultiple_of_dvd (Dvd.intro 0 rfl), chunks_nil]
      rfl
    have hpos : 0 < bs.length := List.length_pos_iff.2 hbs
    by_cases hlt : bs.length < size
    · -- The only piece is as long as a piece can be once it is filled up.
      have hlength : (padTo size bs).length = size := length_padTo hlt.le
      have hne : padTo size bs ≠ [] := by
        rw [← List.length_pos_iff, hlength]
        exact hs
      rw [padToMultiple_of_lt hpos hlt, chunks_eq_cons hs hne, chunks_eq_cons hs hbs,
        List.take_of_length_le hlength.le, List.drop_of_length_le hlength.le,
        List.take_of_length_le hlt.le, List.drop_of_length_le hlt.le, chunks_nil]
      rfl
    · have htake : (bs.take size).length = size := List.length_take_of_le (Nat.le_of_not_lt hlt)
      have hsplit : padToMultiple size bs = bs.take size ++ padToMultiple size (bs.drop size) := by
        rw [← padToMultiple_append htake, List.take_append_drop]
      have hne : padToMultiple size bs ≠ [] := by
        rw [hsplit]
        refine List.append_ne_nil_of_left_ne_nil ?_ _
        rw [← List.length_pos_iff, htake]
        exact hs
      rw [chunks_eq_cons hs hne, chunks_eq_cons hs hbs, hsplit, List.take_left' htake,
        List.drop_left' htake, List.map_cons, padTo_of_length_eq htake,
        ih (bs.drop size).length (by rw [List.length_drop]; omega) _ rfl]

/-- Pieces of one size, each **filled up**, join to the whole, filled up to a multiple of the
size. -/
theorem flatten_map_padTo_chunks {size : Nat} (hs : 0 < size) (bs : Bytes) :
    ((chunks size bs).map (padTo size)).flatten = padToMultiple size bs := by
  rw [← chunks_padToMultiple hs, flatten_chunks]

/-- A filled byte string has a multiple of the length, and is longer by less than the length. -/
theorem length_padToMultiple {unit : Nat} (hu : 0 < unit) (bs : Bytes) :
    unit ∣ (padToMultiple unit bs).length ∧ (padToMultiple unit bs).length < bs.length + unit := by
  constructor
  · have hsize : ∀ l ∈ ((chunks unit bs).map (padTo unit)).map List.length, l = unit := by
      intro l hl
      rw [List.map_map] at hl
      obtain ⟨piece, hpiece, rfl⟩ := List.mem_map.1 hl
      exact length_padTo (length_le_of_mem_chunks hu hpiece)
    rw [← flatten_map_padTo_chunks hu, List.length_flatten, List.eq_replicate_of_mem hsize,
      List.sum_replicate_nat]
    exact Dvd.intro_left _ rfl
  · rw [padToMultiple, List.length_append, List.length_replicate]
    exact Nat.add_lt_add_left (Nat.mod_lt _ hu) _

/-- A byte string within a multiple of the length stays within it when it is filled up. -/
theorem length_padToMultiple_le {unit count : Nat} (hu : 0 < unit) {bs : Bytes}
    (h : bs.length ≤ count * unit) : (padToMultiple unit bs).length ≤ count * unit := by
  obtain ⟨⟨factor, hfactor⟩, hlt⟩ := length_padToMultiple hu bs
  have hless : unit * factor < unit * (count + 1) := by
    rw [← hfactor, Nat.mul_succ, Nat.mul_comm unit count]
    omega
  rw [hfactor, Nat.mul_comm]
  exact Nat.mul_le_mul_right unit (Nat.le_of_lt_succ (Nat.lt_of_mul_lt_mul_left hless))

end Bytes

/-! ## Masking -/

namespace Keystream

/-- Masking keeps the length. -/
@[simp] theorem length_mask (data digest : Bytes) : (mask data digest).length = data.length := by
  induction data generalizing digest with
  | nil => rfl
  | cons b data ih =>
    cases digest with
    | nil => rfl
    | cons k digest => rw [mask, List.length_cons, List.length_cons, ih]

/-- **Masking twice** with one digest changes nothing. -/
@[simp] theorem mask_mask (data digest : Bytes) : mask (mask data digest) digest = data := by
  induction data generalizing digest with
  | nil => rfl
  | cons b data ih =>
    cases digest with
    | nil => rfl
    | cons k digest => rw [mask, mask, ih, UInt8.xor_assoc, UInt8.xor_self, UInt8.xor_zero]

/-- Masking keeps the length, with or without a digest. -/
@[simp] theorem length_maskWith? (digest : Option (FixedBytes 32)) (data : Bytes) :
    (maskWith? digest data).length = data.length := by
  cases digest with
  | none => rfl
  | some digest => exact length_mask data digest.bytes

/-- Masking twice changes nothing, with or without a digest. -/
@[simp] theorem maskWith?_maskWith? (digest : Option (FixedBytes 32)) (data : Bytes) :
    maskWith? digest (maskWith? digest data) = data := by
  cases digest with
  | none => rfl
  | some digest => exact mask_mask data digest.bytes

end Keystream

end OmniLayer
