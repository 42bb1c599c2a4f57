import Mathlib.Data.List.Basic
import Mathlib.Data.List.Induction
import OmniLayer.Message.SimpleSend

/-! # The wire form of simple sends

A simple send is sixteen bytes (`SimpleSend.toPayload`), and a payload reads as a simple send
exactly when it starts with these (`SimpleSend.ofPayload?_eq_some_iff`). So a payload that is too
short reads as none, and whatever stands behind the sixteen bytes changes nothing
(`SimpleSend.ofPayload?_append`). -/

namespace OmniLayer

namespace Bytes

/-- Read high byte first, bytes spell what they spell **low byte first in reverse**. -/
@[simp] theorem toNatBE_reverse (bs : Bytes) : toNatBE bs.reverse = toNatLE bs := by
  induction bs with
  | nil => rfl
  | cons b rest ih =>
    have hlast : toNatBE (rest.reverse ++ [b]) = toNatBE rest.reverse * 256 + b.toNat := by
      rw [toNatBE, List.foldl_append]
      rfl
    rw [List.reverse_cons, hlast, ih, toNatLE]
    omega

/-- Bytes spell one of as many numbers as their count allows. -/
theorem toNatBE_lt (bs : Bytes) : toNatBE bs < span bs.length := by
  rw [← List.reverse_reverse bs, toNatBE_reverse, List.length_reverse]
  exact toNatLE_lt bs.reverse

/-- What was written in enough bytes is read back. -/
theorem toNatBE_ofNatBE {width value : Nat} (h : value < span width) :
    toNatBE (ofNatBE width value) = value := by
  rw [ofNatBE, toNatBE_reverse, toNatLE_ofNatLE h]

/-- Byte strings of one length that spell **one number** are the same. -/
theorem eq_of_toNatBE_eq {as bs : Bytes} (hlength : as.length = bs.length)
    (h : toNatBE as = toNatBE bs) : as = bs := by
  -- The number is built up from the front, so the last byte is the first to be taken off.
  induction as using List.reverseRecOn generalizing bs with
  | nil => exact (List.length_eq_zero_iff.1 hlength.symm).symm
  | append_singleton front last ih =>
    obtain rfl | ⟨front', last', rfl⟩ := List.eq_nil_or_concat' bs
    · simp at hlength
    · have hnumber : toNatBE front * 256 + last.toNat = toNatBE front' * 256 + last'.toNat := by
        simpa only [toNatBE, List.foldl_append, List.foldl_cons, List.foldl_nil] using h
      have hlast := last.toNat_lt
      have hlast' := last'.toNat_lt
      have hfront : front = front' := ih (by simpa using hlength) (by omega)
      have heq : last = last' := UInt8.toNat_inj.1 (by omega)
      rw [hfront, heq]

/-- Bytes are **written back** from the number that they spell. -/
theorem ofNatBE_toNatBE {width : Nat} {bs : Bytes} (h : bs.length = width) :
    ofNatBE width (toNatBE bs) = bs := by
  subst h
  exact eq_of_toNatBE_eq (length_ofNatBE _ _) (toNatBE_ofNatBE (toNatBE_lt bs))

end Bytes

/-- A property is found by its number alone. -/
@[simp] theorem Property.ofId?_eq_some_iff {id : Nat} {property : Property} :
    ofId? id = some property ↔ id = property.id := by
  unfold ofId?
  by_cases hone : id = 1
  · rw [if_pos hone]
    cases property <;> simp [Property.id, hone]
  · rw [if_neg hone]
    by_cases htwo : id = 2
    · rw [if_pos htwo]
      cases property <;> simp [Property.id, htwo]
    · rw [if_neg htwo]
      cases property <;> simp [Property.id, hone, htwo]

namespace SimpleSend

variable {payload : Bytes} {send : SimpleSend}

/-- The **bytes** of a simple send. -/
def toPayload (send : SimpleSend) : Bytes :=
  [0, 0, 0, 0] ++ (Bytes.ofNatBE 4 send.property.id ++ Bytes.ofNatBE 8 send.amount.toNat)

/-- A simple send has **sixteen bytes**. -/
@[simp] theorem length_toPayload (send : SimpleSend) : send.toPayload.length = 16 := by
  simp [toPayload]

/-- A payload reads as a simple send when it has the **parts** of one. -/
theorem ofPayload?_eq_some_iff_parts :
    ofPayload? payload = some send ↔
      ∃ id amount rest, payload = [0, 0, 0, 0] ++ (id ++ (amount ++ rest)) ∧ id.length = 4 ∧
        amount.length = 8 ∧ Property.ofId? (Bytes.toNatBE id) = some send.property ∧
        UInt64.ofNat (Bytes.toNatBE amount) = send.amount := by
  constructor
  · intro h
    rw [ofPayload?, Option.bind_eq_bind, Option.bind_eq_some_iff] at h
    obtain ⟨⟨header, tail⟩, hheader, h⟩ := h
    dsimp only at h
    by_cases hzero : header = [0, 0, 0, 0]
    · rw [if_neg (not_not.2 hzero), Option.bind_eq_bind, Option.bind_eq_some_iff] at h
      obtain ⟨⟨id, tail⟩, hid, h⟩ := h
      obtain ⟨property, hproperty, h⟩ := Option.bind_eq_some_iff.1 h
      obtain ⟨⟨amount, rest⟩, hamount, hsend⟩ := Option.bind_eq_some_iff.1 h
      obtain ⟨rfl, -⟩ := Bytes.takeExact?_eq_some.1 hheader
      obtain ⟨rfl, hidLength⟩ := Bytes.takeExact?_eq_some.1 hid
      obtain ⟨rfl, hamountLength⟩ := Bytes.takeExact?_eq_some.1 hamount
      obtain rfl := Option.some.inj hsend
      exact ⟨id, amount, rest, by rw [hzero], hidLength, hamountLength, hproperty, rfl⟩
    · rw [if_pos hzero] at h
      cases h
  · rintro ⟨id, amount, rest, rfl, hid, hamount, hproperty, hvalue⟩
    have hheader : Bytes.takeExact? 4 ([0, 0, 0, 0] ++ (id ++ (amount ++ rest)))
        = some ([0, 0, 0, 0], id ++ (amount ++ rest)) :=
      Bytes.takeExact?_eq_some.2 ⟨rfl, rfl⟩
    have hnumber : Bytes.takeExact? 4 (id ++ (amount ++ rest)) = some (id, amount ++ rest) :=
      Bytes.takeExact?_eq_some.2 ⟨rfl, hid⟩
    have hvalue' : Bytes.takeExact? 8 (amount ++ rest) = some (amount, rest) :=
      Bytes.takeExact?_eq_some.2 ⟨rfl, hamount⟩
    simp only [ofPayload?, hheader, Option.bind_eq_bind, Option.bind_some, ne_eq,
      not_true_eq_false, if_false, hnumber, hproperty, hvalue', hvalue]
    rfl

/-- A payload reads as a simple send exactly when it **starts with the bytes** of that. -/
theorem ofPayload?_eq_some_iff : ofPayload? payload = some send ↔ send.toPayload <+: payload := by
  rw [ofPayload?_eq_some_iff_parts]
  constructor
  · rintro ⟨id, amount, rest, rfl, hid, hamount, hproperty, hvalue⟩
    have hidBytes : Bytes.ofNatBE 4 send.property.id = id := by
      rw [← Property.ofId?_eq_some_iff.1 hproperty, Bytes.ofNatBE_toNatBE hid]
    have hamountBytes : Bytes.ofNatBE 8 send.amount.toNat = amount := by
      have hlt := Bytes.toNatBE_lt amount
      rw [hamount] at hlt
      rw [← hvalue, UInt64.toNat_ofNat_of_lt' hlt, Bytes.ofNatBE_toNatBE hamount]
    rw [toPayload, hidBytes, hamountBytes]
    exact ⟨rest, by simp only [List.append_assoc]⟩
  · rintro ⟨rest, rfl⟩
    have hid : Bytes.toNatBE (Bytes.ofNatBE 4 send.property.id) = send.property.id :=
      Bytes.toNatBE_ofNatBE (by cases send.property <;> decide)
    have hamount : Bytes.toNatBE (Bytes.ofNatBE 8 send.amount.toNat) = send.amount.toNat :=
      Bytes.toNatBE_ofNatBE send.amount.toNat_lt
    refine ⟨Bytes.ofNatBE 4 send.property.id, Bytes.ofNatBE 8 send.amount.toNat, rest, ?_,
      Bytes.length_ofNatBE _ _, Bytes.length_ofNatBE _ _, Property.ofId?_eq_some_iff.2 hid,
      by rw [hamount, UInt64.ofNat_toNat]⟩
    rw [toPayload, List.append_assoc, List.append_assoc]

/-- A simple send is read off the front of a payload, **whatever stands behind** it. -/
theorem ofPayload?_append (h : ofPayload? payload ≠ none) (more : Bytes) :
    ofPayload? (payload ++ more) = ofPayload? payload := by
  obtain ⟨send, hsend⟩ := Option.ne_none_iff_exists'.1 h
  rw [hsend, ofPayload?_eq_some_iff]
  exact (ofPayload?_eq_some_iff.1 hsend).trans (List.prefix_append payload more)

/-- A payload that is cut short is no simple send, though zeros behind it would make one. -/
example : ofPayload? [0, 0, 0, 0, 0, 0, 0, 1] = none ∧
    ofPayload? ([0, 0, 0, 0, 0, 0, 0, 1] ++ List.replicate 8 0) = some ⟨.msc, 0⟩ := by
  decide

end SimpleSend

end OmniLayer
