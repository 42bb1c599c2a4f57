import OmniLayer.Text.Decimal

/-! # Which texts are numerals

A reader of natural numbers takes the **numerals** (`Decimal.IsNumeral`): one or more digits, with
any number of zeros in front and perhaps a plus sign before them. It takes each of them that is no
larger than its limit, and nothing else (`Decimal.nat?_eq_some_iff`); so the text of a word is read
as that word. -/

namespace OmniLayer.Decimal

/-- Whether characters are the **digits** of a number. -/
def AreDigits (cs : List Char) (n : Nat) : Prop :=
  cs ≠ [] ∧ (∀ c ∈ cs, c.isDigit = true) ∧ Nat.ofDigitChars 10 cs 0 = n

/-- Whether a text is a **numeral** of a number. -/
inductive IsNumeral (text : String) (n : Nat) : Prop
  /-- It is digits. -/
  | plain (h : AreDigits text.toList n)
  /-- It is digits behind a plus sign. -/
  | signed {cs : List Char} (h : AreDigits cs n) (htext : text.toList = '+' :: cs)

/-- A character has a value when it is a digit, and then it has that of the digit. -/
theorem digitValue?_eq_some_iff {c : Char} {d : Nat} :
    digitValue? c = some d ↔ c.isDigit = true ∧ c.toNat - '0'.toNat = d := by
  have hdigit : c.isDigit = true ↔ '0'.toNat ≤ c.toNat ∧ c.toNat ≤ '9'.toNat := by
    simp only [Char.isDigit, ge_iff_le, Bool.and_eq_true, decide_eq_true_eq]
    rfl
  rw [digitValue?, Option.ite_none_right_eq_some, hdigit, Option.some_inj]

/-- Digits are read on from a number as their **number behind it**. -/
theorem foldDigits?_eq_some_iff {value n : Nat} {cs : List Char} :
    foldDigits? value cs = some n ↔
      (∀ c ∈ cs, c.isDigit = true) ∧ Nat.ofDigitChars 10 cs value = n := by
  induction cs generalizing value with
  | nil => simp [foldDigits?]
  | cons c cs ih =>
    rw [foldDigits?, Option.bind_eq_bind, Option.bind_eq_some_iff, List.forall_mem_cons,
      Nat.ofDigitChars_cons]
    constructor
    · rintro ⟨d, hd, hrest⟩
      obtain ⟨hc, rfl⟩ := digitValue?_eq_some_iff.1 hd
      obtain ⟨hall, hn⟩ := ih.1 hrest
      exact ⟨⟨hc, hall⟩, by rwa [Nat.mul_comm]⟩
    · rintro ⟨⟨hc, hall⟩, hn⟩
      exact ⟨_, digitValue?_eq_some_iff.2 ⟨hc, rfl⟩, ih.2 ⟨hall, by rwa [Nat.mul_comm] at hn⟩⟩

/-- Digits are read when there **are** any. -/
@[simp] theorem digits?_eq_some_iff {cs : List Char} {n : Nat} :
    digits? cs = some n ↔ AreDigits cs n := by
  cases cs with
  | nil => simp [digits?, AreDigits]
  | cons c cs =>
    rw [digits?, foldDigits?_eq_some_iff, AreDigits, and_iff_right (List.cons_ne_nil c cs)]
    exact List.cons_ne_nil c cs

/-- A sign is no digit. -/
theorem not_areDigits_plus {cs : List Char} {n : Nat} : ¬AreDigits ('+' :: cs) n := by
  rintro ⟨-, hall, -⟩
  exact absurd (hall '+' List.mem_cons_self) (by decide)

/-- Behind a sign, if there is one, stand the digits of a **numeral**. -/
theorem areDigits_dropPlus_iff {text : String} {n : Nat} :
    AreDigits (dropPlus text.toList) n ↔ IsNumeral text n := by
  constructor
  · intro h
    unfold dropPlus at h
    split at h
    · next rest htext => exact .signed h htext
    · exact .plain h
  · rintro (h | ⟨h, htext⟩)
    · unfold dropPlus
      split
      · next rest htext =>
        rw [htext] at h
        exact absurd h not_areDigits_plus
      · exact h
    · rw [htext]
      exact h

/-- A **natural number** is read from its numerals, up to the limit. -/
@[simp] theorem nat?_eq_some_iff {limit n : Nat} {text : String} :
    nat? limit text.toList = some n ↔ IsNumeral text n ∧ n ≤ limit := by
  rw [nat?, Option.bind_eq_bind, Option.bind_eq_some_iff]
  constructor
  · rintro ⟨m, hm, hlimit⟩
    obtain ⟨hle, hmn⟩ := Option.ite_none_right_eq_some.1 hlimit
    obtain rfl := Option.some.inj hmn
    exact ⟨areDigits_dropPlus_iff.1 (digits?_eq_some_iff.1 hm), hle⟩
  · rintro ⟨h, hle⟩
    exact ⟨n, digits?_eq_some_iff.2 (areDigits_dropPlus_iff.2 h), if_pos hle⟩

/-- A **32-bit word** is read from its numerals. -/
@[simp] theorem uint32?_eq_some_iff {text : String} {w : UInt32} :
    uint32? text = some w ↔ IsNumeral text w.toNat := by
  rw [uint32?, Option.map_eq_some_iff]
  constructor
  · rintro ⟨n, hn, rfl⟩
    obtain ⟨h, hle⟩ := nat?_eq_some_iff.1 hn
    rwa [UInt32.toNat_ofNat_of_lt' (Nat.lt_of_le_pred (by decide) hle)]
  · intro h
    exact ⟨w.toNat, nat?_eq_some_iff.2 ⟨h, Nat.le_pred_of_lt w.toNat_lt⟩, UInt32.ofNat_toNat⟩

/-- A **64-bit word** is read from its numerals. -/
@[simp] theorem uint64?_eq_some_iff {text : String} {w : UInt64} :
    uint64? text = some w ↔ IsNumeral text w.toNat := by
  rw [uint64?, Option.map_eq_some_iff]
  constructor
  · rintro ⟨n, hn, rfl⟩
    obtain ⟨h, hle⟩ := nat?_eq_some_iff.1 hn
    rwa [UInt64.toNat_ofNat_of_lt' (Nat.lt_of_le_pred (by decide) hle)]
  · intro h
    exact ⟨w.toNat, nat?_eq_some_iff.2 ⟨h, Nat.le_pred_of_lt w.toNat_lt⟩, UInt64.ofNat_toNat⟩

/-- Whether a text is a **word** of one of `size` values: a numeral of one of them. -/
def IsWord (size : Nat) (text : String) : Prop := ∃ n < size, IsNumeral text n

/-- A 32-bit word is read from a text that is one. -/
theorem exists_uint32?_eq_some_iff {text : String} :
    (∃ w, uint32? text = some w) ↔ IsWord UInt32.size text := by
  constructor
  · rintro ⟨w, hw⟩
    exact ⟨w.toNat, w.toNat_lt, uint32?_eq_some_iff.1 hw⟩
  · rintro ⟨n, hn, h⟩
    refine ⟨UInt32.ofNat n, uint32?_eq_some_iff.2 ?_⟩
    rwa [UInt32.toNat_ofNat_of_lt' hn]

/-- A 64-bit word is read from a text that is one. -/
theorem exists_uint64?_eq_some_iff {text : String} :
    (∃ w, uint64? text = some w) ↔ IsWord UInt64.size text := by
  constructor
  · rintro ⟨w, hw⟩
    exact ⟨w.toNat, w.toNat_lt, uint64?_eq_some_iff.1 hw⟩
  · rintro ⟨n, hn, h⟩
    refine ⟨UInt64.ofNat n, uint64?_eq_some_iff.2 ?_⟩
    rwa [UInt64.toNat_ofNat_of_lt' hn]

/-- What a number is **written as** is a numeral of it. -/
theorem isNumeral_natText (n : Nat) : IsNumeral (natText n) n := by
  refine .plain ⟨?_, fun c hc => ?_, ?_⟩
  · rw [natText, String.toList_ofList]
    exact Nat.toDigits_ne_nil
  · rw [natText, String.toList_ofList] at hc
    exact Nat.isDigit_of_mem_toDigits (by decide) (by decide) hc
  · rw [natText, String.toList_ofList, Nat.ofDigitChars_ten_toDigits]

end OmniLayer.Decimal
