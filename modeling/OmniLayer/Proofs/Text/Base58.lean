import Mathlib.Data.List.TakeWhile
import Mathlib.Data.Nat.Digits.Lemmas
import OmniLayer.Text.Base58

/-! # Base58 reads back what it writes, and writes back what it reads

A byte string and its text are two **numerals** of one number, in base 256 and in base 58, with
equally many leading zeros. A numeral is told by its leading zeros and its number
(`numeral_leadingZeros`), and tells them (`leadingZeros_numeral`, `ofRadixDigits_numeral`); so
reading and writing undo each other, with and without a checksum. -/

namespace OmniLayer.Base58

/-! ## Numerals with leading zeros -/

/-- The digits of a number are those of the library. -/
theorem radixDigits_eq_digits (base n : Nat) : radixDigits base n = Nat.digits (base + 2) n := by
  induction n using radixDigits.induct base with
  | case1 => rw [radixDigits, if_pos rfl, Nat.digits_zero]
  | case2 n hn ih =>
    rw [radixDigits, if_neg hn, ih,
      Nat.digits_def' (Nat.lt_add_left base Nat.one_lt_two) (Nat.pos_of_ne_zero hn)]

/-- The number that digits spell is that of the library. -/
theorem ofRadixDigits_eq_ofDigits (base : Nat) (ds : List Nat) :
    ofRadixDigits base ds = Nat.ofDigits (base + 2) ds := by
  induction ds with
  | nil => rfl
  | cons d rest ih => rw [ofRadixDigits, ih, Nat.ofDigits_cons]

/-- How many zeros a list of digits starts with. -/
def leadingZeros (ds : List Nat) : Nat := (ds.takeWhile (· == 0)).length

/-- The **numeral** of a number, highest digit first, behind a count of zeros. -/
def numeral (base zeros n : Nat) : List Nat :=
  List.replicate zeros 0 ++ (radixDigits base n).reverse

/-- Digits are their leading zeros, followed by digits that do not start with a zero. -/
@[simp] theorem replicate_leadingZeros_append (ds : List Nat) :
    List.replicate (leadingZeros ds) 0 ++ ds.dropWhile (· == 0) = ds := by
  have hzeros : ds.takeWhile (· == 0) = List.replicate (leadingZeros ds) 0 := by
    refine List.eq_replicate_iff.2 ⟨rfl, fun d hd => ?_⟩
    simpa using List.mem_takeWhile_imp hd
  rw [← hzeros, List.takeWhile_append_dropWhile]

/-- Digits without leading zeros are the digits of the number that they spell. -/
theorem radixDigits_ofRadixDigits {base : Nat} {ds : List Nat} (hds : ∀ d ∈ ds, d < base + 2)
    (hlast : ∀ h : ds ≠ [], ds.getLast h ≠ 0) : radixDigits base (ofRadixDigits base ds) = ds := by
  rw [radixDigits_eq_digits, ofRadixDigits_eq_ofDigits]
  exact Nat.digits_ofDigits _ (Nat.lt_add_left base Nat.one_lt_two) ds hds hlast

/-- Digits are the **numeral** of their number, behind their leading zeros. -/
theorem numeral_leadingZeros {base : Nat} {ds : List Nat} (hds : ∀ d ∈ ds, d < base + 2) :
    numeral base (leadingZeros ds) (ofRadixDigits base ds.reverse) = ds := by
  set rest := ds.dropWhile (· == 0) with hrest
  have hsplit : List.replicate (leadingZeros ds) 0 ++ rest = ds := replicate_leadingZeros_append ds
  -- Leading zeros stand at the high end, where they do not change the number.
  have hnumber : ofRadixDigits base ds.reverse = ofRadixDigits base rest.reverse := by
    rw [ofRadixDigits_eq_ofDigits, ofRadixDigits_eq_ofDigits]
    conv_lhs => rw [← hsplit, List.reverse_append, List.reverse_replicate]
    exact Nat.ofDigits_append_replicate_zero _
  have hdigits : radixDigits base (ofRadixDigits base rest.reverse) = rest.reverse := by
    refine radixDigits_ofRadixDigits (fun d hd => hds d ?_) fun h => ?_
    · exact (List.dropWhile_sublist _).mem (List.mem_reverse.1 hd)
    · have hne : rest ≠ [] := fun e => h (by rw [e, List.reverse_nil])
      rw [List.getLast_reverse]
      have hhead := List.head_dropWhile_not (· == 0) hne
      simpa using hhead
  rw [numeral, hnumber, hdigits, List.reverse_reverse, hsplit]

/-- The highest digit of a number is no zero. -/
theorem head_reverse_radixDigits_ne_zero (base n : Nat) :
    (radixDigits base n).reverse.head? ≠ some 0 := by
  rw [List.head?_reverse, radixDigits_eq_digits]
  by_cases hn : n = 0
  · rw [hn, Nat.digits_zero, List.getLast?_nil]
    exact Option.some_ne_none 0 ∘ Eq.symm
  · have hne : Nat.digits (base + 2) n ≠ [] := Nat.digits_ne_nil_iff_ne_zero.2 hn
    rw [List.getLast?_eq_some_getLast hne]
    intro h
    exact Nat.getLast_digit_ne_zero (base + 2) hn (Option.some.inj h)

/-- A numeral has the leading zeros it was given. -/
@[simp] theorem leadingZeros_numeral (base zeros n : Nat) :
    leadingZeros (numeral base zeros n) = zeros := by
  -- The zeros in front of the highest digit are only those that were put there.
  have hstop : (radixDigits base n).reverse.takeWhile (· == 0) = [] := by
    have hhead := head_reverse_radixDigits_ne_zero base n
    cases hds : (radixDigits base n).reverse with
    | nil => rfl
    | cons d rest =>
      rw [hds, List.head?_cons] at hhead
      have hd : d ≠ 0 := fun e => hhead (by rw [e])
      simp [hd]
  unfold leadingZeros numeral
  rw [List.takeWhile_append_of_pos (by simp), hstop, List.append_nil, List.length_replicate]

/-- A numeral spells the number it was given. -/
@[simp] theorem ofRadixDigits_numeral (base zeros n : Nat) :
    ofRadixDigits base (numeral base zeros n).reverse = n := by
  rw [numeral, List.reverse_append, List.reverse_reverse, List.reverse_replicate,
    ofRadixDigits_eq_ofDigits, Nat.ofDigits_append_replicate_zero, radixDigits_eq_digits,
    Nat.ofDigits_digits]

/-- The digits of a numeral are below its base. -/
theorem lt_of_mem_numeral {base zeros n d : Nat} (h : d ∈ numeral base zeros n) : d < base + 2 := by
  rw [numeral, List.mem_append, List.mem_reverse, radixDigits_eq_digits] at h
  rcases h with h | h
  · rw [List.eq_of_mem_replicate h]
    exact Nat.succ_pos _
  · exact Nat.digits_lt_base' h

/-! ## Digits of bytes and of text -/

/-- Bytes spell the number that they spell as digits in base 256. -/
theorem toNatBE_eq_ofRadixDigits (bs : Bytes) :
    Bytes.toNatBE bs = ofRadixDigits 254 (bs.map UInt8.toNat).reverse := by
  induction bs using List.reverseRecOn with
  | nil => rfl
  | append_singleton front b ih =>
    rw [Bytes.toNatBE, List.foldl_concat, ← Bytes.toNatBE, ih, List.map_append, List.map_singleton,
      List.reverse_append, List.reverse_singleton, List.singleton_append, ofRadixDigits]
    omega

/-- The leading zeros of bytes are those of their digits. -/
theorem leadingZeros_map_toNat (bs : Bytes) :
    leadingZeros (bs.map UInt8.toNat) = (bs.takeWhile (· == 0)).length := by
  have htest : ((· == 0) ∘ UInt8.toNat) = (· == (0 : UInt8)) := by
    funext b
    simp [← UInt8.toNat_inj]
  rw [leadingZeros, List.takeWhile_map, htest, List.length_map]

/-- Every value below fifty-eight has a digit that reads as that value. -/
theorem digitValue?_digit {value : Nat} (h : value < 58) :
    digitValue? (digit value) = some value := by
  have hall : ∀ v < 58, digitValue? (digit v) = some v := by decide
  exact hall value h

/-- A digit is the digit of its value, which is below fifty-eight. -/
theorem digitValue?_eq_some {c : Char} {value : Nat} (h : digitValue? c = some value) :
    value < 58 ∧ digit value = c := by
  obtain ⟨hlt, hc, -⟩ := List.findIdx?_eq_some_iff_getElem.1 h
  refine ⟨hlt, ?_⟩
  rw [digit, List.getD_eq_getElem?_getD, List.getElem?_eq_getElem hlt]
  exact eq_of_beq hc

/-- The values of a text of digits are those whose digits the text is. -/
theorem mapM_digitValue?_eq_some {cs : List Char} {values : List Nat} :
    cs.mapM digitValue? = some values ↔ (∀ v ∈ values, v < 58) ∧ values.map digit = cs := by
  induction cs generalizing values with
  | nil =>
    rw [List.mapM_nil, List.map_eq_nil_iff]
    constructor
    · intro h
      obtain rfl : [] = values := Option.some.inj h
      exact ⟨fun v hv => absurd hv List.not_mem_nil, rfl⟩
    · rintro ⟨-, rfl⟩
      rfl
  | cons c cs ih =>
    rw [List.mapM_cons]
    constructor
    · intro h
      obtain ⟨v, hv, hrest⟩ := Option.bind_eq_some_iff.1 h
      obtain ⟨vs, hvs, hcons⟩ := Option.bind_eq_some_iff.1 hrest
      obtain rfl : v :: vs = values := Option.some.inj hcons
      obtain ⟨hlt, hc⟩ := digitValue?_eq_some hv
      obtain ⟨hall, hmap⟩ := ih.1 hvs
      exact ⟨List.forall_mem_cons.2 ⟨hlt, hall⟩, by rw [List.map_cons, hc, hmap]⟩
    · rintro ⟨hall, hmap⟩
      cases values with
      | nil => exact absurd hmap (List.cons_ne_nil c cs).symm
      | cons v vs =>
        obtain ⟨hv, hvs⟩ := List.forall_mem_cons.1 hall
        rw [List.map_cons, List.cons.injEq] at hmap
        obtain ⟨rfl, rfl⟩ := hmap
        rw [digitValue?_digit hv, ih.2 ⟨hvs, rfl⟩]
        rfl

/-! ## Base 58 -/

/-- Bytes are written as the digits of the base 58 numeral with their leading zeros and number. -/
theorem encode_eq (bs : Bytes) :
    encode bs = String.ofList ((numeral 56 (leadingZeros (bs.map UInt8.toNat))
      (Bytes.toNatBE bs)).map digit) := by
  rw [encode, leadingZeros_map_toNat, numeral, List.map_append, List.map_replicate]
  rfl

/-- Reading a text gives the bytes of the base 256 numeral with its leading zeros and number. -/
theorem decode?_eq_some {text : String} {bs : Bytes} :
    decode? text = some bs ↔ ∃ values : List Nat, text.toList.mapM digitValue? = some values ∧
      (numeral 254 (leadingZeros values) (ofRadixDigits 56 values.reverse)).map UInt8.ofNat
        = bs := by
  rw [decode?, Option.bind_eq_bind, Option.bind_eq_some_iff]
  refine exists_congr fun values => and_congr_right fun _ => ?_
  rw [numeral, List.map_append, List.map_replicate]
  exact Option.some_inj

/-- Digits in base 256 are the digits of their bytes. -/
theorem map_toNat_map_ofNat {ds : List Nat} (hds : ∀ d ∈ ds, d < 254 + 2) :
    (ds.map UInt8.ofNat).map UInt8.toNat = ds := by
  rw [List.map_map]
  exact (List.map_congr_left fun d hd => UInt8.toNat_ofNat_of_lt' (hds d hd)).trans (List.map_id ds)

/-- Bytes are the bytes of their digits. -/
@[simp] theorem map_ofNat_map_toNat (bs : Bytes) : (bs.map UInt8.toNat).map UInt8.ofNat = bs := by
  rw [List.map_map]
  exact (List.map_congr_left fun b _ => UInt8.ofNat_toNat).trans (List.map_id bs)

/-- A text that reads as bytes is what writing the bytes gives. -/
theorem encode_of_decode? {text : String} {bs : Bytes} (h : decode? text = some bs) :
    encode bs = text := by
  obtain ⟨values, hvalues, rfl⟩ := decode?_eq_some.1 h
  obtain ⟨hlt, hmap⟩ := mapM_digitValue?_eq_some.1 hvalues
  rw [encode_eq, toNatBE_eq_ofRadixDigits, map_toNat_map_ofNat fun d => lt_of_mem_numeral,
    leadingZeros_numeral, ofRadixDigits_numeral, numeral_leadingZeros hlt, hmap,
    String.ofList_toList]

/-- What writing gives reads as the bytes written. -/
@[simp] theorem decode?_encode (bs : Bytes) : decode? (encode bs) = some bs := by
  set zeros := leadingZeros (bs.map UInt8.toNat) with hzeros
  refine decode?_eq_some.2 ⟨numeral 56 zeros (Bytes.toNatBE bs), ?_, ?_⟩
  · rw [encode_eq, String.toList_ofList]
    exact mapM_digitValue?_eq_some.2 ⟨fun v => lt_of_mem_numeral, rfl⟩
  · have hbytes : ∀ d ∈ bs.map UInt8.toNat, d < 254 + 2 := by
      intro d hd
      obtain ⟨b, -, rfl⟩ := List.mem_map.1 hd
      exact b.toNat_lt
    rw [leadingZeros_numeral, ofRadixDigits_numeral, toNatBE_eq_ofRadixDigits, hzeros,
      numeral_leadingZeros hbytes, map_ofNat_map_toNat]

/-! ## Base58Check -/

/-- A text reads as a payload when it spells the payload with its checksum. -/
@[simp] theorem decodeCheck?_eq_some {text : String} {payload : Bytes} :
    decodeCheck? text = some payload ↔ decode? text = some (payload ++ checksum payload) := by
  have hfour (bs : Bytes) : (checksum bs).length = 4 := by
    rw [checksum, List.length_take, (Sha256.doubleDigest bs).length_eq]
    rfl
  rw [decodeCheck?, Option.bind_eq_bind, Option.bind_eq_some_iff]
  constructor
  · rintro ⟨bs, hbs, h⟩
    by_cases hlen : bs.length < 4
    · rw [if_pos hlen] at h
      cases h
    · rw [if_neg hlen] at h
      dsimp only at h
      by_cases hsum : checksum (bs.take (bs.length - 4)) = bs.drop (bs.length - 4)
      · rw [if_pos hsum] at h
        obtain rfl := Option.some.inj h
        rw [hsum, List.take_append_drop, hbs]
      · rw [if_neg hsum] at h
        cases h
  · intro h
    refine ⟨_, h, ?_⟩
    have hsize : (payload ++ checksum payload).length - 4 = payload.length := by
      rw [List.length_append, hfour, Nat.add_sub_cancel]
    have hlen : ¬(payload ++ checksum payload).length < 4 := by
      rw [List.length_append, hfour]
      omega
    rw [if_neg hlen, hsize, List.take_left, List.drop_left, if_pos rfl]

/-- A text that reads as a payload is what writing the payload gives. -/
theorem encodeCheck_of_decodeCheck? {text : String} {payload : Bytes}
    (h : decodeCheck? text = some payload) : encodeCheck payload = text :=
  encode_of_decode? (decodeCheck?_eq_some.1 h)

/-- What writing with a checksum gives reads as the payload written. -/
@[simp] theorem decodeCheck?_encodeCheck (payload : Bytes) :
    decodeCheck? (encodeCheck payload) = some payload :=
  decodeCheck?_eq_some.2 (decode?_encode _)

end OmniLayer.Base58
