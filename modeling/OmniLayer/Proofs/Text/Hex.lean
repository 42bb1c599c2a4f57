import OmniLayer.Transaction
import Mathlib.Data.List.DropRight
import Mathlib.Data.List.Forall2
import Mathlib.Data.List.Induction

/-! # Which texts are hexadecimal

A text is read as bytes exactly when, in small letters, it is what these bytes are written as
(`Hex.decode_eq_ok_iff`); so it is read when it has an even number of digits and nothing else
(`Hex.exists_decode_eq_ok_iff`), and what is written is read as it was (`Hex.decode_encode`), with
blanks cut off around it or not (`Hex.trim_encode`). The reader sees bytes, of which a character may
have several: every digit is one byte, and the first byte of any other character has no value
(`Hex.isDigit_spec`). Identifiers are read from sixty-four digits. -/

namespace OmniLayer

namespace Hex

/-! ## Digits -/

/-- Whether a character is a **hexadecimal digit**, in either case. -/
def isDigit (c : Char) : Bool :=
  c.isDigit || ('a' ≤ c && c ≤ 'f') || ('A' ≤ c && c ≤ 'F')

/-- Every value below sixteen has a digit: it is read as that value, has no other form in small
letters and is no blank. -/
theorem digit_spec {n : Nat} (h : n < 16) :
    digitValue? (UInt8.ofNat (digit n).toNat) = some n ∧ (digit n).toLower = digit n ∧
      Text.isBlank (digit n) = false := by
  have hall : ∀ n : Fin 16,
      digitValue? (UInt8.ofNat (digit n).toNat) = some n.val ∧ (digit n).toLower = digit n ∧
        Text.isBlank (digit n) = false := by decide +kernel
  exact hall ⟨n, h⟩

/-- The value of a digit is below sixteen. -/
theorem digitValue?_lt {b : UInt8} {n : Nat} (h : digitValue? b = some n) : n < 16 := by
  unfold digitValue? at h
  dsimp only at h
  split_ifs at h <;> cases h <;> omega

/-- Among the characters of one byte, those whose byte has a value are the digits, and the value is
that of the small digit. -/
theorem ascii_spec {k : Nat} (hk : k < 128) :
    ((digitValue? (UInt8.ofNat k)).isSome = isDigit (Char.ofNat k)) ∧
      ∀ n < 16, digitValue? (UInt8.ofNat k) = some n ↔ (Char.ofNat k).toLower = digit n := by
  have hall : ∀ k : Fin 128,
      ((digitValue? (UInt8.ofNat k)).isSome = isDigit (Char.ofNat k)) ∧
        ∀ n : Fin 16, digitValue? (UInt8.ofNat k) = some n.val ↔
          (Char.ofNat k).toLower = digit n := by decide +kernel
  exact ⟨(hall ⟨k, hk⟩).1, fun n hn => (hall ⟨k, hk⟩).2 ⟨n, hn⟩⟩

/-- A byte above the ASCII range has no value. -/
theorem digitValue?_eq_none {b : UInt8} (h : 128 ≤ b.toNat) : digitValue? b = none := by
  unfold digitValue?
  dsimp only
  split_ifs <;> first | rfl | omega

/-- A character of **several bytes** is no digit, in small letters or not, and its first byte has no
value. -/
theorem wide_spec {c : Char} (hc : ¬c.toNat < 128) :
    isDigit c = false ∧ (∀ n < 16, c.toLower ≠ digit n) ∧
      ∃ b rest, String.utf8EncodeChar c = b :: rest ∧ digitValue? b = none := by
  have hval : 128 ≤ c.val.toNat := Nat.le_of_not_lt hc
  refine ⟨?_, fun n hn h => ?_, ?_⟩
  · simp only [isDigit, Char.isDigit, Char.le_def, UInt32.le_iff_toNat_le, ge_iff_le,
      Bool.or_eq_false_iff, Bool.and_eq_false_iff, decide_eq_false_iff_not, not_le]
    refine ⟨⟨Or.inr ?_, Or.inr ?_⟩, Or.inr ?_⟩ <;> exact Nat.lt_of_lt_of_le (by decide) hval
  · have hlower : c.toLower = c := by
      refine dif_neg fun hcapital => ?_
      have hle : c.val.toNat ≤ 90 := UInt32.le_iff_toNat_le.1 hcapital.2
      omega
    have hall : ∀ n : Fin 16, (digit n).toNat < 128 := by decide
    rw [hlower] at h
    exact hc (h ▸ hall ⟨n, hn⟩)
  · unfold String.utf8EncodeChar
    dsimp only
    rw [if_neg (by omega)]
    split_ifs
    all_goals
      refine ⟨_, _, rfl, digitValue?_eq_none ?_⟩
      rw [UInt8.toNat_ofNat_of_lt' (show _ < 256 by omega)]
      omega

/-- A character is a digit, **one byte** with the value of that digit in small letters; or it is no
digit, is none in small letters either, and has a first byte without value. -/
theorem isDigit_spec (c : Char) :
    (isDigit c = true ∧ ∃ n < 16, c.toLower = digit n ∧
        ∃ b, String.utf8EncodeChar c = [b] ∧ digitValue? b = some n) ∨
      (isDigit c = false ∧ (∀ n < 16, c.toLower ≠ digit n) ∧
        ∃ b rest, String.utf8EncodeChar c = b :: rest ∧ digitValue? b = none) := by
  by_cases hc : c.toNat < 128
  · have henc : String.utf8EncodeChar c = [UInt8.ofNat c.toNat] := if_pos (Nat.le_of_lt_succ hc)
    have hascii := ascii_spec hc
    rw [Char.ofNat_toNat] at hascii
    cases hvalue : digitValue? (UInt8.ofNat c.toNat) with
    | some n =>
      have hn := digitValue?_lt hvalue
      refine Or.inl ⟨?_, n, hn, (hascii.2 n hn).1 hvalue, _, henc, hvalue⟩
      rw [← hascii.1, hvalue]
      rfl
    | none =>
      refine Or.inr ⟨?_, fun n hn h => ?_, _, [], henc, hvalue⟩
      · rw [← hascii.1, hvalue]
        rfl
      · have hsome := (hascii.2 n hn).2 h
        rw [hvalue] at hsome
        cases hsome
  · exact Or.inr (wide_spec hc)

/-- Two digits are equal only when their values are. -/
theorem digit_inj {m n : Nat} (hm : m < 16) (hn : n < 16) (h : digit m = digit n) : m = n := by
  have hvalue := (digit_spec hm).1
  rw [h, (digit_spec hn).1] at hvalue
  exact (Option.some.inj hvalue).symm

/-- The bytes of characters have the values of which the characters are, in small letters, the
**digits**. -/
theorem forall₂_digitValue?_iff {ns : List Nat} {cs : List Char} :
    List.Forall₂ (fun n b => digitValue? b = some n) ns (cs.flatMap String.utf8EncodeChar) ↔
      List.Forall₂ (fun n c => n < 16 ∧ c.toLower = digit n) ns cs := by
  induction cs generalizing ns with
  | nil => rw [List.flatMap_nil, List.forall₂_nil_right_iff, List.forall₂_nil_right_iff]
  | cons c cs ih =>
    rw [List.flatMap_cons]
    cases ns with
    | nil =>
      have hne : String.utf8EncodeChar c ≠ [] := String.utf8EncodeChar_ne_nil
      simp [hne]
    | cons n ns =>
      rw [List.forall₂_cons, ← ih]
      -- A digit is one byte, and the rest follows; else both fail at this character.
      rcases isDigit_spec c with
        ⟨-, m, hm, hlower, b, henc, hvalue⟩ | ⟨-, hlower, b, rest, henc, hnone⟩
      · rw [henc, List.singleton_append, List.forall₂_cons, hvalue, hlower, Option.some_inj]
        refine and_congr_left fun _ => ⟨?_, fun h => digit_inj hm h.1 h.2⟩
        rintro rfl
        exact ⟨hm, rfl⟩
      · rw [henc, List.cons_append, List.forall₂_cons, hnone]
        refine iff_of_false (fun h => ?_) fun h => hlower n h.1.1 h.1.2
        cases h.1

/-! ## Pairs of digits -/

/-- The values of the two **digits of a byte**. -/
def nibbles (b : UInt8) : List Nat := [b.toNat / 16, b.toNat % 16]

/-- Digits are those of these values. -/
theorem digits_eq (bs : Bytes) : digits bs = (bs.flatMap nibbles).map digit := by
  rw [List.map_flatMap]
  rfl

/-- There are two values for each byte, all of them below sixteen. -/
theorem flatMap_nibbles (bs : Bytes) :
    (bs.flatMap nibbles).length = 2 * bs.length ∧ ∀ n ∈ bs.flatMap nibbles, n < 16 := by
  constructor
  · simp [List.length_flatMap, nibbles, Nat.mul_comm]
  · intro n hn
    obtain ⟨b, -, hb⟩ := List.mem_flatMap.1 hn
    have hlt : b.toNat < 256 := b.toNat_lt
    rcases List.mem_pair.1 hb with rfl | rfl <;> omega

/-- A byte is made up of two values below sixteen when they are those of its **digits**. -/
theorem eq_ofNat_iff {b : UInt8} {h l : Nat} (hh : h < 16) (hl : l < 16) :
    b = UInt8.ofNat (16 * h + l) ↔ nibbles b = [h, l] := by
  rw [nibbles, List.cons.injEq, List.cons.injEq, and_iff_left rfl]
  constructor
  · rintro rfl
    rw [UInt8.toNat_ofNat_of_lt' (show _ < 256 by omega)]
    omega
  · rintro ⟨rfl, rfl⟩
    rw [Nat.div_add_mod, UInt8.ofNat_toNat]

/-- A first pair is read when **both** are digits, and then what follows is read. -/
theorem decodePairs_cons_cons_eq_ok_iff {position : Nat} {high low : UInt8} {rest bs : Bytes} :
    decodePairs position (high :: low :: rest) = .ok bs ↔
      ∃ h l tail, digitValue? high = some h ∧ digitValue? low = some l ∧
        decodePairs (position + 2) rest = .ok tail ∧ UInt8.ofNat (16 * h + l) :: tail = bs := by
  rw [decodePairs]
  cases digitValue? high with
  | none => simp
  | some h =>
    cases digitValue? low with
    | none => simp
    | some l =>
      cases decodePairs (position + 2) rest with
      | error e => simp [Bind.bind, Except.bind]
      | ok tail => simp [Bind.bind, Except.bind]

/-- Pairs of digits are read as the bytes that have their **values**. -/
theorem decodePairs_eq_ok_iff {position : Nat} {text bs : Bytes} :
    decodePairs position text = .ok bs ↔
      List.Forall₂ (fun n b => digitValue? b = some n) (bs.flatMap nibbles) text := by
  -- Each byte that is read takes two bytes of the text.
  induction bs generalizing position text with
  | nil =>
    rw [List.flatMap_nil, List.forall₂_nil_left_iff]
    match text with
    | [] => simp [decodePairs]
    | [_] => simp [decodePairs]
    | high :: low :: rest =>
      refine iff_of_false (fun h => ?_) (List.cons_ne_nil _ _)
      obtain ⟨_, _, _, -, -, -, hnil⟩ := decodePairs_cons_cons_eq_ok_iff.1 h
      cases hnil
  | cons b bs ih =>
    rw [List.flatMap_cons]
    match text with
    | [] => simp [decodePairs, nibbles]
    | [_] => simp [decodePairs, nibbles]
    | high :: low :: rest =>
      rw [decodePairs_cons_cons_eq_ok_iff]
      constructor
      · rintro ⟨h, l, tail, hhigh, hlow, hrest, heq⟩
        obtain ⟨hb, rfl⟩ := List.cons.inj heq
        rw [(eq_ofNat_iff (digitValue?_lt hhigh) (digitValue?_lt hlow)).1 hb.symm]
        exact .cons hhigh (.cons hlow (ih.1 hrest))
      · rw [nibbles, List.cons_append, List.cons_append, List.nil_append, List.forall₂_cons,
          List.forall₂_cons, ← ih]
        rintro ⟨hhigh, hlow, hrest⟩
        refine ⟨_, _, bs, hhigh, hlow, hrest, ?_⟩
        rw [← (eq_ofNat_iff (digitValue?_lt hhigh) (digitValue?_lt hlow)).2 rfl]

/-! ## Texts -/

/-- Characters are the digits of bytes, in small letters, when each is the digit of a **value**. -/
theorem map_toLower_eq_digits_iff {cs : List Char} {bs : Bytes} :
    cs.map Char.toLower = digits bs ↔
      List.Forall₂ (fun n c => n < 16 ∧ c.toLower = digit n) (bs.flatMap nibbles) cs := by
  rw [List.forall₂_and_left, and_iff_right (flatMap_nibbles bs).2, digits_eq, eq_comm,
    ← List.forall₂_eq_eq_eq, List.forall₂_map_left_iff, List.forall₂_map_right_iff]
  simp only [eq_comm]

/-- A text is read as bytes when it is what **writing** them gives, in either case. -/
theorem decode_eq_ok_iff {text : String} {bs : Bytes} :
    decode text = .ok bs ↔ Text.lowerAscii text = encode bs := by
  have hread : decode text = .ok bs ↔ decodePairs 0 (Text.utf8 text) = .ok bs := by
    unfold decode
    dsimp only
    split_ifs with hodd
    · refine iff_of_false (fun h => by cases h) fun h => ?_
      have hlength := (decodePairs_eq_ok_iff.1 h).length_eq
      rw [(flatMap_nibbles bs).1] at hlength
      omega
    · rfl
  rw [hread, decodePairs_eq_ok_iff, Text.utf8, forall₂_digitValue?_iff,
    ← map_toLower_eq_digits_iff, Text.lowerAscii, encode, String.ofList_inj]

/-- An even number of digits is, in small letters, what **some bytes** are written as. -/
theorem exists_map_toLower_eq_digits {cs : List Char} (heven : cs.length % 2 = 0)
    (hall : ∀ c ∈ cs, isDigit c = true) : ∃ bs, cs.map Char.toLower = digits bs := by
  have hvalue {c : Char} (hc : isDigit c = true) : ∃ n < 16, c.toLower = digit n := by
    rcases isDigit_spec c with ⟨-, n, hn, hlower, -⟩ | ⟨hno, -⟩
    · exact ⟨n, hn, hlower⟩
    · exact absurd hc (ne_true_of_eq_false hno)
  induction cs using List.twoStepInduction with
  | nil => exact ⟨[], rfl⟩
  | singleton c => cases heven
  | cons_cons c d cs ih _ =>
    rw [List.forall_mem_cons, List.forall_mem_cons] at hall
    obtain ⟨hc, hd, hcs⟩ := hall
    obtain ⟨h, hh, hhigh⟩ := hvalue hc
    obtain ⟨l, hl, hlow⟩ := hvalue hd
    rw [List.length_cons, List.length_cons] at heven
    obtain ⟨bs, hbs⟩ := ih (by omega) hcs
    refine ⟨UInt8.ofNat (16 * h + l) :: bs, ?_⟩
    rw [digits_eq, List.flatMap_cons, (eq_ofNat_iff hh hl).1 rfl, List.map_append, ← digits_eq,
      List.map_cons, List.map_cons, hhigh, hlow, hbs]
    rfl

/-- A text that is read has two digits for each byte, and **nothing else**. -/
theorem digits_of_decode {text : String} {bs : Bytes} (h : decode text = .ok bs) :
    text.toList.length = 2 * bs.length ∧ ∀ c ∈ text.toList, isDigit c = true := by
  rw [decode_eq_ok_iff, Text.lowerAscii, encode, String.ofList_inj, digits_eq] at h
  constructor
  · have hlength := congrArg List.length h
    rwa [List.length_map, List.length_map, (flatMap_nibbles bs).1] at hlength
  · intro c hc
    have hmem := List.mem_map_of_mem (f := Char.toLower) hc
    rw [h] at hmem
    obtain ⟨n, hn, hdigit⟩ := List.mem_map.1 hmem
    rcases isDigit_spec c with ⟨hyes, -⟩ | ⟨-, hno, -⟩
    · exact hyes
    · exact absurd hdigit.symm (hno n ((flatMap_nibbles bs).2 n hn))

/-- Whether a text is **hexadecimal**: an even number of digits and nothing else. -/
def IsHex (text : String) : Prop :=
  text.toList.length % 2 = 0 ∧ ∀ c ∈ text.toList, isDigit c = true

/-- A text is read when it is hexadecimal. -/
theorem exists_decode_eq_ok_iff {text : String} : (∃ bs, decode text = .ok bs) ↔ IsHex text := by
  constructor
  · rintro ⟨bs, hbs⟩
    obtain ⟨hlength, hall⟩ := digits_of_decode hbs
    exact ⟨by omega, hall⟩
  · rintro ⟨heven, hall⟩
    obtain ⟨bs, hbs⟩ := exists_map_toLower_eq_digits heven hall
    refine ⟨bs, ?_⟩
    rw [decode_eq_ok_iff, Text.lowerAscii, encode, hbs]

/-- What is written is **in small letters** already. -/
@[simp] theorem lowerAscii_encode (bs : Bytes) : Text.lowerAscii (encode bs) = encode bs := by
  rw [Text.lowerAscii, encode, String.toList_ofList, digits_eq, List.map_map, String.ofList_inj]
  exact List.map_congr_left fun n hn => (digit_spec ((flatMap_nibbles bs).2 n hn)).2.1

/-- **What is written is read back.** -/
@[simp] theorem decode_encode (bs : Bytes) : decode (encode bs) = .ok bs :=
  decode_eq_ok_iff.2 (lowerAscii_encode bs)

/-- No digit is a blank. -/
theorem not_isBlank_of_mem_digits {bs : Bytes} {c : Char} (h : c ∈ digits bs) :
    ¬Text.isBlank c = true := by
  rw [digits_eq] at h
  obtain ⟨n, hn, rfl⟩ := List.mem_map.1 h
  exact ne_true_of_eq_false (digit_spec ((flatMap_nibbles bs).2 n hn)).2.2

/-- There is nothing to cut off around digits. -/
@[simp] theorem trim_encode (bs : Bytes) : Text.trim (encode bs) = encode bs := by
  have hfront : (digits bs).dropWhile Text.isBlank = digits bs :=
    List.dropWhile_eq_self_iff.2 fun h => not_isBlank_of_mem_digits (List.getElem_mem h)
  have hback : (digits bs).reverse.dropWhile Text.isBlank = (digits bs).reverse :=
    List.dropWhile_eq_self_iff.2 fun h =>
      not_isBlank_of_mem_digits (List.mem_reverse.1 (List.getElem_mem h))
  rw [Text.trim, encode, String.toList_ofList, hfront, hback, List.reverse_reverse]

end Hex

/-! ## Identifiers -/

namespace Txid

variable {text : String} {txid : Txid}

/-- Whether a text is that of **some identifier**: sixty-four hexadecimal digits. -/
def IsTxid (text : String) : Prop :=
  text.toList.length = 64 ∧ ∀ c ∈ text.toList, Hex.isDigit c = true

/-- An identifier is read from the text of its bytes. -/
theorem ofText?_eq_some_iff_decode :
    ofText? text = some txid ↔ Hex.decode text = .ok txid.digest.bytes.reverse := by
  rw [ofText?, Option.bind_eq_bind, Option.bind_eq_some_iff]
  constructor
  · rintro ⟨bs, hbs, h⟩
    obtain ⟨digest, hdigest, heq⟩ := Option.bind_eq_some_iff.1 h
    obtain rfl : ⟨digest⟩ = txid := Option.some.inj heq
    rw [← FixedBytes.ofBytes?_eq_some.1 hdigest, List.reverse_reverse]
    cases hread : Hex.decode text with
    | error e =>
      rw [hread] at hbs
      cases hbs
    | ok bs' =>
      rw [hread] at hbs
      exact congrArg Except.ok (Option.some.inj hbs)
  · intro h
    refine ⟨txid.digest.bytes.reverse, ?_, ?_⟩
    · rw [h]
      rfl
    · rw [List.reverse_reverse, FixedBytes.ofBytes?_bytes]
      rfl

/-- An identifier is read from a text that is, in small letters, **its own**. -/
@[simp] theorem ofText?_eq_some_iff :
    ofText? text = some txid ↔ Text.lowerAscii text = txid.text := by
  rw [ofText?_eq_some_iff_decode, Hex.decode_eq_ok_iff, Txid.text]

/-- Some identifier is read from **sixty-four digits**. -/
theorem exists_ofText?_eq_some_iff : (∃ txid, ofText? text = some txid) ↔ IsTxid text := by
  simp only [ofText?_eq_some_iff_decode]
  constructor
  · rintro ⟨txid, h⟩
    obtain ⟨hlength, hall⟩ := Hex.digits_of_decode h
    rw [List.length_reverse, txid.digest.length_eq] at hlength
    exact ⟨hlength, hall⟩
  · rintro ⟨hlength, hall⟩
    obtain ⟨bs, hbs⟩ := Hex.exists_decode_eq_ok_iff.2 ⟨by rw [hlength], hall⟩
    have hsize : bs.reverse.length = 32 := by
      have htwice := (Hex.digits_of_decode hbs).1
      rw [List.length_reverse]
      omega
    exact ⟨⟨⟨bs.reverse, hsize⟩⟩, by rw [hbs, List.reverse_reverse]⟩

end Txid

end OmniLayer
