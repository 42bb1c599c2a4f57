import Mathlib.Data.String.Basic
import OmniLayer.Text.Utf8

/-! # Texts compare as their bytes do

The order of texts goes character by character. The bytes of a smaller character are smaller at the
first place where they differ, whatever follows (`utf8EncodeChar_append_lt`); so the order of texts
is the order of their UTF-8 bytes (`utf8_lt_iff`). -/

namespace OmniLayer.Text

/-- Byte strings compare as the numbers of their first bytes do, and then as what follows. -/
theorem ofNat_cons_lt {m n : Nat} {xs ys : Bytes} (hm : m < 256) (hn : n < 256) :
    UInt8.ofNat m :: xs < UInt8.ofNat n :: ys ↔ m < n ∨ (m = n ∧ xs < ys) := by
  have hm' : (UInt8.ofNat m).toNat = m := UInt8.toNat_ofNat_of_lt' hm
  have hn' : (UInt8.ofNat n).toNat = n := UInt8.toNat_ofNat_of_lt' hn
  rw [List.cons_lt_cons_iff, UInt8.lt_iff_toNat_lt, ← UInt8.toNat_inj, hm', hn']

/-- Of two numbers in base 64, the smaller has fewer high digits or, with these, the lower last. -/
theorem div_lt_div_or_mod_lt_mod {m n : Nat} (k : Nat) (h : m / k < n / k) :
    m / (k * 64) < n / (k * 64) ∨ m / (k * 64) = n / (k * 64) ∧ m / k % 64 < n / k % 64 := by
  rw [← Nat.div_div_eq_div_mul, ← Nat.div_div_eq_div_mul]
  omega

/-- A smaller **character** has smaller bytes, whatever follows the two. -/
theorem utf8EncodeChar_append_lt {c d : Char} (h : c < d) (xs ys : Bytes) :
    String.utf8EncodeChar c ++ xs < String.utf8EncodeChar d ++ ys := by
  have hlt : c.val.toNat < d.val.toNat := h
  have hc : c.val.toNat < 0x110000 := by
    rcases c.valid with hv | hv <;> omega
  have hd : d.val.toNat < 0x110000 := by
    rcases d.valid with hv | hv <;> omega
  unfold String.utf8EncodeChar
  generalize c.val.toNat = m at hlt hc
  generalize d.val.toNat = n at hlt hd
  -- The lengths of the two encodings grow with the characters, so ten of the sixteen cases remain.
  dsimp only
  split_ifs <;> try omega
  all_goals simp (disch := omega) only [List.cons_append, List.nil_append, ofNat_cons_lt]
  -- Two characters of four bytes each differ first in one of four digits in base 64.
  on_goal 10 =>
    have hm : m / 262144 % 8 = m / 262144 := Nat.mod_eq_of_lt (by omega)
    have hn : n / 262144 % 8 = n / 262144 := Nat.mod_eq_of_lt (by omega)
    have h1 := div_lt_div_or_mod_lt_mod 1 (by simpa using hlt : m / 1 < n / 1)
    rw [Nat.div_one, Nat.div_one, Nat.one_mul] at h1
    have h2 := div_lt_div_or_mod_lt_mod (m := m) (n := n) 64
    have h3 := div_lt_div_or_mod_lt_mod (m := m) (n := n) 4096
    rw [hm, hn]
    clear hlt hc hd
  all_goals omega

/-- Bytes come before longer bytes that they start. -/
theorem lt_append {xs ys : Bytes} (h : ys ≠ []) : xs < xs ++ ys := by
  obtain ⟨y, rest, rfl⟩ := List.exists_cons_of_ne_nil h
  have hlt : xs ++ [] < xs ++ y :: rest := List.append_left_lt (List.nil_lt_cons y rest)
  rwa [List.append_nil] at hlt

/-- Smaller lists of characters have smaller bytes. -/
theorem flatMap_utf8EncodeChar_lt {cs ds : List Char} (h : cs < ds) :
    cs.flatMap String.utf8EncodeChar < ds.flatMap String.utf8EncodeChar := by
  induction cs generalizing ds with
  | nil =>
    cases ds with
    | nil => exact absurd h (List.not_lt_nil _)
    | cons d ds =>
      rw [List.flatMap_nil, List.flatMap_cons, ← List.nil_append (_ ++ _)]
      exact lt_append (List.append_ne_nil_of_left_ne_nil String.utf8EncodeChar_ne_nil _)
  | cons c cs ih =>
    cases ds with
    | nil => exact absurd h (List.not_lt_nil _)
    | cons d ds =>
      rw [List.flatMap_cons, List.flatMap_cons]
      rcases List.cons_lt_cons_iff.1 h with hc | ⟨rfl, hrest⟩
      · exact utf8EncodeChar_append_lt hc _ _
      · exact List.append_left_lt (ih hrest)

/-- A text is smaller than another when its **bytes** are. -/
@[simp] theorem utf8_lt_iff {a b : String} : utf8 a < utf8 b ↔ a < b := by
  refine ⟨fun h => ?_, fun h => flatMap_utf8EncodeChar_lt (String.lt_iff.1 h)⟩
  rcases lt_trichotomy a b with hab | rfl | hba
  · exact hab
  · exact absurd h (List.lt_irrefl _)
  · exact absurd h (List.lt_asymm (flatMap_utf8EncodeChar_lt (String.lt_iff.1 hba)))

/-- A text comes no later than another when its bytes do. -/
@[simp] theorem utf8_le_iff {a b : String} : utf8 a ≤ utf8 b ↔ a ≤ b := by
  rw [← List.not_lt, utf8_lt_iff, not_lt]

end OmniLayer.Text
