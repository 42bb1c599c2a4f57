import OmniLayer.Proofs.Keystream
import OmniLayer.Proofs.Packets
import OmniLayer.Proofs.Text.Hex
import Mathlib.Logic.Function.Iterate

/-! # Keystreams derived with any hash

Nothing about the keystream depends on which hash it is made with: so the hash is a parameter here
(`digestsWith`), and the running keystream is the case of SHA-256 (`digestsWith_digest`). The
digests are derived in a loop that carries along what the next digest is taken of; after as many
turns as there are digests, it holds these and no others (`Derivation.isAfter_run`). So two
keystreams of one seed agree as far as both go, however far that is, and what was masked under one
is unmasked under the other (`keystream_coherent`). -/

namespace OmniLayer.Keystream

/-! ## Capital digits -/

/-- The byte of the **capital digit** for a value below sixteen. -/
def capitalDigit (n : Nat) : UInt8 := UInt8.ofNat (if n < 10 then 0x30 + n else 0x37 + n)

/-- The bytes of a text in **capital hexadecimal digits**, two for each byte that it spells. -/
def capitalHex (bs : Bytes) : Bytes := (bs.flatMap Hex.nibbles).map capitalDigit

/-- A digit made capital is one byte of text. -/
theorem utf8EncodeChar_capital_digit {n : Nat} (h : n < 16) :
    String.utf8EncodeChar (capital (Hex.digit n)) = [capitalDigit n] := by
  have hall : ∀ n : Fin 16,
      String.utf8EncodeChar (capital (Hex.digit n)) = [capitalDigit n] := by decide +kernel
  exact hall ⟨n, h⟩

/-- The next digest is taken of the **capital digits** of the one before it. -/
theorem link_eq_capitalHex (digest : FixedBytes 32) : link digest = capitalHex digest.bytes := by
  rw [link, Text.utf8, String.toList_ofList, Hex.digits_eq, List.map_map, List.flatMap_map,
    capitalHex, List.map_eq_flatMap]
  refine List.flatMap_congr fun n hn => ?_
  exact utf8EncodeChar_capital_digit ((Hex.flatMap_nibbles digest.bytes).2 n hn)

/-! ## Deriving digests -/

/-- What the **loop** over the digests carries along. -/
structure Derivation where
  /-- The digests so far. -/
  digests : List (FixedBytes 32)
  /-- What the next digest is taken of. -/
  source : Bytes

variable (hash : Bytes → FixedBytes 32) (seed : String)

/-- What the digest with an index, counted from zero, is **taken of**: the seed, or the digits of
the digest before it. -/
def sourceAt : (index : Nat) → Bytes
  | 0 => Text.utf8 seed
  | index + 1 => link (hash (sourceAt index))

namespace Derivation

/-- Before the first turn there is the **seed** alone. -/
def start : Derivation := ⟨[], Text.utf8 seed⟩

/-- One **turn** of the loop. -/
def step (state : Derivation) : Derivation where
  digests := state.digests ++ [hash state.source]
  source := link (hash state.source)

/-- The loop after a **number of turns**. -/
def run (count : Nat) : Derivation := (step hash)^[count] (start seed)

/-- What holds **after** a number of turns. -/
structure IsAfter (count : Nat) (state : Derivation) : Prop where
  /-- There is one digest for each turn. -/
  digests_eq : state.digests = (List.range count).map fun index => hash (sourceAt hash seed index)
  /-- The next turn goes on where they end. -/
  source_eq : state.source = sourceAt hash seed count

variable {hash seed} in
/-- One more turn **goes on** from there. -/
theorem IsAfter.step {count : Nat} {state : Derivation} (h : IsAfter hash seed count state) :
    IsAfter hash seed (count + 1) (state.step hash) where
  digests_eq := by
    rw [Derivation.step, h.digests_eq, h.source_eq, List.range_succ, List.map_append]
    rfl
  source_eq := by
    rw [Derivation.step, h.source_eq]
    rfl

/-- The loop holds what it should after **every number** of turns. -/
theorem isAfter_run (count : Nat) : IsAfter hash seed count (run hash seed count) := by
  induction count with
  | zero => exact ⟨rfl, rfl⟩
  | succ count ih =>
    rw [run, Function.iterate_succ_apply']
    exact ih.step

end Derivation

/-- The first `count` digests for a seed, **derived** with a hash. -/
def digestsWith (count : Nat) : List (FixedBytes 32) := (Derivation.run hash seed count).digests

/-- A packet has a digest when its **sequence number** is from one to the count. -/
theorem get?_digestsWith (count sequence : Nat) :
    get? (digestsWith hash seed count) sequence =
      if 1 ≤ sequence ∧ sequence ≤ count then some (hash (sourceAt hash seed (sequence - 1)))
      else none := by
  rw [digestsWith, (Derivation.isAfter_run hash seed count).digests_eq]
  cases sequence with
  | zero => rfl
  | succ index =>
    -- Sequence numbers count from one, places from zero.
    show ((List.range count).map _)[index]? = _
    rw [List.getElem?_map]
    by_cases hindex : index < count
    · rw [List.getElem?_range hindex, if_pos ⟨Nat.succ_pos index, hindex⟩]
      rfl
    · rw [List.getElem?_eq_none (by simpa using hindex), if_neg fun h => hindex h.2]
      rfl

/-- The digest that a hash derives for a seed, with an **index** counted from zero. -/
def digestWith (index : Nat) : FixedBytes 32 := hash (sourceAt hash seed index)

variable {hash} in
/-- Masking with the digest for a packet, spelled out. -/
theorem maskWith?_digestsWith {count index : Nat} (h : index < count) (data : Bytes) :
    maskWith? (get? (digestsWith hash seed count) (index + 1)) data
      = List.zipWith (· ^^^ ·) data (digestWith hash seed index).bytes ++ data.drop 32 := by
  rw [get?_digestsWith, if_pos ⟨Nat.succ_pos index, h⟩]
  show mask data (digestWith hash seed index).bytes = _
  rw [mask_eq_zipWith, (digestWith hash seed index).length_eq]

/-- The digests of the running keystream, one by one. -/
theorem nth_eq_digest_sourceAt (index : Nat) :
    nth (Text.utf8 seed) index = Sha256.digest (sourceAt Sha256.digest seed index) := by
  induction index with
  | zero => rfl
  | succ index ih => rw [nth, sourceAt, ih]

/-- With **SHA-256**, the digest with an index is that of the running keystream. -/
@[simp] theorem digestWith_digest (index : Nat) :
    digestWith Sha256.digest seed index = digestAt seed index :=
  (nth_eq_digest_sourceAt seed index).symm

/-- With **SHA-256**, these are the digests of the running keystream. -/
@[simp] theorem digestsWith_digest (count : Nat) :
    digestsWith Sha256.digest seed count = digests seed count := by
  refine List.ext_getElem? fun index => ?_
  show get? (digestsWith Sha256.digest seed count) (index + 1) =
    (chain count (Text.utf8 seed))[index]?
  have hiff : (1 ≤ index + 1 ∧ index + 1 ≤ count) ↔ index < count := by omega
  rw [get?_digestsWith, getElem?_chain, nth_eq_digest_sourceAt]
  simp only [hiff, Nat.add_sub_cancel]

/-! ## Coherence -/

/-- Whether lists of digests, one for each count, are **keystreams** of a hash and a seed. -/
structure AreKeystreams (digests : (count : Nat) → List (FixedBytes 32)) : Prop where
  /-- There is a digest for the **sequence numbers** from one to the count, and for no other. -/
  exists_iff : ∀ count sequence,
    (∃ digest, get? (digests count) sequence = some digest) ↔ 1 ≤ sequence ∧ sequence ≤ count
  /-- Within two counts it is the **same** under both. -/
  get?_eq : ∀ count count' sequence, sequence ≤ count → sequence ≤ count' →
    get? (digests count) sequence = get? (digests count') sequence
  /-- The **first** digest is that of the seed. -/
  first : ∀ count, 1 ≤ count → get? (digests count) 1 = some (hash (Text.utf8 seed))
  /-- Each further digest is that of the **capital digits** of the one before it. -/
  next : ∀ count sequence digest, sequence + 1 ≤ count →
    get? (digests count) sequence = some digest →
      get? (digests count) (sequence + 1) = some (hash (capitalHex digest.bytes))
  /-- What was masked under one count is **unmasked** under another. -/
  unmask : ∀ count count' sequence data, sequence ≤ count → sequence ≤ count' →
    maskWith? (get? (digests count') sequence) (maskWith? (get? (digests count) sequence) data)
      = data

/-- What a hash derives from a seed are its keystreams. -/
theorem areKeystreams_digestsWith : AreKeystreams hash seed (digestsWith hash seed) := by
  have hagree : ∀ count count' sequence, sequence ≤ count → sequence ≤ count' →
      get? (digestsWith hash seed count) sequence =
        get? (digestsWith hash seed count') sequence := by
    intro count count' sequence hle hle'
    rw [get?_digestsWith, get?_digestsWith]
    simp only [hle, hle', and_true]
  constructor
  case exists_iff =>
    intro count sequence
    rw [get?_digestsWith, ← Option.isSome_iff_exists]
    simp
  case get?_eq => exact hagree
  case first =>
    intro count hcount
    rw [get?_digestsWith, if_pos ⟨le_rfl, hcount⟩]
    rfl
  case next =>
    intro count sequence digest hle hdigest
    rw [get?_digestsWith, Option.ite_none_right_eq_some] at hdigest
    obtain ⟨⟨hpos, -⟩, heq⟩ := hdigest
    obtain ⟨index, rfl⟩ := Nat.exists_eq_add_of_le' hpos
    obtain rfl : hash (sourceAt hash seed index) = digest := Option.some.inj heq
    rw [get?_digestsWith, if_pos ⟨Nat.succ_pos _, hle⟩, ← link_eq_capitalHex]
    rfl
  case unmask =>
    intro count count' sequence data hle hle'
    rw [hagree count' count sequence hle' hle]
    exact maskWith?_maskWith? _ data

/-- Masking changes a byte by the byte of the digest at its **place**, if there is one. -/
@[simp] theorem getElem?_mask (data digest : Bytes) (index : Nat) :
    (mask data digest)[index]? = data[index]?.map (· ^^^ digest.getD index 0) := by
  induction data generalizing digest index with
  | nil => simp [mask]
  | cons b data ih =>
    cases digest with
    | nil => simp [mask]
    | cons k digest =>
      cases index with
      | zero => rfl
      | succ index => exact ih digest index

/-- Masking leaves alone what lies **past the digest**. -/
theorem getElem?_mask_of_le {data digest : Bytes} {index : Nat} (h : digest.length ≤ index) :
    (mask data digest)[index]? = data[index]? := by
  have hkey : digest.getD index 0 = 0 := by
    rw [List.getD_eq_getElem?_getD, List.getElem?_eq_none h]
    rfl
  rw [getElem?_mask, hkey]
  simp

/-- The keystreams of every hash and seed are **coherent**, the running ones among them, and masking
with a digest undoes itself, keeps the length and leaves alone what lies past the digest. -/
theorem keystream_coherent :
    (∀ hash seed, AreKeystreams hash seed (digestsWith hash seed)) ∧
    (∀ seed, AreKeystreams Sha256.digest seed (digests seed)) ∧
    ∀ (data : Bytes) (digest : FixedBytes 32),
      mask (mask data digest.bytes) digest.bytes = data ∧
        (mask data digest.bytes).length = data.length ∧
        ∀ index, 32 ≤ index → (mask data digest.bytes)[index]? = data[index]? := by
  refine ⟨areKeystreams_digestsWith, fun seed => ?_, fun data digest => ?_⟩
  · rw [← funext (digestsWith_digest seed)]
    exact areKeystreams_digestsWith Sha256.digest seed
  · refine ⟨mask_mask _ _, length_mask _ _, fun index hindex => ?_⟩
    exact getElem?_mask_of_le (by rwa [digest.length_eq])

/-- The digest of three letters. -/
def letters : FixedBytes 32 where
  bytes :=
    [0xba, 0x78, 0x16, 0xbf, 0x8f, 0x01, 0xcf, 0xea, 0x41, 0x41, 0x40, 0xde, 0x5d, 0xae, 0x22, 0x23,
     0xb0, 0x03, 0x61, 0xa3, 0x96, 0x17, 0x7a, 0x9c, 0xb4, 0x10, 0xff, 0x61, 0xf2, 0x00, 0x15, 0xad]
  length_eq := rfl

/-- The second digest for three letters is that of the first one's capital digits. -/
theorem keystream_coherent_letters :
    get? (digests "abc" 2) 1 = some letters ∧
      get? (digests "abc" 2) 2 = some (Sha256.digest
        (Text.utf8 "BA7816BF8F01CFEA414140DE5DAE2223B00361A396177A9CB410FF61F20015AD")) := by
  obtain ⟨-, hrunning, -⟩ := keystream_coherent
  have hfirst : get? (digests "abc" 2) 1 = some letters := by decide +kernel
  have hdigits : capitalHex letters.bytes =
      Text.utf8 "BA7816BF8F01CFEA414140DE5DAE2223B00361A396177A9CB410FF61F20015AD" := by
    decide +kernel
  refine ⟨hfirst, ?_⟩
  rw [← hdigits]
  exact (hrunning "abc").next 2 1 letters le_rfl hfirst

end OmniLayer.Keystream
