import OmniLayer.Keystream

/-! # The digests of the keystream one by one

The keystream is made as far as there are packets, but none of its digests depends on how far that
is (`getElem?_chain`): the digest with an index comes from the seed by that many links
(`digestAt`). Masking is exclusive or with the bytes of the digest, as many as there are, and what
lies past them stays (`mask_eq_zipWith`). -/

namespace OmniLayer.Keystream

/-- The digest of the chain from bytes with an **index**, counted from zero. -/
def nth (source : Bytes) : (index : Nat) → FixedBytes 32
  | 0 => Sha256.digest source
  | index + 1 => Sha256.digest (link (nth source index))

/-- The chain behind its first digest is the chain from that. -/
theorem nth_link (source : Bytes) (index : Nat) :
    nth (link (Sha256.digest source)) index = nth source (index + 1) := by
  induction index with
  | zero => rfl
  | succ index ih =>
    show Sha256.digest (link (nth (link (Sha256.digest source)) index)) = _
    rw [ih]
    rfl

/-- A chain holds the digests with **indices below its count**. -/
@[simp] theorem getElem?_chain (count : Nat) (source : Bytes) (index : Nat) :
    (chain count source)[index]? = if index < count then some (nth source index) else none := by
  -- The chain goes on from the link of its first digest, so the source varies.
  induction count generalizing source index with
  | zero => simp [chain]
  | succ count ih =>
    cases index with
    | zero => simp [chain, nth]
    | succ index =>
      show (chain count (link (Sha256.digest source)))[index]? = _
      rw [ih, nth_link]
      simp

/-- The digest for a **seed** with an index, counted from zero. -/
def digestAt (seed : String) (index : Nat) : FixedBytes 32 := nth (Text.utf8 seed) index

/-- The digest for a packet is the same in **every keystream that reaches it**. -/
theorem get?_digests {count index : Nat} (seed : String) (h : index < count) :
    get? (digests seed count) (index + 1) = some (digestAt seed index) := by
  show (chain count (Text.utf8 seed))[index]? = _
  rw [getElem?_chain, if_pos h]
  rfl

/-- Masking is **exclusive or**, byte by byte, with the digest; data past it is left alone. -/
theorem mask_eq_zipWith (data digest : Bytes) :
    mask data digest = List.zipWith (· ^^^ ·) data digest ++ data.drop digest.length := by
  induction data generalizing digest with
  | nil => simp [mask]
  | cons b data ih =>
    cases digest with
    | nil => simp [mask]
    | cons k digest => simp [mask, ih]

/-- Masking with the digest for a packet, spelled out. -/
theorem maskWith?_digests {count index : Nat} (seed : String) (h : index < count) (data : Bytes) :
    maskWith? (get? (digests seed count) (index + 1)) data
      = List.zipWith (· ^^^ ·) data (digestAt seed index).bytes ++ data.drop 32 := by
  rw [get?_digests seed h]
  show mask data (digestAt seed index).bytes = _
  rw [mask_eq_zipWith, (digestAt seed index).length_eq]

end OmniLayer.Keystream
