import OmniLayer.Hash.Sha256
import OmniLayer.Text.Hex

/-! # The packet keystream

Packets are masked with a chain of digests: the first digest is that of a seed text, each further
one that of its predecessor in capital hexadecimal digits. Masking twice with one digest changes
nothing. -/

namespace OmniLayer.Keystream

/-- The capital form of a hexadecimal digit. -/
def capital (c : Char) : Char := c.toUpper

/-- The text from which the digest after `digest` is taken. -/
def link (digest : FixedBytes 32) : Bytes :=
  Text.utf8 (String.ofList ((Hex.digits digest.bytes).map capital))

/-- The first `count` digests of the chain that starts from bytes. -/
def chain : (count : Nat) → Bytes → List (FixedBytes 32)
  | 0, _ => []
  | count + 1, source =>
    let digest := Sha256.digest source
    digest :: chain count (link digest)

/-- The first `count` digests for a **seed**. -/
def digests (seed : String) (count : Nat) : List (FixedBytes 32) := chain count (Text.utf8 seed)

/-- The digest for the packet with a **sequence number**, counted from one. -/
def get? (digests : List (FixedBytes 32)) : (sequence : Nat) → Option (FixedBytes 32)
  | 0 => none
  | index + 1 => digests[index]?

/-- **Masks** data with the leading bytes of a digest; data past the digest is left alone. -/
def mask : (data digest : Bytes) → Bytes
  | [], _ => []
  | data, [] => data
  | b :: data, k :: digest => (b ^^^ k) :: mask data digest

/-- Masks data with a digest, if there is one. -/
def maskWith? (digest : Option (FixedBytes 32)) (data : Bytes) : Bytes :=
  match digest with
  | some digest => mask data digest.bytes
  | none => data

end OmniLayer.Keystream
