/-! # Carriers

The three ways in which a transaction carries a payload, known by the letters A, B and C. -/

namespace OmniLayer

/-- The **carrier** of a payload. -/
inductive Carrier
  /-- Class A: the payload stands in the hash of an address. -/
  | address
  /-- Class B: the payload stands in keys of bare multisig outputs. -/
  | multisig
  /-- Class C: the payload stands in null-data outputs. -/
  | nullData
  deriving DecidableEq, Repr

namespace Carrier

/-- The **letter** of a carrier. -/
def letter : Carrier → String
  | .address => "A"
  | .multisig => "B"
  | .nullData => "C"

/-- The carrier with a letter. -/
def ofLetter? (letter : String) : Option Carrier :=
  if letter = "A" then some .address
  else if letter = "B" then some .multisig
  else if letter = "C" then some .nullData
  else none

end Carrier

end OmniLayer
