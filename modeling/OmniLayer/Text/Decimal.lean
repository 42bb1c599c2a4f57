/-! # Decimal integers

The decimal text of an integer, and the readers of integers within a range. A reader takes ASCII
digits behind an optional sign, with any number of leading zeros. -/

namespace OmniLayer.Decimal

/-- The decimal text of a natural number. -/
def natText (n : Nat) : String := String.ofList (Nat.toDigits 10 n)

/-- The decimal text of an integer. -/
def intText : Int → String
  | .ofNat n => natText n
  | .negSucc n => "-" ++ natText (n + 1)

/-- The value of an ASCII digit. -/
def digitValue? (c : Char) : Option Nat :=
  if '0'.toNat ≤ c.toNat ∧ c.toNat ≤ '9'.toNat then some (c.toNat - '0'.toNat) else none

/-- Reads digits into a number, continuing from `value`. -/
def foldDigits? (value : Nat) : List Char → Option Nat
  | [] => some value
  | c :: rest => do
    let d ← digitValue? c
    foldDigits? (value * 10 + d) rest

/-- Reads a text of one or more digits. -/
def digits? : List Char → Option Nat
  | [] => none
  | cs => foldDigits? 0 cs

/-- Drops one leading plus sign. -/
def dropPlus : List Char → List Char
  | '+' :: rest => rest
  | cs => cs

/-- Reads a **natural number** of at most `limit`, with an optional plus sign. -/
def nat? (limit : Nat) (cs : List Char) : Option Nat := do
  let n ← digits? (dropPlus cs)
  if n ≤ limit then some n else none

/-- Reads an **integer** between `low` and `high`, with an optional sign. -/
def int? (low high : Int) (cs : List Char) : Option Int := do
  let n ← match cs with
    | '-' :: rest => (digits? rest).map fun n => -(n : Int)
    | _ => (digits? (dropPlus cs)).map fun n => (n : Int)
  if low ≤ n ∧ n ≤ high then some n else none

/-- The least signed 64-bit word. -/
def lowInt64 : Int := -0x8000000000000000

/-- The largest signed 64-bit word. -/
def highInt64 : Int := 0x7fffffffffffffff

/-- Reads a 32-bit word. -/
def uint32? (text : String) : Option UInt32 :=
  (nat? (UInt32.size - 1) text.toList).map UInt32.ofNat

/-- Reads a 64-bit word. -/
def uint64? (text : String) : Option UInt64 :=
  (nat? (UInt64.size - 1) text.toList).map UInt64.ofNat

end OmniLayer.Decimal
