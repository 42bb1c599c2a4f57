import OmniLayer.Binary64

/-! # The decimal text of binary64 numbers

A finite number is written with the fewest digits that read back as it, and of those texts the one
nearest to it; an exact tie goes up. The text has no exponent. -/

namespace OmniLayer.Binary64

/-- The **interval** of quotients that round to `mantissa` times a power of two, in quarters of its
last place: the lower end, the upper end, and whether both belong to it. -/
def roundingInterval (mantissa : Nat) (exponent : Int) : Nat × Nat × Bool :=
  let lower := if mantissa = leadingBit ∧ -1074 < exponent then 1 else 2
  (4 * mantissa - lower, 4 * mantissa + 2, mantissa % 2 = 0)

/-- Whether `a / b` lies strictly below `c / d`, or with `closed` at most there. -/
def below (closed : Bool) (a b c d : Nat) : Bool :=
  if closed then a * d ≤ c * b else a * d < c * b

/-- The **decimals** of the grid `10 ^ place` next to a number, if one of them reads back as it: of
two the nearer, and of two equally near the larger. -/
def onGrid? (mantissa : Nat) (exponent : Int) (place : Int) : Option Nat :=
  let (low, high, closed) := roundingInterval mantissa exponent
  let (n, d) := scaleDown 2 (4 * mantissa) 1 (2 - exponent)
  let (l, _) := scaleDown 2 low 1 (2 - exponent)
  let (h, _) := scaleDown 2 high 1 (2 - exponent)
  let (n, gridDen) := scaleDown 10 n d place
  let (l, _) := scaleDown 10 l d place
  let (h, _) := scaleDown 10 h d place
  let c := n / gridDen
  let downFits := 0 < c && below closed l gridDen c 1
  let upFits := below closed (c + 1) 1 h gridDen
  if downFits && upFits then
    if 2 * (n % gridDen) < gridDen then some c else some (c + 1)
  else if downFits then some c
  else if upFits then some (c + 1)
  else none

/-- The count of digits before the point of a positive number, negative for leading zeros behind
it. -/
def pointPlace (mantissa : Nat) (exponent : Int) : Int :=
  let (n, d) := scaleDown 2 mantissa 1 (-exponent)
  if d ≤ n then ((Nat.toDigits 10 (n / d)).length : Int)
  else
    let inverse := (Nat.toDigits 10 (d / n)).length
    if d ≤ n * Nat.pow 10 (inverse - 1) then 2 - (inverse : Int) else 1 - (inverse : Int)

/-- Looks for the coarsest grid with a decimal that reads back, with `digits` digits or more. -/
def searchGrid (mantissa : Nat) (exponent : Int) (point : Int) :
    (fuel digits : Nat) → Nat × Int
  | 0, digits => (mantissa, (digits : Int))
  | fuel + 1, digits =>
    match onGrid? mantissa exponent (point - digits) with
    | some c => (c, point - digits)
    | none => searchGrid mantissa exponent point fuel (digits + 1)

/-- The **shortest decimal** of a positive number: its digits and the power of ten behind them. -/
def shortest (mantissa : Nat) (exponent : Int) : Nat × Int :=
  searchGrid mantissa exponent (pointPlace mantissa exponent) 17 1

/-- Digits with a power of ten behind them as text without an exponent. -/
def positional (digits : Nat) (place : Int) : String :=
  let cs := Nat.toDigits 10 digits
  if 0 ≤ place then String.ofList (cs ++ List.replicate place.toNat '0')
  else
    let behind := (-place).toNat
    let cs := List.replicate (behind + 1 - cs.length) '0' ++ cs
    let whole := cs.take (cs.length - behind)
    let fraction := (cs.drop (cs.length - behind)).reverse.dropWhile (· == '0')
    if fraction.isEmpty then String.ofList whole
    else String.ofList (whole ++ '.' :: fraction.reverse)

/-- The text of a **magnitude**. -/
def Magnitude.text : Magnitude → String
  | .finite 0 _ => "0"
  | .finite mantissa exponent =>
    let (digits, place) := shortest mantissa exponent
    positional digits place
  | .infinite => "inf"
  | .nan => "NaN"

/-- The **text** of a number: a whole number has no point, and no number has no sign. -/
def text (x : Binary64) : String :=
  match x.magnitude with
  | .nan => "NaN"
  | magnitude => (if x.isNegative then "-" else "") ++ magnitude.text

/-- Whether a finite number is whole. -/
def isWhole (x : Binary64) : Bool :=
  match x.magnitude with
  | .finite m e =>
    let (n, d) := scaleDown 2 m 1 (-e)
    n % d = 0
  | _ => false

/-- The digits at the start of a text, of which there may be none, and what follows them. -/
def digitRun (cs : List Char) : List Char × List Char :=
  cs.span fun c => (Decimal.digitValue? c).isSome

/-- The parts of a **decimal** without its sign. -/
structure DecimalParts where
  /-- The digits in front of the point. -/
  whole : List Char
  /-- The digits behind the point. -/
  fraction : List Char
  /-- The power of ten that it is multiplied by. -/
  exponent : Int

/-- Reads an exponent of ten, an optional sign and digits, up to the end. -/
def exponent? : List Char → Option Int
  | '-' :: rest => (Decimal.digits? rest).map fun n => -(n : Int)
  | cs => (Decimal.digits? (Decimal.dropPlus cs)).map fun n => (n : Int)

/-- Reads an unsigned decimal: digits, an optional point with digits, an optional exponent. -/
def decimalParts? (cs : List Char) : Option DecimalParts := do
  let (whole, rest) := digitRun cs
  let (fraction, rest) := match rest with
    | '.' :: rest => digitRun rest
    | _ => ([], rest)
  if whole.isEmpty && fraction.isEmpty then none
  else
    let exponent ← match rest with
      | [] => some 0
      | 'e' :: rest => exponent? rest
      | 'E' :: rest => exponent? rest
      | _ => none
    return ⟨whole, fraction, exponent⟩

/-- The number **nearest** to a decimal. -/
def ofParts (negative : Bool) (parts : DecimalParts) : Binary64 :=
  ofDecimal negative ((Decimal.foldDigits? 0 (parts.whole ++ parts.fraction)).getD 0)
    (parts.exponent - parts.fraction.length)

/-- Reads the words for an infinity and for no number, or a decimal. -/
def magnitude? (negative : Bool) (cs : List Char) : Option Binary64 :=
  let word := String.ofList (cs.map Char.toLower)
  if word = "inf" ∨ word = "infinity" then some (ofSigned negative infinityBits)
  else if word = "nan" then some (if negative then nan.neg else nan)
  else (decimalParts? cs).map (ofParts negative)

/-- Reads a **number** from text, with an optional sign. -/
def ofText? (text : String) : Option Binary64 :=
  match text.toList with
  | '-' :: rest => magnitude? true rest
  | '+' :: rest => magnitude? false rest
  | cs => magnitude? false cs

end OmniLayer.Binary64
