import OmniLayer.Binary64.Decimal
import OmniLayer.Text.Hex
import OmniLayer.Toml.Value

/-! # TOML scalars

Truth values, integers, floating-point numbers, dates and times, each read from the characters of a
whole word. -/

namespace OmniLayer.Toml

/-- Whether a character may stand in a **word**. -/
def isWordChar (c : Char) : Bool := c.isAlphanum || c == '_' || c == '+' || c == '-' ||
  c == '.' || c == ':'

/-- The value of a digit in any base up to sixteen. -/
def baseDigit? (base : Nat) (c : Char) : Option Nat := do
  if c.toNat < 0x80 then
    let value ← Hex.digitValue? (UInt8.ofNat c.toNat)
    if value < base then some value else none
  else none

/-- Reads digits of a base, in which an underscore may stand between two digits. The flag says
whether a digit stands in front. -/
def baseDigits? (base : Nat) (value : Nat) : (behindDigit : Bool) → List Char → Option Nat
  | behindDigit, [] => if behindDigit then some value else none
  | behindDigit, c :: rest =>
    if c = '_' then if behindDigit then baseDigits? base value false rest else none
    else do
      let d ← baseDigit? base c
      baseDigits? base (value * base + d) true rest

/-- The largest signed 64-bit word. -/
def maxInteger : Nat := 0x7fffffffffffffff

/-- Whether digits have no needless leading zero. -/
def hasPlainStart : List Char → Bool
  | '0' :: _ :: _ => false
  | _ => true

/-- Splits an optional sign off. -/
def splitSign : List Char → Bool × List Char
  | '-' :: rest => (true, rest)
  | '+' :: rest => (false, rest)
  | cs => (false, cs)

/-- Reads an **integer**. -/
def integer? (cs : List Char) : Option Int := do
  let bounded (n : Nat) : Option Int := if n ≤ maxInteger then some n else none
  match cs with
  | '0' :: 'x' :: rest => bounded (← baseDigits? 16 0 false rest)
  | '0' :: 'o' :: rest => bounded (← baseDigits? 8 0 false rest)
  | '0' :: 'b' :: rest => bounded (← baseDigits? 2 0 false rest)
  | _ =>
    let (negative, digits) := splitSign cs
    let n ← baseDigits? 10 0 false digits
    if ¬hasPlainStart digits then none
    else if negative then if n ≤ maxInteger + 1 then some (-(n : Int)) else none
    else bounded n

/-- Whether characters are digits with underscores between them, at least one digit. -/
def isDigitRun (cs : List Char) : Bool := (baseDigits? 10 0 false cs).isSome

/-- Whether characters are the mantissa of a float: digits without a needless zero, and an optional
point with digits behind it. -/
def isMantissa (cs : List Char) : Bool :=
  let whole := cs.takeWhile (· != '.')
  isDigitRun whole && hasPlainStart whole &&
    match cs.dropWhile (· != '.') with
    | [] => true
    | _ :: fraction => isDigitRun fraction

/-- Whether a character starts an exponent. -/
def isExponentMark (c : Char) : Bool := c == 'e' || c == 'E'

/-- Whether unsigned characters have the form of a **float**: a mantissa with a point or an exponent
or both. -/
def isFloat (cs : List Char) : Bool :=
  let mantissa := cs.takeWhile fun c => !isExponentMark c
  match cs.dropWhile fun c => !isExponentMark c with
  | [] => isMantissa mantissa && mantissa.contains '.'
  | _ :: exponent => isMantissa mantissa && isDigitRun (splitSign exponent).2

/-- Reads a **float**. A positive number out of range is refused. -/
def float? (cs : List Char) : Option Binary64 := do
  let (negative, rest) := splitSign cs
  if rest = ['i', 'n', 'f'] then some (Binary64.ofSigned negative Binary64.infinityBits)
  else if rest = ['n', 'a', 'n'] then
    some (if negative then Binary64.nan.neg else Binary64.nan)
  else if isFloat rest then
    let x ← Binary64.ofText? (String.ofList (cs.filter (· != '_')))
    if x = Binary64.infinity then none else some x
  else none

/-- The number that two digits spell, within bounds. -/
def twoDigits? (low high : Nat) (a b : Char) : Option Nat := do
  let n := 10 * (← Decimal.digitValue? a) + (← Decimal.digitValue? b)
  if low ≤ n ∧ n ≤ high then some n else none

/-- The number of days of a month. -/
def daysIn (year month : Nat) : Nat :=
  if month = 2 then
    if year % 4 = 0 ∧ (year % 100 ≠ 0 ∨ year % 400 = 0) then 29 else 28
  else if month = 4 ∨ month = 6 ∨ month = 9 ∨ month = 11 then 30
  else 31

/-- Splits a **date** off: its text and the rest. -/
def date? : List Char → Option (List Char × List Char)
  | y1 :: y2 :: y3 :: y4 :: '-' :: m1 :: m2 :: '-' :: d1 :: d2 :: rest => do
    let century ← twoDigits? 0 99 y1 y2
    let year ← twoDigits? 0 99 y3 y4
    let month ← twoDigits? 1 12 m1 m2
    let _ ← twoDigits? 1 (daysIn (100 * century + year) month) d1 d2
    return ([y1, y2, y3, y4, '-', m1, m2, '-', d1, d2], rest)
  | _ => none

/-- The text of a fraction of a second, to nine places and without trailing zeros. -/
def fractionText (digits : List Char) : List Char :=
  match ((digits.take 9).reverse.dropWhile (· == '0')).reverse with
  | [] => []
  | kept => '.' :: kept

/-- How far the parts of a time and of an offset may go. -/
structure TimeBounds where
  /-- The last hour of a time. -/
  hour : Nat
  /-- The most hours of an offset. -/
  offsetHours : Nat
  /-- The most minutes behind the hours of an offset. -/
  offsetMinutes : Nat

/-- The bounds in a word of a document. -/
def TimeBounds.word : TimeBounds := ⟨23, 23, 59⟩

/-- The bounds in a quoted text that stands for a date or time. -/
def TimeBounds.quoted : TimeBounds := ⟨24, 99, 99⟩

/-- Splits a **time** off: its text and the rest. -/
def time? (bounds : TimeBounds) : List Char → Option (List Char × List Char)
  | h1 :: h2 :: ':' :: m1 :: m2 :: ':' :: s1 :: s2 :: rest => do
    let _ ← twoDigits? 0 bounds.hour h1 h2
    let _ ← twoDigits? 0 59 m1 m2
    let _ ← twoDigits? 0 60 s1 s2
    let text := [h1, h2, ':', m1, m2, ':', s1, s2]
    match rest with
    | '.' :: rest =>
      let digits := rest.takeWhile Char.isDigit
      if digits.isEmpty then none
      else return (text ++ fractionText digits, rest.dropWhile Char.isDigit)
    | _ => return (text, rest)
  | _ => none

/-- The two digits of a number below a hundred. -/
def twoDigits (n : Nat) : List Char := [Nat.digitChar (n / 10), Nat.digitChar (n % 10)]

/-- The text of an offset of some minutes; no minutes are never negative. -/
def offsetText (sign : Char) (minutes : Nat) : List Char :=
  (if minutes = 0 then '+' else sign) :: twoDigits (minutes / 60) ++
    ':' :: twoDigits (minutes % 60)

/-- The text of an **offset** from universal time, of a day at most. -/
def offset? (bounds : TimeBounds) : List Char → Option (List Char)
  | ['Z'] => some ['Z']
  | ['z'] => some ['Z']
  | [sign, h1, h2, ':', m1, m2] => do
    let hours ← twoDigits? 0 bounds.offsetHours h1 h2
    let minutes ← twoDigits? 0 bounds.offsetMinutes m1 m2
    let total := 60 * hours + minutes
    if (sign = '+' ∨ sign = '-') ∧ total ≤ 24 * 60 then some (offsetText sign total) else none
  | _ => none

/-- Whether a character stands between a date and a time. -/
def isDateTimeMark (c : Char) : Bool := c == 'T' || c == 't' || c == ' '

/-- Reads a **date or time**. -/
def datetime? (bounds : TimeBounds) (cs : List Char) : Option (List Char) :=
  match date? cs with
  | some (date, []) => some date
  | some (date, mark :: rest) =>
    if isDateTimeMark mark then
      match time? bounds rest with
      | some (time, []) => some (date ++ 'T' :: time)
      | some (time, rest) => (offset? bounds rest).map fun offset => date ++ 'T' :: time ++ offset
      | none => none
    else none
  | none =>
    match time? bounds cs with
    | some (time, []) => some time
    | _ => none

/-- Reads the value of a **word**. -/
def scalar? (cs : List Char) : Option Value :=
  if cs = ['t', 'r', 'u', 'e'] then some (.boolean true)
  else if cs = ['f', 'a', 'l', 's', 'e'] then some (.boolean false)
  else
    match integer? cs with
    | some n => some (.integer n)
    | none =>
      match float? cs with
      | some x => some (.float x)
      | none => (datetime? .word cs).map fun text => .datetime (String.ofList text)

/-- Splits a word off. A date goes on behind one space if a time stands there. -/
def splitWord (cs : List Char) : List Char × List Char :=
  let word := cs.takeWhile isWordChar
  let rest := cs.dropWhile isWordChar
  match date? word, rest with
  | some (_, []), ' ' :: h1 :: h2 :: ':' :: _ =>
    if h1.isDigit && h2.isDigit then
      let behind := rest.drop 1
      (word ++ ' ' :: behind.takeWhile isWordChar, behind.dropWhile isWordChar)
    else (word, rest)
  | _, _ => (word, rest)

end OmniLayer.Toml
