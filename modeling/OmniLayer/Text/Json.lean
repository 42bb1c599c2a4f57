import OmniLayer.Text.Decimal
import OmniLayer.Text.Hex

/-! # JSON values

JSON values, whose objects keep their fields in order, and their indented text. -/

namespace OmniLayer

/-- A **JSON value**. -/
inductive Json where
  /-- The value `null`. -/
  | null
  /-- A truth value. -/
  | bool (value : Bool)
  /-- A number without fraction. -/
  | integer (value : Int)
  /-- A number with a fraction: `mantissa` over a power of ten. -/
  | decimal (mantissa : Int) (places : Nat)
  /-- A text. -/
  | string (value : String)
  /-- A list of values. -/
  | array (items : List Json)
  /-- A list of fields. -/
  | object (fields : List (String × Json))

namespace Json

/-- A text, or `null` where there is none. -/
def optional : Option String → Json
  | some text => .string text
  | none => .null

/-- A natural number. -/
def nat (n : Nat) : Json := .integer n

/-- The value of a field in a list of fields. -/
def field? (key : String) : List (String × Json) → Option Json
  | [] => none
  | (k, value) :: rest => if k = key then some value else field? key rest

/-- Inserts a field into fields in ascending order of their keys. -/
def insertField (field : String × Json) : List (String × Json) → List (String × Json)
  | [] => [field]
  | other :: rest =>
    if field.1 < other.1 then field :: other :: rest else other :: insertField field rest

/-- An object with its fields in **ascending order** of their keys. -/
def sortedObject (fields : List (String × Json)) : Json :=
  .object (fields.foldl (fun sorted field => insertField field sorted) [])

/-- The escaped form of a character inside quotes. -/
def escapeChar (c : Char) : List Char :=
  if c = '"' then ['\\', '"']
  else if c = '\\' then ['\\', '\\']
  else if c = '\n' then ['\\', 'n']
  else if c = '\r' then ['\\', 'r']
  else if c = '\t' then ['\\', 't']
  else if c.toNat = 8 then ['\\', 'b']
  else if c.toNat = 12 then ['\\', 'f']
  else if c.toNat < 0x20 then
    ['\\', 'u', '0', '0', Hex.digit (c.toNat / 16), Hex.digit (c.toNat % 16)]
  else [c]

/-- A text in quotes. -/
def quote (text : String) : String :=
  String.ofList ('"' :: text.toList.flatMap escapeChar ++ ['"'])

/-- The text of a line's indentation. -/
def margin (depth : Nat) : String := String.ofList (List.replicate (2 * depth) ' ')

/-- Lines between brackets, separated by commas; no lines leave the brackets together. -/
def bracket (depth : Nat) (opening closing : String) (lines : List String) : String :=
  if lines.isEmpty then opening ++ closing
  else
    let indented := lines.map fun line => margin (depth + 1) ++ line
    opening ++ "\n" ++ String.intercalate ",\n" indented ++ "\n" ++ margin depth ++ closing

/-- The text of a number with a fraction of `places` digits. -/
def decimalText (mantissa : Int) (places : Nat) : String :=
  let sign := if mantissa < 0 then "-" else ""
  let whole := mantissa.natAbs / Nat.pow 10 places
  let fraction := Nat.toDigits 10 (mantissa.natAbs % Nat.pow 10 places)
  let zeros := List.replicate (places - fraction.length) '0'
  sign ++ Decimal.natText whole ++ "." ++ String.ofList (zeros ++ fraction)

mutual

/-- The **indented text** of a value at a depth of nesting. -/
def render (depth : Nat) : Json → String
  | .null => "null"
  | .bool true => "true"
  | .bool false => "false"
  | .integer n => Decimal.intText n
  | .decimal mantissa places => decimalText mantissa places
  | .string text => quote text
  | .array items => bracket depth "[" "]" (renderItems (depth + 1) items)
  | .object fields => bracket depth "\x7b" "\x7d" (renderFields (depth + 1) fields)

/-- The texts of list members. -/
def renderItems (depth : Nat) : List Json → List String
  | [] => []
  | item :: rest => render depth item :: renderItems depth rest

/-- The texts of fields. -/
def renderFields (depth : Nat) : List (String × Json) → List String
  | [] => []
  | (key, value) :: rest =>
    (quote key ++ ": " ++ render depth value) :: renderFields depth rest

end

/-- The indented text of a value. -/
def pretty (value : Json) : String := render 0 value

end Json

end OmniLayer
