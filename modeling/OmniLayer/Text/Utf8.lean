import OmniLayer.Bytes

/-! # Text as bytes

The UTF-8 bytes of a text, and the two notions of blank and of case that the readers use. -/

namespace OmniLayer.Text

/-- The **UTF-8 bytes** of a text. -/
def utf8 (text : String) : Bytes := text.toList.flatMap String.utf8EncodeChar

/-- The **blank characters** of Unicode (property White_Space). -/
def isBlank (c : Char) : Bool :=
  (9 ≤ c.toNat && c.toNat ≤ 13) || c.toNat = 0x20 || c.toNat = 0x85 || c.toNat = 0xa0 ||
    c.toNat = 0x1680 || (0x2000 ≤ c.toNat && c.toNat ≤ 0x200a) || c.toNat = 0x2028 ||
    c.toNat = 0x2029 || c.toNat = 0x202f || c.toNat = 0x205f || c.toNat = 0x3000

/-- A text without its leading and trailing blanks. -/
def trim (text : String) : String :=
  String.ofList ((text.toList.dropWhile isBlank).reverse.dropWhile isBlank).reverse

/-- A text in lower case, over ASCII letters. -/
def lowerAscii (text : String) : String := String.ofList (text.toList.map Char.toLower)

/-- A character in lower case, as far as the result is ASCII: besides the capital letters only the
Kelvin sign has a small letter there. -/
def lowerToAscii (c : Char) : Char := if c.toNat = 0x212a then 'k' else c.toLower

/-- A text in lower case, exact wherever the result is compared with an ASCII word. -/
def lower (text : String) : String := String.ofList (text.toList.map lowerToAscii)

/-- The pieces of a character list between the places where a separator stands. -/
def splitOn (separator : Char) : List Char → List (List Char)
  | [] => [[]]
  | c :: rest =>
    if c = separator then [] :: splitOn separator rest
    else match splitOn separator rest with
      | [] => [[c]]
      | piece :: pieces => (c :: piece) :: pieces

/-- Whether a text contains another as a contiguous piece. -/
def contains (text piece : String) : Bool := go piece.toList text.toList
where
  go (piece : List Char) : List Char → Bool
    | [] => piece.isEmpty
    | c :: rest => piece.isPrefixOf (c :: rest) || go piece rest

end OmniLayer.Text
