import OmniLayer.Binary64.Decimal
import OmniLayer.Toml.Quoted
import OmniLayer.Toml.Value

/-! # Writing TOML

The text of a document with one level of tables. A text is written in the first of five forms that
can hold it, plain forms before escaped ones; a list of two or more members takes a line for
each. -/

namespace OmniLayer.Toml

/-- Whether `count` copies of a character stand in a row. -/
def hasRun (c : Char) (count : Nat) : List Char → Bool
  | [] => false
  | x :: rest => (List.replicate count c).isPrefixOf (x :: rest) || hasRun c count rest

/-- Whether a character may stand in a plain text over several lines. -/
def isLinesChar (c : Char) : Bool := c == '\n' || !isControl c

/-- The capital hexadecimal digits of a control character. -/
def controlDigits (c : Char) : List Char :=
  ['0', '0', (Hex.digit (c.toNat / 16)).toUpper, (Hex.digit (c.toNat % 16)).toUpper]

/-- The form of a character in a **basic** text, on one line or over several; quotes and newlines
aside, it is the same in both. -/
def basicChar (c : Char) : List Char :=
  if c.toNat = 8 then ['\\', 'b']
  else if c = '\t' then ['\\', 't']
  else if c = '\n' then ['\\', 'n']
  else if c.toNat = 12 then ['\\', 'f']
  else if c = '\r' then ['\\', 'r']
  else if c = '"' then ['\\', '"']
  else if c = '\\' then ['\\', '\\']
  else if isControl c then '\\' :: 'u' :: controlDigits c
  else [c]

/-- The form of a **basic** text over several lines, behind a number of quotes in a row: newlines
stay, and so do quotes except every third in a row. -/
def basicLines : (quotes : Nat) → List Char → List Char
  | _, [] => []
  | quotes, c :: rest =>
    if c = '"' then
      if quotes = 2 then '\\' :: c :: basicLines 0 rest else c :: basicLines (quotes + 1) rest
    else if c = '\n' then c :: basicLines 0 rest
    else basicChar c ++ basicLines 0 rest

/-- A text between two equal marks, with a newline behind the first if it has newlines itself. -/
def betweenMarks (mark cs body : List Char) : String :=
  String.ofList (mark ++ (if cs.contains '\n' then ['\n'] else []) ++ body ++ mark)

/-- The written form of a **text**. -/
def textForm (text : String) : String :=
  let cs := text.toList
  let onOneLine := !cs.any isControl
  let plain := cs.all isLinesChar
  let basic := cs.flatMap basicChar
  if onOneLine && !cs.contains '\\' && !cs.contains '"' then
    String.ofList ('"' :: basic ++ ['"'])
  else if onOneLine && !cs.contains '\'' then String.ofList ('\'' :: cs ++ ['\''])
  else if plain && !cs.contains '\\' && !hasRun '"' 3 cs then
    betweenMarks ['"', '"', '"'] cs (basicLines 0 cs)
  else if plain && !hasRun '\'' 3 cs then betweenMarks ['\'', '\'', '\''] cs cs
  else if cs.contains '\n' then betweenMarks ['"', '"', '"'] cs (basicLines 0 cs)
  else String.ofList ('"' :: basic ++ ['"'])

/-- The written form of a **floating-point number**; whole numbers get a point and a zero. -/
def floatForm (x : Binary64) : String :=
  match x.magnitude with
  | .nan => "nan"
  | _ => if x.isWhole then x.text ++ ".0" else x.text

/-- The written form of a list of forms. -/
def listForm (items : List String) : String :=
  if items.length ≤ 1 then "[" ++ String.join items ++ "]"
  else "[\n" ++ String.join (items.map fun item => "    " ++ item ++ ",\n") ++ "]"

/-- A **line** of a table: a key and the written form of its value. -/
def fieldLine (key form : String) : String := key ++ " = " ++ form ++ "\n"

/-- A **section**: the header of a table and its lines. -/
def sectionText (name : String) (lines : List String) : String :=
  "[" ++ name ++ "]\n" ++ String.join lines

end OmniLayer.Toml
